import SqlBridge.Proofs.Registry.SameTables
import SqlBridge.Proofs.Registry.Switches

/-!
# Enumerations of the options

Enumerations can be declared in the options of a registry or registered with it at run time. They make the
same tables in both ways, but options are refused for an enumeration without labels, which a registration
lets in.
-/

namespace SqlBridge

variable {o : MappingOptions} {d : EnumDefinition} {ds : List EnumDefinition}

namespace MappingOptions

/-- The options without the enumerations that they declare. -/
def withoutEnums (o : MappingOptions) : MappingOptions :=
  { o with enums := [] }

lemma labelless?_eq_none : o.labelless? = none ↔ ∀ d ∈ o.enums, d.labels ≠ [] := by
  simp only [labelless?, List.find?_eq_none, List.isEmpty_iff]

lemma validate_of_labelless (hsize : o.keySize ≠ some 0) (h : o.labelless? = some d) :
    o.validate = .error (.noLabels d.qualifiedName) := by
  rw [validate, if_neg hsize, h]

lemma validate_of_labelless_none (hsize : o.keySize ≠ some 0) (h : o.labelless? = none) :
    o.validate = .ok () := by
  rw [validate, if_neg hsize, h]

end MappingOptions

namespace Registry

variable {r r' : Registry}

/-! ## Tables under other options -/

/-- The tables of a registry under other options. -/
def withOptions (o : MappingOptions) (r : Registry) : Registry :=
  { r with options := o }

/-- Of the options, only those for literals and for parts of keys are seen. -/
lemma holdsSame_withOptions (hliterals : o.literals = r.literals) (hsize : o.keySize = r.options.keySize) :
    (r.withOptions o).HoldsSame r where
  literals := hliterals
  keySize := hsize
  stores _ := rfl
  hosts _ := rfl
  ranges _ := rfl
  multiranges _ := rfl
  userRanges := rfl

lemma addDefault_withOptions (r : Registry) (entry : Scalar × String) :
    (r.withOptions o).addDefault entry = (r.addDefault entry).withOptions o := by
  have hnamed : (r.withOptions o).named entry.2 = r.named entry.2 := rfl
  rw [addDefault, addDefault, hnamed]
  cases (r.named entry.2).find? fun d => d.hostType == .scalar entry.1 <;> rfl

lemma addHost_withOptions (m : Descriptor) (r : Registry) :
    addHost m (r.withOptions o) = (addHost m r).withOptions o := by
  have hhosted : (r.withOptions o).isHosted m.hostType = r.isHosted m.hostType := rfl
  rw [addHost, addHost, hhosted]
  cases r.isHosted m.hostType <;> rfl

lemma addRange_withOptions (name : String) (s : Descriptor) (r : Registry) :
    addRange name s (r.withOptions o) = (addRange name s r).withOptions o :=
  congrArg (addStore (.rangeOver name s)) (addHost_withOptions _ { r with ranges := _ })

lemma addMultirange_withOptions (name range : String) (s : Descriptor) (r : Registry) :
    addMultirange name range s (r.withOptions o) = (addMultirange name range s r).withOptions o := by
  rw [addMultirange, addMultirange]
  cases Descriptor.multirangeOver name (.rangeOver range s) with
  | error fault => rfl
  | ok m => exact congrArg (addStore m) (addHost_withOptions m { r with multiranges := _ })

lemma addRangeType_withOptions (r : Registry) (names : Builtin.RangeNames) :
    (r.withOptions o).addRangeType names = (r.addRangeType names).withOptions o := by
  have hfirst : (r.withOptions o).first? names.subtype = r.first? names.subtype := rfl
  rw [addRangeType, addRangeType, hfirst]
  cases r.first? names.subtype with
  | none => rfl
  | some s => simp only [addRange_withOptions, addMultirange_withOptions]

/-- The built-in tables do not hang on the enumerations of the options. -/
lemma builtin_withoutEnums (o : MappingOptions) : (builtin o.withoutEnums).withOptions o = builtin o := by
  rw [builtin, builtin, ← List.foldl_hom (withOptions o) addRangeType_withOptions,
    ← List.foldl_hom (withOptions o) addDefault_withOptions]
  rfl

lemma registerEnum_withOptions (h : o.literals = r.literals) (d : EnumDefinition) :
    (r.withOptions o).registerEnum d = (r.registerEnum d).map fun p => (p.1, p.2.withOptions o) := by
  have hname : (r.withOptions o).isNamed d.qualifiedName = r.isNamed d.qualifiedName := rfl
  have hhost : (r.withOptions o).isHosted (.enumeration d.hostTypeName) =
      r.isHosted (.enumeration d.hostTypeName) := rfl
  have hdescriptor : (r.withOptions o).enumDescriptor d = r.enumDescriptor d := by
    rw [enumDescriptor, enumDescriptor, ← h]
    rfl
  rw [registerEnum, registerEnum, hname, hhost, hdescriptor]
  split <;> rfl

lemma registerEnums_withOptions (h : o.literals = r.literals) (ds : List EnumDefinition) :
    (r.withOptions o).registerEnums ds = (r.registerEnums ds).map (withOptions o) := by
  induction ds generalizing r with
  | nil => rfl
  | cons d ds ih =>
    rw [registerEnums, registerEnums, List.foldlM_cons, List.foldlM_cons, registerEnum_withOptions h]
    cases hd : r.registerEnum d with
    | error fault => rfl
    | ok p =>
      obtain ⟨m, r'⟩ := p
      obtain ⟨-, -, -, rfl⟩ := registerEnum_eq_ok hd
      exact ih h

/-! ## Declared or registered -/

/-- Enumerations are registered one after the other exactly if a program that registers them is let to,
each time; both end in the same registry. -/
lemma registerEnums_eq_ok : r.registerEnums ds = .ok r' ↔
    (∀ reply ∈ (session step (ds.map .enumeration) r).1, ∃ m, reply = .outcome (.ok m)) ∧
      (session step (ds.map .enumeration) r).2 = r' := by
  induction ds generalizing r with
  | nil =>
    constructor
    · intro h
      exact ⟨nofun, Except.ok.inj h⟩
    · rintro ⟨-, rfl⟩
      rfl
  | cons d ds ih =>
    rw [registerEnums, List.foldlM_cons, List.map_cons, session, step]
    cases hd : r.registerEnum d with
    | error fault =>
      constructor
      · intro h
        cases h
      · rintro ⟨h, -⟩
        obtain ⟨m, hm⟩ := h _ List.mem_cons_self
        cases hm
    | ok p =>
      refine (ih (r := p.2)).trans (and_congr_left fun _ => ?_)
      exact (List.forall_mem_cons.trans (and_iff_right ⟨p.1, rfl⟩)).symm

lemma ofOptions_of_ranges_nil (h : o.ranges = []) :
    ofOptions o = o.validate >>= fun _ => (builtin o).registerEnums o.enums := by
  rw [ofOptions, h]
  cases o.validate with
  | error fault => rfl
  | ok _ => cases (builtin o).registerEnums o.enums <;> rfl

/-- Without ranges, the registry for options is the built-in one after a program has registered the
enumerations, all of which have labels. -/
theorem ofOptions_eq_ok_iff (hranges : o.ranges = []) (hsize : o.keySize ≠ some 0) :
    ofOptions o = .ok r ↔
      (∀ d ∈ o.enums, d.labels ≠ []) ∧
      (∀ reply ∈ (session step (o.enums.map .enumeration) (builtin o.withoutEnums)).1,
        ∃ m, reply = .outcome (.ok m)) ∧
      (session step (o.enums.map .enumeration) (builtin o.withoutEnums)).2.withOptions o = r := by
  have hliterals : o.literals = (builtin o.withoutEnums).literals := by
    rw [literals, options_builtin]
    rfl
  have hregistered : (builtin o).registerEnums o.enums =
      ((builtin o.withoutEnums).registerEnums o.enums).map (withOptions o) := by
    rw [← registerEnums_withOptions hliterals, builtin_withoutEnums]
  rw [ofOptions_of_ranges_nil hranges, hregistered, ← MappingOptions.labelless?_eq_none]
  cases hlabels : o.labelless? with
  | some d =>
    rw [MappingOptions.validate_of_labelless hsize hlabels]
    constructor
    · intro h
      cases h
    · rintro ⟨h, -⟩
      cases h
  | none =>
    rw [MappingOptions.validate_of_labelless_none hsize hlabels]
    constructor
    · intro h
      obtain ⟨r', hr', rfl⟩ := ok_of_map h
      obtain ⟨hall, rfl⟩ := registerEnums_eq_ok.1 hr'
      exact ⟨rfl, hall, rfl⟩
    · rintro ⟨-, hall, rfl⟩
      exact congrArg (Except.map (withOptions o)) (registerEnums_eq_ok.2 ⟨hall, rfl⟩)

lemma ofOptions_withoutEnums (hranges : o.ranges = []) (hsize : o.keySize ≠ some 0) :
    ofOptions o.withoutEnums = .ok (builtin o.withoutEnums) := by
  have hlabels : o.withoutEnums.labelless? = none := rfl
  have hvalid := MappingOptions.validate_of_labelless_none (o := o.withoutEnums) hsize hlabels
  rw [ofOptions_of_ranges_nil (o := o.withoutEnums) hranges, hvalid]
  rfl

/-- Registering enumerations with the registry for the options without them shows no difference. -/
lemma holdsSame_session_withOptions (o : MappingOptions) (steps : List Step) :
    ((session step steps (builtin o.withoutEnums)).2.withOptions o).HoldsSame
      (session step steps (builtin o.withoutEnums)).2 := by
  have hoptions : (session step steps (builtin o.withoutEnums)).2.options = o.withoutEnums := by
    rw [options_session, options_builtin]
  refine holdsSame_withOptions ?_ ?_
  · rw [literals, hoptions]
    rfl
  · rw [hoptions]
    rfl

end Registry

namespace Catalog

/-- Enumerations can be declared in the options of a catalog or registered afterwards with the catalog for
the other options: the options are accepted exactly if all of them have labels and are let in one after the
other, and refused for the first that has no labels. Accepted, they make the same tables, and every session
gets the same replies. -/
theorem ofOptions_iff_registered {o : MappingOptions} (hranges : o.ranges = [])
    (hsize : o.keySize ≠ some 0) :
    ∃ c₀, ofOptions o.withoutEnums = .ok c₀ ∧
      let later := session step (o.enums.map .enumeration) c₀
      ((∃ c, ofOptions o = .ok c) ↔
        (∀ d ∈ o.enums, d.labels ≠ []) ∧ ∀ reply ∈ later.1, ∃ m, reply = .outcome (.ok m)) ∧
      (∀ d, o.labelless? = some d → ofOptions o = .error (.noLabels d.qualifiedName)) ∧
      ∀ c, ofOptions o = .ok c →
        c.registry = later.2.registry.withOptions o ∧
        ∀ steps, (session step steps c).1 = (session step steps later.2).1 := by
  have hc₀ : ofOptions o.withoutEnums = .ok { registry := .builtin o.withoutEnums } := by
    rw [ofOptions_eq, Registry.ofOptions_withoutEnums hranges hsize]
    rfl
  obtain ⟨hreplies, hlast, hsound⟩ := agrees_session_of_registry (.builtin o.withoutEnums)
    (o.enums.map .enumeration)
  refine ⟨_, hc₀, ?_, ?_, ?_⟩
  · rw [hreplies, ofOptions_eq, exists_ok_map]
    constructor
    · rintro ⟨r, hr⟩
      obtain ⟨hlabels, hall, -⟩ := (Registry.ofOptions_eq_ok_iff hranges hsize).1 hr
      exact ⟨hlabels, hall⟩
    · rintro ⟨hlabels, hall⟩
      exact ⟨_, (Registry.ofOptions_eq_ok_iff hranges hsize).2 ⟨hlabels, hall, rfl⟩⟩
  · intro d hd
    rw [ofOptions, MappingOptions.validate_of_labelless hsize hd]
    rfl
  · intro c hc
    rw [ofOptions_eq] at hc
    obtain ⟨r, hr, rfl⟩ := ok_of_map hc
    obtain ⟨-, -, rfl⟩ := (Registry.ofOptions_eq_ok_iff hranges hsize).1 hr
    refine ⟨?_, fun steps => ?_⟩
    · rw [hlast]
    · rw [(agrees_session_of_registry _ steps).answer, (agrees_session hsound steps).answer, hlast]
      exact (Registry.holdsSame_session_withOptions o _).session steps

/-- An enumeration and one of the same name in a schema, declared and found as if a program had registered
them. -/
theorem ofOptions_iff_registered_of_moods :
    let mood : EnumDefinition := { name := "mood", labels := [("Sad", "sad")] }
    let appMood : EnumDefinition :=
      { name := "mood", schema := some "app", hostName := some "AppMood", labels := [("Ok", "ok")] }
    let o : MappingOptions := { keySize := some 100, enums := [mood, appMood] }
    let lookups : List Step := [.find (.forStore "App.Mood"), .find (.forHost (.enumeration "mood"))]
    let m := (Registry.builtin {}).enumDescriptor mood
    let m' := (Registry.builtin {}).enumDescriptor appMood
    o.ranges = [] ∧ o.keySize ≠ some 0 ∧
      ∃ c, ofOptions o = .ok c ∧ (session step lookups c).1 = [.answer (some m'), .answer (some m)] := by
  intro mood appMood o lookups m m'
  have hsize : o.keySize ≠ some 0 := by decide
  obtain ⟨c₀, hc₀, haccepted, -, hsame⟩ := ofOptions_iff_registered (o := o) rfl hsize
  obtain rfl : { registry := .builtin o.withoutEnums } = c₀ := Except.ok.inj hc₀
  have hregistered : (session step (o.enums.map .enumeration) { registry := .builtin o.withoutEnums }).1 =
      [.outcome (.ok m), .outcome (.ok m')] := by
    decide +kernel
  have hfound : (session step lookups (session step (o.enums.map .enumeration)
      { registry := .builtin o.withoutEnums }).2).1 = [.answer (some m'), .answer (some m)] := by
    decide +kernel
  have hlabels : ∀ d ∈ o.enums, d.labels ≠ [] := by decide
  obtain ⟨c, hc⟩ := haccepted.2 ⟨hlabels, by simp [hregistered]⟩
  exact ⟨rfl, hsize, c, hc, ((hsame c hc).2 lookups).trans hfound⟩

/-- An enumeration without labels can be registered, but options that declare it are refused. -/
theorem registered_labelless :
    let mood : EnumDefinition := { name := "mood", labels := [] }
    let o : MappingOptions := { enums := [mood] }
    o.ranges = [] ∧ o.keySize ≠ some 0 ∧
      ∃ c₀, ofOptions o.withoutEnums = .ok c₀ ∧
        (session step (o.enums.map .enumeration) c₀).1 =
          [.outcome (.ok (c₀.registry.enumDescriptor mood))] ∧
        ofOptions o = .error (.noLabels "mood") := by
  intro mood o
  let c₀ : Catalog := { registry := .builtin {} }
  have hreplies : (session step (o.enums.map .enumeration) c₀).1 =
      [.outcome (.ok (c₀.registry.enumDescriptor mood))] := by
    decide +kernel
  exact ⟨rfl, by decide, c₀, rfl, hreplies, rfl⟩

end Catalog

end SqlBridge
