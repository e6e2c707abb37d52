import Mathlib.Data.List.Nodup
import SqlBridge.Proofs.Registry.Listing
import SqlBridge.Proofs.Registry.Session

/-!
# Names that stay unique

Registrations refuse a name that is listed already, so that no name is listed twice. There is one way
around: an enumeration is only compared with the other store types, and takes the name of a range of the
user's own that was registered before it.
-/

namespace SqlBridge

/-- The registration is refused because what it registers is there already. -/
def IsDuplicate (result : Except Fault Descriptor) : Prop :=
  ∃ fault, result = .error fault ∧ fault.report.code.text = "KB0301"

lemma text_duplicate : (ErrorCode.mk 301).text = "KB0301" := by
  decide

lemma not_isDuplicate_ok (d : Descriptor) : ¬ IsDuplicate (.ok d) := by
  rintro ⟨fault, h, -⟩
  cases h

namespace Registry

variable {admits : String → Prop} {r r' : Registry} {name : String}

/-- The enumeration is let in under the name of a range of the user's own. -/
def Overlooks (r : Registry) (d : EnumDefinition) : Prop :=
  r.IsRangeOnly d.qualifiedName ∧ r.isHosted (.enumeration d.hostTypeName) = false

lemma isTaken_iff : r.isTaken name = true ↔ name ∈ r.names := by
  rw [isTaken, Bool.or_eq_true, mem_names_iff]

/-! ## Refusals -/

lemma isDuplicate_registerRange {d : RangeDefinition} (h : d.qualifiedName ∈ r.names) :
    IsDuplicate (r.commit (r.registerRange d)).1 := by
  rw [registerRange, if_pos (isTaken_iff.2 h)]
  exact ⟨_, rfl, text_duplicate⟩

lemma isDuplicate_registerEnum_iff {d : EnumDefinition} (h : d.qualifiedName ∈ r.names) :
    IsDuplicate (r.commit (r.registerEnum d)).1 ↔ ¬ r.Overlooks d := by
  rw [Overlooks, isRangeOnly_iff h, registerEnum]
  cases htaken : r.isNamed d.qualifiedName || r.isHosted (.enumeration d.hostTypeName) with
  | true =>
    have hnot : ¬ (r.isNamed d.qualifiedName = false ∧
        r.isHosted (.enumeration d.hostTypeName) = false) := by
      rw [← Bool.or_eq_false_iff, htaken]
      exact Bool.noConfusion
    exact iff_of_true ⟨_, rfl, text_duplicate⟩ hnot
  | false => exact iff_of_false (not_isDuplicate_ok _) (not_not_intro (Bool.or_eq_false_iff.1 htaken))

/-! ## Names after a step -/

lemma nodup_names_registerRange {d : RangeDefinition} {e : Descriptor}
    (h : r.registerRange d = .ok (e, r')) : r'.names.Nodup ↔ r.names.Nodup := by
  have hnew : d.qualifiedName ∉ r.names := by
    intro hname
    rw [registerRange, if_pos (isTaken_iff.2 hname)] at h
    cases h
  obtain ⟨s, -, rfl, rfl⟩ := registerRange_ok h
  rw [names_addUserRange, List.nodup_append_comm, List.singleton_append, List.nodup_cons]
  exact and_iff_right hnew

lemma nodup_names_registerEnum {d : EnumDefinition} {e : Descriptor}
    (h : r.registerEnum d = .ok (e, r')) : r'.names.Nodup ↔ r.names.Nodup ∧ ¬ r.Overlooks d := by
  have hfree : ¬ IsDuplicate (r.commit (r.registerEnum d)).1 := by
    rw [h]
    exact not_isDuplicate_ok e
  obtain ⟨rfl, hadds⟩ := registerEnum_ok h
  -- as the enumeration was let in, its name was listed only if it was overlooked
  have hlisted : d.qualifiedName ∉ r.names ↔ ¬ r.Overlooks d := by
    constructor
    · exact fun hname hover => hname (mem_names_iff.2 (.inr hover.1.1))
    · exact fun hover hname => hfree ((isDuplicate_registerEnum_iff hname).2 hover)
  rw [hadds.names_perm.nodup_iff, List.nodup_cons, and_comm, ← hlisted]
  rfl

lemma not_overlooks_of_error {d : EnumDefinition} {fault : Fault} (h : r.registerEnum d = .error fault) :
    ¬ r.Overlooks d := by
  rintro ⟨⟨-, hnamed⟩, hhosted⟩
  rw [registerEnum, hnamed, hhosted] at h
  cases h

/-- A step keeps the names unique exactly if it is no enumeration of a name that is overlooked. -/
theorem nodup_names_step (r : Registry) (s : Step) :
    (r.step s).2.names.Nodup ↔ r.names.Nodup ∧ ∀ d, s = .enumeration d → ¬ r.Overlooks d := by
  cases s with
  | enumeration d =>
    have hsame : (∀ d', Step.enumeration d = .enumeration d' → ¬ r.Overlooks d') ↔ ¬ r.Overlooks d :=
      ⟨fun h => h d rfl, fun h d' e => by cases e; exact h⟩
    rw [hsame, step]
    cases hd : r.registerEnum d with
    | error fault => exact (and_iff_left (not_overlooks_of_error hd)).symm
    | ok p => exact nodup_names_registerEnum hd
  | userRange d =>
    rw [step, and_iff_left (by simp)]
    cases hd : r.registerRange d with
    | error fault => exact Iff.rfl
    | ok p => exact nodup_names_registerRange hd
  | _ => exact (and_iff_left (by simp)).symm

/-- A session keeps the names unique exactly if no enumeration in it is of a name that is overlooked at
its time. -/
theorem nodup_names_session (steps : List Step) (r : Registry) :
    (session step steps r).2.names.Nodup ↔
      r.names.Nodup ∧ ∀ before d after, steps = before ++ .enumeration d :: after →
        ¬ (session step before r).2.Overlooks d := by
  induction steps generalizing r with
  | nil => exact (and_iff_left (by simp)).symm
  | cons s steps ih =>
    have hrest := ih (r.step s).2
    rw [nodup_names_step] at hrest
    rw [session]
    refine hrest.trans ?_
    rw [and_assoc]
    refine and_congr_right fun _ => ?_
    -- an enumeration in the session is its first step, or stands in the rest of it
    constructor
    · rintro ⟨hfirst, hlater⟩ before d after heq
      cases before with
      | nil =>
        cases heq
        exact hfirst d rfl
      | cons a before =>
        cases heq
        exact hlater before d after rfl
    · intro h
      refine ⟨?_, ?_⟩
      · rintro d rfl
        exact h [] d steps rfl
      · rintro before d after rfl
        exact h (s :: before) d after rfl

/-! ## Names for options -/

lemma userRanges_builtin (o : MappingOptions) : (builtin o).userRanges = [] := by
  apply builtin_induction (motive := fun r => r.userRanges = [])
  · rfl
  · intro r entry _ hr
    obtain ⟨hosts, e⟩ := addDefault_eq r entry
    rw [e]
    exact hr
  · exact fun r r' subtype d hr _ _ h => h.userRanges.trans hr

/-- The names of the registry for options are unique, as their enumerations come before their ranges. -/
theorem nodup_names_ofOptions {o : MappingOptions} (h : ofOptions o = .ok r) : r.names.Nodup := by
  have hreachable : (builtin o).ReachableBy fun _ => True := .builtin o
  have hbuiltin : (builtin o).names.Nodup := by
    rw [names, userRanges_builtin, List.map_nil, List.append_nil]
    exact hreachable.hasOwnNames.1
  rw [ofOptions] at h
  obtain ⟨-, -, h⟩ := ok_of_bind h
  obtain ⟨r₁, henums, h⟩ := ok_of_bind h
  have hr₁ : r₁.userRanges = [] ∧ r₁.names.Nodup := by
    refine registrations_induction (motive := fun r => r.userRanges = [] ∧ r.names.Nodup) ?_
      ⟨userRanges_builtin o, hbuiltin⟩ henums
    intro r r' d e _ hr hd
    obtain ⟨hranges, hnames⟩ := hr
    -- without ranges of the user's own, no name is overlooked
    have hover : ¬ r.Overlooks d := by
      rintro ⟨⟨hrange, -⟩, -⟩
      rw [isUserRange, hranges] at hrange
      cases hrange
    exact ⟨(registerEnum_ok hd).2.userRanges.trans hranges,
      (nodup_names_registerEnum hd).2 ⟨hnames, hover⟩⟩
  refine registrations_induction (motive := fun r => r.names.Nodup) ?_ hr₁.2 h
  exact fun r r' d e _ hnames hd => (nodup_names_registerRange hd).2 hnames

end Registry

namespace Catalog

/-- In every session that starts with the catalog for some options: a range of a listed name is refused
as a duplicate, and so is an enumeration, unless only a range of the user's own has the name and the
enumeration's host type is free. The names are unique exactly if no such enumeration was let in. -/
theorem names_of_session {o : MappingOptions} {c : Catalog} (hc : ofOptions o = .ok c)
    (steps : List Step) :
    (∀ d : RangeDefinition, d.qualifiedName ∈ (session step steps c).2.registry.names →
        IsDuplicate ((session step steps c).2.registerRange d).1) ∧
      (∀ d : EnumDefinition, d.qualifiedName ∈ (session step steps c).2.registry.names →
        (IsDuplicate ((session step steps c).2.registerEnum d).1 ↔
          ¬ (session step steps c).2.registry.Overlooks d)) ∧
      ((session step steps c).2.registry.names.Nodup ↔
        ∀ before d after, steps = before ++ .enumeration d :: after →
          ¬ (session step before c).2.registry.Overlooks d) := by
  rw [ofOptions_eq] at hc
  obtain ⟨r, hr, rfl⟩ := ok_of_map hc
  have hsound := sound_of_registry r
  have hlast := (agrees_session hsound steps).sound
  refine ⟨?_, ?_, ?_⟩
  · intro d hd
    rw [(agrees_registerRange hlast d).answer]
    exact Registry.isDuplicate_registerRange hd
  · intro d hd
    rw [(agrees_registerEnum hlast d).answer]
    exact Registry.isDuplicate_registerEnum_iff hd
  · have hregistry (steps : List Step) : (session step steps { registry := r }).2.registry =
        (session Registry.step steps r).2 :=
      (agrees_session hsound steps).registry
    simp only [hregistry, Registry.nodup_names_session,
      and_iff_right (Registry.nodup_names_ofOptions hr)]

/-- An enumeration beside a range has a name of its own, which no other type takes. -/
theorem names_of_session_of_mood :
    let span : RangeDefinition := { name := "span", subtype := .scalar .string }
    let mood : EnumDefinition := { name := "mood", labels := [("Sad", "sad")] }
    let steps : List Step := [.userRange span, .enumeration mood]
    ∃ c, ofOptions {} = .ok c ∧ (session step steps c).2.registry.names.Nodup ∧
      mood.qualifiedName ∈ (session step steps c).2.registry.names ∧
      IsDuplicate ((session step steps c).2.registerEnum mood).1 ∧
      IsDuplicate ((session step steps c).2.registerRange { span with name := "mood" }).1 := by
  intro span mood steps
  let c : Catalog := { registry := .builtin {} }
  have hruns : (session step [.userRange span] c).2.registry.isUserRange mood.qualifiedName = false ∧
      mood.qualifiedName ∈ (session step steps c).2.registry.names ∧
      (session step steps c).2.registry.isNamed mood.qualifiedName = true := by
    decide +kernel
  obtain ⟨hother, hlisted, hnamed⟩ := hruns
  obtain ⟨hrange, henum, hnodup⟩ := names_of_session (o := {}) (c := c) rfl steps
  refine ⟨c, rfl, hnodup.2 ?_, hlisted, (henum mood hlisted).2 ?_, hrange _ hlisted⟩
  · intro before d after heq hover
    rcases List.cons_eq_append_iff.1 heq with ⟨-, hfirst⟩ | ⟨before, rfl, hrest⟩
    · cases hfirst
    rcases List.cons_eq_append_iff.1 hrest with ⟨rfl, hsecond⟩ | ⟨before, -, hnone⟩
    · cases hsecond
      have hspan := hover.1.1
      rw [hother] at hspan
      cases hspan
    · simp at hnone
  · rintro ⟨⟨-, hfree⟩, -⟩
    rw [hnamed] at hfree
    cases hfree

/-- An enumeration is let in under the name of a range, and the name is listed twice. -/
theorem names_repeated :
    let range : RangeDefinition := { name := "span", subtype := .scalar .string }
    let enumeration : EnumDefinition := { name := "span", labels := [("A", "a")] }
    ∃ c, ofOptions {} = .ok c ∧
      enumeration.qualifiedName ∈ (session step [.userRange range] c).2.registry.names ∧
      ¬ IsDuplicate ((session step [.userRange range] c).2.registerEnum enumeration).1 ∧
      ¬ (session step [.userRange range, .enumeration enumeration] c).2.registry.names.Nodup := by
  intro range enumeration
  let c : Catalog := { registry := .builtin {} }
  have hruns : ("span" ∈ (session step [.userRange range] c).2.registry.names ∧
      ((session step [.userRange range] c).2.registerEnum enumeration).1.toOption.isSome = true) ∧
      ¬ (session step [.userRange range, .enumeration enumeration] c).2.registry.names.Nodup := by
    decide +kernel
  obtain ⟨⟨hlisted, hsome⟩, hrepeated⟩ := hruns
  obtain ⟨d, hd⟩ := Option.isSome_iff_exists.1 hsome
  refine ⟨c, rfl, hlisted, ?_, hrepeated⟩
  rw [ok_of_toOption hd]
  exact not_isDuplicate_ok d

end Catalog

end SqlBridge
