import SqlBridge.Proofs.Registry.Answers
import SqlBridge.Registry.Containers

/-!
# Sessions

What a program does with a catalog: it registers types of its own and looks descriptors up, in any order.
The catalog's replies are those of its registry, which keeps no answers.
-/

namespace SqlBridge

/-- A step of a program. -/
inductive Step
  | enumeration (d : EnumDefinition)
  | userRange (d : RangeDefinition)
  | find (q : Request)
  | require (q : Request)
  | property (p : Property)
  | range (subtype : Descriptor)
  | multirange (subtype : Descriptor)
  | array (element : Descriptor) (nullable : Bool)

/-- What a step is replied with. -/
inductive Reply
  | answer (d : Option Descriptor)
  | outcome (result : Except Fault Descriptor)
  | mapping (m : Option PropertyMapping)
deriving DecidableEq

/-- The step is no attempt to register. -/
def Step.isLookup : Step → Bool
  | .enumeration _ | .userRange _ => false
  | _ => true

/-- The replies to steps that are taken one after the other, and the state in the end. -/
def session {σ : Type} (step : σ → Step → Reply × σ) : List Step → σ → List Reply × σ
  | [], s => ([], s)
  | a :: rest, s =>
    let (reply, s) := step s a
    let (replies, s) := session step rest s
    (reply :: replies, s)

/-- The replies to steps and the catalog after them. Ranges, multiranges and arrays over a descriptor are
not kept. -/
def Catalog.step (c : Catalog) : Step → Reply × Catalog
  | .enumeration d => (c.registerEnum d).map .outcome id
  | .userRange d => (c.registerRange d).map .outcome id
  | .find q => (c.find q).map .answer id
  | .require q => (c.require q).map .outcome id
  | .property p => (c.findProperty p).map .mapping id
  | .range subtype => (.answer (c.registry.findRange subtype), c)
  | .multirange subtype => (.answer (c.registry.findMultirange subtype), c)
  | .array element nullable => (.outcome (element.arrayOf none nullable), c)

/-- The reply to a step by resolving anew from the tables, and the registry after it. -/
def Registry.step (r : Registry) : Step → Reply × Registry
  | .enumeration d => (r.commit (r.registerEnum d)).map .outcome id
  | .userRange d => (r.commit (r.registerRange d)).map .outcome id
  | .find q => (.answer (r.find q), r)
  | .require q => (.outcome (r.require q), r)
  | .property p => (.mapping (r.findProperty p), r)
  | .range subtype => (.answer (r.findRange subtype), r)
  | .multirange subtype => (.answer (r.findMultirange subtype), r)
  | .array element nullable => (.outcome (element.arrayOf none nullable), r)

section

variable {σ : Type} (step : σ → Step → Reply × σ)

lemma session_append (before after : List Step) (s : σ) :
    session step (before ++ after) s =
      ((session step before s).1 ++ (session step after (session step before s).2).1,
        (session step after (session step before s).2).2) := by
  induction before generalizing s with
  | nil => rfl
  | cons a before ih => simp [session, ih]

lemma length_session (steps : List Step) (s : σ) : (session step steps s).1.length = steps.length := by
  induction steps generalizing s with
  | nil => rfl
  | cons a steps ih => simp [session, ih]

/-- The reply to a step is the one that it gets in the state after the steps before it. -/
lemma getElem?_session (before after : List Step) (a : Step) (s : σ) :
    (session step (before ++ a :: after) s).1[before.length]? =
      some (step (session step before s).2 a).1 := by
  rw [session_append, ← length_session step before s, List.getElem?_append_right (Nat.le_refl _)]
  simp [session]

end

/-- What is left of a list when only the marked places stay. -/
def remaining {α : Type} (stays : List Bool) (xs : List α) : List α :=
  ((xs.zip stays).filter (·.2)).map (·.1)

@[simp]
lemma remaining_cons {α : Type} (stay : Bool) (stays : List Bool) (x : α) (xs : List α) :
    remaining (stay :: stays) (x :: xs) =
      if stay then x :: remaining stays xs else remaining stays xs := by
  cases stay <;> rfl

namespace Registry

lemma step_of_isLookup (r : Registry) {s : Step} (h : s.isLookup = true) : (r.step s).2 = r := by
  cases s with
  | enumeration d => cases h
  | userRange d => cases h
  | _ => rfl

/-- What every successful registration keeps, a session keeps. -/
theorem session_induction {motive : Registry → Prop}
    (enumeration : ∀ r r' d e, motive r → r.registerEnum d = .ok (e, r') → motive r')
    (range : ∀ r r' d e, motive r → r.registerRange d = .ok (e, r') → motive r')
    (steps : List Step) {r : Registry} (hr : motive r) : motive (session step steps r).2 := by
  induction steps generalizing r with
  | nil => exact hr
  | cons s steps ih =>
    apply ih
    show motive (r.step s).2
    cases s with
    | enumeration d =>
      rw [step]
      cases hd : r.registerEnum d with
      | error fault => exact hr
      | ok p => exact enumeration r p.2 d p.1 hr hd
    | userRange d =>
      rw [step]
      cases hd : r.registerRange d with
      | error fault => exact hr
      | ok p => exact range r p.2 d p.1 hr hd
    | _ => exact hr

/-- Without the lookups at some places, the replies at the other places are the same. -/
lemma session_remaining {steps : List Step} {stays : List Bool} (r : Registry)
    (h : ∀ p ∈ steps.zip stays, p.2 = false → p.1.isLookup = true) :
    (session step (remaining stays steps) r).1 = remaining stays (session step steps r).1 := by
  induction steps generalizing r stays with
  | nil => rfl
  | cons s steps ih =>
    cases stays with
    | nil => rfl
    | cons stay stays =>
      rw [List.zip_cons_cons, List.forall_mem_cons] at h
      have hrest := ih (r.step s).2 h.2
      cases stay with
      | true => simpa [session] using hrest
      | false =>
        rw [step_of_isLookup r (h.1 rfl)] at hrest
        simpa [session, step_of_isLookup r (h.1 rfl)] using hrest

end Registry

namespace Catalog

lemma Agrees.map {α β : Type} {p : α × Catalog} {p' : α × Registry} (h : Agrees p p') (f : α → β) :
    Agrees (p.map f id) (p'.map f id) :=
  ⟨congrArg f h.answer, h.registry, h.sound⟩

/-- A catalog with right answers replies as its registry, and ends with right answers. -/
lemma agrees_step {c : Catalog} (hc : c.Sound) (s : Step) : Agrees (c.step s) (c.registry.step s) := by
  have hfind (q : Request) : Agrees (c.find q) (c.registry.find q, c.registry) := by
    obtain ⟨hanswer, hregistry, hsound⟩ := find_spec hc q
    exact ⟨hanswer, hregistry, hsound⟩
  cases s with
  | enumeration d => exact (agrees_registerEnum hc d).map Reply.outcome
  | userRange d => exact (agrees_registerRange hc d).map Reply.outcome
  | find q => exact (hfind q).map Reply.answer
  | require q => exact (hfind q).map fun d => Reply.outcome (Registry.orFault _ d)
  | property p => exact (hfind p.request).map fun d => Reply.mapping (d.map p.mapping)
  | range subtype => exact ⟨rfl, rfl, hc⟩
  | multirange subtype => exact ⟨rfl, rfl, hc⟩
  | array element nullable => exact ⟨rfl, rfl, hc⟩

lemma agrees_session {c : Catalog} (hc : c.Sound) (steps : List Step) :
    Agrees (session step steps c) (session Registry.step steps c.registry) := by
  induction steps generalizing c with
  | nil => exact ⟨rfl, rfl, hc⟩
  | cons s steps ih =>
    obtain ⟨hreply, hregistry, hsound⟩ := agrees_step hc s
    obtain ⟨hreplies, hlast, hsound⟩ := ih hsound
    rw [hregistry] at hreplies hlast
    exact ⟨congrArg₂ List.cons hreply hreplies, hlast, hsound⟩

lemma agrees_session_of_registry (r : Registry) (steps : List Step) :
    Agrees (session step steps { registry := r }) (session Registry.step steps r) :=
  agrees_session (sound_of_registry r) steps

/-! ## Catalogs for options -/

/-- Registrations one after the other end in the registry that they make of the tables. -/
lemma foldlM_accepted {δ : Type} {register : Catalog → δ → Except Fault Descriptor × Catalog}
    {register' : Registry → δ → Except Fault (Descriptor × Registry)}
    (h : ∀ (r : Registry) d, accepted (register { registry := r } d) =
      (register' r d).map fun p => { registry := p.2 }) (ds : List δ) (r : Registry) :
    ds.foldlM (fun c d => accepted (register c d)) ({ registry := r } : Catalog) =
      (ds.foldlM (fun r d => (register' r d).map (·.2)) r).map fun r => { registry := r } := by
  induction ds generalizing r with
  | nil => rfl
  | cons d ds ih =>
    rw [List.foldlM_cons, List.foldlM_cons, h]
    cases register' r d with
    | error fault => rfl
    | ok p => exact ih p.2

lemma accepted_commit (c : Catalog) (result : Except Fault (Descriptor × Registry)) :
    accepted (c.commit result) = result.map fun p => { registry := p.2 } := by
  cases result <;> rfl

lemma accepted_registerEnum (r : Registry) (d : EnumDefinition) :
    accepted (registerEnum { registry := r } d) =
      (r.registerEnum d).map fun p => { registry := p.2 } :=
  accepted_commit _ _

lemma accepted_registerRange (r : Registry) (d : RangeDefinition) :
    accepted (registerRange { registry := r } d) =
      (r.registerRange d).map fun p => { registry := p.2 } := by
  rw [registerRange, Registry.registerRange]
  by_cases htaken : r.isTaken d.qualifiedName = true
  · rw [if_pos htaken, if_pos htaken]
    rfl
  · rw [if_neg htaken, if_neg htaken]
    obtain ⟨hanswer, hregistry, -⟩ := find_spec (sound_of_registry r) (Registry.subtypeRequest d)
    apply (accepted_commit _ _).trans
    rw [hregistry, hanswer]

/-- The catalog for options is that of the registry for them, and refused for the same reason. -/
lemma ofOptions_eq (o : MappingOptions) :
    ofOptions o = (Registry.ofOptions o).map fun r => { registry := r } := by
  have henums := foldlM_accepted accepted_registerEnum o.enums (.builtin o)
  have hranges := foldlM_accepted accepted_registerRange o.ranges
  rw [ofOptions, Registry.ofOptions, henums, Registry.registerEnums]
  cases o.validate with
  | error fault => rfl
  | ok _ =>
    cases o.enums.foldlM (fun r d => (r.registerEnum d).map (·.2)) (Registry.builtin o) with
    | error fault => rfl
    | ok r => exact hranges r

/-- In every session that starts with the catalog for some options, the replies and the tables are those
of resolving every request anew. Each reply is that of the tables at its time, and stays when lookups at
other places are left out. -/
theorem session_of_ofOptions (o : MappingOptions) :
    ofOptions o = (Registry.ofOptions o).map (fun r => { registry := r })
      ∧ ∀ c, ofOptions o = .ok c → ∀ steps : List Step,
        (session step steps c).1 = (session Registry.step steps c.registry).1
        ∧ (session step steps c).2.registry = (session Registry.step steps c.registry).2
        ∧ (∀ before s after, steps = before ++ s :: after →
          (session step steps c).1[before.length]? =
            some ((session step before c).2.registry.step s).1)
        ∧ ∀ stays : List Bool, (∀ p ∈ steps.zip stays, p.2 = false → p.1.isLookup = true) →
          (session step (remaining stays steps) c).1 = remaining stays (session step steps c).1 := by
  refine ⟨ofOptions_eq o, ?_⟩
  intro c hc steps
  rw [ofOptions_eq] at hc
  obtain ⟨r, -, rfl⟩ := ok_of_map hc
  have hsound := sound_of_registry r
  obtain ⟨hreplies, hlast, -⟩ := agrees_session hsound steps
  refine ⟨hreplies, hlast, ?_, ?_⟩
  · rintro before s after rfl
    rw [hreplies, getElem?_session, (agrees_session hsound before).registry]
  · intro stays hstays
    rw [(agrees_session hsound (remaining stays steps)).answer, hreplies]
    exact Registry.session_remaining r hstays

/-- An enumeration is unknown until it is registered, whether it was asked for before or not. -/
theorem session_of_ofOptions_of_mood :
    let mood : EnumDefinition := { name := "mood", labels := [("Sad", "sad"), ("Ok", "ok")] }
    let e := (Registry.builtin {}).enumDescriptor mood
    let steps : List Step := [.find (.forStore "mood"), .enumeration mood, .find (.forStore "mood")]
    ∃ c, ofOptions {} = .ok c
      ∧ (session step steps c).1 = [.answer none, .outcome (.ok e), .answer (some e)]
      ∧ (session step (remaining [false, true, true] steps) c).1
        = [.outcome (.ok e), .answer (some e)] := by
  intro mood e steps
  let c : Catalog := { registry := .builtin {} }
  have huncached : (session Registry.step steps c.registry).1 =
      [.answer none, .outcome (.ok e), .answer (some e)] := by
    decide +kernel
  obtain ⟨hreplies, -, -, hremaining⟩ := (session_of_ofOptions {}).2 c rfl steps
  have hsession := hreplies.trans huncached
  have hlookup := hremaining [false, true, true] (by simp [steps, Step.isLookup])
  exact ⟨c, rfl, hsession, hlookup.trans (congrArg (remaining _) hsession)⟩

end Catalog

end SqlBridge
