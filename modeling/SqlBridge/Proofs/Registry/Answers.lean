import SqlBridge.Proofs.Registry.Reachable
import SqlBridge.Proofs.Registry.Resolution
import SqlBridge.Registry.Catalog

/-!
# Answers of a catalog

A catalog only keeps answers that its registry gives. So every catalog that a program can hold answers like
its registry, which registrations lead to.
-/

namespace SqlBridge

/-- The result of a registration, and the registry after it; a refused one leaves the registry as it is. -/
def Registry.commit (r : Registry) :
    Except Fault (Descriptor × Registry) → Except Fault Descriptor × Registry
  | .ok (d, r') => (.ok d, r')
  | .error fault => (.error fault, r)

lemma Registry.ok_of_commit {r : Registry} {result : Except Fault (Descriptor × Registry)}
    {d : Descriptor} (h : (r.commit result).1 = .ok d) : result = .ok (d, (r.commit result).2) := by
  cases result with
  | ok p => cases h; rfl
  | error fault => cases h

lemma Registry.error_of_commit {r : Registry} {result : Except Fault (Descriptor × Registry)}
    {fault : Fault} (h : (r.commit result).1 = .error fault) :
    result = .error fault ∧ (r.commit result).2 = r := by
  cases result with
  | ok p => cases h
  | error fault' => cases h; exact ⟨rfl, rfl⟩

namespace Catalog

/-- The kept answers are those that the registry gives. -/
def Sound (c : Catalog) : Prop :=
  ∀ q answer, Entries.get? q c.answers = some answer → answer = c.registry.find q

lemma sound_of_registry (r : Registry) : ({ registry := r } : Catalog).Sound := by
  intro q answer h
  cases h

lemma sound_keep {c : Catalog} (hc : c.Sound) (q : Request) : (c.keep q (c.registry.find q)).Sound := by
  intro q' answer h
  rw [keep, Entries.get?_set] at h
  by_cases hq : q = q'
  · subst hq
    rw [if_pos rfl] at h
    exact (Option.some.inj h).symm
  · rw [if_neg hq] at h
    exact hc q' answer h

/-- A sound catalog gives the answer of its registry, and stays sound over the same registry. -/
theorem find_spec {c : Catalog} (hc : c.Sound) (q : Request) :
    (c.find q).1 = c.registry.find q ∧ (c.find q).2.registry = c.registry ∧ (c.find q).2.Sound := by
  generalize hm : q.measure = m
  induction m using Nat.strongRecOn generalizing c q with
  | ind m ih =>
    rw [find]
    cases hget : Entries.get? q c.answers with
    | some answer => exact ⟨hc q answer hget, rfl, hc⟩
    | none =>
      have hkeep := sound_keep hc q
      cases hdecide : c.registry.decide q with
      | found d =>
        have hfind : c.registry.find q = some d := by rw [Registry.find, hdecide]
        rw [hfind] at hkeep ⊢
        exact ⟨rfl, rfl, hkeep⟩
      | refused =>
        have hfind : c.registry.find q = none := by rw [Registry.find, hdecide]
        rw [hfind] at hkeep ⊢
        exact ⟨rfl, rfl, hkeep⟩
      | unsettled =>
        have hfind := Registry.find_of_unsettled hdecide
        simp only
        split
        · rename_i e he
          rw [he, Option.bind_some] at hfind
          have hlt : e.measure < m := hm ▸ Request.measure_lt_of_element? he
          -- the element is looked up first, in a catalog that may keep more answers afterwards
          obtain ⟨hanswer, hregistry, hsound⟩ := ih _ hlt hc e rfl
          generalize c.find e = p at hanswer hregistry hsound
          obtain ⟨element, c'⟩ := p
          simp only at hanswer hregistry hsound
          have hkeep' := sound_keep hsound q
          rw [← hanswer] at hfind
          rw [hregistry, hfind] at hkeep'
          simp only [hregistry, hfind]
          exact ⟨trivial, hregistry, hkeep'⟩
        · rename_i he
          rw [he, Option.bind_none] at hfind
          rw [hfind] at hkeep ⊢
          exact ⟨rfl, rfl, hkeep⟩

/-! ## Registrations -/

/-- A step of a catalog gives what the step of its registry gives, and ends in the same tables with kept
answers that are right for them. -/
structure Agrees {α : Type} (p : α × Catalog) (p' : α × Registry) : Prop where
  answer : p.1 = p'.1
  registry : p.2.registry = p'.2
  sound : p.2.Sound

lemma agrees_commit {c : Catalog} (hc : c.Sound) (result : Except Fault (Descriptor × Registry)) :
    Agrees (c.commit result) (c.registry.commit result) := by
  cases result with
  | ok p => exact ⟨rfl, rfl, sound_of_registry p.2⟩
  | error fault => exact ⟨rfl, rfl, hc⟩

lemma agrees_registerEnum {c : Catalog} (hc : c.Sound) (d : EnumDefinition) :
    Agrees (c.registerEnum d) (c.registry.commit (c.registry.registerEnum d)) :=
  agrees_commit hc _

lemma agrees_registerRange {c : Catalog} (hc : c.Sound) (d : RangeDefinition) :
    Agrees (c.registerRange d) (c.registry.commit (c.registry.registerRange d)) := by
  rw [registerRange, Registry.registerRange]
  by_cases htaken : c.registry.isTaken d.qualifiedName = true
  · rw [if_pos htaken, if_pos htaken]
    exact ⟨rfl, rfl, hc⟩
  · rw [if_neg htaken, if_neg htaken]
    obtain ⟨hanswer, hregistry, hsound⟩ := find_spec hc (Registry.subtypeRequest d)
    -- the subtype that is looked up is the one that the registry resolves by itself
    rw [← hanswer, ← hregistry]
    exact agrees_commit hsound _

/-! ## Reachable catalogs -/

/-- A catalog that a program can hold: that of the registry for some options, after any requests and any
attempts to register, the names of which are admitted. -/
inductive ReachableBy (admits : String → Prop) : Catalog → Prop
  | start {o : MappingOptions} {r : Registry} : (∀ d ∈ o.enums, admits d.qualifiedName) →
    (∀ d ∈ o.ranges, admits d.qualifiedName) → Registry.ofOptions o = .ok r →
    ReachableBy admits { registry := r }
  | lookup {c : Catalog} (q : Request) : ReachableBy admits c → ReachableBy admits (c.find q).2
  | enumeration {c : Catalog} {d : EnumDefinition} : ReachableBy admits c →
    admits d.qualifiedName → ReachableBy admits (c.registerEnum d).2
  | range {c : Catalog} {d : RangeDefinition} : ReachableBy admits c → admits d.qualifiedName →
    ReachableBy admits (c.registerRange d).2

/-- A catalog that a program can hold. -/
def Reachable (c : Catalog) : Prop :=
  c.ReachableBy fun _ => True

lemma reachableBy_builtin {admits : String → Prop} :
    ReachableBy admits { registry := .builtin {} } := by
  refine .start (o := {}) ?_ ?_ rfl
  · intro d hd
    cases hd
  · intro d hd
    cases hd

lemma reachableBy_ofOptions {admits : String → Prop} {o : MappingOptions} {r : Registry}
    (henums : ∀ d ∈ o.enums, admits d.qualifiedName)
    (hranges : ∀ d ∈ o.ranges, admits d.qualifiedName) (h : Registry.ofOptions o = .ok r) :
    r.ReachableBy admits := by
  refine Registry.ofOptions_induction (.builtin o) ?_ ?_ h
  · exact fun r r' d e hmem hr hd => .enumeration hr (henums d hmem) hd
  · exact fun r r' d e hmem hr hd => .range hr (hranges d hmem) hd

/-- A reachable catalog is sound, and its registry is reachable. -/
theorem ReachableBy.spec {admits : String → Prop} {c : Catalog} (h : c.ReachableBy admits) :
    c.Sound ∧ c.registry.ReachableBy admits := by
  induction h with
  | start henums hranges hr => exact ⟨sound_of_registry _, reachableBy_ofOptions henums hranges hr⟩
  | lookup q _ ih =>
    obtain ⟨-, hregistry, hsound⟩ := find_spec ih.1 q
    exact ⟨hsound, hregistry ▸ ih.2⟩
  | @enumeration c d _ hname ih =>
    obtain ⟨-, hregistry, hsound⟩ := agrees_registerEnum ih.1 d
    refine ⟨hsound, ?_⟩
    rw [hregistry]
    cases hd : c.registry.registerEnum d with
    | error fault => exact ih.2
    | ok p => exact .enumeration ih.2 hname hd
  | @range c d _ hname ih =>
    obtain ⟨-, hregistry, hsound⟩ := agrees_registerRange ih.1 d
    refine ⟨hsound, ?_⟩
    rw [hregistry]
    cases hd : c.registry.registerRange d with
    | error fault => exact ih.2
    | ok p => exact .range ih.2 hname hd

/-- A reachable catalog answers as its registry does. -/
lemma ReachableBy.find_eq {admits : String → Prop} {c : Catalog} (h : c.ReachableBy admits)
    (q : Request) : (c.find q).1 = c.registry.find q :=
  (find_spec h.spec.1 q).1

end Catalog

end SqlBridge
