import SqlBridge.Proofs.Registry.HostType
import SqlBridge.Proofs.Registry.Refusals

/-!
# Properties

The mapping of a property is the answer for its request. Only what a model says about the elements of an
array makes a difference, and only to whether they may be null. Where it says nothing, that is as the
answer has it already, as an array is answered with the nullability that elements of its host type have.
-/

namespace SqlBridge

/-- The mapping is the descriptor, and an array's elements may be null as the model says; where the model
is silent, as the descriptor says. -/
inductive Property.Annotates (p : Property) : Descriptor → PropertyMapping → Prop
  | plain {d : Descriptor} : d.isArray = false → Annotates p d ⟨d, none⟩
  | array {s : Signature} {element : Descriptor} {nullable flag : Bool} :
    (p.elements = .nullable → flag = true) → (p.elements = .nonNullable → flag = false) →
    (p.elements = .unknown → flag = nullable) →
    Annotates p (.array s element nullable) ⟨.array s element flag, some flag⟩

namespace Registry

variable {admits : String → Prop} {r : Registry} {q : Request} {d element : Descriptor}
  {host : Option HostType}

lemma nullable_of_arrayOver (h : arrayOver host element = some d) :
    d.element? = some element ∧ d.elementNullable? = some (elementsNullable element.hostType) := by
  have hover := ok_of_toOption h
  rw [Descriptor.arrayOf] at hover
  by_cases harray : element.isArray = true
  · rw [if_pos harray] at hover
    cases hover
  · rw [if_neg harray] at hover
    cases hover
    exact ⟨rfl, rfl⟩

/-- Only the arrays over an answer are arrays, and their elements may be null as those of the host type. -/
lemma ReachableBy.nullable_of_find (h : r.ReachableBy admits) (hd : r.find q = some d)
    (helement : d.element? = some element) :
    d.elementNullable? = some (elementsNullable element.hostType) := by
  have hflat {d : Descriptor} (harray : d.isArray = false) : d.element? ≠ some element := by
    rw [Descriptor.element?_of_isArray_eq_false harray]
    nofun
  rcases of_find hd with hdecided | ⟨q', e, -, -, hover⟩ | hrange
  · exact absurd helement (hflat (isHosted_of_isDecided h hdecided).1)
  · obtain ⟨he, hnullable⟩ := nullable_of_arrayOver hover
    rw [helement] at he
    cases he
    exact hnullable
  · exact absurd helement (hflat (h.isPlain (.inr (List.mem_of_find?_eq_some hrange))).2.2)

/-- The mapping of a property annotates the answer for its request. -/
lemma ReachableBy.annotates_mapping (h : r.ReachableBy admits) {p : Property}
    (hd : r.find p.request = some d) : p.Annotates d (p.mapping d) := by
  cases d with
  | array s element nullable =>
    have hnullable : nullable = elementsNullable element.hostType :=
      Option.some.inj (h.nullable_of_find hd rfl)
    subst hnullable
    apply Property.Annotates.array
    · intro hp
      rw [hp]
      rfl
    · intro hp
      rw [hp]
      rfl
    · intro hp
      rw [hp]
      rfl
  | _ => exact .plain rfl

end Registry

namespace Catalog

/-- A property has a mapping exactly if its request has an answer, and the mapping is this answer but for
the nullability of an array's elements. No later step gets another reply because the property was asked
for. -/
theorem findProperty_annotates {c : Catalog} (hc : c.Reachable) (p : Property) :
    ((c.findProperty p).1 = none ↔ (c.find p.request).1 = none) ∧
      (∀ base, (c.find p.request).1 = some base →
        ∃ m, (c.findProperty p).1 = some m ∧ p.Annotates base m) ∧
      Alike (c.findProperty p).2 c := by
  obtain ⟨hsound, hr⟩ := hc.spec
  refine ⟨Option.map_eq_none_iff, ?_, ?_⟩
  · intro base hbase
    have hfind := hbase
    rw [hc.find_eq] at hfind
    exact ⟨p.mapping base, congrArg (Option.map p.mapping) hbase, hr.annotates_mapping hfind⟩
  · have hagrees : Agrees (c.step (.property p)) (c.registry.step (.property p)) := agrees_step hsound _
    exact hagrees.alike hsound rfl

/-- The elements of an array of enumerations may be null only where the model says so, and they are not
nullable for those who ask without a model. -/
theorem findProperty_annotates_of_moods :
    let moods : Property :=
      { name := "Moods", host := .list (.enumeration "mood"), elements := .nullable }
    ∃ c : Catalog, c.Reachable ∧ ∃ s e, (c.find moods.request).1 = some (.array s e false) ∧
      (c.findProperty moods).1 = some ⟨.array s e true, some true⟩ ∧
      ((c.findProperty moods).2.find moods.request).1 = some (.array s e false) := by
  intro moods
  let c : Catalog := (registerEnum { registry := .builtin {} }
    { name := "mood", labels := [("Sad", "sad")] }).2
  have hc : c.Reachable := .enumeration reachableBy_builtin trivial
  have hruns : (c.find moods.request).1.map Descriptor.elementNullable? = some (some false) := by
    decide +kernel
  obtain ⟨base, hbase, hnullable⟩ := Option.map_eq_some_iff.1 hruns
  obtain ⟨-, hfound, halike⟩ := findProperty_annotates hc moods
  obtain ⟨m, hm, hannotates⟩ := hfound base hbase
  have hreply := halike.replies [.find moods.request]
  cases hannotates with
  | plain harray =>
    cases base with
    | array s e nullable => cases harray
    | _ => cases hnullable
  | @array s e nullable flag hyes =>
    cases hnullable
    rw [hyes rfl] at hm
    refine ⟨c, hc, s, e, hbase, hm, ?_⟩
    have hanswer : Reply.answer ((c.findProperty moods).2.find moods.request).1 =
        .answer (c.find moods.request).1 := List.head_eq_of_cons_eq hreply
    rw [Reply.answer.inj hanswer, hbase]

end Catalog

end SqlBridge
