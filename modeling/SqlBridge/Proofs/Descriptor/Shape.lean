import SqlBridge.Proofs.Descriptor.DateTimes

/-!
# Shapes of rendered values

A value has all three literals or none, and a container has them when its parts do.
-/

namespace SqlBridge.Descriptor

/-! ## Shapes of values -/

/-- The value is made as the descriptor is, with scalars of certain host types at the bottom. Nulls may stand
anywhere. -/
inductive HasShape (P : Scalar → Prop) : Descriptor → HostValue → Prop
  | null {d : Descriptor} : HasShape P d .null
  | scalar {s : Signature} {a : ScalarValue} : P a.type → HasShape P (.scalar s) (.scalar a)
  | array {s : Signature} {element : Descriptor} {nullable : Bool} {vs : List HostValue} :
    (∀ v ∈ vs, HasShape P element v) → HasShape P (.array s element nullable) (.array vs)
  | range {s : Signature} {subtype : Descriptor} {r : Span HostValue} :
    (∀ v ∈ r.values, HasShape P subtype v) → HasShape P (.range s subtype) (.range r)
  | multirange {s s' : Signature} {subtype : Descriptor} {rs : List (Span HostValue)} :
    (∀ r ∈ rs, ∀ v ∈ r.values, HasShape P subtype v) →
    HasShape P (.multirange s (.range s' subtype)) (.multirange rs)

variable {P : Scalar → Prop} {d : Descriptor} {v : HostValue}

lemma HasShape.mono {Q : Scalar → Prop} (h : d.HasShape P v) (hPQ : ∀ a, P a → Q a) : d.HasShape Q v := by
  induction h with
  | null => exact .null
  | scalar ha => exact .scalar (hPQ _ ha)
  | array _ ih => exact .array ih
  | range _ ih => exact .range ih
  | multirange _ ih => exact .multirange ih

/-! ## Values with literals -/

/-- A value other than null is rendered exactly if it has a content. -/
lemma exists_embedded_iff (hv : v ≠ .null) : (∃ t, d.embedded v = .ok t) ↔ ∃ raw, d.content v = .ok raw := by
  cases hleaf : d.isLeaf with
  | true =>
    obtain ⟨always, e⟩ := embedded_leaf hleaf hv
    rw [e, exists_ok_map]
  | false =>
    cases d with
    | scalar s => cases hleaf
    | enumeration s labels => cases hleaf
    | _ => rfl

lemma exists_uncast_iff : (∃ t, d.uncast v = .ok t) ↔ ∃ t, d.embedded v = .ok t := by
  by_cases hv : v = .null
  · subst hv
    rw [uncast_null, embedded_null]
  · rw [uncast_of_ne_null d hv, exists_ok_map, exists_embedded_iff hv]

lemma exists_embedded_array_iff {s : Signature} {nullable : Bool} {vs : List HostValue} :
    (∃ t, (Descriptor.array s d nullable).embedded (.array vs) = .ok t) ↔
      ∀ w ∈ vs, ∃ t, d.embedded w = .ok t := by
  rw [← exists_ok_mapM]
  exact exists_ok_map

lemma exists_toplevel_iff : (∃ t, d.toplevel v = .ok t) ↔ ∃ t, d.embedded v = .ok t := by
  by_cases hv : v = .null
  · subst hv
    rw [embedded_null]
    exact ⟨fun _ => ⟨_, rfl⟩, fun _ => ⟨_, rfl⟩⟩
  cases harray : d.isArray with
  | false => rw [toplevel_of_ne_null harray hv, exists_ok_map, exists_embedded_iff hv]
  | true =>
    cases d with
    | array s element nullable =>
      cases v with
      | null => exact absurd rfl hv
      | array vs =>
        -- an array is made of elements without casts, which are there when the items are
        rw [exists_embedded_array_iff, ← forall₂_congr fun w _ => exists_uncast_iff, ← exists_ok_mapM]
        exact exists_ok_map
      | _ => rfl
    | _ => cases harray

lemma exists_spanLiteral_iff {r : Span HostValue} :
    (∃ t, spanLiteral d.embedded r = .ok t) ↔ ∀ w ∈ r.values, ∃ t, d.embedded w = .ok t := by
  have hbound : ∀ b : Bound HostValue, (∃ t, boundLiteral d.embedded b = .ok t) ↔
      ∀ w ∈ b.value?.toList, ∃ t, d.embedded w = .ok t := by
    intro b
    rw [boundLiteral]
    cases b.value? with
    | none => simp
    | some w => simp
  cases r with
  | empty => simp [spanLiteral, Span.values]
  | bounds lower upper =>
    rw [Span.values, List.forall_mem_append, ← hbound, ← hbound]
    constructor
    · rintro ⟨t, h⟩
      obtain ⟨l, hlower, h⟩ := ok_of_bind h
      obtain ⟨u, hupper, -⟩ := ok_of_bind h
      exact ⟨⟨l, hlower⟩, ⟨u, hupper⟩⟩
    · rintro ⟨⟨l, hlower⟩, ⟨u, hupper⟩⟩
      exact ⟨_, by rw [spanLiteral, hlower, hupper]; rfl⟩

end SqlBridge.Descriptor
