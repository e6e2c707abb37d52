import SqlBridge.Proofs.Operation.HostTypes
import SqlBridge.Proofs.Registry.Coherent
import SqlBridge.Proofs.Registry.WellTyped

/-!
# Borrowed descriptors

The descriptors that a registry answers are composed: those inside a container are for the types inside its
host type. On operands with such descriptors the borrowed ones are right, but for two operations that take
that of an operand of any host type.
-/

namespace SqlBridge

open SqlBridge.Expr

/-! ## Composed descriptors -/

/-- The descriptors inside a container are for the types inside its host type. -/
inductive Descriptor.IsComposed : Descriptor → Prop
  | scalar {s : Signature} : IsComposed (.scalar s)
  | enumeration {s : Signature} {labels : List (String × String)} : IsComposed (.enumeration s labels)
  | array {s : Signature} {element : Descriptor} {nullable : Bool} :
    s.hostType.element? = some element.hostType → IsComposed (.array s element nullable)
  | range {s : Signature} {subtype : Descriptor} : s.hostType = .range subtype.hostType →
    IsComposed (.range s subtype)
  | multirange {s s' : Signature} {subtype : Descriptor} : s.hostType = .multirange subtype.hostType →
    s'.hostType = .range subtype.hostType → IsComposed (.multirange s (.range s' subtype))

namespace Registry

variable {admits : String → Prop} {r : Registry} {q : Request} {d s : Descriptor}

/-- What a registry answers is composed. -/
theorem isComposed_of_find (h : r.ReachableBy admits) (hd : r.find q = some d) : d.IsComposed := by
  have htyped := isTyped_of_find h (fun e he => h.isTyped he) hd
  have hcoherent := isCoherent_of_find h h.isCoherent hd
  cases htyped with
  | scalar | document => exact .scalar
  | enumeration => exact .enumeration
  | array hhost => exact .array hhost
  | range hhost => exact .range hhost
  | multirange hhost =>
    cases hcoherent with
    | multirange _ hinner =>
      cases hinner with
      | range hrange => exact .multirange hhost hrange.hostType

lemma hostType_of_findMultirange (h : r.ReachableBy admits) (hd : r.findMultirange s = some d) :
    d.hostType = .multirange s.hostType := by
  have hmem := List.mem_of_find?_eq_some hd
  obtain ⟨hmulti, s', hs', hhost⟩ := h.hasContainers.multiranges hmem
  have hcoherent := h.isCoherent d (h.linked.multiranges hmem)
  cases hcoherent with
  | multirange hover _ =>
    cases hs'
    rw [← hhost]
    exact hover.hostType
  | _ => cases hmulti

end Registry

variable {admits : String → Prop} {r : Registry} {o : Operation} {args : List Expr}

/-! ## Operations -/

/-- The texts of a group are joined and are no texts to their descriptor, or a search query is negated that
is none to its descriptor. -/
inductive Operation.Mislabels (o : Operation) : List Expr → Prop
  | join {values separator : Expr} {d : Descriptor} : o.domain = .aggregate → o.name = "StringJoin" →
    values.mapping = some d → d.hostType ≠ .scalar .string → Mislabels o [values, separator]
  | negate {query : Expr} {d : Descriptor} : o.domain = .fullTextSearch → o.name = "ToNegative" →
    query.mapping = some d → d.hostType ≠ .scalar .tsQuery → Mislabels o [query]

/-- The operand is typed, and its descriptor, where it has one, is composed. -/
structure Expr.IsComposed (e : Expr) : Prop where
  typed : e.IsTyped
  mapping (d : Descriptor) : e.mapping = some d → d.IsComposed

lemma ArrayOperation.admits_element {array : Expr} {t : HostType} (h : array.IsComposed)
    (ht : array.hostType.element? = some t) : t.Admits (array.mapping.bind Descriptor.element?) := by
  intro e he
  obtain ⟨d, hd, he⟩ := Option.bind_eq_some_iff.1 he
  rw [← h.typed.admits d hd] at ht
  cases h.mapping d hd with
  | array helement =>
    cases he
    exact Option.some.inj (helement.symm.trans ht)
  | _ => cases he

lemma ArrayOperation.fits_borrowed? (op : ArrayOperation) (hargs : ∀ x ∈ args, x.IsComposed) :
    Fits (op.borrowed? args) := by
  unfold ArrayOperation.borrowed?
  split
  case h_3 => exact fits_none
  all_goals
    rintro t m h
    obtain ⟨t, ht, heq⟩ := Option.map_eq_some_iff.1 h
    cases heq
    exact admits_element (hargs _ List.mem_cons_self) ht

namespace RangeOperation

variable {range : Expr} {d s : Descriptor}

lemma subtype_eq (h : range.IsComposed) (hd : range.mapping = some d) (hs : d.subtype? = some s) :
    subtype range = s.hostType := by
  rw [subtype, ← h.typed.admits d hd]
  cases h.mapping d hd with
  | range hrange =>
    cases hs
    rw [Descriptor.hostType, Descriptor.signature, hrange]
    rfl
  | multirange hmulti _ =>
    cases hs
    rw [Descriptor.hostType, Descriptor.signature, hmulti]
    rfl
  | _ => cases hs

lemma admits_subtypeMapping (h : range.IsComposed) : (subtype range).Admits (subtypeMapping range) := by
  intro s hs
  obtain ⟨d, hd, hs⟩ := Option.bind_eq_some_iff.1 hs
  exact (subtype_eq h hd hs).symm

lemma admits_rangeMapping (h : range.IsComposed) :
    (HostType.range (subtype range)).Admits (rangeMapping range) := by
  intro x hx
  obtain ⟨d, hd, hx⟩ := Option.bind_eq_some_iff.1 hx
  cases h.mapping d hd with
  | range hrange =>
    cases hx
    rw [subtype_eq h hd rfl]
    exact hrange
  | multirange _ hrange =>
    cases hx
    rw [subtype_eq h hd rfl]
    exact hrange
  | _ => cases hx

lemma admits_multirangeMapping (hr : r.ReachableBy admits) (h : range.IsComposed) :
    (HostType.multirange (subtype range)).Admits (multirangeMapping r range) := by
  intro m hm
  obtain ⟨s, hs, hm⟩ := Option.bind_eq_some_iff.1 hm
  rw [Registry.hostType_of_findMultirange hr hm, admits_subtypeMapping h s hs]

lemma fits_borrowed? (hr : r.ReachableBy admits) (op : RangeOperation)
    (hargs : ∀ x ∈ args, x.IsComposed) : Fits (op.borrowed? r args) := by
  unfold borrowed?
  split
  case h_1 name range => exact fits_some.2 (admits_subtypeMapping (hargs range List.mem_cons_self))
  case h_2 range => exact fits_some.2 (admits_rangeMapping (hargs range List.mem_cons_self))
  case h_3 range => exact fits_some.2 (admits_multirangeMapping hr (hargs range List.mem_cons_self))
  case h_4 range =>
    split
    · exact fits_some.2 (admits_multirangeMapping hr (hargs range List.mem_cons_self))
    · exact fits_some.2 (admits_rangeMapping (hargs range List.mem_cons_self))
  case h_5 => exact fits_none

end RangeOperation

namespace Operation

lemma fits_borrowed?_of_aggregate (hdomain : o.domain = .aggregate) :
    Fits (o.borrowed? r args) ↔ ¬ o.Mislabels args := by
  constructor
  · intro h hmislabels
    cases hmislabels with
    | join _ hname hd hne =>
      have hborrowed := h (.scalar .string)
      simp only [Operation.borrowed?, hdomain, hname] at hborrowed
      exact hne (hborrowed _ rfl _ hd)
    | negate hsearch =>
      rw [hdomain] at hsearch
      cases hsearch
  · intro h t m hm
    simp only [Operation.borrowed?, hdomain] at hm
    obtain ⟨op, hget, hm⟩ := Option.bind_eq_some_iff.1 hm
    unfold CollectOperation.borrowed? at hm
    split at hm
    · cases hm
      intro d hd
      have hname : o.name = "StringJoin" := by
        simpa [CollectOperation.table] using Entries.mem_of_get? hget
      exact Classical.not_not.1 fun hne => h (.join hdomain hname hd hne)
    · cases hm

lemma fits_borrowed?_of_search (hdomain : o.domain = .fullTextSearch) :
    Fits (o.borrowed? r args) ↔ ¬ o.Mislabels args := by
  constructor
  · intro h hmislabels
    cases hmislabels with
    | join haggregate =>
      rw [hdomain] at haggregate
      cases haggregate
    | negate _ hname hd hne =>
      have hborrowed := h (.scalar .tsQuery)
      simp only [Operation.borrowed?, hdomain, hname] at hborrowed
      exact hne (hborrowed _ rfl _ hd)
  · intro h t m hm
    simp only [Operation.borrowed?, hdomain] at hm
    obtain ⟨op, hget, hm⟩ := Option.bind_eq_some_iff.1 hm
    unfold SearchOperation.borrowed? at hm
    split at hm
    · cases hm
      intro d hd
      have hname : o.name = "ToNegative" := by
        simpa [SearchOperation.table] using Entries.mem_of_get? hget
      exact Classical.not_not.1 fun hne => h (.negate hdomain hname hd hne)
    · cases hm

lemma fits_borrowed?_of_composed (hr : r.ReachableBy admits) (hargs : ∀ x ∈ args, x.IsComposed)
    (haggregate : o.domain ≠ .aggregate) (hsearch : o.domain ≠ .fullTextSearch) :
    Fits (o.borrowed? r args) := by
  intro t m hm
  rw [Operation.borrowed?] at hm
  split at hm
  case h_1 | h_2 =>
    obtain ⟨op, -, hm⟩ := Option.bind_eq_some_iff.1 hm
    exact op.fits_borrowed? hargs t m hm
  case h_3 | h_4 =>
    obtain ⟨op, -, hm⟩ := Option.bind_eq_some_iff.1 hm
    exact op.fits_borrowed? hr hargs t m hm
  case h_5 hdomain => exact absurd hdomain hsearch
  case h_6 hdomain => exact absurd hdomain haggregate
  case h_7 => cases hm

/-- On operands with composed descriptors a borrowed one is wrong only for joined texts and negated
queries. -/
lemma fits_borrowed?_iff (hr : r.ReachableBy admits) (hargs : ∀ x ∈ args, x.IsComposed) :
    Fits (o.borrowed? r args) ↔ ¬ o.Mislabels args := by
  by_cases haggregate : o.domain = .aggregate
  · exact fits_borrowed?_of_aggregate haggregate
  by_cases hsearch : o.domain = .fullTextSearch
  · exact fits_borrowed?_of_search hsearch
  refine iff_of_true (fits_borrowed?_of_composed hr hargs haggregate hsearch) ?_
  intro h
  cases h with
  | join hdomain => exact haggregate hdomain
  | negate hdomain => exact hsearch hdomain

end Operation

namespace Lowering

/-- What the standard chain makes of an operation on typed operands is typed exactly if the descriptor that
the operation borrows, where it borrows one, is for the host type of its node. Where the descriptors of the
operands are composed, as all that a registry answers are, the only exceptions are joined texts whose
descriptor is not one of texts and negated queries whose descriptor is not one of queries. -/
theorem isTyped_iff_of_lowerAll {e : Expr} (hr : r.ReachableBy admits) (hargs : ∀ x ∈ args, x.IsTyped)
    (he : lowerAll (standard r) o args = .ok (some e)) :
    (e.IsTyped ↔ ∀ t m, o.borrowed? r args = some (t, m) → t.Admits m) ∧
      ((∀ x ∈ args, ∀ d, x.mapping = some d → d.IsComposed) → (e.IsTyped ↔ ¬ o.Mislabels args)) := by
  have htyped : e.IsTyped ↔ Fits (o.borrowed? r args) := (typedIff_lowerAll hr hargs).of_ok he e rfl
  refine ⟨htyped, ?_⟩
  intro hcomposed
  rw [htyped]
  exact Operation.fits_borrowed?_iff hr fun x hx => ⟨hargs x hx, hcomposed x hx⟩

/-- Letters of single characters, joined with commas between them, are a text with the descriptor of single
characters. -/
theorem mistyped_join :
    (Registry.builtin {}).ReachableBy (fun _ => True) ∧
      (∀ x ∈ [Expr.column none "grade" false (.scalar .char) (some (Builtin.singleCharacter {})),
        .constantOf (.builtin {}) (.string ", ")], x.IsTyped) ∧
      ∃ e, lowerAll (standard (.builtin {})) (.method .aggregate "StringJoin" 2)
          [.column none "grade" false (.scalar .char) (some (Builtin.singleCharacter {})),
            .constantOf (.builtin {}) (.string ", ")] = .ok (some e) ∧
        e.text = "COALESCE(string_agg(grade, ', '), '')" ∧ ¬ e.IsTyped := by
  have hr : (Registry.builtin {}).ReachableBy (fun _ => True) := .builtin {}
  have hcolumn : (Expr.column none "grade" false (.scalar .char)
      (some (Builtin.singleCharacter {}))).IsTyped := .node (HostType.admits_some.2 rfl) nofun
  refine ⟨hr, by simp [hcolumn, isTyped_constantOf hr], _, rfl, by decide +kernel, ?_⟩
  intro h
  have hall := (h.operand List.mem_cons_self).admits (Builtin.singleCharacter {}) rfl
  cases hall

/-- A text, negated as a search query. -/
theorem isTyped_iff_of_lowerAll_of_negate :
    ∃ d, (Registry.builtin {}).findHost (.scalar .string) = some d ∧ d.storeType = "text" ∧
      ∃ e, lowerAll (standard (.builtin {})) (.method .fullTextSearch "ToNegative" 1)
          [.column none "body" true (.scalar .string) (some d)] = .ok (some e) ∧ ¬ e.IsTyped := by
  have hr : (Registry.builtin {}).ReachableBy (fun _ => True) := .builtin {}
  have hfind : ((Registry.builtin {}).findHost (.scalar .string)).map (·.storeType) = some "text" := by
    decide +kernel
  obtain ⟨d, hd, hstore⟩ := Option.map_eq_some_iff.1 hfind
  have hhost : d.hostType = .scalar .string := admits_findHost hr _ d hd
  have hargs : ∀ x ∈ [Expr.column none "body" true (.scalar .string) (some d)], x.IsTyped :=
    List.forall_mem_singleton.2 (.node (HostType.admits_some.2 hhost) nofun)
  obtain ⟨e, he⟩ : ∃ e, lowerAll (standard (.builtin {})) (.method .fullTextSearch "ToNegative" 1)
      [.column none "body" true (.scalar .string) (some d)] = .ok (some e) := ⟨_, rfl⟩
  refine ⟨d, hd, hstore, e, he, ?_⟩
  have hcomposed : ∀ x ∈ [Expr.column none "body" true (.scalar .string) (some d)], ∀ d,
      x.mapping = some d → d.IsComposed := by
    rintro x (_ | ⟨_, ⟨⟩⟩) _ ⟨⟩
    exact Registry.isComposed_of_find hr hd
  rw [(isTyped_iff_of_lowerAll hr hargs he).2 hcomposed, Classical.not_not]
  exact .negate rfl rfl rfl (by simp [hhost])

end Lowering

end SqlBridge
