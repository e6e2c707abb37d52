import SqlBridge.Proofs.Descriptor.Shape
import SqlBridge.Proofs.Descriptor.Splice
import SqlBridge.Proofs.HostValue.Integers
import SqlBridge.Proofs.Literal.ArrayText
import SqlBridge.Proofs.Literal.SpanText
import SqlBridge.Proofs.Text.Integers

/-!
# Integers in literals

The store types of integers write the integers of all three widths, and none of them looks at its own range. So
the literals of a value show the integers of the value, whatever they are; these are in range where the integers
of the value are no wider than the store type.
-/

namespace SqlBridge

open HostValue Literal Text

/-! ## Raw texts of integers -/

namespace Signature

variable {s : Signature} {tag : DbTag} {bits : Nat} {v : HostValue} {raw : String}

/-- The store types of integers write the integers of all widths, and nothing else. -/
lemma rawText_eq_ok (hdb : s.dbType = .plain tag) (hbits : tag.integerBits? = some bits) :
    s.rawText v = .ok raw ↔
      ∃ a i, v = .scalar a ∧ a.integer? = some i ∧ raw = toString i := by
  have htag : tag.isDocument = false ∧ tag.writes = [.int16, .int32, .int64] := by
    cases tag with
    | smallint | integer | bigint => exact ⟨rfl, rfl⟩
    | _ => cases hbits
  obtain ⟨hdoc, hwrites⟩ := htag
  simp only [rawText, hdb, hdoc, hwrites, Bool.false_eq_true, if_false]
  constructor
  · intro h
    cases v with
    | scalar a =>
      cases a with
      | int16 i | int32 i | int64 i =>
        cases h
        exact ⟨_, _, rfl, rfl, rfl⟩
      | _ => cases h
    | _ => cases h
  · rintro ⟨a, i, rfl, hi, rfl⟩
    cases a with
    | int16 j | int32 j | int64 j =>
      cases hi
      rfl
    | _ => cases hi

lemma shows_rawText (hdb : s.dbType = .plain tag) (hbits : tag.integerBits? = some bits)
    (h : s.rawText v = .ok raw) : Shows raw.toList v.integers := by
  obtain ⟨a, i, rfl, hi, rfl⟩ := (rawText_eq_ok hdb hbits).1 h
  rw [HostValue.integers, hi]
  exact shows_toString i

/-- The characters of a literal without its cast, if it has one. -/
def withoutCast (s : Signature) (literal : String) : List Char :=
  let cast := ("::" ++ s.storeType).toList
  let cs := literal.toList
  if cast <:+ cs then cs.take (cs.length - cast.length) else cs

lemma withoutCast_casting (s : Signature) (body : String) : s.withoutCast (s.casting body) = body.toList := by
  have hcast : (s.casting body).toList = body.toList ++ ("::" ++ s.storeType).toList := by
    rw [casting, String.append_assoc, String.toList_append]
  rw [withoutCast, hcast]
  simp only [List.suffix_append, if_true, List.length_append, Nat.add_sub_cancel, List.take_left']

/-- A text without a colon has no cast. -/
lemma withoutCast_of_not_mem {literal : String} (h : ':' ∉ literal.toList) :
    s.withoutCast literal = literal.toList := by
  rw [withoutCast]
  refine if_neg fun hsuffix => h (hsuffix.subset ?_)
  rw [String.toList_append]
  exact List.mem_append_left _ List.mem_cons_self

/-- An element of an array constructor is the raw text, perhaps in quotes. -/
lemma shows_elementOfRaw (hdb : s.dbType = .plain tag) (hbits : tag.integerBits? = some bits)
    (h : s.rawText v = .ok raw) : Shows (s.elementOfRaw raw).toList v.integers := by
  have hraw := shows_rawText hdb hbits h
  have hplain : s.elementOfRaw raw = if isNumberWord raw then quoteSql raw else raw := by
    rw [elementOfRaw, hdb]
    cases tag with
    | smallint | integer | bigint => rfl
    | _ => cases hbits
  rw [hplain]
  split
  · exact hraw.quoteSql
  · exact hraw

/-- A literal of an integer is the raw text, perhaps in quotes or parentheses, with a cast or without. -/
lemma integersIn_literalOfRaw (hdb : s.dbType = .plain tag) (hbits : tag.integerBits? = some bits)
    (h : s.rawText v = .ok raw) : integersIn (s.withoutCast (s.literalOfRaw raw)) = v.integers := by
  have hraw := shows_rawText hdb hbits h
  have hplain : s.literalOfRaw raw = if isNumberWord raw then s.casting (quoteSql raw)
      else if castsNumbers s.dbType then
        s.casting (if raw.toList.head? = some '-' then "(" ++ raw ++ ")" else raw)
      else raw := by
    rw [literalOfRaw, hdb]
    cases tag with
    | smallint | integer | bigint => rfl
    | _ => cases hbits
  rw [hplain]
  split
  · rw [withoutCast_casting]
    exact hraw.quoteSql.integersIn
  · split
    · rw [withoutCast_casting]
      split
      · rw [String.toList_append, String.toList_append]
        exact (hraw.between (by decide) (by decide)).integersIn
      · exact hraw.integersIn
    · obtain ⟨a, i, -, -, rfl⟩ := (rawText_eq_ok hdb hbits).1 h
      rw [withoutCast_of_not_mem fun hcolon => absurd (minus_or_isDigit_of_mem hcolon) (by decide)]
      exact hraw.integersIn

end Signature

namespace Descriptor

variable {d : Descriptor} {v : HostValue} {t : String} {s : Signature} {tag : DbTag} {bits : Nat}

/-- The integers of a value come from scalars at its bottom. -/
lemma HasShape.integers {P : Scalar → Prop} (h : d.HasShape P v) :
    ∀ i ∈ v.integers, ∃ a : ScalarValue, P a.type ∧ a.integer? = some i := by
  induction h with
  | null => nofun
  | @scalar s a ha =>
    intro i hi
    exact ⟨a, ha, Option.mem_toList.1 hi⟩
  | @array s element nullable vs _ ih =>
    intro i hi
    rw [HostValue.integers, allIntegers_eq] at hi
    obtain ⟨v, hv, hi⟩ := List.mem_flatMap.1 hi
    exact ih v hv i hi
  | @range s subtype r _ ih =>
    intro i hi
    obtain ⟨v, hv, hi⟩ := mem_spanIntegers.1 hi
    exact ih v hv i hi
  | @multirange s s' subtype rs _ ih =>
    intro i hi
    rw [HostValue.integers, spansIntegers_eq] at hi
    obtain ⟨r, hr, hi⟩ := List.mem_flatMap.1 hi
    obtain ⟨v, hv, hi⟩ := mem_spanIntegers.1 hi
    exact ih r hr v hv i hi

/-- The integers that a literal of the value prints. -/
inductive Prints (d : Descriptor) (v : HostValue) : List Int → Prop
  | toplevel {t : String} : d.toplevel v = .ok t → Prints d v (integersIn (d.signature.withoutCast t))
  | embedded {t : String} : d.embedded v = .ok t → Prints d v (integersIn t.toList)
  | uncast {t : String} : d.uncast v = .ok t → Prints d v (integersIn t.toList)

/-! ## Texts of parts -/

/-- A range shows the integers of its boundary values. -/
lemma shows_spanLiteral {r : Span HostValue}
    (hpart : ∀ w ∈ r.values, ∀ t, d.embedded w = .ok t → Shows t.toList w.integers)
    (h : spanLiteral d.embedded r = .ok t) : Shows t.toList (spanIntegers r) := by
  have hbound : ∀ (b : Bound HostValue) t, (∀ w ∈ b.value?.toList, ∀ t, d.embedded w = .ok t →
      Shows t.toList w.integers) → boundLiteral d.embedded b = .ok t → Shows t.toList (boundIntegers b) := by
    intro b t hb h
    cases b with
    | infinite =>
      cases h
      exact shows_apart rfl
    | inclusive w | exclusive w => exact hb w List.mem_cons_self t h
  cases r with
  | empty =>
    cases h
    exact shows_apart (by decide)
  | bounds lower upper =>
    rw [Span.values, List.forall_mem_append] at hpart
    obtain ⟨l, hlower, h⟩ := ok_of_bind h
    obtain ⟨u, hupper, h⟩ := ok_of_bind h
    cases h
    have hopen : (if lower.isInclusive then "[" else "(").toList.all isApart = true := by
      cases lower.isInclusive <;> rfl
    have hclose : (if upper.isInclusive then "]" else ")").toList.all isApart = true := by
      cases upper.isInclusive <;> rfl
    have hcomma : ",".toList.all isApart = true := rfl
    have hinside := (hbound lower l hpart.1 hlower).append_apart (by decide) hcomma (hbound upper u hpart.2 hupper)
    have hall := hinside.between hopen hclose
    simpa only [spanIntegers, Span.bracket, String.toList_append, List.append_assoc] using hall

/-- Texts of parts between brackets, with separators of characters apart, show the integers of all parts. -/
lemma shows_bracketed {α : Type} {f : α → Except Fault String} {integers : α → List Int} {xs : List α}
    {before separator after : String} (hbefore : before.toList.all isApart = true)
    (hne : separator.toList ≠ []) (hsep : separator.toList.all isApart = true)
    (hafter : after.toList.all isApart = true)
    (hpart : ∀ x ∈ xs, ∀ t, f x = .ok t → Shows t.toList (integers x)) {texts : List String}
    (h : List.Forall₂ (fun x t => f x = .ok t) xs texts) :
    Shows (before ++ separator.intercalate texts ++ after).toList (xs.flatMap integers) := by
  have hshows : List.Forall₂ Shows (texts.map String.toList) (xs.map integers) := by
    induction h with
    | nil => exact .nil
    | cons hx _ ih =>
      obtain ⟨hfirst, hrest⟩ := List.forall_mem_cons.1 hpart
      exact .cons (hfirst _ hx) (ih hrest)
  rw [String.toList_append, String.toList_append, String.toList_intercalate, List.flatMap_def]
  exact (shows_intercalate hne hsep hshows).between hbefore hafter

/-! ## Literals of integers -/

section

variable (hleaf : d.innermost = .scalar s) (hdb : s.dbType = .plain tag)
  (hbits : tag.integerBits? = some bits)
include hleaf hdb hbits

/-- What is rendered is made as the descriptor is, with integers of any width at the bottom. -/
lemma hasShape_of_isRendered (h : d.IsRendered v) : d.HasShape Scalar.IsInteger v := by
  induction d generalizing v with
  | scalar s' =>
    by_cases hv : v = .null
    · exact hv ▸ .null
    cases hleaf
    obtain ⟨raw, hraw⟩ := content_of_isRendered rfl hv h
    obtain ⟨a, i, rfl, hi, -⟩ := (Signature.rawText_eq_ok hdb hbits).1 hraw
    exact .scalar (ScalarValue.isInteger_iff.2 ⟨i, hi⟩)
  | enumeration s' labels => cases hleaf
  | array s' element nullable ih =>
    by_cases hv : v = .null
    · exact hv ▸ .null
    obtain ⟨vs, rfl, hvs⟩ := isRendered_elements hv h
    exact .array fun w hw => ih hleaf (hvs w hw)
  | range s' subtype ih =>
    by_cases hv : v = .null
    · exact hv ▸ .null
    obtain ⟨r, rfl, hr⟩ := isRendered_span hv h
    exact .range fun w hw => ih hleaf (hr w hw)
  | multirange s' inner ih =>
    by_cases hv : v = .null
    · exact hv ▸ .null
    obtain ⟨m, subtype, rs, rfl, rfl, hrs⟩ := isRendered_spans hv h
    refine .multirange fun r hr => ?_
    have hspan := ih hleaf (hrs r hr)
    cases hspan with
    | range hvalues => exact hvalues

/-- What is made as the descriptor is, with integers of any width at the bottom, has literals. -/
lemma HasShape.exists_embedded (h : d.HasShape Scalar.IsInteger v) :
    ∃ t, d.embedded v = .ok t := by
  induction h with
  | @null d => exact ⟨_, embedded_null d⟩
  | @scalar s' a ha =>
    cases hleaf
    obtain ⟨i, hi⟩ := ScalarValue.isInteger_iff.1 ha
    have hraw : (Descriptor.scalar s).content (.scalar a) = .ok (toString i) :=
      (Signature.rawText_eq_ok hdb hbits).2 ⟨a, i, rfl, hi, rfl⟩
    exact (exists_embedded_iff (by simp)).2 ⟨_, hraw⟩
  | array _ ih => exact exists_embedded_array_iff.2 fun w hw => ih w hw hleaf
  | @range s' subtype r _ ih =>
    rw [embedded, exists_spanLiteral_iff]
    exact fun w hw => ih w hw hleaf
  | @multirange s' m subtype rs _ ih =>
    rw [embedded]
    exact exists_ok_map.2 (exists_ok_mapM.2 fun r hr => exists_spanLiteral_iff.2 fun w hw => ih r hr w hw hleaf)

/-- An item shows the integers of its value. -/
lemma shows_embedded (h : d.embedded v = .ok t) : Shows t.toList v.integers := by
  have hshape := hasShape_of_isRendered hleaf hdb hbits ⟨t, .inr (.inl h)⟩
  induction hshape generalizing t with
  | @null d =>
    rw [embedded_null] at h
    cases h
    exact shows_apart (by decide)
  | @scalar s' a _ =>
    cases hleaf
    obtain ⟨raw, always, hraw, rfl⟩ := embedded_leaf_ok rfl (by simp) h
    exact (Signature.shows_rawText hdb hbits hraw).item always
  | @array s' element nullable vs _ ih =>
    obtain ⟨texts, htexts, rfl⟩ := embedded_array_ok h
    rw [HostValue.integers, allIntegers_eq]
    exact shows_bracketed (by decide) (by decide) (by decide) (by decide) (fun w hw t ht => ih w hw hleaf ht)
      htexts
  | @range s' subtype r _ ih => exact shows_spanLiteral (fun w hw t ht => ih w hw hleaf ht) h
  | @multirange s' m subtype rs _ ih =>
    obtain ⟨texts, htexts, rfl⟩ := embedded_multirange_ok h
    rw [HostValue.integers, spansIntegers_eq]
    refine shows_bracketed (by decide) (by decide) (by decide) (by decide) (fun r hr t ht => ?_) htexts
    exact shows_spanLiteral (fun w hw t ht => ih r hr w hw hleaf ht) ht

lemma shows_uncast (h : d.uncast v = .ok t) : Shows t.toList v.integers := by
  by_cases hv : v = .null
  · subst hv
    rw [uncast_null] at h
    cases h
    exact shows_apart (by decide)
  rw [uncast_of_ne_null d hv] at h
  obtain ⟨raw, hraw, rfl⟩ := ok_of_map h
  cases d with
  | scalar s' =>
    cases hleaf
    exact Signature.shows_elementOfRaw hdb hbits hraw
  | enumeration s' labels => cases hleaf
  | _ => exact (shows_embedded hleaf hdb hbits hraw).quoteSql

lemma integersIn_toplevel (h : d.toplevel v = .ok t) :
    integersIn (d.signature.withoutCast t) = v.integers := by
  by_cases hv : v = .null
  · subst hv
    cases h
    rw [Signature.withoutCast_of_not_mem (by decide)]
    rfl
  cases harray : d.isArray with
  | false =>
    rw [toplevel_of_ne_null harray hv] at h
    obtain ⟨raw, hraw, rfl⟩ := ok_of_map h
    cases d with
    | scalar s' =>
      cases hleaf
      exact Signature.integersIn_literalOfRaw hdb hbits hraw
    | enumeration s' labels => cases hleaf
    | array s' element nullable => cases harray
    | _ =>
      rw [literalOf, Signature.withoutCast_casting]
      · exact (shows_embedded hleaf hdb hbits hraw).quoteSql.integersIn
      · nofun
  | true =>
    cases d with
    | array s' element nullable =>
      obtain ⟨vs, texts, rfl, htexts, rfl⟩ := toplevel_array_ok hv h
      have hitems : Shows ("ARRAY[" ++ ",".intercalate texts ++ "]").toList (vs.flatMap integers) :=
        shows_bracketed (by decide) (by decide) (by decide) (by decide)
          (fun w _ t ht => shows_uncast (d := element) hleaf hdb hbits ht) htexts
      rw [signature, Signature.withoutCast_casting, HostValue.integers, allIntegers_eq]
      exact hitems.integersIn
    | _ => cases harray

/-- Every literal prints the integers of its value. -/
lemma Prints.eq {is : List Int} (h : d.Prints v is) : is = v.integers := by
  cases h with
  | toplevel h => exact integersIn_toplevel hleaf hdb hbits h
  | embedded h => exact (shows_embedded hleaf hdb hbits h).integersIn
  | uncast h => exact (shows_uncast hleaf hdb hbits h).integersIn

end

lemma HasShape.inBits (h : d.HasShape (Scalar.IsNarrow bits) v) : ∀ i ∈ v.integers, InBits bits i := by
  intro i hi
  obtain ⟨a, ⟨n, hn, ha⟩, hi⟩ := h.integers i hi
  exact (ScalarValue.inBits_integer? ha hi).mono hn

lemma Prints.isRendered {is : List Int} (h : d.Prints v is) : d.IsRendered v := by
  cases h with
  | toplevel h => exact ⟨_, .inl h⟩
  | embedded h => exact ⟨_, .inr (.inl h)⟩
  | uncast h => exact ⟨_, .inr (.inr h)⟩

/-- The only store type of integers that prints no integer out of its range is that of 64 bits. -/
lemma forall_inBits_iff (hdb : s.dbType = .plain tag) (hbits : tag.integerBits? = some bits) :
    (∀ v is, (Descriptor.scalar s).Prints v is → ∀ i ∈ is, InBits bits i) ↔ bits = 64 := by
  constructor
  · intro hall
    -- the greatest integer of 64 bits has literals by every store type
    have hshape : (Descriptor.scalar s).HasShape Scalar.IsInteger
        (.scalar (.int64 Int64.maxValue)) := .scalar rfl
    obtain ⟨t, ht⟩ := hshape.exists_embedded rfl hdb hbits
    have hprints := Prints.embedded ht
    have hfits : InBits bits Int64.maxValue.toInt := by
      refine hall _ _ hprints _ ?_
      rw [hprints.eq rfl hdb hbits]
      exact List.mem_cons_self
    cases tag with
    | smallint | integer =>
      cases hbits
      exact absurd hfits (by decide)
    | bigint => exact (Option.some.inj hbits).symm
    | _ => cases hbits
  · rintro rfl v is h i hi
    rw [h.eq rfl hdb hbits] at hi
    have hshape := hasShape_of_isRendered rfl hdb hbits h.isRendered
    exact (hshape.mono fun a => Scalar.IsInteger.isNarrow).inBits i hi

/-- A descriptor over integers renders the values that are made as it is, with integers of any width at the bottom,
in each of the three ways. What is printed are the integers of the value: in range if the value has none that are
wider than the store type, but no check keeps others out. -/
theorem integers_of_rendered (hleaf : d.innermost = .scalar s) (hdb : s.dbType = .plain tag)
    (hbits : tag.integerBits? = some bits) :
    (∀ v, ∀ literal ∈ [d.toplevel v, d.embedded v, d.uncast v],
      ((∃ t, literal = .ok t) ↔ d.HasShape Scalar.IsInteger v)) ∧
    (∀ v is, d.Prints v is → is = v.integers ∧
      (d.HasShape (Scalar.IsNarrow bits) v → ∀ i ∈ is, InBits bits i)) ∧
    ((∀ v is, (Descriptor.scalar s).Prints v is → ∀ i ∈ is, InBits bits i) ↔ bits = 64) := by
  refine ⟨?_, ?_, forall_inBits_iff hdb hbits⟩
  · intro v literal hliteral
    have hembedded : (∃ t, d.embedded v = .ok t) ↔ d.HasShape Scalar.IsInteger v := by
      constructor
      · rintro ⟨t, ht⟩
        exact hasShape_of_isRendered hleaf hdb hbits ⟨t, .inr (.inl ht)⟩
      · exact fun h => h.exists_embedded hleaf hdb hbits
    simp only [List.mem_cons, List.not_mem_nil, or_false] at hliteral
    rcases hliteral with rfl | rfl | rfl
    · rw [exists_toplevel_iff, hembedded]
    · exact hembedded
    · rw [exists_uncast_iff, hembedded]
  · intro v is h
    obtain rfl := h.eq hleaf hdb hbits
    exact ⟨rfl, HasShape.inBits⟩

/-- Bounds of 16 and 32 bits, at the limits of what a range of 32-bit integers may hold. -/
theorem integers_of_rendered_of_limits :
    let subtype := ofScalar "integer" (.scalar .int32) (.plain .integer)
    let d := rangeOver "int4range" subtype
    let v : HostValue := .range (.bounds (.inclusive (.scalar (.int16 (-32768)))) (.inclusive (.int32 2147483647)))
    d.innermost = subtype ∧ subtype.dbType = .plain .integer ∧ DbTag.integer.integerBits? = some 32 ∧
      d.toplevel v = .ok "'[-32768,2147483647]'::int4range" ∧ d.Prints v [-32768, 2147483647] ∧
      ∀ i ∈ [(-32768 : Int), 2147483647], InBits 32 i := by
  intro subtype d v
  obtain ⟨-, hprinted, -⟩ := integers_of_rendered (d := d) (s := subtype.signature) rfl rfl rfl
  have htext : d.toplevel v = .ok "'[-32768,2147483647]'::int4range" := rfl
  have hshape : d.HasShape (Scalar.IsNarrow 32) v := by
    refine .range fun w hw => ?_
    rcases List.mem_pair.1 hw with rfl | rfl
    · exact .scalar ⟨16, by decide, rfl⟩
    · exact .scalar ⟨32, by decide, rfl⟩
  have hprints := Prints.toplevel htext
  obtain ⟨heq, hfits⟩ := hprinted v _ hprints
  rw [heq] at hprints hfits
  exact ⟨rfl, rfl, rfl, htext, hprints, hfits hshape⟩

end Descriptor

namespace Catalog

/-- An integer that a 16-bit store type has no room for has a literal by that store type, and so has a bound that
is too great for a range of 32-bit integers. -/
theorem prints_out_of_range :
    ∃ c : Catalog, c.Reachable ∧
      (∃ d, (c.find (.forStore "smallint")).1 = some d ∧
        d.toplevel (.int32 40000) = .ok "40000::smallint" ∧ d.Prints (.int32 40000) [40000] ∧
        ¬ InBits 16 40000) ∧
      ∃ d, (c.find (.forStore "int4range")).1 = some d ∧
        let v : HostValue := .range (.bounds (.inclusive (.scalar (.int64 5000000000))) .infinite)
        d.toplevel v = .ok "'[5000000000,)'::int4range" ∧ d.Prints v [5000000000] ∧ ¬ InBits 32 5000000000 := by
  let small := Descriptor.ofScalar "smallint" (.scalar .int16) (.plain .smallint)
  let subtype := Descriptor.ofScalar "integer" (.scalar .int32) (.plain .integer)
  let range := Descriptor.rangeOver "int4range" subtype
  let v : HostValue := .range (.bounds (.inclusive (.scalar (.int64 5000000000))) .infinite)
  have hfind : (Catalog.find { registry := .builtin {} } (.forStore "smallint")).1 = some small ∧
      (Catalog.find { registry := .builtin {} } (.forStore "int4range")).1 = some range := by
    decide +kernel
  have hsmall : small.toplevel (.int32 40000) = .ok "40000::smallint" := rfl
  have hrange : range.toplevel v = .ok "'[5000000000,)'::int4range" := rfl
  have hprints := Descriptor.Prints.toplevel hsmall
  rw [hprints.eq (s := small.signature) rfl rfl rfl] at hprints
  have hprints' := Descriptor.Prints.toplevel hrange
  rw [hprints'.eq (s := subtype.signature) rfl rfl rfl] at hprints'
  exact ⟨_, reachableBy_builtin, ⟨small, hfind.1, hsmall, hprints, by decide⟩,
    range, hfind.2, hrange, hprints', by decide⟩

end Catalog

end SqlBridge
