import SqlBridge.Proofs.Descriptor.WellTyped
import SqlBridge.Proofs.Literal.ArrayText
import SqlBridge.Proofs.Literal.SpanText
import SqlBridge.Proofs.Registry.Answers
import SqlBridge.Proofs.Text.Runs

/-!
# Containers inside containers

The literal of a container holds the literals of its parts as they are, without quotes around them. Where the
parts are containers themselves, it is read back exactly if none of their literals holds a character that the
outer grammar reserves. Of the ranges in an array, only the empty ones have such literals.
-/

namespace SqlBridge

open Literal

namespace ArrayText

/-- A text without a double quote in front that is read as an item of that text is one bare field. -/
lemma bare_of_readItem? {t : String} {rest rest' : List Char} (hne : t ≠ "") (hq : t.toList.head? ≠ some '"')
    (h : readItem? (t.toList ++ rest) = some (some t, rest')) :
    (∀ c ∈ t.toList, Field.isBare reserved c = true) ∧ rest' = rest := by
  have hhead : (t.toList ++ rest).head? ≠ some '"' := by
    rwa [List.head?_append_of_ne_nil _ (by simpa using hne)]
  rw [readItem?] at h
  obtain ⟨⟨f, rest''⟩, hf, hitem⟩ := Option.bind_eq_some_iff.1 h
  obtain ⟨run, hrun, rfl, hbare⟩ := Field.bare_of_read? hhead hf
  obtain ⟨item, hitem, e⟩ := Option.map_eq_some_iff.1 hitem
  cases e
  have ht : t.toList = run := by
    simp only [itemOf?] at hitem
    split at hitem
    · cases hitem
    · split at hitem
      · cases hitem
      · cases hitem
        exact String.toList_ofList
  rw [ht] at hrun ⊢
  exact ⟨hbare, (List.append_cancel_left hrun).symm⟩

end ArrayText

namespace SpanText

lemma readsAsBound_of_bare {t : String} (hne : t ≠ "") (h : ∀ c ∈ t.toList, Field.isBare reserved c = true) :
    ReadsAsBound t (some t) := by
  intro rest hrest
  refine ⟨.bare t, Field.read?_bare (by decide) h (stops_of_head? hrest), ?_⟩
  rw [boundOf, if_neg hne]

/-- A text without a double quote in front that is read as a bound of that text, or as no bound if it is empty,
is one bare field. -/
lemma bare_of_boundOf {t : String} {rest rest' : List Char} {f : Field} (hq : t.toList.head? ≠ some '"')
    (hrest : ∃ c ∈ [',', ')', ']'], rest.head? = some c)
    (h : Field.read? reserved (t.toList ++ rest) = some (f, rest'))
    (hf : boundOf f = if t = "" then none else some t) :
    (∀ c ∈ t.toList, Field.isBare reserved c = true) ∧ rest' = rest := by
  by_cases hne : t = ""
  · subst hne
    have hnone : ∀ c ∈ "".toList, Field.isBare reserved c = true := List.all_eq_true.1 (by decide)
    have hread := Field.read?_bare (by decide) hnone (stops_of_head? hrest)
    rw [h] at hread
    cases hread
    exact ⟨hnone, rfl⟩
  · have hhead : (t.toList ++ rest).head? ≠ some '"' := by
      rwa [List.head?_append_of_ne_nil _ (by simpa using hne)]
    obtain ⟨run, hrun, rfl, hbare⟩ := Field.bare_of_read? hhead h
    have ht : t.toList = run := by
      rw [if_neg hne] at hf
      simp only [boundOf] at hf
      split at hf
      · cases hf
      · cases hf
        exact String.toList_ofList
    rw [ht] at hrun ⊢
    exact ⟨hbare, (List.append_cancel_left hrun).symm⟩

lemma readBounds?_eq_some {lowerInclusive : Bool} {cs rest : List Char} {p : SpanText}
    (h : readBounds? lowerInclusive cs = some (p, rest)) :
    ∃ f g more upperInclusive, Field.read? reserved cs = some (f, ',' :: more) ∧
      Field.read? reserved more = some (g, (if upperInclusive then ']' else ')') :: rest) ∧
      p = .bounds lowerInclusive (boundOf f) (boundOf g) upperInclusive := by
  rw [readBounds?] at h
  obtain ⟨⟨f, cs'⟩, hf, hcomma⟩ := Option.bind_eq_some_iff.1 h
  obtain ⟨more, hmore, hupper⟩ := Option.bind_eq_some_iff.1 hcomma
  obtain ⟨⟨g, cs''⟩, hg, hclose⟩ := Option.bind_eq_some_iff.1 hupper
  cases Text.expect?_eq_some.1 hmore
  simp only at hclose
  split at hclose
  · cases hclose
    exact ⟨f, g, more, true, hf, hg, rfl⟩
  · cases hclose
    exact ⟨f, g, more, false, hf, hg, rfl⟩
  · cases hclose

end SpanText

namespace Descriptor

variable {d : Descriptor} {v : HostValue} {t : String}

/-- What a container writes of a value: the word for a null, the word for the empty range, a text in braces,
or two bounds between brackets. -/
lemma embedded_cases (hd : d.isLeaf = false) (h : d.embedded v = .ok t) :
    (v = .null ∧ t = "NULL") ∨ (v = .range .empty ∧ t = "empty") ∨
      (d.isRange = false ∧ ∃ inside, t = "\x7b" ++ inside ++ "\x7d") ∨
      ∃ l u lower upper, v = .range (.bounds l u) ∧
        t = Span.bracket l.isInclusive lower upper u.isInclusive := by
  by_cases hv : v = .null
  · subst hv
    rw [embedded_null] at h
    cases h
    exact .inl ⟨rfl, rfl⟩
  right
  cases d with
  | scalar s => cases hd
  | enumeration s labels => cases hd
  | array s element nullable =>
    cases v with
    | null => exact absurd rfl hv
    | array vs =>
      obtain ⟨texts, -, rfl⟩ := embedded_array_ok h
      exact .inr (.inl ⟨rfl, _, rfl⟩)
    | _ => cases h
  | range s subtype =>
    cases v with
    | null => exact absurd rfl hv
    | range r =>
      rw [embedded] at h
      cases r with
      | empty =>
        cases h
        exact .inl ⟨rfl, rfl⟩
      | bounds l u =>
        rw [spanLiteral] at h
        obtain ⟨lower, -, h⟩ := ok_of_bind h
        obtain ⟨upper, -, h⟩ := ok_of_bind h
        cases h
        exact .inr (.inr ⟨l, u, lower, upper, rfl, rfl⟩)
    | _ => cases h
  | multirange m inner =>
    have hnull : v.isNull = false := Bool.eq_false_iff.2 fun e => hv (isNull_iff.1 e)
    cases inner with
    | range s subtype =>
      cases v with
      | null => exact absurd rfl hv
      | multirange rs =>
        obtain ⟨texts, -, rfl⟩ := embedded_multirange_ok h
        exact .inr (.inl ⟨rfl, _, rfl⟩)
      | _ => cases h
    | _ =>
      rw [embedded, hnull] at h
      · cases h
      · intro s subtype e
        cases e

/-- No literal of a container starts with a double quote. -/
lemma head?_embedded (hd : d.isLeaf = false) (h : d.embedded v = .ok t) :
    t ≠ "" ∧ t.toList.head? ≠ some '"' := by
  have hhead : ∃ c, t.toList.head? = some c ∧ c ≠ '"' := by
    rcases embedded_cases hd h with ⟨-, rfl⟩ | ⟨-, rfl⟩ | ⟨-, inside, rfl⟩ | ⟨l, u, lower, upper, -, rfl⟩
    · exact ⟨'N', rfl, by decide⟩
    · exact ⟨'e', rfl, by decide⟩
    · exact ⟨'\x7b', by simp, by decide⟩
    · rw [Span.bracket]
      cases l.isInclusive with
      | true => exact ⟨'[', by simp, by decide⟩
      | false => exact ⟨'(', by simp, by decide⟩
  obtain ⟨c, hc, hne⟩ := hhead
  refine ⟨?_, ?_⟩
  · rintro rfl
    cases hc
  · rw [hc]
    exact fun e => hne (Option.some.inj e)

/-- The literal of the value has no character that a grammar reserves, and no blank. -/
def WritesBare (d : Descriptor) (reserved : List Char) (v : HostValue) : Prop :=
  ∀ t, d.embedded v = .ok t → ∀ c ∈ t.toList, Field.isBare reserved c = true

/-- The literals at both sides of the range have no character that the grammar of ranges reserves. -/
def WritesBareBounds (d : Descriptor) (r : Span HostValue) : Prop :=
  ∀ v, r.lower? = some v ∨ r.upper? = some v → d.WritesBare SpanText.reserved v

lemma embedded_empty_ok (hd : d.isLeaf = false) (h : d.embedded (.range .empty) = .ok t) : t = "empty" := by
  cases d with
  | scalar s => cases hd
  | enumeration s labels => cases hd
  | array s element nullable => cases h
  | range s subtype =>
    cases h
    rfl
  | multirange s inner => cases inner <;> cases h

/-- Where commas and opening braces are reserved, the only literals of containers without a reserved character
are the words. For ranges, commas are enough. -/
lemma writesBare_iff {reserved : List Char} (hcomma : ',' ∈ reserved)
    (hbrace : d.isRange = false → '\x7b' ∈ reserved)
    (hwords : ∀ word ∈ ["NULL", "empty"], word.toList.all (Field.isBare reserved) = true)
    (hd : d.isLeaf = false) (h : d.embedded v = .ok t) :
    d.WritesBare reserved v ↔ v = .null ∨ v = .range .empty := by
  have hmark : ∀ c ∈ t.toList, c ∈ reserved → ¬ d.WritesBare reserved v := by
    intro c hc hmem hbare
    have htrue := hbare t h c hc
    rw [Field.isBare, List.contains_iff_mem.2 hmem] at htrue
    cases htrue
  refine ⟨fun hbare => ?_, ?_⟩
  -- a text in braces shows its brace, and two bounds the comma between them
  · rcases embedded_cases hd h with ⟨rfl, -⟩ | ⟨rfl, -⟩ | ⟨hrange, inside, rfl⟩ | ⟨l, u, lower, upper, -, rfl⟩
    · exact .inl rfl
    · exact .inr rfl
    · exact absurd hbare (hmark '\x7b' (by simp) (hbrace hrange))
    · exact absurd hbare (hmark ',' (by simp [Span.bracket]) hcomma)
  · rintro (rfl | rfl) t' ht'
    · rw [embedded_null] at ht'
      cases ht'
      exact List.all_eq_true.1 (hwords "NULL" (by simp))
    · rw [embedded_empty_ok hd ht']
      exact List.all_eq_true.1 (hwords "empty" (by simp))

lemma writesBare_items_iff (hd : d.isLeaf = false) (h : d.embedded v = .ok t) :
    d.WritesBare ArrayText.reserved v ↔ v = .null ∨ v = .range .empty :=
  writesBare_iff (by decide) (fun _ => by decide) (by decide) hd h

/-- The literals at the sides of a range of ranges are bare only if they are those of empty ranges. -/
lemma writesBareBounds_iff (hd : d.isRange = true) {r : Span HostValue} (h : spanLiteral d.embedded r = .ok t) :
    d.WritesBareBounds r ↔ ∀ v, r.lower? = some v ∨ r.upper? = some v → v = .null ∨ v = .range .empty := by
  have hleaf : d.isLeaf = false := by
    cases d with
    | range s subtype => rfl
    | _ => cases hd
  have hwrites : ∀ v, r.lower? = some v ∨ r.upper? = some v → ∃ t, d.embedded v = .ok t := by
    cases r with
    | empty => rintro v (⟨⟨⟩⟩ | ⟨⟨⟩⟩)
    | bounds l u =>
      rw [spanLiteral] at h
      obtain ⟨lower, hlower, h⟩ := ok_of_bind h
      obtain ⟨upper, hupper, h⟩ := ok_of_bind h
      rintro v (hv | hv)
      · rw [boundLiteral, show l.value? = some v from hv] at hlower
        exact ⟨lower, hlower⟩
      · rw [boundLiteral, show u.value? = some v from hv] at hupper
        exact ⟨upper, hupper⟩
  refine forall₂_congr fun v hv => ?_
  obtain ⟨t, ht⟩ := hwrites v hv
  exact writesBare_iff (by decide) (fun hrange => by rw [hd] at hrange; cases hrange) (by decide) hleaf ht

/-! ## Arrays of containers -/

lemma readsAs_word (hd : d.isLeaf = false) (hv : v = .null ∨ v = .range .empty) (h : d.embedded v = .ok t) :
    ∃ item, ReadsAs ArrayText.readItem? t.toList item ∧ d.HasItem v item := by
  rcases hv with rfl | rfl
  · rw [embedded_null] at h
    cases h
    exact ⟨none, ArrayText.readsAs_null, by simp [HasItem]⟩
  · have ht := embedded_empty_ok hd h
    subst ht
    have hitem : item false "empty" = "empty" := by decide
    have hread := ArrayText.readsAs_item false "empty"
    rw [hitem] at hread
    refine ⟨some "empty", hread, by simp, ?_⟩
    rintro raw ⟨⟩
    rw [content_of_isLeaf_eq_false hd]
    exact h

lemma readsAs_words (hd : d.isLeaf = false) {vs : List HostValue} {texts : List String}
    (h : List.Forall₂ (fun v t => d.embedded v = .ok t) vs texts)
    (hvs : ∀ v ∈ vs, v = .null ∨ v = .range .empty) :
    ∃ items, List.Forall₂ (fun t item => ReadsAs ArrayText.readItem? t.toList item) texts items ∧
      List.Forall₂ d.HasItem vs items := by
  induction h with
  | nil => exact ⟨[], .nil, .nil⟩
  | cons ht _ ih =>
    obtain ⟨item, hread, hitem⟩ := readsAs_word hd (hvs _ List.mem_cons_self) ht
    obtain ⟨items, hreads, hitems⟩ := ih fun v hmem => hvs v (List.mem_cons_of_mem _ hmem)
    exact ⟨item :: items, .cons hread hreads, .cons hitem hitems⟩

/-- An item that stands for an element takes up the literal of the element, no more and no less, only if the
element is a null or the empty range. -/
lemma word_of_readItem? (hd : d.isLeaf = false) (h : d.embedded v = .ok t) {item : Option String}
    (hitem : d.HasItem v item) {rest rest' : List Char}
    (hrest : rest.head? = some ',' ∨ rest.head? = some '\x7d')
    (hread : ArrayText.readItem? (t.toList ++ rest) = some (item, rest')) :
    (v = .null ∨ v = .range .empty) ∧ rest' = rest := by
  cases item with
  | none =>
    obtain rfl := hitem.1.1 rfl
    rw [embedded_null] at h
    cases h
    rw [ArrayText.readsAs_null rest hrest] at hread
    cases hread
    exact ⟨.inl rfl, rfl⟩
  | some raw =>
    have hraw := hitem.2 raw rfl
    rw [content_of_isLeaf_eq_false hd, h] at hraw
    cases hraw
    -- the item is the literal, which has no quotes, so that the item was read bare
    obtain ⟨hne, hq⟩ := head?_embedded hd h
    obtain ⟨hbare, hend⟩ := ArrayText.bare_of_readItem? hne hq hread
    refine ⟨(writesBare_items_iff hd h).1 fun t' ht' => ?_, hend⟩
    rw [h] at ht'
    cases ht'
    exact hbare

/-- The literal of an array of containers is read back item by item exactly if each element is a null or the
empty range. -/
lemma read_array_of_containers (hd : d.isLeaf = false) {s : Signature} {nullable : Bool}
    {vs : List HostValue} (h : (Descriptor.array s d nullable).embedded (.array vs) = .ok t) :
    (∃ items, ArrayText.read? t = some items ∧ List.Forall₂ d.HasItem vs items) ↔
      ∀ v ∈ vs, v = .null ∨ v = .range .empty := by
  obtain ⟨texts, htexts, rfl⟩ := embedded_array_ok h
  refine ⟨?_, fun hvs => ?_⟩
  · rintro ⟨items, hread, hitems⟩
    refine forall_of_readBraced? rfl ?_ htexts hitems hread
    intro v t item ht hitem rest rest' hrest hread
    exact word_of_readItem? hd ht hitem hrest hread
  · obtain ⟨items, hreads, hitems⟩ := readsAs_words hd htexts hvs
    have hnone : ArrayText.readItem? ['\x7d'] = none := by decide
    exact ⟨items, readBraced?_braced rfl hnone hreads, hitems⟩

/-! ## Ranges of containers -/

/-- A side whose value has a bare literal is read as a bound that stands for it. -/
lemma readsAsBound_of_writesBare (hd : d.isLeaf = false) {b : Bound HostValue}
    (hb : ∀ v, b.value? = some v → d.WritesBare SpanText.reserved v) (h : boundLiteral d.embedded b = .ok t) :
    ∃ bound, SpanText.ReadsAsBound t bound ∧ d.HasBound b bound := by
  rw [boundLiteral] at h
  cases hv : b.value? with
  | none =>
    rw [hv] at h
    cases h
    refine ⟨none, SpanText.readsAsBound_infinite, ?_⟩
    cases b with
    | infinite => simp [HasBound, Bound.isInfinite]
    | _ => cases hv
  | some v =>
    rw [hv] at h
    refine ⟨some t, SpanText.readsAsBound_of_bare (head?_embedded hd h).1 (hb v hv t h), ?_, ?_⟩
    · cases b with
      | infinite => cases hv
      | _ => simp [Bound.isInfinite]
    · rintro raw ⟨⟩
      exact ⟨v, hv, (content_of_isLeaf_eq_false hd v).trans h⟩

/-- A bound that stands for a side takes up what the side writes, no more and no less, only if the literal of its
value is bare. -/
lemma writesBare_of_read? (hd : d.isLeaf = false) {b : Bound HostValue} (h : boundLiteral d.embedded b = .ok t)
    {f : Field} {rest rest' : List Char} (hrest : ∃ c ∈ [',', ')', ']'], rest.head? = some c)
    (hread : Field.read? SpanText.reserved (t.toList ++ rest) = some (f, rest'))
    (hf : d.HasBound b (SpanText.boundOf f)) :
    (∀ v, b.value? = some v → d.WritesBare SpanText.reserved v) ∧ rest' = rest := by
  rw [boundLiteral] at h
  cases hv : b.value? with
  | none =>
    rw [hv] at h
    cases h
    have hnone : SpanText.boundOf f = none := by
      refine hf.1.2 ?_
      cases b with
      | infinite => rfl
      | _ => cases hv
    refine ⟨?_, (SpanText.bare_of_boundOf (by simp) hrest hread hnone).2⟩
    intro v e
    cases e
  | some v =>
    rw [hv] at h
    replace h : d.embedded v = .ok t := h
    obtain ⟨hne, hq⟩ := head?_embedded hd h
    have hbound : SpanText.boundOf f = if t = "" then none else some t := by
      rw [if_neg hne]
      cases hraw : SpanText.boundOf f with
      | none =>
        have hinfinite := hf.1.1 hraw
        cases b with
        | infinite => cases hv
        | _ => cases hinfinite
      | some raw =>
        obtain ⟨v', hv', hcontent⟩ := hf.2 raw hraw
        rw [hv] at hv'
        cases hv'
        rw [content_of_isLeaf_eq_false hd, h] at hcontent
        cases hcontent
        rfl
    obtain ⟨hbare, hend⟩ := SpanText.bare_of_boundOf hq hrest hread hbound
    refine ⟨?_, hend⟩
    rintro v' ⟨⟩ t' ht'
    rw [h] at ht'
    cases ht'
    exact hbare

lemma readSpan?_of_writesBareBounds (hd : d.isLeaf = false) {r : Span HostValue} (hr : d.WritesBareBounds r)
    (h : spanLiteral d.embedded r = .ok t) :
    ∃ p, (∀ rest, SpanText.readSpan? (t.toList ++ rest) = some (p, rest)) ∧ d.HasSpan r p := by
  refine readSpan?_of_bounds ?_ h
  rintro l u rfl b hb t ht
  refine readsAsBound_of_writesBare hd (fun v hv => hr v ?_) ht
  rcases List.mem_pair.1 hb with rfl | rfl
  · exact .inl hv
  · exact .inr hv

/-- A range literal that stands for a range takes up what the range writes, no more and no less, only if the
literals at its sides are bare. -/
lemma writesBareBounds_of_readSpan? (hd : d.isLeaf = false) {r : Span HostValue}
    (h : spanLiteral d.embedded r = .ok t) {p : SpanText} (hp : d.HasSpan r p) {rest rest' : List Char}
    (hread : SpanText.readSpan? (t.toList ++ rest) = some (p, rest')) :
    d.WritesBareBounds r ∧ rest' = rest := by
  cases r with
  | empty =>
    cases h
    cases hread
    exact ⟨by rintro v (⟨⟨⟩⟩ | ⟨⟨⟩⟩), rfl⟩
  | bounds l u =>
    rw [spanLiteral] at h
    obtain ⟨lower, hlower, h⟩ := ok_of_bind h
    obtain ⟨upper, hupper, h⟩ := ok_of_bind h
    cases h
    rw [SpanText.readSpan?_bracket_eq] at hread
    obtain ⟨f, g, more, upperInclusive, hf, hg, rfl⟩ := SpanText.readBounds?_eq_some hread
    obtain ⟨-, -, hlo, hup⟩ := hp
    -- the lower bound ends at the comma that was written, so that the upper one starts where it was written
    obtain ⟨hbare, hcomma⟩ := writesBare_of_read? hd hlower ⟨',', by simp, rfl⟩ hf hlo
    cases hcomma
    obtain ⟨hbare', hclose⟩ := writesBare_of_read? hd hupper
      ⟨if u.isInclusive then ']' else ')', by cases u.isInclusive <;> simp, rfl⟩ hg hup
    rw [List.cons.injEq] at hclose
    refine ⟨?_, hclose.2⟩
    rintro v (hv | hv)
    · exact hbare v hv
    · exact hbare' v hv

/-- The literal of a range of containers is read back exactly if the literals at its sides are bare. -/
lemma read_range_of_containers (hd : d.isLeaf = false) {s : Signature} {r : Span HostValue}
    (h : (Descriptor.range s d).embedded (.range r) = .ok t) :
    (∃ p, SpanText.read? t = some p ∧ d.HasSpan r p) ↔ d.WritesBareBounds r := by
  rw [embedded] at h
  refine ⟨?_, fun hr => ?_⟩
  · rintro ⟨p, hread, hp⟩
    rw [SpanText.read?] at hread
    split at hread
    · rename_i p' hread'
      cases hread
      rw [← List.append_nil t.toList] at hread'
      exact (writesBareBounds_of_readSpan? hd h hp hread').1
    · cases hread
  · obtain ⟨p, hread, hp⟩ := readSpan?_of_writesBareBounds hd hr h
    have hend := hread []
    rw [List.append_nil] at hend
    exact ⟨p, by rw [SpanText.read?, hend], hp⟩

/-- The literal of a multirange of containers is read back exactly if those of its ranges are. -/
lemma read_multirange_of_containers (hd : d.isLeaf = false) {m s : Signature} {rs : List (Span HostValue)}
    (h : (Descriptor.multirange m (.range s d)).embedded (.multirange rs) = .ok t) :
    (∃ ps, SpanText.readAll? t = some ps ∧ List.Forall₂ d.HasSpan rs ps) ↔ ∀ r ∈ rs, d.WritesBareBounds r := by
  obtain ⟨texts, htexts, rfl⟩ := embedded_multirange_ok h
  refine ⟨?_, fun hrs => ?_⟩
  · rintro ⟨ps, hread, hps⟩
    refine forall_of_readBraced? rfl ?_ htexts hps hread
    intro r t p ht hp rest rest' _ hread
    exact writesBareBounds_of_readSpan? hd ht hp hread
  · obtain ⟨ps, hreads, hps⟩ :=
      readsAs_spans_of (fun r hr t ht => readSpan?_of_writesBareBounds hd (hrs r hr) ht) htexts
    have hnone : SpanText.readSpan? ['\x7d'] = none := by decide
    exact ⟨ps, readBraced?_braced rfl hnone hreads, hps⟩

/-- Containers inside containers are read back where the literals inside are bare, and only there. Of an array,
each element has to be a null or the empty range. Of a range or multirange, the literals at all sides have to be
without the marks of ranges and without blanks; where the sides are ranges themselves, this leaves the nulls and
the empty ranges. -/
theorem read_embedded_nested (hd : d.isLeaf = false) (s m : Signature) (nullable : Bool) :
    (∀ vs t, (Descriptor.array s d nullable).embedded (.array vs) = .ok t →
      ((∃ items, ArrayText.read? t = some items ∧ List.Forall₂ d.HasItem vs items) ↔
        ∀ v ∈ vs, v = .null ∨ v = .range .empty)) ∧
    (∀ r t, (Descriptor.range s d).embedded (.range r) = .ok t →
      ((∃ p, SpanText.read? t = some p ∧ d.HasSpan r p) ↔ d.WritesBareBounds r) ∧
      (d.isRange = true → (d.WritesBareBounds r ↔
        ∀ v, r.lower? = some v ∨ r.upper? = some v → v = .null ∨ v = .range .empty))) ∧
    (∀ rs t, (Descriptor.multirange m (.range s d)).embedded (.multirange rs) = .ok t →
      ((∃ ps, SpanText.readAll? t = some ps ∧ List.Forall₂ d.HasSpan rs ps) ↔
        ∀ r ∈ rs, d.WritesBareBounds r)) := by
  refine ⟨fun vs t h => read_array_of_containers hd h, fun r t h => ⟨read_range_of_containers hd h, ?_⟩,
    fun rs t h => read_multirange_of_containers hd h⟩
  intro hrange
  rw [embedded] at h
  exact writesBareBounds_iff hrange h

/-- The null and the empty range stand in an array of ranges, and the empty range at the side of a range. -/
theorem read_embedded_nested_of_empty :
    (rangeOver "int4range" (ofScalar "integer" (.scalar .int32) (.plain .integer))).isLeaf = false ∧
    (∃ items, ArrayText.read? "\x7bNULL,empty\x7d" = some items ∧
      List.Forall₂ (rangeOver "int4range" (ofScalar "integer" (.scalar .int32) (.plain .integer))).HasItem
        [.null, .range .empty] items) ∧
    ∃ p, SpanText.read? "[empty,)" = some p ∧
      (rangeOver "int4range" (ofScalar "integer" (.scalar .int32) (.plain .integer))).HasSpan
        (.bounds (.inclusive (.range .empty)) .infinite) p := by
  have hd : (rangeOver "int4range" (ofScalar "integer" (.scalar .int32) (.plain .integer))).isLeaf = false := rfl
  obtain ⟨harray, hrange, -⟩ := read_embedded_nested hd (.plain "spans" (.scalar .int32) (.plain .integer))
    (.plain "spans" (.scalar .int32) (.plain .integer)) true
  obtain ⟨hread, hbounds⟩ := hrange (.bounds (.inclusive (.range .empty)) .infinite) "[empty,)" rfl
  refine ⟨hd, (harray [.null, .range .empty] _ rfl).2 (by simp), hread.2 ((hbounds rfl).2 ?_)⟩
  rintro v (⟨⟨⟩⟩ | ⟨⟨⟩⟩)
  exact .inr rfl

end Descriptor

namespace Catalog

/-- An array of a range with two bounds is written as two items, neither of which stands for the range. -/
theorem misread_ranges :
    ∃ c : Catalog, c.Reachable ∧ ∃ d, (c.find (.forStore "int4range[]")).1 = some d ∧
      ∃ element, d.element? = some element ∧ element.isLeaf = false ∧
        d.embedded (.array [.range (.bounds (.inclusive (.int32 1)) (.exclusive (.int32 5)))]) =
          .ok "\x7b[1,5)\x7d" ∧
        element.embedded (.range (.bounds (.inclusive (.int32 1)) (.exclusive (.int32 5)))) = .ok "[1,5)" ∧
        ¬ ∃ items, ArrayText.read? "\x7b[1,5)\x7d" = some items ∧
          List.Forall₂ element.HasItem
            [.range (.bounds (.inclusive (.int32 1)) (.exclusive (.int32 5)))] items := by
  let element := Descriptor.rangeOver "int4range" (.ofScalar "integer" (.scalar .int32) (.plain .integer))
  let s : Signature := .plain "int4range[]" (.array (.range (.scalar .int32))) (.array (.range (.plain .integer)))
  have hfind : (Catalog.find { registry := .builtin {} } (.forStore "int4range[]")).1 =
      some (.array s element false) := by
    decide +kernel
  have hinner : element.embedded (.range (.bounds (.inclusive (.int32 1)) (.exclusive (.int32 5)))) =
      .ok "[1,5)" := by
    rfl
  have hembedded : (Descriptor.array s element false).embedded
      (.array [.range (.bounds (.inclusive (.int32 1)) (.exclusive (.int32 5)))]) = .ok "\x7b[1,5)\x7d" := by
    rfl
  refine ⟨_, reachableBy_builtin, _, hfind, element, rfl, rfl, hembedded, hinner, fun hread => ?_⟩
  rcases (Descriptor.read_array_of_containers rfl hembedded).1 hread _ List.mem_cons_self with e | e
  · cases e
  · cases e

end Catalog

end SqlBridge
