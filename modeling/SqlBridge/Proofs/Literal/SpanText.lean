import SqlBridge.Proofs.Descriptor.Content
import SqlBridge.Proofs.Literal.Braces
import SqlBridge.Proofs.Literal.Field

/-!
# Reading range literals

The grammar of range literals: the word for the empty range, or two bounds between brackets with a comma
between them, a bound being a field and an empty bare field being no bound. A multirange literal holds
ranges in braces, separated by a comma and a blank. A range over a leaf is read back with its emptiness, its
inclusive sides and the contents of its bounds.
-/

namespace SqlBridge

/-- What a range literal says: nothing but the word, or the two sides. -/
inductive SpanText where
  | empty
  | bounds (lowerInclusive : Bool) (lower upper : Option String) (upperInclusive : Bool)
deriving DecidableEq, Repr

namespace SpanText

open Literal

/-- The characters that only stand in a bare bound's place as marks of the grammar. -/
def reserved : List Char := ['"', '\\', ',', '(', ')', '[', ']']

/-- The bound that a field stands for. There is no bound of no characters, unless they are quoted. -/
def boundOf : Field → Option String
  | .quoted s => some s
  | .bare s => if s = "" then none else some s

/-- The bounds of a range that is open, its closing bracket, and what stands after it. -/
def readBounds? (lowerInclusive : Bool) (cs : List Char) : Option (SpanText × List Char) := do
  let (lower, cs) ← Field.read? reserved cs
  let cs ← Text.expect? ',' cs
  let (upper, cs) ← Field.read? reserved cs
  match cs with
  | ']' :: rest => some (.bounds lowerInclusive (boundOf lower) (boundOf upper) true, rest)
  | ')' :: rest => some (.bounds lowerInclusive (boundOf lower) (boundOf upper) false, rest)
  | _ => none

/-- The range at the start of a text, and what stands after it. -/
def readSpan? : List Char → Option (SpanText × List Char)
  | 'e' :: 'm' :: 'p' :: 't' :: 'y' :: rest => some (.empty, rest)
  | '[' :: cs => readBounds? true cs
  | '(' :: cs => readBounds? false cs
  | _ => none

/-- Reads a text that is one range. -/
def read? (s : String) : Option SpanText :=
  match readSpan? s.toList with
  | some (p, []) => some p
  | _ => none

/-- Reads the ranges of a multirange literal. -/
def readAll? (s : String) : Option (List SpanText) :=
  readBraced? readSpan? ", ".toList s

/-- A text that is read as a bound before a comma or a closing bracket, whatever follows. -/
def ReadsAsBound (text : String) (bound : Option String) : Prop :=
  ∀ rest : List Char, (∃ c ∈ [',', ')', ']'], rest.head? = some c) →
    ∃ f, Field.read? reserved (text.toList ++ rest) = some (f, rest) ∧ boundOf f = bound

lemma stops_of_head? {rest : List Char} (h : ∃ c ∈ [',', ')', ']'], rest.head? = some c) :
    Field.Stops reserved rest := by
  obtain ⟨c, hmem, hc⟩ := h
  have hstop : ∀ c ∈ [',', ')', ']'], c ∈ reserved ∧ c ≠ '"' := by
    simp [reserved]
  intro d hd
  rw [Option.mem_def, hc] at hd
  cases hd
  exact hstop c hmem

lemma readsAsBound_infinite : ReadsAsBound "" none := by
  intro rest hrest
  have hbare : ∀ c ∈ "".toList, Field.isBare reserved c = true := List.all_eq_true.1 (by decide)
  have hread := Field.read?_bare (by decide) hbare (stops_of_head? hrest)
  exact ⟨.bare "", hread, rfl⟩

/-- A text made an item is read as a bound of that text, also when it is empty. -/
lemma readsAsBound_item (always : Bool) (s : String) :
    ReadsAsBound (item always s) (some s) := by
  intro rest hrest
  have hmarks : ∀ c ∈ reserved, isItemMark c = true := List.all_eq_true.1 (by decide)
  obtain ⟨f, hread, hf⟩ := Field.read?_item hmarks (by decide) always s (stops_of_head? hrest)
  refine ⟨f, hread, ?_⟩
  rcases hf with rfl | ⟨rfl, hempty, -⟩
  · rfl
  · simp [boundOf, hempty]

lemma readBounds?_bracket {lower upper : String} {l u : Option String} (hl : ReadsAsBound lower l)
    (hu : ReadsAsBound upper u) (lowerInclusive upperInclusive : Bool) (rest : List Char) :
    readBounds? lowerInclusive
        (lower.toList ++ ',' :: (upper.toList ++ (if upperInclusive then ']' else ')') :: rest))
      = some (.bounds lowerInclusive l u upperInclusive, rest) := by
  obtain ⟨f, hf, rfl⟩ := hl (',' :: (upper.toList ++ (if upperInclusive then ']' else ')') :: rest))
    ⟨',', by simp, rfl⟩
  obtain ⟨g, hg, rfl⟩ := hu ((if upperInclusive then ']' else ')') :: rest)
    ⟨if upperInclusive then ']' else ')', by cases upperInclusive <;> simp, rfl⟩
  rw [readBounds?, hf]
  simp only [Option.bind_eq_bind, Option.bind_some, Text.expect?, if_true, hg]
  cases upperInclusive <;> rfl

/-- A bracket opens the bounds of a range. -/
lemma readSpan?_bracket_eq (lowerInclusive : Bool) (lower upper : String) (upperInclusive : Bool)
    (rest : List Char) :
    readSpan? ((Span.bracket lowerInclusive lower upper upperInclusive).toList ++ rest)
      = readBounds? lowerInclusive
        (lower.toList ++ ',' :: (upper.toList ++ (if upperInclusive then ']' else ')') :: rest)) := by
  have e : (Span.bracket lowerInclusive lower upper upperInclusive).toList ++ rest
      = (if lowerInclusive then '[' else '(') ::
        (lower.toList ++ ',' :: (upper.toList ++ (if upperInclusive then ']' else ')') :: rest)) := by
    cases lowerInclusive <;> cases upperInclusive <;> simp [Span.bracket]
  rw [e]
  cases lowerInclusive with
  | true => rfl
  | false => rfl

/-- A range with two bounds is read at the start of any text. -/
lemma readSpan?_bracket {lower upper : String} {l u : Option String} (hl : ReadsAsBound lower l)
    (hu : ReadsAsBound upper u) (lowerInclusive upperInclusive : Bool) (rest : List Char) :
    readSpan? ((Span.bracket lowerInclusive lower upper upperInclusive).toList ++ rest)
      = some (.bounds lowerInclusive l u upperInclusive, rest) := by
  rw [readSpan?_bracket_eq]
  exact readBounds?_bracket hl hu lowerInclusive upperInclusive rest

end SpanText

namespace Span

/-- Neither boundary value is the null. -/
def HasNoNull (r : Span HostValue) : Prop :=
  r.lower? ≠ some .null ∧ r.upper? ≠ some .null

end Span

namespace Descriptor

/-- A bound of a range literal stands for a side: it is absent for an infinite side only, and any other
bound is the content of the boundary value. -/
def HasBound (subtype : Descriptor) (b : Bound HostValue) (bound : Option String) : Prop :=
  (bound = none ↔ b.isInfinite = true) ∧
    ∀ raw, bound = some raw → ∃ v, b.value? = some v ∧ subtype.content v = .ok raw

/-- A range literal stands for a range: both are empty, or they have the same inclusive sides and bounds
that stand for those of the range. -/
def HasSpan (subtype : Descriptor) : Span HostValue → SpanText → Prop
  | .empty, .empty => True
  | .bounds l u, .bounds lowerInclusive lower upper upperInclusive =>
    lowerInclusive = l.isInclusive ∧ upperInclusive = u.isInclusive ∧
      subtype.HasBound l lower ∧ subtype.HasBound u upper
  | _, _ => False

lemma readsAsBound_boundLiteral {subtype : Descriptor} (hd : subtype.isLeaf = true)
    {b : Bound HostValue} (hb : b.value? ≠ some .null) {t : String}
    (h : boundLiteral subtype.embedded b = .ok t) :
    ∃ bound, SpanText.ReadsAsBound t bound ∧ subtype.HasBound b bound := by
  rw [boundLiteral] at h
  cases hv : b.value? with
  | none =>
    rw [hv] at h
    cases h
    refine ⟨none, SpanText.readsAsBound_infinite, ?_⟩
    cases b with
    | infinite => simp [HasBound, Bound.isInfinite]
    | _ => cases hv
  | some v =>
    rw [hv] at h
    -- the word for a null would be read as a bound of that text
    have hne : v ≠ .null := fun e => hb (by rw [hv, e])
    obtain ⟨raw, always, hraw, rfl⟩ := embedded_leaf_ok hd hne h
    refine ⟨some raw, SpanText.readsAsBound_item always raw, ?_, ?_⟩
    · cases b with
      | infinite => cases hv
      | _ => simp [Bound.isInfinite]
    · intro raw' e
      cases e
      exact ⟨v, hv, hraw⟩

/-- What a range writes is read as the range literal that stands for it, if what its sides write is read as
bounds that stand for them. -/
lemma readSpan?_of_bounds {subtype : Descriptor} {r : Span HostValue}
    (hbounds : ∀ l u, r = .bounds l u → ∀ b ∈ [l, u], ∀ t, boundLiteral subtype.embedded b = .ok t →
      ∃ bound, SpanText.ReadsAsBound t bound ∧ subtype.HasBound b bound)
    {t : String} (h : spanLiteral subtype.embedded r = .ok t) :
    ∃ p, (∀ rest, SpanText.readSpan? (t.toList ++ rest) = some (p, rest)) ∧ subtype.HasSpan r p := by
  cases r with
  | empty =>
    cases h
    exact ⟨.empty, fun rest => rfl, trivial⟩
  | bounds l u =>
    rw [spanLiteral] at h
    obtain ⟨lower, hlower, h⟩ := ok_of_bind h
    obtain ⟨upper, hupper, h⟩ := ok_of_bind h
    cases h
    obtain ⟨lo, hlo, hlo'⟩ := hbounds l u rfl l (by simp) lower hlower
    obtain ⟨up, hup, hup'⟩ := hbounds l u rfl u (by simp) upper hupper
    exact ⟨.bounds l.isInclusive lo up u.isInclusive,
      SpanText.readSpan?_bracket hlo hup l.isInclusive u.isInclusive, rfl, rfl, hlo', hup'⟩

/-- What a range over a leaf writes is read as the range literal that stands for it. -/
lemma readSpan?_spanLiteral {subtype : Descriptor} (hd : subtype.isLeaf = true)
    {r : Span HostValue} (hr : r.HasNoNull) {t : String}
    (h : spanLiteral subtype.embedded r = .ok t) :
    ∃ p, (∀ rest, SpanText.readSpan? (t.toList ++ rest) = some (p, rest)) ∧ subtype.HasSpan r p := by
  refine readSpan?_of_bounds ?_ h
  rintro l u rfl b hb t ht
  have hnull : b.value? ≠ some .null := by
    rcases List.mem_pair.1 hb with rfl | rfl
    · exact hr.1
    · exact hr.2
  exact readsAsBound_boundLiteral hd hnull ht

lemma readsAs_spans_of {subtype : Descriptor} {rs : List (Span HostValue)}
    (hspan : ∀ r ∈ rs, ∀ t, spanLiteral subtype.embedded r = .ok t →
      ∃ p, (∀ rest, SpanText.readSpan? (t.toList ++ rest) = some (p, rest)) ∧ subtype.HasSpan r p)
    {texts : List String}
    (h : List.Forall₂ (fun r t => spanLiteral subtype.embedded r = .ok t) rs texts) :
    ∃ ps, List.Forall₂ (fun t p => Literal.ReadsAs SpanText.readSpan? t.toList p) texts ps ∧
      List.Forall₂ subtype.HasSpan rs ps := by
  induction h with
  | nil => exact ⟨[], .nil, .nil⟩
  | cons hr _ ih =>
    obtain ⟨p, hread, hp⟩ := hspan _ List.mem_cons_self _ hr
    obtain ⟨ps, hreads, hps⟩ := ih fun r hmem => hspan r (List.mem_cons_of_mem _ hmem)
    exact ⟨p :: ps, .cons (fun rest _ => hread rest) hreads, .cons hp hps⟩

lemma readsAs_spans {subtype : Descriptor} (hd : subtype.isLeaf = true) {rs : List (Span HostValue)}
    (hrs : ∀ r ∈ rs, r.HasNoNull) {texts : List String}
    (h : List.Forall₂ (fun r t => spanLiteral subtype.embedded r = .ok t) rs texts) :
    ∃ ps, List.Forall₂ (fun t p => Literal.ReadsAs SpanText.readSpan? t.toList p) texts ps ∧
      List.Forall₂ subtype.HasSpan rs ps :=
  readsAs_spans_of (fun r hr _ ht => readSpan?_spanLiteral hd (hrs r hr) ht) h

lemma embedded_multirange_ok {m s : Signature} {subtype : Descriptor} {rs : List (Span HostValue)}
    {t : String} (h : (Descriptor.multirange m (.range s subtype)).embedded (.multirange rs) = .ok t) :
    ∃ texts, List.Forall₂ (fun r t => spanLiteral subtype.embedded r = .ok t) rs texts ∧
      t = "\x7b" ++ ", ".intercalate texts ++ "\x7d" := by
  rw [embedded] at h
  obtain ⟨texts, htexts, h⟩ := ok_of_bind h
  cases h
  exact ⟨texts, forall₂_of_mapM htexts, rfl⟩

/-- The literals of ranges and multiranges over a leaf are read back range by range: the same ones are
empty, the same sides are inclusive, a bound is absent exactly where a side is infinite, and every other
bound is the content of the boundary value. -/
theorem read_embedded_spans {subtype : Descriptor} (hd : subtype.isLeaf = true) (s m : Signature) :
    (∀ r t, r.HasNoNull → (Descriptor.range s subtype).embedded (.range r) = .ok t →
      ∃ p, SpanText.read? t = some p ∧ subtype.HasSpan r p) ∧
    (∀ rs t, (∀ r ∈ rs, r.HasNoNull) →
      (Descriptor.multirange m (.range s subtype)).embedded (.multirange rs) = .ok t →
      ∃ ps, SpanText.readAll? t = some ps ∧ List.Forall₂ subtype.HasSpan rs ps) := by
  refine ⟨?_, ?_⟩
  · intro r t hr h
    rw [embedded] at h
    obtain ⟨p, hread, hp⟩ := readSpan?_spanLiteral hd hr h
    have hend := hread []
    rw [List.append_nil] at hend
    exact ⟨p, by rw [SpanText.read?, hend], hp⟩
  · intro rs t hrs h
    obtain ⟨texts, htexts, rfl⟩ := embedded_multirange_ok h
    obtain ⟨ps, hreads, hps⟩ := readsAs_spans hd hrs htexts
    have hnone : SpanText.readSpan? ['\x7d'] = none := by decide
    exact ⟨ps, Literal.readBraced?_braced rfl hnone hreads, hps⟩

/-- An empty bound beside an infinite side, and a bound that spells the separator of ranges. -/
theorem read_embedded_spans_of_marks :
    (ofScalar "ltree" (.scalar .lTree) (.plain .lTree)).isLeaf = true ∧
    (∀ r ∈ [Span.bounds (.inclusive (.string "")) .infinite,
        .bounds (.exclusive (.string "), (")) (.inclusive (.string "\"\\"))],
      Span.HasNoNull r) ∧
    (multirange (.plain "paths" (.multirange (.scalar .lTree)) (.multirange (.plain .lTree)))
        (.range (.plain "path" (.range (.scalar .lTree)) (.range (.plain .lTree)))
          (ofScalar "ltree" (.scalar .lTree) (.plain .lTree)))).embedded
      (.multirange [.bounds (.inclusive (.string "")) .infinite,
        .bounds (.exclusive (.string "), (")) (.inclusive (.string "\"\\"))])
      = .ok "\x7b[\"\",), (\"), (\",\"\\\"\\\\\"]\x7d" ∧
    ∃ ps,
      SpanText.readAll? "\x7b[\"\",), (\"), (\",\"\\\"\\\\\"]\x7d" = some ps ∧
      List.Forall₂ (ofScalar "ltree" (.scalar .lTree) (.plain .lTree)).HasSpan
        [.bounds (.inclusive (.string "")) .infinite,
          .bounds (.exclusive (.string "), (")) (.inclusive (.string "\"\\"))] ps := by
  have hnull : ∀ r ∈ [Span.bounds (.inclusive (.string "")) .infinite,
      .bounds (.exclusive (.string "), (")) (.inclusive (.string "\"\\"))], Span.HasNoNull r := by
    simp [Span.HasNoNull, Span.lower?, Span.upper?, Bound.value?, HostValue.string]
  have h : (multirange (.plain "paths" (.multirange (.scalar .lTree)) (.multirange (.plain .lTree)))
        (.range (.plain "path" (.range (.scalar .lTree)) (.range (.plain .lTree)))
          (ofScalar "ltree" (.scalar .lTree) (.plain .lTree)))).embedded
      (.multirange [.bounds (.inclusive (.string "")) .infinite,
        .bounds (.exclusive (.string "), (")) (.inclusive (.string "\"\\"))])
      = .ok "\x7b[\"\",), (\"), (\",\"\\\"\\\\\"]\x7d" := by
    rfl
  exact ⟨rfl, hnull, h, (read_embedded_spans rfl _ _).2 _ _ hnull h⟩

end Descriptor

end SqlBridge
