import Mathlib.Tactic.Lemma
import SqlBridge.Proofs.Text.Runs
import SqlBridge.StoreType.Parse

/-!
# The grammar of store types

What the parentheses of a store type may hold, apart from the reader. The first parentheses alone decide: they
hold one number or two, or the text is a name as a whole.
-/

namespace SqlBridge.StoreType

open Text (IsGap IsRun)

/-- The digits are those of the number. -/
structure Spells (n : UInt32) (digits : List Char) : Prop where
  nonempty : digits ≠ []
  isDigit : ∀ c ∈ digits, c.isDigit = true
  value : Nat.ofDigitChars 10 digits 0 = n.toNat

/-- One number, or two with a comma between them, with gaps around them. -/
inductive SpellsModifiers : List Char → UInt32 → Option UInt32 → Prop
  | one {b digits b' : List Char} {n : UInt32} :
    IsGap b → Spells n digits → IsGap b' → SpellsModifiers (b ++ (digits ++ b')) n none
  | two {b digits b' c digits' c' : List Char} {n scale : UInt32} :
    IsGap b → Spells n digits → IsGap b' → IsGap c → Spells scale digits' → IsGap c' →
    SpellsModifiers (b ++ (digits ++ (b' ++ ',' :: (c ++ (digits' ++ c'))))) n (some scale)

/-- The first opening parenthesis of the text and the first closing one after it take it apart. -/
structure SplitsAt (cs before inside after : List Char) : Prop where
  eq : cs = before ++ '(' :: (inside ++ ')' :: after)
  first_open : '(' ∉ before
  first_close : ')' ∉ inside

/-- The first parentheses of the text hold numbers, with texts before and after them. -/
def IsModified (cs before after : List Char) (first : UInt32) (second : Option UInt32) : Prop :=
  ∃ inside, SplitsAt cs before inside after ∧ SpellsModifiers inside first second

/-- Two numbers are a precision and a scale. A single one is a precision or a size by the name before it. -/
def facetsOf (name : List Char) (first : UInt32) : Option UInt32 → Facets
  | some scale => { precision := some first, scale := some scale }
  | none => if takesPrecision name then { precision := some first } else { size := some first }

/-! ## Numbers -/

lemma readUInt32?_eq_some {cs : List Char} {n : UInt32} : Text.readUInt32? cs = some n ↔ Spells n cs := by
  rw [Text.readUInt32?, Option.bind_eq_some_iff]
  constructor
  · rintro ⟨m, hread, hbound⟩
    obtain ⟨hne, hdigits, hvalue⟩ := Text.readNat?_eq_some.1 hread
    split at hbound
    · next hlt =>
      cases hbound
      exact ⟨hne, hdigits, hvalue.trans (UInt32.toNat_ofNat_of_lt hlt).symm⟩
    · cases hbound
  · rintro ⟨hne, hdigits, hvalue⟩
    refine ⟨n.toNat, Text.readNat?_eq_some.2 ⟨hne, hdigits, hvalue⟩, ?_⟩
    rw [if_pos n.toNat_lt_size, UInt32.ofNat_toNat]

lemma Spells.no_gap {n : UInt32} {digits more : List Char} (h : Spells n digits) :
    ∀ c ∈ (digits ++ more).head?, Text.isSpaceOrTab c = false := by
  obtain ⟨hne, hdigits, -⟩ := h
  obtain ⟨d, digits, rfl⟩ := List.exists_cons_of_ne_nil hne
  rintro _ ⟨⟩
  exact Text.isSpaceOrTab_eq_false (p := Char.isDigit) rfl rfl (hdigits d List.mem_cons_self)

lemma of_readModifier? {cs rest : List Char} {n : UInt32} (h : readModifier? cs = some (n, rest)) :
    ∃ b digits b', IsGap b ∧ Spells n digits ∧ IsGap b' ∧ cs = b ++ (digits ++ (b' ++ rest)) := by
  rw [readModifier?] at h
  obtain ⟨m, hread, heq⟩ := Option.map_eq_some_iff.1 h
  cases heq
  obtain ⟨b, hb, hcs⟩ := Text.exists_gap cs
  obtain ⟨b', hb', hmore⟩ := Text.exists_gap ((Text.skipSpaces cs).dropWhile Char.isDigit)
  refine ⟨b, _, b', hb, readUInt32?_eq_some.1 hread, hb', ?_⟩
  rw [← hmore, List.takeWhile_append_dropWhile, ← hcs]

lemma readModifier?_gaps {b digits b' rest : List Char} {n : UInt32} (hb : IsGap b)
    (hdigits : Spells n digits) (hb' : IsGap b') (hspace : ∀ c ∈ rest.head?, Text.isSpaceOrTab c = false)
    (hdigit : ∀ c ∈ rest.head?, c.isDigit = false) :
    readModifier? (b ++ (digits ++ (b' ++ rest))) = some (n, rest) := by
  have hrun : IsRun Char.isDigit digits (b' ++ rest) :=
    ⟨hdigits.isDigit, Text.head?_gap rfl rfl hb' hdigit⟩
  rw [readModifier?, Text.skipSpaces_gap hb hdigits.no_gap]
  simp only [hrun.takeWhile, hrun.dropWhile, readUInt32?_eq_some.2 hdigits, Option.map_some,
    Text.skipSpaces_gap hb' hspace]

theorem readModifiers?_eq_some {cs : List Char} {first : UInt32} {second : Option UInt32} :
    readModifiers? cs = some (first, second) ↔ SpellsModifiers cs first second := by
  constructor
  · intro h
    obtain ⟨⟨n, rest⟩, hfirst, h⟩ := Option.bind_eq_some_iff.1 h
    obtain ⟨b, digits, b', hb, hdigits, hb', hcs⟩ := of_readModifier? hfirst
    cases rest with
    | nil =>
      cases h
      rw [List.append_nil] at hcs
      rw [hcs]
      exact .one hb hdigits hb'
    | cons mark rest =>
      simp only at h
      split at h
      · next hmark =>
        obtain ⟨⟨scale, rest'⟩, hsecond, h⟩ := Option.bind_eq_some_iff.1 h
        obtain ⟨c, digits', c', hc, hdigits', hc', hrest⟩ := of_readModifier? hsecond
        cases rest' with
        | nil =>
          cases h
          rw [hcs, hmark, hrest, List.append_nil]
          exact .two hb hdigits hb' hc hdigits' hc'
        | cons d rest' => cases h
      · cases h
  · intro h
    cases h with
    | @one b digits b' n hb hdigits hb' =>
      have hread : readModifier? (b ++ (digits ++ (b' ++ []))) = some (first, []) :=
        readModifier?_gaps hb hdigits hb' nofun nofun
      rw [List.append_nil] at hread
      rw [readModifiers?, hread]
      rfl
    | @two b digits b' c digits' c' n scale hb hdigits hb' hc hdigits' hc' =>
      have hfirst : readModifier? (b ++ (digits ++ (b' ++ ',' :: (c ++ (digits' ++ c'))))) =
          some (first, ',' :: (c ++ (digits' ++ c'))) :=
        readModifier?_gaps hb hdigits hb' (by rintro _ ⟨⟩; rfl) (by rintro _ ⟨⟩; rfl)
      have hsecond : readModifier? (c ++ (digits' ++ (c' ++ []))) = some (scale, []) :=
        readModifier?_gaps hc hdigits' hc' nofun nofun
      rw [List.append_nil] at hsecond
      rw [readModifiers?, hfirst]
      simp [hsecond]

/-! ## Parentheses -/

lemma not_mem_iff_all {mark : Char} {cs : List Char} : mark ∉ cs ↔ ∀ c ∈ cs, (c != mark) = true := by
  simp only [bne_iff_ne]
  exact ⟨fun h c hc e => h (e ▸ hc), fun h hc => h mark hc rfl⟩

lemma isRun_mark {mark : Char} {before after : List Char} (h : mark ∉ before) :
    IsRun (· != mark) before (mark :: after) where
  all := not_mem_iff_all.1 h
  stops := by
    rintro _ ⟨⟩
    simp

/-- A text with a mark in it comes apart at the first one. -/
lemma exists_mark {mark c : Char} {cs after : List Char} (h : cs.dropWhile (· != mark) = c :: after) :
    mark ∉ cs.takeWhile (· != mark) ∧ cs = cs.takeWhile (· != mark) ++ mark :: after := by
  have hrun := Text.isRun_span (· != mark) cs
  have hc : c = mark := by
    have hstops := hrun.stops c (by rw [h]; rfl)
    simpa using hstops
  refine ⟨not_mem_iff_all.2 hrun.all, ?_⟩
  rw [← hc, ← h, hc, List.takeWhile_append_dropWhile]

theorem splitParentheses?_eq_some {cs before inside after : List Char} :
    splitParentheses? cs = some (before, inside, after) ↔ SplitsAt cs before inside after := by
  constructor
  · intro h
    rw [splitParentheses?] at h
    split at h
    · cases h
    · next tail hopen =>
      split at h
      · cases h
      · next hclose =>
        cases h
        obtain ⟨hbefore, hcs⟩ := exists_mark hopen
        obtain ⟨hinside, htail⟩ := exists_mark hclose
        refine ⟨?_, hbefore, hinside⟩
        rw [← htail, ← hcs]
  · rintro ⟨rfl, hbefore, hinside⟩
    have hopen : IsRun (· != '(') before ('(' :: (inside ++ ')' :: after)) := isRun_mark hbefore
    have hclose : IsRun (· != ')') inside (')' :: after) := isRun_mark hinside
    simp only [splitParentheses?, hopen.takeWhile, hopen.dropWhile, hclose.takeWhile, hclose.dropWhile]

/-! ## Names with modifiers -/

section Modified

variable {cs before after : List Char} {first : UInt32} {second : Option UInt32}

/-- The store type that a text with modifiers is read as. -/
def modified (before after : List Char) (first : UInt32) (second : Option UInt32) : ParsedStoreType :=
  let name := Text.trimEnd before
  let f := facetsOf name first second
  { baseName := String.ofList (name ++ after), isUnicode := isCharacter (name ++ after),
    size := f.size, precision := f.precision, scale := f.scale }

lemma IsModified.parseModified? (h : IsModified cs before after first second) :
    parseModified? cs = some (modified before after first second) := by
  obtain ⟨inside, hsplit, hinside⟩ := h
  rw [StoreType.parseModified?, splitParentheses?_eq_some.2 hsplit]
  simp only [Option.bind_eq_bind, Option.bind_some, readModifiers?_eq_some.2 hinside]
  cases second with
  | some scale => rfl
  | none =>
    simp only [modified, facetsOf]
    split <;> rfl

lemma exists_isModified {p : ParsedStoreType} (h : parseModified? cs = some p) :
    ∃ before after first second, IsModified cs before after first second := by
  obtain ⟨⟨before, inside, after⟩, hsplit, h⟩ := Option.bind_eq_some_iff.1 h
  obtain ⟨⟨first, second⟩, hinside, -⟩ := Option.bind_eq_some_iff.1 h
  exact ⟨before, after, first, second, inside, splitParentheses?_eq_some.1 hsplit,
    readModifiers?_eq_some.1 hinside⟩

lemma hasModifiers_modified (before after : List Char) (first : UInt32) (second : Option UInt32) :
    (modified before after first second).hasModifiers = true := by
  rw [modified, ParsedStoreType.hasModifiers]
  cases second with
  | some scale => rfl
  | none =>
    rw [facetsOf]
    split <;> rfl

lemma facets_modified (before after : List Char) (first : UInt32) (second : Option UInt32) :
    (modified before after first second).facets false = facetsOf (Text.trimEnd before) first second := by
  rw [modified, ParsedStoreType.facets]
  cases second with
  | some scale => rfl
  | none =>
    rw [facetsOf]
    split <;> rfl

lemma length_trimEnd_le (cs : List Char) : (Text.trimEnd cs).length ≤ cs.length := by
  rw [Text.trimEnd, List.length_reverse]
  calc (cs.reverse.dropWhile Text.isBlank).length ≤ cs.reverse.length := (List.dropWhile_sublist _).length_le
    _ = cs.length := List.length_reverse

lemma IsModified.length_lt (h : IsModified cs before after first second) :
    (Text.trimEnd before ++ after).length < cs.length := by
  obtain ⟨inside, ⟨rfl, -, -⟩, -⟩ := h
  have htrim := length_trimEnd_le before
  simp only [List.length_append, List.length_cons]
  omega

lemma IsModified.parse {raw : String} (h : IsModified raw.toList before after first second) :
    parse raw = modified before after first second := by
  rw [StoreType.parse, h.parseModified?, Option.getD_some]

lemma parse_of_not_isModified {raw : String}
    (h : ¬ ∃ before after first second, IsModified raw.toList before after first second) :
    parse raw = { baseName := raw, isUnicode := isCharacter raw.toList } := by
  rw [parse]
  cases hparse : parseModified? raw.toList with
  | none => rfl
  | some p => exact absurd (exists_isModified hparse) h

lemma IsModified.length_baseName_lt {raw : String} (h : IsModified raw.toList before after first second) :
    (StoreType.parse raw).baseName.length < raw.length := by
  rw [h.parse, modified, String.length_ofList, ← String.length_toList]
  exact h.length_lt

/-- The base name of a text is another one exactly where modifiers are read from the text. -/
lemma baseName_ne_iff (raw : String) : (parse raw).baseName ≠ raw ↔ (parse raw).hasModifiers = true := by
  by_cases h : ∃ before after first second, IsModified raw.toList before after first second
  · obtain ⟨before, after, first, second, h⟩ := h
    have hne : (parse raw).baseName ≠ raw := by
      intro hbase
      have hlt := h.length_baseName_lt
      rw [hbase] at hlt
      exact Nat.lt_irrefl _ hlt
    have hmodifiers : (parse raw).hasModifiers = true := by
      rw [h.parse]
      exact hasModifiers_modified before after first second
    exact ⟨fun _ => hmodifiers, fun _ => hne⟩
  · rw [parse_of_not_isModified h]
    exact ⟨fun hne => absurd rfl hne, nofun⟩

end Modified

/-- What a store type means. If its first parentheses hold one number or two, its base name is the text
around them, without the blanks before them, and the numbers are its facets. Otherwise its base name is the
whole text, and no facet is set. So the base name differs from the text exactly where a modifier is recorded,
and then it is strictly shorter. -/
theorem parse_meaning (raw : String) :
    (∀ before after first second, IsModified raw.toList before after first second →
      (parse raw).baseName = String.ofList (Text.trimEnd before ++ after) ∧
        (parse raw).facets false = facetsOf (Text.trimEnd before) first second) ∧
      ((¬ ∃ before after first second, IsModified raw.toList before after first second) →
        (parse raw).baseName = raw ∧ (parse raw).facets false = {}) ∧
      ((parse raw).baseName ≠ raw ↔ (parse raw).hasModifiers = true) ∧
      ((parse raw).hasModifiers = true → (parse raw).baseName.length < raw.length) := by
  refine ⟨?_, ?_, baseName_ne_iff raw, ?_⟩
  · intro before after first second h
    rw [h.parse]
    exact ⟨rfl, facets_modified before after first second⟩
  · intro h
    rw [parse_of_not_isModified h]
    exact ⟨rfl, rfl⟩
  · intro hmodifiers
    by_cases h : ∃ before after first second, IsModified raw.toList before after first second
    · obtain ⟨before, after, first, second, h⟩ := h
      exact h.length_baseName_lt
    · rw [parse_of_not_isModified h] at hmodifiers
      cases hmodifiers

end SqlBridge.StoreType
