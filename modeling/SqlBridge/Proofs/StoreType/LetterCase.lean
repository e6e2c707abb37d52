import SqlBridge.Proofs.StoreType.Grammar
import SqlBridge.Proofs.Text.LetterCase

/-!
# Store types in small letters

Reading a store type goes by marks, digits and blanks, and by names in any letter case. So a store type in
small letters is split where the store type is, with the same modifiers, and its base name is in small
letters.
-/

namespace SqlBridge.StoreType

open Text (IsCaseless isCaseless)

/-! ## Numbers -/

lemma readModifier?_map_toLower (cs : List Char) :
    readModifier? (cs.map Char.toLower) =
      (readModifier? cs).map fun p => (p.1, p.2.map Char.toLower) := by
  have hdigits : ∀ cs : List Char, (cs.takeWhile Char.isDigit).map Char.toLower =
      cs.takeWhile Char.isDigit := by
    intro cs
    have hrun := Text.isRun_span Char.isDigit cs
    rw [List.map_congr_left fun c hc => Text.toLower_of_isDigit (hrun.all c hc), List.map_id']
  have hspaces : ∀ cs : List Char, Text.skipSpaces (cs.map Char.toLower) =
      (Text.skipSpaces cs).map Char.toLower :=
    Text.isCaseless_isSpaceOrTab.dropWhile
  rw [readModifier?, readModifier?, hspaces, Text.isCaseless_isDigit.takeWhile,
    Text.isCaseless_isDigit.dropWhile, hdigits, hspaces, Option.map_map]
  rfl

lemma readModifiers?_map_toLower (cs : List Char) :
    readModifiers? (cs.map Char.toLower) = readModifiers? cs := by
  rw [readModifiers?, readModifiers?, readModifier?_map_toLower]
  cases readModifier? cs with
  | none => rfl
  | some p =>
    obtain ⟨first, rest⟩ := p
    simp only [Option.map_some, Option.bind_eq_bind, Option.bind_some]
    cases rest with
    | nil => rfl
    | cons mark rest =>
      have hmark : mark.toLower = ',' ↔ mark = ',' := Text.toLower_eq_iff (by decide)
      simp only [List.map_cons, hmark, readModifier?_map_toLower]
      split
      · cases readModifier? rest with
        | none => rfl
        | some p => simp
      · rfl

/-! ## Names -/

lemma splitParentheses?_map_toLower (cs : List Char) :
    splitParentheses? (cs.map Char.toLower) = (splitParentheses? cs).map fun p =>
      (p.1.map Char.toLower, p.2.1.map Char.toLower, p.2.2.map Char.toLower) := by
  have hopen : IsCaseless (· != '(') := isCaseless (by decide)
  have hclose : IsCaseless (· != ')') := isCaseless (by decide)
  rw [splitParentheses?, splitParentheses?, hopen.dropWhile, hopen.takeWhile]
  cases cs.dropWhile (· != '(') with
  | nil => rfl
  | cons c tail =>
    simp only [List.map_cons, hclose.dropWhile, hclose.takeWhile]
    cases tail.dropWhile (· != ')') with
    | nil => rfl
    | cons c after => rfl

lemma takesPrecision_map_toLower (name : List Char) :
    takesPrecision (name.map Char.toLower) = takesPrecision name := by
  rw [takesPrecision, Text.trim_map_toLower, Text.map_toLower_map_toLower, takesPrecision]

/-- Brackets in small letters are brackets already. -/
lemma brackets_of_map_toLower {cs rest : List Char} (h : cs.map Char.toLower = ']' :: '[' :: rest) :
    ∃ rest', cs = ']' :: '[' :: rest' := by
  obtain ⟨c, cs, rfl, hc, h⟩ := List.map_eq_cons_iff.1 h
  obtain ⟨c', rest', rfl, hc', -⟩ := List.map_eq_cons_iff.1 h
  rw [Text.toLower_eq_iff (by decide)] at hc hc'
  exact ⟨rest', by rw [hc, hc']⟩

lemma dropBrackets_map_toLower (cs : List Char) :
    dropBrackets (cs.map Char.toLower) = (dropBrackets cs).map Char.toLower := by
  fun_induction dropBrackets cs with
  | case1 rest ih => exact ih
  | case2 cs hother =>
    refine dropBrackets.eq_2 _ fun rest hrest => ?_
    obtain ⟨rest', hcs⟩ := brackets_of_map_toLower hrest
    exact hother rest' hcs

lemma isCharacter_map_toLower (name : List Char) :
    isCharacter (name.map Char.toLower) = isCharacter name := by
  rw [isCharacter, Text.trim_map_toLower, ← List.map_reverse, dropBrackets_map_toLower,
    ← List.map_reverse, Text.map_toLower_map_toLower, isCharacter]

/-- A text with modifiers is read in small letters as it is, but for its base name. -/
lemma parseModified?_map_toLower (cs : List Char) :
    parseModified? (cs.map Char.toLower) =
      (parseModified? cs).map fun p => { p with baseName := Text.lower p.baseName } := by
  rw [parseModified?, parseModified?, splitParentheses?_map_toLower]
  cases splitParentheses? cs with
  | none => rfl
  | some p =>
    obtain ⟨before, inside, after⟩ := p
    simp only [Option.map_some, Option.bind_eq_bind, Option.bind_some, readModifiers?_map_toLower]
    cases readModifiers? inside with
    | none => rfl
    | some m =>
      obtain ⟨first, second⟩ := m
      have hbase : ∀ base : List Char,
          String.ofList (base.map Char.toLower) = Text.lower (String.ofList base) :=
        fun base => by rw [Text.lower, String.toList_ofList]
      simp only [Option.bind_some, Text.trimEnd_map_toLower, ← List.map_append, hbase,
        isCharacter_map_toLower, takesPrecision_map_toLower]
      cases second with
      | some scale => simp only [Option.map_some]
      | none =>
        simp only
        by_cases hp : takesPrecision (Text.trimEnd before) = true
        · simp only [if_pos hp, Option.map_some]
        · simp only [if_neg hp, Option.map_some]

/-- A store type in small letters is read as the store type, but for its base name, which is in small letters,
too. -/
theorem parse_lower (s : String) :
    parse (Text.lower s) = { parse s with baseName := Text.lower (parse s).baseName } := by
  rw [parse, parse, Text.toList_lower, parseModified?_map_toLower, isCharacter_map_toLower]
  cases parseModified? s.toList with
  | none => simp only [Option.map_none, Option.getD_none]
  | some p => simp only [Option.map_some, Option.getD_some]

lemma baseName_parse_lower (s : String) :
    (parse (Text.lower s)).baseName = Text.lower (parse s).baseName := by
  rw [parse_lower]

lemma size_parse_lower (s : String) : (parse (Text.lower s)).size = (parse s).size := by
  rw [parse_lower]

lemma facets_parse_lower (s : String) : (parse (Text.lower s)).facets = (parse s).facets := by
  rw [parse_lower]
  generalize parse s = parsed
  rfl

/-- A store type in small letters is its own base name exactly if the store type is. -/
lemma baseName_parse_lower_eq_iff (s : String) :
    (parse (Text.lower s)).baseName = Text.lower s ↔ (parse s).baseName = s := by
  have hmodifiers : (parse (Text.lower s)).hasModifiers = (parse s).hasModifiers := by
    rw [parse_lower]
    generalize parse s = parsed
    rfl
  rw [← Decidable.not_iff_not, ← Ne, ← Ne, baseName_ne_iff, baseName_ne_iff, hmodifiers]

end SqlBridge.StoreType
