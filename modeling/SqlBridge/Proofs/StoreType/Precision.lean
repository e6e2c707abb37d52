import SqlBridge.Proofs.StoreType.Modifiers

/-!
# Names with a precision

The names whose single modifier is a precision, in any letter case: the words for numbers, times and intervals,
and the words for times with a phrase about the zone behind them. A modifier behind the first word is read as a
precision. Behind the whole name it is so only where the name is one word: behind a phrase about the zone the same
number is read as a size.
-/

namespace SqlBridge.StoreType

open Facets (zoneEndings)
open Text (IsGap)

/-- The words that a phrase about the zone can stand behind. -/
def zonedWords : List String := ["time", "timestamp"]

/-- A word and a phrase behind it, in any letter case, whose single modifier is a precision. -/
def IsPrecisionName (word phrase : String) : Prop :=
  (Text.lower word ∈ precisionNames ∧ phrase = "") ∨
    (Text.lower word ∈ zonedWords ∧ Text.lower phrase ∈ zoneEndings)

/-- A number alone in parentheses, with blanks before them and gaps inside. -/
inductive SpellsSingle (n : UInt32) : List Char → Prop
  | parentheses {b c digits c' : List Char} :
    (∀ d ∈ b, Text.isBlank d = true) → IsGap c → Spells n digits → IsGap c' →
    SpellsSingle n (b ++ '(' :: (c ++ (digits ++ c') ++ [')']))

/-! ## Words and phrases -/

lemma mem_precisionNames_of_zonedWords {word : String} (h : word ∈ zonedWords) : word ∈ precisionNames := by
  revert h word
  decide

/-- The words with a precision hold neither parentheses nor blanks. -/
lemma plain_of_mem_precisionNames {word : String} (h : Text.lower word ∈ precisionNames) :
    word.toList ≠ [] ∧ '(' ∉ word.toList ∧ ∀ c ∈ word.toList, Text.isBlank c = false := by
  have hall : ∀ name ∈ precisionNames, name.toList ≠ [] ∧ '(' ∉ name.toList ∧
      name.toList.all (fun c => !Text.isBlank c) = true := by
    decide
  obtain ⟨hne, hparen, hblank⟩ := hall _ h
  refine ⟨?_, fun hmem => hparen (Text.mem_lower rfl hmem), fun c hc => ?_⟩
  · intro e
    rw [Text.toList_lower, e] at hne
    exact hne rfl
  -- a blank stays what it is in small letters
  · rw [Bool.eq_false_iff]
    intro hc'
    have hlower := List.all_eq_true.1 hblank c (Text.mem_lower (Text.toLower_of_isBlank hc') hc)
    rw [hc'] at hlower
    cases hlower

/-- The phrases about the zone hold no parentheses and end in a letter. -/
lemma plain_of_mem_zoneEndings {phrase : String} (h : Text.lower phrase ∈ zoneEndings) :
    phrase ≠ "" ∧ '(' ∉ phrase.toList ∧ ∃ c, phrase.toList.getLast? = some c ∧ Text.isBlank c = false := by
  have hall : ∀ ending ∈ zoneEndings, '(' ∉ ending.toList ∧ ending.toList.getLast? = some 'e' := by
    decide
  obtain ⟨hparen, hlast⟩ := hall _ h
  rw [Text.toList_lower, List.getLast?_map, Option.map_eq_some_iff] at hlast
  obtain ⟨c, hc, hlower⟩ := hlast
  refine ⟨?_, fun hmem => hparen (Text.mem_lower rfl hmem), c, hc, ?_⟩
  · rintro rfl
    cases hc
  · rw [Bool.eq_false_iff]
    intro hblank
    rw [Text.toLower_of_isBlank hblank] at hlower
    rw [hlower] at hblank
    cases hblank

/-- A name with a phrase about the zone is not among those that are looked up. -/
lemma takesPrecision_iff {word phrase : String} (h : IsPrecisionName word phrase) :
    takesPrecision (word ++ phrase).toList = true ↔ phrase = "" := by
  have hpair : ∀ name ∈ zonedWords, ∀ ending ∈ zoneEndings, name ++ ending ∉ precisionNames := by
    decide
  rw [takesPrecision, List.contains_iff_mem]
  rcases h with ⟨hword, rfl⟩ | ⟨hword, hphrase⟩
  · obtain ⟨-, -, hblank⟩ := plain_of_mem_precisionNames hword
    rw [String.append_empty, Text.trim_eq (fun c hc => hblank c (List.mem_of_mem_head? hc))
      (fun c hc => hblank c (List.mem_of_mem_getLast? hc))]
    exact iff_of_true hword rfl
  · obtain ⟨hne, -, hblank⟩ := plain_of_mem_precisionNames (mem_precisionNames_of_zonedWords hword)
    obtain ⟨hphrase', -, c, hlast, hc⟩ := plain_of_mem_zoneEndings hphrase
    have htrim : Text.trim (word ++ phrase).toList = (word ++ phrase).toList := by
      rw [String.toList_append]
      apply Text.trim_eq
      · rw [List.head?_append_of_ne_nil _ hne]
        exact fun c hc => hblank c (List.mem_of_mem_head? hc)
      · rw [List.getLast?_append, hlast]
        rintro _ ⟨⟩
        exact hc
    rw [htrim]
    refine iff_of_false ?_ hphrase'
    rw [← Text.lower, Text.lower_append]
    exact hpair _ hword _ hphrase

/-! ## A single modifier -/

/-- A single number behind a name is read by the name, whatever stands behind the parentheses. -/
lemma parse_single {n : UInt32} {name m after : List Char} (hm : SpellsSingle n m) (hparen : '(' ∉ name)
    (hblank : ∀ c ∈ name.getLast?, Text.isBlank c = false) :
    (parse (String.ofList (name ++ (m ++ after)))).baseName = String.ofList (name ++ after) ∧
      (parse (String.ofList (name ++ (m ++ after)))).facets false = facetsOf name n none := by
  obtain ⟨hb, hc, hdigits, hc'⟩ := hm
  rename_i b c digits c'
  have hopen : '(' ∉ name ++ b := by
    rw [List.mem_append, not_or]
    exact ⟨hparen, fun hmem => Bool.noConfusion (hb _ hmem)⟩
  have hclose : ')' ∉ c ++ (digits ++ c') := by
    simp only [List.mem_append, not_or]
    exact ⟨fun hmem => Bool.noConfusion (hc _ hmem), fun hmem => Bool.noConfusion (hdigits.isDigit _ hmem),
      fun hmem => Bool.noConfusion (hc' _ hmem)⟩
  have hmodified : IsModified (String.ofList (name ++ (b ++ '(' :: (c ++ (digits ++ c') ++ [')']) ++ after))).toList
      (name ++ b) after n none := by
    refine ⟨c ++ (digits ++ c'), ⟨?_, hopen, hclose⟩, .one hc hdigits hc'⟩
    simp
  have htrim : Text.trimEnd (name ++ b) = name := Text.trimEnd_append hblank hb
  rw [hmodified.parse, facets_modified, htrim]
  exact ⟨by rw [modified, htrim], rfl⟩

/-- A number behind the first word of a name with a precision is read as a precision and nothing else, whatever
stands behind the parentheses: blanks, the phrase about the zone, brackets. A number behind the whole name is a
precision exactly where the name is one word; behind a phrase about the zone it is a size. -/
theorem facets_of_precisionName {word phrase : String} {n : UInt32} {m : List Char}
    (hname : IsPrecisionName word phrase) (hm : SpellsSingle n m) (after : List Char) :
    (parse (String.ofList (word.toList ++ (m ++ after)))).facets false = { precision := some n } ∧
      (parse (String.ofList ((word ++ phrase).toList ++ (m ++ after)))).facets false =
        if phrase = "" then { precision := some n } else { size := some n } := by
  have hword : Text.lower word ∈ precisionNames := by
    rcases hname with ⟨hword, -⟩ | ⟨hword, -⟩
    · exact hword
    · exact mem_precisionNames_of_zonedWords hword
  obtain ⟨-, hparen, hblank⟩ := plain_of_mem_precisionNames hword
  have hlast : ∀ c ∈ word.toList.getLast?, Text.isBlank c = false :=
    fun c hc => hblank c (List.mem_of_mem_getLast? hc)
  have hfirst : takesPrecision word.toList = true := by
    have hsingle : IsPrecisionName word "" := .inl ⟨hword, rfl⟩
    have htakes := (takesPrecision_iff hsingle).2 rfl
    rwa [String.append_empty] at htakes
  refine ⟨?_, ?_⟩
  · rw [(parse_single hm hparen hlast).2, facetsOf, if_pos hfirst]
  · have hwhole : '(' ∉ (word ++ phrase).toList ∧
        ∀ c ∈ (word ++ phrase).toList.getLast?, Text.isBlank c = false := by
      rcases hname with ⟨-, rfl⟩ | ⟨-, hphrase⟩
      · rw [String.append_empty]
        exact ⟨hparen, hlast⟩
      · obtain ⟨-, hparen', c, hc, hc'⟩ := plain_of_mem_zoneEndings hphrase
        rw [String.toList_append, List.mem_append, not_or, List.getLast?_append, hc]
        refine ⟨⟨hparen, hparen'⟩, ?_⟩
        rintro _ ⟨⟩
        exact hc'
    rw [(parse_single hm hwhole.1 hwhole.2).2, facetsOf]
    by_cases hphrase : phrase = ""
    · rw [if_pos ((takesPrecision_iff hname).2 hphrase), if_pos hphrase]
    · rw [if_neg fun h => hphrase ((takesPrecision_iff hname).1 h), if_neg hphrase]

/-- Capitals, a tab before the parentheses and brackets behind them change nothing. -/
theorem facets_of_precisionName_of_zone :
    IsPrecisionName "TimeStamp" " WITH Time Zone" ∧ SpellsSingle 3 "\t( 3 )".toList ∧
      (parse "TimeStamp\t( 3 ) WITH Time Zone[]").facets false = { precision := some 3 } ∧
      (parse "TimeStamp WITH Time Zone\t( 3 )[]").facets false = { size := some 3 } := by
  have hname : IsPrecisionName "TimeStamp" " WITH Time Zone" := by
    refine .inr ⟨?_, ?_⟩ <;> decide
  have hblank : ∀ c ∈ ['\t'], Text.isBlank c = true := List.forall_mem_singleton.2 rfl
  have hgap : IsGap [' '] := List.forall_mem_singleton.2 rfl
  have hm : SpellsSingle 3 "\t( 3 )".toList := .parentheses hblank hgap (spells_toDigits 3) hgap
  exact ⟨hname, hm, (facets_of_precisionName hname hm " WITH Time Zone[]".toList).1,
    (facets_of_precisionName hname hm "[]".toList).2⟩

/-- A time with a zone of three digits: behind the whole name, its precision is taken for a size. -/
theorem size_of_zonedTime :
    IsPrecisionName "time" " with time zone" ∧ SpellsSingle 3 "(3)".toList ∧
      parse "time with time zone(3)" = { baseName := "time with time zone", size := some 3 } ∧
      parse "time(3) with time zone" = { baseName := "time with time zone", precision := some 3 } := by
  have hblank : ∀ c ∈ [], Text.isBlank c = true := nofun
  have hgap : IsGap [] := nofun
  have hm : SpellsSingle 3 "(3)".toList := .parentheses hblank hgap (spells_toDigits 3) hgap
  exact ⟨.inr ⟨by decide, by decide⟩, hm, by decide, by decide⟩

end SqlBridge.StoreType
