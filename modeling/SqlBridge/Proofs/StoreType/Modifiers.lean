import Mathlib.Data.List.TakeWhile
import SqlBridge.Proofs.Sql.Number
import SqlBridge.Proofs.StoreType.Grammar
import SqlBridge.Proofs.StoreType.Naming
import SqlBridge.Proofs.Text.LetterCase

/-!
# Reading modifiers back

A name with modifiers folded into it is split into that name and those numbers again. The numbers alone
do not tell what they are: a single one is a precision or a size by the name that it stands behind.
-/

namespace SqlBridge

namespace Facets

/-- The part of a name that modifiers stand behind. -/
def stem (name : String) : List Char :=
  if isZoned name then name.toList.takeWhile (· != ' ') else name.toList

/-- The part of a name that stands behind modifiers. -/
def ending (name : String) : List Char :=
  if isZoned name then name.toList.dropWhile (· != ' ') else []

/-- A name in small letters from which modifiers can be told: it has no parentheses of its own, and no
blank stands before them. -/
def IsClean (name : String) : Prop :=
  '(' ∉ name.toList ∧ Text.trimEnd (stem name) = stem name ∧
    ∀ c ∈ name.toList, (c.toLower == c) = true

instance (name : String) : Decidable (IsClean name) :=
  -- along the list: a test of all characters never ends
  have : Decidable (∀ c ∈ name.toList, (c.toLower == c) = true) := List.decidableBAll _ _
  inferInstanceAs (Decidable (_ ∧ _ ∧ _))

/-- The modifiers that are read from the name with these modifiers folded into it. -/
def readBack (f : Facets) (name : String) (fixedLength : Bool) : Facets :=
  match f.numbers with
  | [] => { fixedLength }
  | [n] =>
    if StoreType.takesPrecision (stem name) then { precision := some n, fixedLength }
    else { size := some n, fixedLength }
  | n :: scale :: _ => { precision := some n, scale := some scale, fixedLength }

variable {f : Facets} {name : String}

lemma stem_append_ending (name : String) : stem name ++ ending name = name.toList := by
  rw [stem, ending]
  by_cases hz : isZoned name = true
  · rw [if_pos hz, if_pos hz, List.takeWhile_append_dropWhile]
  · rw [if_neg hz, if_neg hz, List.append_nil]

lemma toList_applyTo (f : Facets) (name : String) :
    (f.applyTo name).toList = stem name ++ (f.modifier.toList ++ ending name) := by
  rw [applyTo, stem, ending]
  by_cases hz : isZoned name = true
  · simp only [if_pos hz, String.toList_append, String.toList_ofList, List.append_assoc]
  · simp only [if_neg hz, String.toList_append, List.append_nil]

/-- What is written is one number or two. -/
lemma exists_numbers (h : f.numbers ≠ []) :
    ∃ first second, f.numbers = first :: Option.toList second := by
  obtain ⟨size, precision, scale, fixedLength⟩ := f
  cases size with
  | some size => exact ⟨size, none, rfl⟩
  | none =>
    cases precision with
    | some precision => exact ⟨precision, scale, rfl⟩
    | none => exact absurd rfl h

/-- The numbers that are written in parentheses. -/
def inside (first : UInt32) (second : Option UInt32) : List Char :=
  Nat.toDigits 10 first.toNat ++ (second.map fun n => ',' :: Nat.toDigits 10 n.toNat).getD []

lemma toList_modifier {first : UInt32} {second : Option UInt32}
    (h : f.numbers = first :: second.toList) :
    f.modifier.toList = '(' :: (inside first second ++ [')']) := by
  rw [modifier, h]
  cases second with
  | none => simp [inside]
  | some second => simp [inside, String.intercalate_cons_cons]

/-- What holds of the characters of a name, of digits and of the marks around them holds of the
characters of the name with modifiers. -/
lemma forall_mem_applyTo {p : Char → Bool} (hname : ∀ c ∈ name.toList, p c = true)
    (hmarks : ∀ c ∈ ['(', ',', ')'], p c = true) (hdigits : ∀ c, c.isDigit = true → p c = true)
    (f : Facets) : ∀ c ∈ (f.applyTo name).toList, p c = true := by
  have hmodifier : ∀ c ∈ f.modifier.toList, p c = true := by
    by_cases h : f.numbers = []
    · intro c hc
      rw [modifier, h] at hc
      cases hc
    · obtain ⟨first, second, hnumbers⟩ := exists_numbers h
      rw [toList_modifier hnumbers, inside]
      have hfirst : ∀ {n : Nat}, ∀ c ∈ Nat.toDigits 10 n, p c = true :=
        fun c hc => hdigits c ((Sql.isDigits_toDigits _).2 c hc)
      cases second <;> grind
  rw [← stem_append_ending name] at hname
  rw [toList_applyTo]
  grind

/-- A name in small letters stays as it is with modifiers. -/
lemma IsClean.lower_applyTo (hname : IsClean name) (f : Facets) :
    Text.lower (f.applyTo name) = f.applyTo name := by
  have hmarks : ∀ c ∈ ['(', ',', ')'], (c.toLower == c) = true := List.all_eq_true.1 (by decide)
  apply Text.lower_eq
  exact forall_mem_applyTo hname.2.2 hmarks (fun c hc => beq_iff_eq.2 (Text.toLower_of_isDigit hc)) f

lemma mem_applyTo (h : f.numbers ≠ []) (name : String) : '(' ∈ (f.applyTo name).toList := by
  obtain ⟨first, second, hnumbers⟩ := exists_numbers h
  rw [toList_applyTo, toList_modifier hnumbers]
  simp

/-- The text of the modifiers tells what they are: there are none, or a single size or precision that
the name is read with, or a precision with a scale. -/
def IsSpelled (f : Facets) (name : String) : Prop :=
  match f.size, f.precision, f.scale with
  | none, none, none => True
  | some _, none, none => StoreType.takesPrecision (stem name) = false
  | none, some _, none => StoreType.takesPrecision (stem name) = true
  | none, some _, some _ => True
  | _, _, _ => False

/-- The same size, precision and scale. -/
def SameNumbers (f g : Facets) : Prop :=
  f.size = g.size ∧ f.precision = g.precision ∧ f.scale = g.scale

lemma numbers_readBack (f : Facets) (name : String) (fixedLength : Bool) :
    (f.readBack name fixedLength).numbers = f.numbers := by
  by_cases h : f.numbers = []
  · rw [readBack, h]
    rfl
  · obtain ⟨first, second, hnumbers⟩ := exists_numbers h
    rw [readBack, hnumbers]
    cases second with
    | some scale => rfl
    | none =>
      simp only [Option.toList_none]
      split <;> rfl

end Facets

namespace StoreType

open Facets

variable {f : Facets} {name : String}

/-! ## Numbers -/

lemma spells_toDigits (n : UInt32) : Spells n (Nat.toDigits 10 n.toNat) where
  nonempty := Nat.toDigits_ne_nil
  isDigit := (Sql.isDigits_toDigits n.toNat).2
  value := Nat.ofDigitChars_ten_toDigits

lemma spellsModifiers_inside (first : UInt32) (second : Option UInt32) :
    SpellsModifiers (inside first second) first second := by
  have hgap : Text.IsGap [] := nofun
  cases second with
  | none => exact .one hgap (spells_toDigits first) hgap
  | some scale =>
    have hspells := SpellsModifiers.two hgap (spells_toDigits first) hgap hgap (spells_toDigits scale) hgap
    simpa [inside] using hspells

lemma not_mem_inside (first : UInt32) (second : Option UInt32) : ')' ∉ inside first second := by
  have hdigits : ∀ {n : Nat}, ')' ∉ Nat.toDigits 10 n :=
    fun hmem => absurd ((Sql.isDigits_toDigits _).2 _ hmem) (by decide)
  rw [inside, List.mem_append]
  rintro (hmem | hmem)
  · exact hdigits hmem
  · cases second with
    | none => cases hmem
    | some second =>
      rcases List.mem_cons.1 hmem with e | hmem
      · cases e
      · exact hdigits hmem

/-! ## Names -/

/-- A name without parentheses has no modifiers in it. -/
lemma parse_of_not_mem {name : String} (h : '(' ∉ name.toList) : (parse name).baseName = name := by
  rw [parse_of_not_isModified]
  rintro ⟨before, after, first, second, inside, ⟨heq, -, -⟩, -⟩
  apply h
  rw [heq]
  simp

/-- Modifiers that are folded into a name without parentheses are the first ones in the text, with the two
parts of the name around them. -/
lemma isModified_applyTo {first : UInt32} {second : Option UInt32} (hparen : '(' ∉ name.toList)
    (hnumbers : f.numbers = first :: second.toList) :
    IsModified (f.applyTo name).toList (stem name) (ending name) first second := by
  have hstem : '(' ∉ stem name := by
    intro hmem
    apply hparen
    rw [← stem_append_ending name]
    exact List.mem_append_left _ hmem
  have htext : (f.applyTo name).toList =
      stem name ++ '(' :: (inside first second ++ ')' :: ending name) := by
    rw [toList_applyTo, toList_modifier hnumbers]
    simp
  exact ⟨inside first second, ⟨htext, hstem, not_mem_inside first second⟩,
    spellsModifiers_inside first second⟩

/-- A name with modifiers folded into it is read as the name and the modifiers. -/
theorem parse_applyTo (hname : IsClean name) (hf : f.numbers ≠ []) :
    (parse (f.applyTo name)).baseName = name ∧
      ∀ fixedLength, (parse (f.applyTo name)).facets fixedLength = f.readBack name fixedLength := by
  obtain ⟨first, second, hnumbers⟩ := exists_numbers hf
  obtain ⟨hparen, htrim, -⟩ := hname
  rw [(isModified_applyTo hparen hnumbers).parse, modified, htrim, stem_append_ending,
    String.ofList_toList]
  refine ⟨rfl, fun fixedLength => ?_⟩
  simp only [ParsedStoreType.facets, readBack, hnumbers]
  cases second with
  | some scale => rfl
  | none =>
    by_cases hp : takesPrecision (stem name) = true
    · simp only [facetsOf, if_pos hp, Option.toList_none]
    · simp only [facetsOf, if_neg hp, Option.toList_none]

lemma numbers_facetsOf (before : List Char) (first : UInt32) (second : Option UInt32) :
    (facetsOf before first second).numbers = first :: second.toList := by
  cases second with
  | some scale => rfl
  | none =>
    rw [facetsOf]
    split <;> rfl

/-- Reading a store type undoes folding modifiers into a name, whatever the name is, as long as it has no
parenthesis and no blank right before the place of the modifiers. The base name is that name. The first number
is the size, or else the precision; the second one is the scale where there is no size; and they are recorded as
facets that say the same numbers. -/
theorem parse_folded {first : UInt32} (hparen : '(' ∉ name.toList)
    (hblank : ∀ c ∈ (stem name).getLast?, Text.isBlank c = false)
    (hfirst : (f.size <|> f.precision) = some first) :
    (parse (f.applyTo name)).baseName = name ∧
      (parse (f.applyTo name)).facets false =
        facetsOf (stem name) first (if f.size.isSome then none else f.scale) ∧
      ((parse (f.applyTo name)).facets false).numbers =
        first :: (if f.size.isSome then none else f.scale).toList := by
  have hnumbers : f.numbers = first :: (if f.size.isSome then none else f.scale).toList := by
    obtain ⟨size, precision, scale, fixedLength⟩ := f
    cases size with
    | some size =>
      cases hfirst
      rfl
    | none =>
      cases hfirst
      rfl
  have htrim : Text.trimEnd (stem name) = stem name := Text.trimEnd_eq hblank
  rw [(isModified_applyTo hparen hnumbers).parse, facets_modified, htrim, numbers_facetsOf]
  refine ⟨?_, rfl, rfl⟩
  rw [modified, htrim, stem_append_ending, String.ofList_toList]

/-- The largest precision with a scale goes behind the first of three words before the time zone, and letters
of any alphabet stay. -/
theorem parse_folded_of_words :
    '(' ∉ "Größe zu Ort with time zone".toList ∧
    (∀ c ∈ (stem "Größe zu Ort with time zone").getLast?, Text.isBlank c = false) ∧
    ({ precision := some 4294967295, scale := some 0 } : Facets).applyTo "Größe zu Ort with time zone" =
      "Größe(4294967295,0) zu Ort with time zone" ∧
    (parse "Größe(4294967295,0) zu Ort with time zone").baseName = "Größe zu Ort with time zone" ∧
    (parse "Größe(4294967295,0) zu Ort with time zone").facets false =
      { precision := some 4294967295, scale := some 0 } := by
  have hparen : '(' ∉ "Größe zu Ort with time zone".toList := by decide
  have hlast : (stem "Größe zu Ort with time zone").getLast? = some 'e' := by decide
  have hblank : ∀ c ∈ (stem "Größe zu Ort with time zone").getLast?, Text.isBlank c = false := by
    rw [hlast]
    rintro _ ⟨⟩
    rfl
  have htext : ({ precision := some 4294967295, scale := some 0 } : Facets).applyTo
      "Größe zu Ort with time zone" = "Größe(4294967295,0) zu Ort with time zone" := by
    decide
  obtain ⟨hbase, hfacets, -⟩ := parse_folded
    (f := { precision := some 4294967295, scale := some 0 }) hparen hblank rfl
  rw [htext] at hbase hfacets
  exact ⟨hparen, hblank, htext, hbase, hfacets⟩

end StoreType

end SqlBridge
