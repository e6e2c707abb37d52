import Mathlib.Tactic.Lemma
import SqlBridge.Text.Blank
import SqlBridge.Text.Numeral

/-!
# Runs of characters

A text comes apart into the run of all characters of a kind that it starts with and a rest that does not go
on with that kind. Readers take names, numbers and blanks as such runs.
-/

namespace SqlBridge.Text

variable {p : Char → Bool} {cs run rest : List Char} {mark : Char}

/-- The characters of a kind that a text starts with, all of them, and what comes after them. -/
structure IsRun (p : Char → Bool) (run rest : List Char) : Prop where
  all : ∀ c ∈ run, p c = true
  stops : ∀ c ∈ rest.head?, p c = false

/-- Spaces and tabs, or nothing. -/
def IsGap (b : List Char) : Prop :=
  ∀ c ∈ b, isSpaceOrTab c = true

/-- A run ends at once before what does not belong to it. -/
lemma span_of_head (h : ∀ c ∈ cs.head?, p c = false) : cs.takeWhile p = [] ∧ cs.dropWhile p = cs := by
  cases cs with
  | nil => exact ⟨rfl, rfl⟩
  | cons c cs =>
    have hc : ¬ p c = true := Bool.eq_false_iff.1 (h c rfl)
    exact ⟨List.takeWhile_cons_of_neg hc, List.dropWhile_cons_of_neg hc⟩

lemma IsRun.takeWhile (h : IsRun p run rest) : (run ++ rest).takeWhile p = run := by
  rw [List.takeWhile_append_of_pos h.all, (span_of_head h.stops).1, List.append_nil]

lemma IsRun.dropWhile (h : IsRun p run rest) : (run ++ rest).dropWhile p = rest := by
  rw [List.dropWhile_append_of_pos h.all, (span_of_head h.stops).2]

lemma isRun_span (p : Char → Bool) (cs : List Char) : IsRun p (cs.takeWhile p) (cs.dropWhile p) where
  all := List.all_eq_true.1 List.all_takeWhile
  stops c hc := by
    have hhead := List.head?_dropWhile_not p cs
    rw [hc] at hhead
    exact hhead

/-- A number is read from one digit or more, and from nothing else. -/
lemma readNat?_eq_some {n : Nat} :
    readNat? cs = some n ↔ cs ≠ [] ∧ (∀ c ∈ cs, c.isDigit = true) ∧ Nat.ofDigitChars 10 cs 0 = n := by
  rw [readNat?]
  split
  · rename_i h
    rw [Bool.or_eq_true, List.isEmpty_iff, Bool.not_eq_true', List.all_eq_false] at h
    refine iff_of_false nofun ?_
    rintro ⟨hne, hdigits, -⟩
    rcases h with hnil | ⟨c, hc, hdigit⟩
    · exact hne hnil
    · exact hdigit (hdigits c hc)
  · rename_i h
    rw [Bool.or_eq_true, List.isEmpty_iff, Bool.not_eq_true', not_or, Bool.not_eq_false, List.all_eq_true] at h
    rw [Option.some.injEq]
    exact ⟨fun hn => ⟨h.1, h.2, hn⟩, fun hn => hn.2.2⟩

/-! ## Blanks and marks -/

lemma isBlank_of_isAlphanum {c : Char} (h : c.isAlphanum = true) : isBlank c = false := by
  have hrange : 48 ≤ c.toNat ∧ c.toNat ≤ 122 := by
    change ((decide (65 ≤ c.val ∧ c.val ≤ 90) || (decide (97 ≤ c.val) && decide (c.val ≤ 122))) ||
      (decide (48 ≤ c.val) && decide (c.val ≤ 57))) = true at h
    simp only [Bool.or_eq_true, Bool.and_eq_true, decide_eq_true_eq, UInt32.le_iff_toNat_le, Char.toNat_val,
      UInt32.reduceToNat] at h
    omega
  simp [isBlank]
  omega

/-- A text is a gap and what is left of it without leading spaces and tabs. -/
lemma exists_gap (cs : List Char) : ∃ b, IsGap b ∧ cs = b ++ skipSpaces cs :=
  ⟨cs.takeWhile isSpaceOrTab, (isRun_span isSpaceOrTab cs).all, List.takeWhile_append_dropWhile.symm⟩

lemma skipSpaces_gap {b : List Char} (hb : IsGap b) (h : ∀ c ∈ rest.head?, isSpaceOrTab c = false) :
    skipSpaces (b ++ rest) = rest :=
  IsRun.dropWhile ⟨hb, h⟩

lemma expect?_eq_some : expect? mark cs = some rest ↔ cs = mark :: rest := by
  cases cs with
  | nil => simp [expect?]
  | cons c cs => simp [expect?]

section

variable (hspace : p ' ' = false) (htab : p '\t' = false)
include hspace htab

lemma eq_false_of_isSpaceOrTab {c : Char} (h : isSpaceOrTab c = true) : p c = false := by
  have hc : c = ' ' ∨ c = '\t' := by simpa [isSpaceOrTab] using h
  rcases hc with rfl | rfl
  · exact hspace
  · exact htab

lemma isSpaceOrTab_eq_false {c : Char} (h : p c = true) : isSpaceOrTab c = false := by
  rw [Bool.eq_false_iff]
  intro hgap
  rw [eq_false_of_isSpaceOrTab hspace htab hgap] at h
  cases h

/-- A text after a gap starts with a kind that is not of blanks only where the text itself does. -/
lemma head?_gap {b : List Char} (hb : IsGap b) (hrest : ∀ c ∈ rest.head?, p c = false) :
    ∀ c ∈ (b ++ rest).head?, p c = false := by
  cases b with
  | nil => exact hrest
  | cons d b =>
    rintro c ⟨⟩
    exact eq_false_of_isSpaceOrTab hspace htab (hb d List.mem_cons_self)

end

/-! ## Trimming -/

lemma trimEnd_eq (h : ∀ c ∈ cs.getLast?, isBlank c = false) : trimEnd cs = cs := by
  rw [← List.head?_reverse] at h
  rw [trimEnd, (span_of_head h).2, List.reverse_reverse]

lemma trimEnd_append {b : List Char} (h : ∀ c ∈ cs.getLast?, isBlank c = false)
    (hb : ∀ c ∈ b, isBlank c = true) : trimEnd (cs ++ b) = cs := by
  rw [← List.head?_reverse] at h
  have hrun : IsRun isBlank b.reverse cs.reverse := ⟨fun c hc => hb c (List.mem_reverse.1 hc), h⟩
  rw [trimEnd, List.reverse_append, hrun.dropWhile, List.reverse_reverse]

lemma trim_eq (hstart : ∀ c ∈ cs.head?, isBlank c = false) (hend : ∀ c ∈ cs.getLast?, isBlank c = false) :
    trim cs = cs := by
  rw [trim, trimStart, (span_of_head hstart).2, trimEnd_eq hend]

end SqlBridge.Text
