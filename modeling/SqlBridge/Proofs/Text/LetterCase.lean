import Mathlib.Tactic.Lemma
import SqlBridge.Proofs.Text.Runs

/-!
# Letter case

Folding a text to small letters changes the capitals of ASCII and nothing else. A kind of characters that
holds none of them, in either case, is blind to it: runs of that kind, blanks and marks, stand where they
stood.
-/

namespace SqlBridge.Text

/-- The letters that folding changes. Kinds of characters are tested along this list, as a test of all
characters never ends. -/
def capitals : List Char :=
  "ABCDEFGHIJKLMNOPQRSTUVWXYZ".toList

/-- The kind does not tell small letters from capitals. -/
def IsCaseless (p : Char → Bool) : Prop :=
  ∀ c, p c.toLower = p c

variable {p : Char → Bool} {c mark : Char} {s : String}

/-! ## Characters -/

lemma mem_capitals_of_isUpper (h : c.isUpper = true) : c ∈ capitals := by
  have hall : ∀ n < 26, Char.ofNat (65 + n) ∈ capitals := by
    decide
  obtain ⟨hlow, hhigh⟩ : 65 ≤ c.toNat ∧ c.toNat ≤ 90 := of_decide_eq_true h
  have hmem := hall (c.toNat - 65) (by omega)
  rwa [Nat.add_sub_cancel' hlow, Char.ofNat_toNat] at hmem

lemma toLower_of_isUpper_eq_false (h : c.isUpper = false) : c.toLower = c :=
  dif_neg (of_decide_eq_false h)

/-- A character is folded to itself, or it is a capital. -/
lemma toLower_cases (c : Char) : c.toLower = c ∨ c ∈ capitals := by
  cases h : c.isUpper with
  | true => exact .inr (mem_capitals_of_isUpper h)
  | false => exact .inl (toLower_of_isUpper_eq_false h)

/-- Characters of a kind without capitals are folded to themselves. -/
lemma toLower_of_class (hp : capitals.all (fun c => !p c) = true) (h : p c = true) :
    c.toLower = c := by
  rcases toLower_cases c with e | hmem
  · exact e
  · have hno := List.all_eq_true.1 hp c hmem
    rw [h] at hno
    cases hno

lemma toLower_of_isBlank (h : isBlank c = true) : c.toLower = c :=
  toLower_of_class (by decide) h

lemma toLower_of_isDigit (h : c.isDigit = true) : c.toLower = c :=
  toLower_of_class (by decide) h

/-- The capitals decide whether a kind is caseless. -/
lemma isCaseless (hp : capitals.all (fun c => p c.toLower == p c) = true) : IsCaseless p := by
  intro c
  rcases toLower_cases c with e | hmem
  · rw [e]
  · exact beq_iff_eq.1 (List.all_eq_true.1 hp c hmem)

/-- A mark that no letter is folded to stands in a text where it stands in the text in small letters. -/
lemma toLower_eq_iff (hmark : capitals.all (fun c => (c.toLower == mark) == (c == mark)) = true) :
    c.toLower = mark ↔ c = mark := by
  have h := isCaseless (p := (· == mark)) hmark c
  rw [← beq_iff_eq, ← beq_iff_eq (a := c)]
  exact Bool.eq_iff_iff.1 h

lemma isCaseless_isBlank : IsCaseless isBlank :=
  isCaseless (by decide)

lemma isCaseless_isSpaceOrTab : IsCaseless isSpaceOrTab :=
  isCaseless (by decide)

lemma isCaseless_isDigit : IsCaseless Char.isDigit :=
  isCaseless (by decide)

lemma toLower_toLower (c : Char) : c.toLower.toLower = c.toLower := by
  have hall : capitals.all (fun c => c.toLower.toLower == c.toLower) = true := by
    decide
  rcases toLower_cases c with e | hmem
  · rw [e, e]
  · exact beq_iff_eq.1 (List.all_eq_true.1 hall c hmem)

/-! ## Runs -/

lemma IsCaseless.takeWhile (h : IsCaseless p) (cs : List Char) :
    (cs.map Char.toLower).takeWhile p = (cs.takeWhile p).map Char.toLower := by
  rw [List.takeWhile_map]
  exact congrArg (fun q => (cs.takeWhile q).map Char.toLower) (funext h)

lemma IsCaseless.dropWhile (h : IsCaseless p) (cs : List Char) :
    (cs.map Char.toLower).dropWhile p = (cs.dropWhile p).map Char.toLower := by
  rw [List.dropWhile_map]
  exact congrArg (fun q => (cs.dropWhile q).map Char.toLower) (funext h)

lemma trimEnd_map_toLower (cs : List Char) :
    trimEnd (cs.map Char.toLower) = (trimEnd cs).map Char.toLower := by
  rw [trimEnd, ← List.map_reverse, isCaseless_isBlank.dropWhile, ← List.map_reverse]
  rfl

lemma trim_map_toLower (cs : List Char) : trim (cs.map Char.toLower) = (trim cs).map Char.toLower := by
  rw [trim, trimStart, isCaseless_isBlank.dropWhile, trimEnd_map_toLower]
  rfl

lemma map_toLower_map_toLower (cs : List Char) :
    (cs.map Char.toLower).map Char.toLower = cs.map Char.toLower := by
  rw [List.map_map]
  exact List.map_congr_left fun c _ => toLower_toLower c

/-! ## Texts -/

lemma toList_lower (s : String) : (lower s).toList = s.toList.map Char.toLower := by
  rw [lower, String.toList_ofList]

/-- A character that is no capital stands in a text only where it stands in the text in small letters. -/
lemma mem_lower (hc : c.toLower = c) (h : c ∈ s.toList) : c ∈ (lower s).toList := by
  rw [toList_lower]
  exact List.mem_map.2 ⟨c, h, hc⟩

/-- A text in small letters stays as it is. -/
lemma lower_eq (h : ∀ c ∈ s.toList, (c.toLower == c) = true) : lower s = s := by
  rw [lower, List.map_congr_left fun c hc => beq_iff_eq.1 (h c hc), List.map_id', String.ofList_toList]

lemma lower_append (s s' : String) : lower (s ++ s') = lower s ++ lower s' := by
  rw [lower, lower, lower, String.toList_append, List.map_append, String.ofList_append]

lemma lower_lower (s : String) : lower (lower s) = lower s := by
  rw [lower, toList_lower, map_toLower_map_toLower]
  rfl

end SqlBridge.Text
