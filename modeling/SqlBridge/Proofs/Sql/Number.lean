import Mathlib.Data.List.TakeWhile
import SqlBridge.Literal.Scalar
import SqlBridge.Proofs.Sql.Scan

/-!
# Numbers in SQL

The numbers that stand in SQL without quotes: a sign, digits, places after a point and an exponent. The
texts of integers, decimals and finite floating-point values are such numbers, and none of them opens a
comment.
-/

namespace SqlBridge.Sql

/-- One digit or more. -/
def IsDigits (cs : List Char) : Prop :=
  cs ≠ [] ∧ ∀ c ∈ cs, c.isDigit = true

/-- A minus sign or none. -/
def IsSign (cs : List Char) : Prop :=
  cs = [] ∨ cs = ['-']

/-- A point and digits, or nothing. -/
def IsFraction (cs : List Char) : Prop :=
  cs = [] ∨ ∃ digits, IsDigits digits ∧ cs = '.' :: digits

/-- A mark and digits with their sign, or nothing. -/
def IsExponent (cs : List Char) : Prop :=
  cs = [] ∨ ∃ sign digits, IsSign sign ∧ IsDigits digits ∧ cs = 'e' :: (sign ++ digits)

/-- A number of SQL. -/
inductive IsNumber : List Char → Prop
  | mk {sign whole fraction exponent : List Char} : IsSign sign → IsDigits whole →
    IsFraction fraction → IsExponent exponent → IsNumber (sign ++ (whole ++ (fraction ++ exponent)))

/-! ## Numbers outside of strings -/

lemma isQuietChar_of_isDigit {c : Char} (h : c.isDigit = true) : isQuietChar c = true :=
  isQuietChar_of_class (p := Char.isDigit) (by decide) h

lemma isQuiet_toString (n : Nat) : IsQuiet (toString n) := by
  intro c hc
  rw [Nat.toString_eq_ofList_toDigits, String.toList_ofList] at hc
  exact isQuietChar_of_isDigit (Nat.isDigit_of_mem_toDigits (by decide) (by decide) hc)

lemma IsDigits.inert {cs : List Char} (h : IsDigits cs) : Inert cs :=
  inert_of_quiet fun c hc => isQuietChar_of_isDigit (h.2 c hc)

lemma IsDigits.inert_signed {sign cs : List Char} (h : IsDigits cs) (hsign : IsSign sign) :
    Inert (sign ++ cs) := by
  rcases hsign with rfl | rfl
  · exact h.inert
  · cases cs with
    | nil => exact absurd rfl h.1
    | cons c cs =>
      refine Inert.minus ?_ h.inert
      rintro rfl
      cases h.2 _ List.mem_cons_self

lemma IsNumber.inert {cs : List Char} (h : IsNumber cs) : Inert cs := by
  obtain ⟨hsign, hwhole, hfraction, hexponent⟩ := h
  rw [← List.append_assoc]
  refine (hwhole.inert_signed hsign).append (Inert.append ?_ ?_)
  · rcases hfraction with rfl | ⟨digits, hdigits, rfl⟩
    · trivial
    · exact hdigits.inert.cons rfl
  · rcases hexponent with rfl | ⟨sign, digits, hsign, hdigits, rfl⟩
    · trivial
    · exact (hdigits.inert_signed hsign).cons rfl

/-! ## Texts that are numbers -/

lemma IsDigits.append {cs cs' : List Char} (h : IsDigits cs) (h' : ∀ c ∈ cs', c.isDigit = true) :
    IsDigits (cs ++ cs') :=
  ⟨List.append_ne_nil_of_left_ne_nil h.1 _, List.forall_mem_append.2 ⟨h.2, h'⟩⟩

lemma isDigits_toDigits (n : Nat) : IsDigits (Nat.toDigits 10 n) :=
  ⟨Nat.toDigits_ne_nil, fun _ => Nat.isDigit_of_mem_toDigits (by decide) (by decide)⟩

lemma IsDigits.isNumber {sign whole : List Char} (h : IsDigits whole) (hsign : IsSign sign) :
    IsNumber (sign ++ whole) := by
  have e := IsNumber.mk hsign h (.inl rfl) (.inl rfl)
  rwa [List.append_nil, List.append_nil] at e

lemma isNumber_toString (i : Int) : IsNumber (toString i).toList := by
  rw [Int.toString_eq_repr, Int.repr_eq_if]
  by_cases h : 0 ≤ i
  · rw [if_pos h, Nat.toList_repr]
    exact (isDigits_toDigits _).isNumber (.inl rfl)
  · rw [if_neg h, String.toList_append, Nat.toList_repr]
    exact (isDigits_toDigits _).isNumber (.inr rfl)

lemma isDigits_paddedDigits (width n : Nat) : IsDigits (Text.paddedDigits width n) := by
  obtain ⟨hne, hdigits⟩ := isDigits_toDigits n
  refine ⟨List.append_ne_nil_of_right_ne_nil _ hne, List.forall_mem_append.2 ⟨?_, hdigits⟩⟩
  intro c hc
  rw [List.eq_of_mem_replicate hc]
  rfl

lemma le_length_paddedDigits (width n : Nat) : width ≤ (Text.paddedDigits width n).length := by
  rw [Text.paddedDigits, List.length_append, List.length_replicate]
  omega

lemma length_paddedDigits {width n : Nat} (h : (Nat.toDigits 10 n).length ≤ width) :
    (Text.paddedDigits width n).length = width := by
  rw [Text.paddedDigits, List.length_append, List.length_replicate]
  omega

lemma ofDigitChars_paddedDigits (width n : Nat) : Nat.ofDigitChars 10 (Text.paddedDigits width n) 0 = n := by
  rw [Text.paddedDigits, Nat.ofDigitChars_append, Nat.ofDigitChars_replicate_zero, Nat.mul_zero,
    Nat.ofDigitChars_ten_toDigits]

lemma IsDigits.sublist {cs cs' : List Char} (h : IsDigits cs) (hsub : cs'.Sublist cs)
    (hne : cs' ≠ []) : IsDigits cs' :=
  ⟨hne, fun c hc => h.2 c (hsub.subset hc)⟩

lemma IsDigits.take {cs : List Char} (h : IsDigits cs) {n : Nat} (hn : 0 < n) :
    IsDigits (cs.take n) := by
  refine h.sublist (List.take_sublist _ _) fun e => ?_
  rcases List.take_eq_nil_iff.1 e with e | e
  · omega
  · exact h.1 e

lemma IsDigits.drop {cs : List Char} (h : IsDigits cs) {n : Nat} (hn : n < cs.length) :
    IsDigits (cs.drop n) := by
  refine h.sublist (List.drop_sublist _ _) fun e => ?_
  have hle := List.drop_eq_nil_iff.1 e
  omega

lemma isNumber_decimal (d : Decimal) : IsNumber d.text.toList := by
  have hdigits := isDigits_paddedDigits (d.scale + 1) d.coefficient
  have hlength := le_length_paddedDigits (d.scale + 1) d.coefficient
  have hsign : IsSign (if d.negative then "-" else "").toList := by
    cases d.negative
    · exact .inl rfl
    · exact .inr rfl
  have hwhole := hdigits.take (n := (Text.paddedDigits (d.scale + 1) d.coefficient).length - d.scale)
    (by omega)
  rw [Decimal.text]
  simp only [String.toList_append, String.toList_ofList, List.append_assoc]
  by_cases hs : d.scale = 0
  · rw [if_pos hs, String.toList_empty, List.append_nil]
    exact hwhole.isNumber hsign
  · simp only [if_neg hs, String.toList_append, String.toList_ofList]
    have hfraction := hdigits.drop
      (n := (Text.paddedDigits (d.scale + 1) d.coefficient).length - d.scale) (by omega)
    have e := IsNumber.mk hsign hwhole (.inr ⟨_, hfraction, rfl⟩) (.inl rfl)
    rwa [List.append_nil] at e

/-- A number other than zero keeps a digit when the zeros at its end are dropped. -/
lemma isDigits_dropTrailingZeros {n : Nat} (hn : n ≠ 0) :
    IsDigits (Text.dropTrailingZeros (Nat.toDigits 10 n)) := by
  have hdigits := isDigits_toDigits n
  refine ⟨fun e => hn ?_, fun c hc => hdigits.2 c ?_⟩
  · rw [Text.dropTrailingZeros, List.reverse_eq_nil_iff, List.dropWhile_eq_nil_iff] at e
    -- a numeral of zeros alone is that of zero
    have hzeros : Nat.toDigits 10 n = List.replicate (Nat.toDigits 10 n).length '0' :=
      List.eq_replicate_of_mem fun c hc => eq_of_beq (e c (List.mem_reverse.2 hc))
    rw [← Nat.ofDigitChars_ten_toDigits (n := n), hzeros, Nat.ofDigitChars_replicate_zero,
      Nat.mul_zero]
  · rw [Text.dropTrailingZeros, List.mem_reverse] at hc
    exact List.mem_reverse.1 ((List.dropWhile_sublist _).subset hc)

lemma isNumber_place (n : FloatNotation) {sign digits : List Char} (hsign : IsSign sign)
    (h : IsDigits digits) (point : Int) : IsNumber (sign ++ n.place digits point) := by
  have hzeros : ∀ k, ∀ c ∈ List.replicate k '0', c.isDigit = true := by
    intro k c hc
    rw [List.eq_of_mem_replicate hc]
    rfl
  have hzero : IsDigits ['0'] := ⟨List.cons_ne_nil _ _, hzeros 1⟩
  rw [FloatNotation.place]
  by_cases hpoint : point ≤ 0
  · rw [if_pos hpoint]
    -- the point stands before all digits
    have hplaces : IsDigits (List.replicate (-point).toNat '0' ++ digits) :=
      ⟨List.append_ne_nil_of_right_ne_nil _ h.1, List.forall_mem_append.2 ⟨hzeros _, h.2⟩⟩
    have e := IsNumber.mk hsign hzero (.inr ⟨_, hplaces, rfl⟩) (.inl rfl)
    rwa [List.append_nil] at e
  · rw [if_neg hpoint]
    simp only
    by_cases hinside : point.toNat < digits.length
    · rw [if_pos hinside]
      -- the point stands among the digits
      have hfraction := h.drop hinside
      have e := IsNumber.mk hsign (h.take (n := point.toNat) (by omega))
        (.inr ⟨_, hfraction, rfl⟩) (.inl rfl)
      rwa [List.append_nil] at e
    · rw [if_neg hinside]
      -- zeros fill the digits up to the point
      have hfraction : IsFraction (if n.keepsDecimal then ['.', '0'] else []) := by
        cases n.keepsDecimal
        · exact .inl rfl
        · exact .inr ⟨['0'], hzero, rfl⟩
      have e := IsNumber.mk hsign (h.append (hzeros (point.toNat - digits.length))) hfraction
        (.inl rfl)
      rwa [List.append_nil] at e

/-- Digits with an exponent are a number, if positive exponents take no sign. -/
lemma isNumber_exponential {n : FloatNotation} (hplus : n.plus = "") {sign digits : List Char}
    (hsign : IsSign sign) (h : IsDigits digits) (point : Int) :
    IsNumber (sign ++ n.exponential digits point) := by
  have hfraction : IsFraction (if digits.length ≤ 1 then [] else '.' :: digits.drop 1) := by
    by_cases hone : digits.length ≤ 1
    · rw [if_pos hone]
      exact .inl rfl
    · rw [if_neg hone]
      exact .inr ⟨_, h.drop (by omega), rfl⟩
  have hminus : IsSign (if point - 1 < 0 then ['-'] else n.plus.toList) := by
    rw [hplus]
    by_cases hneg : point - 1 < 0
    · rw [if_pos hneg]
      exact .inr rfl
    · rw [if_neg hneg]
      exact .inl rfl
  rw [FloatNotation.exponential]
  simp only [List.append_assoc]
  exact .mk hsign (h.take (by decide)) hfraction
    (.inr ⟨_, _, hminus, isDigits_toDigits _, rfl⟩)

lemma isNumber_decimalText {n : FloatNotation} (hplus : n.plus = "") {sign : List Char}
    (hsign : IsSign sign) (d : Decimal10) : IsNumber (sign ++ n.decimalText d) := by
  have hdigits : IsDigits (if d.coefficient = 0 then ['0']
      else Text.dropTrailingZeros (Nat.toDigits 10 d.coefficient)) := by
    by_cases hzero : d.coefficient = 0
    · rw [if_pos hzero]
      exact ⟨List.cons_ne_nil _ _, List.forall_mem_singleton.2 rfl⟩
    · rw [if_neg hzero]
      exact isDigits_dropTrailingZeros hzero
  rw [FloatNotation.decimalText]
  generalize (if d.coefficient = 0 then ['0']
      else Text.dropTrailingZeros (Nat.toDigits 10 d.coefficient)) = digits at hdigits ⊢
  generalize (if d.coefficient = 0 then (1 : Int)
      else (Nat.toDigits 10 d.coefficient).length + d.exponent) = point
  by_cases hpositional : n.positional point = true
  · rw [if_pos hpositional]
    exact isNumber_place n hsign hdigits point
  · rw [if_neg hpositional]
    exact isNumber_exponential hplus hsign hdigits point

/-- Floating-point values are written as numbers in literals, or as the words for those without digits. -/
lemma isNumber_literal (f : FloatFormat) (x : FloatValue) :
    IsNumber (FloatNotation.literal.text f x).toList ∨
      Literal.isNumberWord (FloatNotation.literal.text f x) = true := by
  cases x with
  | nan => exact .inr rfl
  | infinite negative => cases negative <;> exact .inr rfl
  | finite negative m e =>
    refine .inl ?_
    rw [FloatNotation.text]
    cases negative with
    | false =>
      simp only [Bool.false_eq_true, if_false, String.toList_ofList]
      exact isNumber_decimalText rfl (.inl rfl) _
    | true =>
      simp only [if_true, String.toList_append, String.toList_ofList]
      exact isNumber_decimalText rfl (.inr rfl) _

end SqlBridge.Sql
