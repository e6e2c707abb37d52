import Mathlib.Data.List.Forall2
import SqlBridge.Literal.Quoting
import SqlBridge.Proofs.Sql.Number

/-!
# Integers in a text

The integers that a text shows: its runs of digits, each negative when a minus sign stands right before it.
Quotes and escapes around a text do not change the integers in it.
-/

namespace SqlBridge.Text

open Literal Sql

/-- The integer of the digits read so far, if there are any. -/
def numeral (negative : Bool) (digits : List Char) : List Int :=
  if digits = [] then []
  else [if negative then -(Nat.ofDigitChars 10 digits 0 : Int) else Nat.ofDigitChars 10 digits 0]

/-- The integers of a text after some digits of one, or after a minus sign. -/
def integersFrom (negative : Bool) (digits : List Char) : List Char → List Int
  | [] => numeral negative digits
  | c :: cs =>
    if c.isDigit then integersFrom negative (digits ++ [c]) cs
    else numeral negative digits ++ integersFrom (c == '-') [] cs

/-- The integers that stand in a text, in order. -/
def integersIn (cs : List Char) : List Int :=
  integersFrom false [] cs

/-- The text shows the integers wherever no digit follows it. -/
def Shows (cs : List Char) (is : List Int) : Prop :=
  ∀ rest : List Char, (∀ c ∈ rest.head?, c.isDigit = false) →
    integersIn (cs ++ rest) = is ++ integersIn rest

/-- A character that neither belongs to an integer nor makes one negative. -/
def isApart (c : Char) : Bool :=
  !c.isDigit && c != '-'

variable {cs cs' : List Char} {is is' : List Int} {c : Char}

lemma Shows.integersIn (h : Shows cs is) : integersIn cs = is := by
  have hall := h [] nofun
  rw [List.append_nil] at hall
  exact hall.trans (List.append_nil is)

lemma isDigit_of_isApart (h : isApart c = true) : c.isDigit = false ∧ (c == '-') = false := by
  simpa [isApart] using h

/-! ## Characters apart -/

lemma integersIn_cons (h : isApart c = true) (cs : List Char) : Text.integersIn (c :: cs) = Text.integersIn cs := by
  obtain ⟨hdigit, hminus⟩ := isDigit_of_isApart h
  rw [Text.integersIn, integersFrom, if_neg (Bool.eq_false_iff.1 hdigit), hminus]
  rfl

/-- Characters apart show no integer, whatever follows them. -/
lemma integersIn_append (h : cs.all isApart = true) (rest : List Char) :
    Text.integersIn (cs ++ rest) = Text.integersIn rest := by
  induction cs with
  | nil => rfl
  | cons c cs ih =>
    rw [List.all_cons, Bool.and_eq_true] at h
    exact (integersIn_cons h.1 _).trans (ih h.2)

lemma shows_apart (h : cs.all isApart = true) : Shows cs [] :=
  fun rest _ => integersIn_append h rest

/-- Characters apart may stand before a text. -/
lemma Shows.apart_append (h : cs.all isApart = true) (h' : Shows cs' is) : Shows (cs ++ cs') is := by
  intro rest hrest
  rw [List.append_assoc, integersIn_append h, h' rest hrest]

lemma head?_apart (h : cs.all isApart = true) : ∀ c ∈ cs.head?, c.isDigit = false :=
  fun c hc => (isDigit_of_isApart (List.all_eq_true.1 h c (List.mem_of_mem_head? hc))).1

/-- Texts one after the other show the integers of both, unless the second starts with a digit. -/
lemma Shows.append (h : Shows cs is) (h' : Shows cs' is') (hhead : ∀ c ∈ cs'.head?, c.isDigit = false) :
    Shows (cs ++ cs') (is ++ is') := by
  intro rest hrest
  have hnext : ∀ c ∈ (cs' ++ rest).head?, c.isDigit = false := by
    cases cs' with
    | nil => exact hrest
    | cons d cs' => exact hhead
  rw [List.append_assoc, h _ hnext, h' rest hrest, List.append_assoc]

/-- A text between characters apart. -/
lemma Shows.between {before after : List Char} (h : Shows cs is) (hbefore : before.all isApart = true)
    (hafter : after.all isApart = true) : Shows (before ++ cs ++ after) is := by
  have hall := h.append (shows_apart hafter) (head?_apart hafter)
  rw [List.append_nil] at hall
  rw [List.append_assoc]
  exact hall.apart_append hbefore

/-- Two texts with characters apart between them. -/
lemma Shows.append_apart {separator : List Char} (h : Shows cs is) (hne : separator ≠ [])
    (hsep : separator.all isApart = true) (h' : Shows cs' is') : Shows (cs ++ separator ++ cs') (is ++ is') := by
  rw [List.append_assoc]
  refine h.append (h'.apart_append hsep) ?_
  rw [List.head?_append_of_ne_nil _ hne]
  exact head?_apart hsep

/-- Texts with a separator of characters apart between them show the integers of all. -/
lemma shows_intercalate {separator : List Char} (hne : separator ≠ []) (hsep : separator.all isApart = true)
    {texts : List (List Char)} {values : List (List Int)} (h : List.Forall₂ Shows texts values) :
    Shows (separator.intercalate texts) values.flatten := by
  induction h with
  | nil => exact shows_apart rfl
  | @cons text is texts values htext hrest ih =>
    cases hrest with
    | nil =>
      rw [List.intercalate_singleton, List.flatten_cons, List.flatten_nil, List.append_nil]
      exact htext
    | cons hnext hrest =>
      rw [List.intercalate_cons_cons, List.flatten_cons]
      exact htext.append_apart hne hsep ih

/-! ## Numerals -/

lemma integersFrom_digits {digits : List Char} (h : ∀ c ∈ digits, c.isDigit = true) (negative : Bool)
    (before rest : List Char) :
    integersFrom negative before (digits ++ rest) = integersFrom negative (before ++ digits) rest := by
  induction digits generalizing before with
  | nil => rw [List.nil_append, List.append_nil]
  | cons c digits ih =>
    obtain ⟨hc, hdigits⟩ := List.forall_mem_cons.1 h
    rw [List.cons_append, integersFrom, if_pos hc, ih hdigits, List.append_assoc, List.singleton_append]

/-- An integer ends where no digit follows. -/
lemma integersFrom_of_head {rest : List Char} (h : ∀ c ∈ rest.head?, c.isDigit = false) (negative : Bool)
    (digits : List Char) :
    integersFrom negative digits rest = numeral negative digits ++ Text.integersIn rest := by
  cases rest with
  | nil => exact (List.append_nil _).symm
  | cons c rest =>
    have hc : ¬ c.isDigit = true := Bool.eq_false_iff.1 (h c rfl)
    rw [integersFrom, if_neg hc, Text.integersIn, integersFrom, if_neg hc]
    rfl

/-- The text of an integer shows that integer. -/
lemma shows_toString (i : Int) : Shows (toString i).toList [i] := by
  have hnumeral : ∀ (negative : Bool) (n : Nat),
      numeral negative (Nat.toDigits 10 n) = [if negative then -(n : Int) else n] := by
    intro negative n
    rw [numeral, if_neg Nat.toDigits_ne_nil, Nat.ofDigitChars_ten_toDigits]
  intro rest hrest
  rw [Int.toString_eq_repr, Int.repr_eq_if]
  by_cases h : 0 ≤ i
  · rw [if_pos h, Nat.toList_repr, Text.integersIn, integersFrom_digits (isDigits_toDigits _).2,
      List.nil_append, integersFrom_of_head hrest, hnumeral, if_neg Bool.false_ne_true, Int.toNat_of_nonneg h]
  · rw [if_neg h, String.toList_append, Nat.toList_repr]
    show integersFrom true [] (Nat.toDigits 10 (-i).toNat ++ rest) = _
    have hneg : -((-i).toNat : Int) = i := by omega
    rw [integersFrom_digits (isDigits_toDigits _).2, List.nil_append, integersFrom_of_head hrest, hnumeral,
      if_pos rfl, hneg]

/-- The text of an integer has digits and a minus sign only. -/
lemma minus_or_isDigit_of_mem {i : Int} (h : c ∈ (toString i).toList) : c = '-' ∨ c.isDigit = true := by
  rw [Int.toString_eq_repr, Int.repr_eq_if] at h
  split at h
  · rw [Nat.toList_repr] at h
    exact .inr ((isDigits_toDigits _).2 c h)
  · rw [String.toList_append, Nat.toList_repr] at h
    rcases List.mem_append.1 h with h | h
    · exact .inl (List.mem_singleton.1 h)
    · exact .inr ((isDigits_toDigits _).2 c h)

/-! ## Quotes -/

/-- Where single quotes are doubled, nothing changes for the integers. -/
lemma integersFrom_doubleQuotes (negative : Bool) (digits cs rest : List Char) :
    integersFrom negative digits (doubleQuotes cs ++ rest) = integersFrom negative digits (cs ++ rest) := by
  induction cs generalizing negative digits with
  | nil => rfl
  | cons c cs ih =>
    by_cases hc : c = '\''
    · subst hc
      rw [doubleQuotes, if_pos rfl]
      exact congrArg (numeral negative digits ++ ·) (ih false [])
    · rw [doubleQuotes, if_neg hc, List.cons_append, List.cons_append, integersFrom, integersFrom, ih, ih]

/-- Where double quotes and backslashes are escaped, nothing changes for the integers. -/
lemma integersFrom_backslashed (negative : Bool) (digits cs rest : List Char) :
    integersFrom negative digits (backslashed cs ++ rest) = integersFrom negative digits (cs ++ rest) := by
  induction cs generalizing negative digits with
  | nil => rfl
  | cons c cs ih =>
    by_cases hc : c = '"' ∨ c = '\\'
    · rw [backslashed, if_pos hc]
      rcases hc with rfl | rfl
      · exact congrArg (numeral negative digits ++ ·) (ih false [])
      · exact congrArg (numeral negative digits ++ ·) (ih false [])
    · rw [backslashed, if_neg hc, List.cons_append, List.cons_append, integersFrom, integersFrom, ih, ih]

variable {s : String}

lemma Shows.quoteSql (h : Shows s.toList is) : Shows (quoteSql s).toList is := by
  intro rest _
  have htext : (Literal.quoteSql s).toList ++ rest = '\'' :: (doubleQuotes s.toList ++ '\'' :: rest) := by
    simp [Literal.quoteSql, escapeSql]
  have hquote : ∀ c ∈ ('\'' :: rest).head?, c.isDigit = false := by
    rintro c ⟨⟩
    rfl
  rw [htext, integersIn_cons (by decide), Text.integersIn, integersFrom_doubleQuotes]
  exact (h _ hquote).trans (congrArg (is ++ ·) (integersIn_cons (by decide) rest))

lemma Shows.item (h : Shows s.toList is) (always : Bool) : Shows (item always s).toList is := by
  rw [Literal.item]
  split
  · intro rest _
    have htext : (quoteItem s).toList ++ rest = '"' :: (backslashed s.toList ++ '"' :: rest) := by
      simp [quoteItem]
    have hquote : ∀ c ∈ ('"' :: rest).head?, c.isDigit = false := by
      rintro c ⟨⟩
      rfl
    rw [htext, integersIn_cons (by decide), Text.integersIn, integersFrom_backslashed]
    exact (h _ hquote).trans (congrArg (is ++ ·) (integersIn_cons (by decide) rest))
  · exact h

end SqlBridge.Text
