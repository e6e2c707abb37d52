import Mathlib.Data.List.Basic
import Mathlib.Tactic.Lemma
import SqlBridge.Literal.Quoting

/-!
# Scanning SQL

What SQL makes of a text: strings, which run up to the next quote that is not doubled, and the characters
outside of them. `scan?` refuses a text that leaves a string open, and one with a semicolon or the start
of a comment outside of strings. `Scans` says how a part of a text is scanned whatever follows it.
-/

namespace SqlBridge.Sql

open Literal

/-- A part of an SQL text. -/
inductive Token where
  /-- A character outside of strings. -/
  | code (c : Char)
  /-- A string, by its content. -/
  | string (content : List Char)
deriving DecidableEq, Repr

/-- The characters of a text outside of strings. -/
def word (s : String) : List Token :=
  s.toList.map .code

/-- The character and the one after it open a comment. -/
def opensComment (c : Char) (rest : List Char) : Bool :=
  (c == '-' && rest.head? == some '-') || (c == '/' && rest.head? == some '*')

/-- The parts of a text that starts outside of strings, or inside of one with some content before. -/
def scanFrom? : Option (List Char) → List Char → Option (List Token)
  | none, [] => some []
  | some _, [] => none
  | none, c :: rest =>
    if c = '\'' then scanFrom? (some []) rest
    else if c = ';' ∨ opensComment c rest then none
    else (scanFrom? none rest).map (.code c :: ·)
  | some content, '\'' :: '\'' :: rest => scanFrom? (some (content ++ ['\''])) rest
  | some content, c :: rest =>
    if c = '\'' then (scanFrom? none rest).map (.string content :: ·)
    else scanFrom? (some (content ++ [c])) rest

/-- The parts of a text. There are none if a string stays open, or a semicolon or the start of a comment
stands outside of strings. -/
def scan? (s : String) : Option (List Token) :=
  scanFrom? none s.toList

/-! ## Text outside of strings -/

/-- Text that means the same to the scanner at the start of any other text: it has no quotes, semicolons or
slashes, and each minus sign stands before a character that is none. -/
def Inert : List Char → Prop
  | [] => True
  | c :: rest =>
    c ≠ '\'' ∧ c ≠ ';' ∧ c ≠ '/' ∧ (c = '-' → ∃ d tail, rest = d :: tail ∧ d ≠ '-') ∧ Inert rest

/-- A character that is inert in every place. -/
def isQuietChar (c : Char) : Bool :=
  !(['\'', ';', '/', '-'].contains c)

/-- Characters of a class without the marks of SQL are quiet. -/
lemma isQuietChar_of_class {p : Char → Bool} (hp : ['\'', ';', '/', '-'].all (!p ·) = true) {c : Char}
    (hc : p c = true) : isQuietChar c = true := by
  rw [isQuietChar, Bool.not_eq_true', List.contains_eq_mem, decide_eq_false_iff_not]
  intro hmem
  have hmark := List.all_eq_true.1 hp c hmem
  rw [hc] at hmark
  cases hmark

/-- A text that is inert in every place. -/
def IsQuiet (s : String) : Prop :=
  ∀ c ∈ s.toList, isQuietChar c = true

instance (s : String) : Decidable (IsQuiet s) :=
  List.decidableBAll _ s.toList

lemma IsQuiet.append {s s' : String} (h : IsQuiet s) (h' : IsQuiet s') : IsQuiet (s ++ s') := by
  rw [IsQuiet, String.toList_append]
  exact List.forall_mem_append.2 ⟨h, h'⟩

lemma IsQuiet.intercalate {separator : String} {texts : List String} (hsep : IsQuiet separator)
    (h : ∀ s ∈ texts, IsQuiet s) : IsQuiet (separator.intercalate texts) := by
  rw [IsQuiet, String.toList_intercalate]
  induction texts with
  | nil => exact fun c hc => nomatch hc
  | cons s texts ih =>
    obtain ⟨hs, htexts⟩ := List.forall_mem_cons.1 h
    cases texts with
    | nil =>
      rw [List.map_singleton, List.intercalate_singleton]
      exact hs
    | cons s' texts =>
      rw [List.map_cons, List.map_cons, List.intercalate_cons_cons]
      exact List.forall_mem_append.2 ⟨List.forall_mem_append.2 ⟨hs, hsep⟩, ih htexts⟩

lemma inert_of_quiet {cs : List Char} (h : ∀ c ∈ cs, isQuietChar c = true) : Inert cs := by
  induction cs with
  | nil => trivial
  | cons c cs ih =>
    obtain ⟨hc, hcs⟩ := List.forall_mem_cons.1 h
    simp only [isQuietChar, Bool.not_eq_true', List.contains_eq_mem, decide_eq_false_iff_not,
      List.mem_cons, List.not_mem_nil, or_false, not_or] at hc
    obtain ⟨hquote, hend, hslash, hminus⟩ := hc
    exact ⟨hquote, hend, hslash, fun e => absurd e hminus, ih hcs⟩

lemma IsQuiet.inert {s : String} (h : IsQuiet s) : Inert s.toList :=
  inert_of_quiet h

lemma Inert.cons {c : Char} {cs : List Char} (hc : isQuietChar c = true) (h : Inert cs) :
    Inert (c :: cs) := by
  have hone : Inert [c] := inert_of_quiet (List.forall_mem_singleton.2 hc)
  obtain ⟨hquote, hend, hslash, hminus, -⟩ := hone
  refine ⟨hquote, hend, hslash, fun e => ?_, h⟩
  obtain ⟨d, tail, e', -⟩ := hminus e
  cases e'

lemma Inert.append {cs cs' : List Char} (h : Inert cs) (h' : Inert cs') : Inert (cs ++ cs') := by
  induction cs with
  | nil => exact h'
  | cons c cs ih =>
    obtain ⟨hquote, hend, hslash, hminus, hcs⟩ := h
    refine ⟨hquote, hend, hslash, fun e => ?_, ih hcs⟩
    obtain ⟨d, tail, rfl, hd⟩ := hminus e
    exact ⟨d, tail ++ cs', rfl, hd⟩

lemma Inert.minus {c : Char} {cs : List Char} (hc : c ≠ '-') (h : Inert (c :: cs)) :
    Inert ('-' :: c :: cs) :=
  ⟨by decide, by decide, by decide, fun _ => ⟨c, cs, rfl, hc⟩, h⟩

/-- Inert text is scanned to its characters, whatever follows. -/
lemma scanFrom?_inert {cs : List Char} (h : Inert cs) (rest : List Char) :
    scanFrom? none (cs ++ rest) = (scanFrom? none rest).map (cs.map .code ++ ·) := by
  induction cs with
  | nil => exact (Option.map_id_apply).symm
  | cons c cs ih =>
    obtain ⟨hquote, hend, hslash, hminus, hcs⟩ := h
    -- the character after a minus sign is at hand in the inert text itself
    have hstop : ¬(c = ';' ∨ opensComment c (cs ++ rest) = true) := by
      rintro (e | e)
      · exact hend e
      · rw [opensComment, Bool.or_eq_true, Bool.and_eq_true, Bool.and_eq_true, beq_iff_eq,
          beq_iff_eq, beq_iff_eq] at e
        rcases e with ⟨e, hnext⟩ | ⟨e, -⟩
        · obtain ⟨d, tail, rfl, hd⟩ := hminus e
          exact hd (Option.some.inj hnext)
        · exact hslash e
    rw [List.cons_append, scanFrom?, if_neg hquote, if_neg hstop, ih hcs, Option.map_map]
    rfl

/-! ## Strings -/

/-- What quotes were doubled in is scanned to itself up to the quote that is not doubled. -/
lemma scanFrom?_doubleQuotes (content cs : List Char) {rest : List Char}
    (hrest : rest.head? ≠ some '\'') :
    scanFrom? (some content) (doubleQuotes cs ++ '\'' :: rest)
      = (scanFrom? none rest).map (.string (content ++ cs) :: ·) := by
  induction cs generalizing content with
  | nil =>
    rw [doubleQuotes, List.nil_append, List.append_nil, scanFrom?, if_pos rfl]
    rintro tail - e
    rw [e] at hrest
    exact hrest rfl
  | cons c cs ih =>
    by_cases hc : c = '\''
    · subst hc
      rw [doubleQuotes, if_pos rfl, List.cons_append, List.cons_append, scanFrom?, ih,
        List.append_assoc]
      rfl
    · rw [doubleQuotes, if_neg hc, List.cons_append, scanFrom?, if_neg hc, ih, List.append_assoc]
      · rfl
      · exact fun _ e _ => hc e

/-- The text is scanned to the parts wherever no quote follows. -/
def Scans (cs : List Char) (ts : List Token) : Prop :=
  ∀ rest : List Char, rest.head? ≠ some '\'' →
    scanFrom? none (cs ++ rest) = (scanFrom? none rest).map (ts ++ ·)

lemma Scans.scan? {s : String} {ts : List Token} (h : Scans s.toList ts) : scan? s = some ts := by
  have e := h [] (by decide)
  rw [List.append_nil] at e
  rw [Sql.scan?, e, scanFrom?, Option.map_some, List.append_nil]

lemma scans_nil : Scans [] [] :=
  fun _ _ => (Option.map_id_apply).symm

lemma scans_inert {cs : List Char} (h : Inert cs) : Scans cs (cs.map .code) :=
  fun rest _ => scanFrom?_inert h rest

lemma scans_quoteSql (s : String) : Scans (quoteSql s).toList [.string s.toList] := by
  intro rest hrest
  have e : (quoteSql s).toList ++ rest = '\'' :: (doubleQuotes s.toList ++ '\'' :: rest) := by
    simp [quoteSql, escapeSql]
  rw [e, scanFrom?, if_pos rfl, scanFrom?_doubleQuotes [] s.toList hrest]
  rfl

/-- Texts one after the other are scanned apart, unless the second starts with a quote. -/
lemma Scans.append {cs cs' : List Char} {ts ts' : List Token} (h : Scans cs ts) (h' : Scans cs' ts')
    (hhead : cs'.head? ≠ some '\'') : Scans (cs ++ cs') (ts ++ ts') := by
  intro rest hrest
  -- after the first text comes the second, or the rest if the second is empty
  have hnext : (cs' ++ rest).head? ≠ some '\'' := by
    cases cs' with
    | nil => exact hrest
    | cons c cs' => exact hhead
  rw [List.append_assoc, h _ hnext, h' _ hrest, Option.map_map]
  simp only [Function.comp_def, List.append_assoc]

lemma Scans.inert_append {cs cs' : List Char} {ts' : List Token} (h : Inert cs)
    (h' : Scans cs' ts') : Scans (cs ++ cs') (cs.map .code ++ ts') := by
  intro rest hrest
  rw [List.append_assoc, scanFrom?_inert h, h' _ hrest, Option.map_map]
  simp only [Function.comp_def, List.append_assoc]

lemma scans_intercalate {texts : List (List Char)} {items : List (List Token)}
    (h : List.Forall₂ Scans texts items) :
    Scans ([','].intercalate texts) ([Token.code ','].intercalate items) := by
  induction h with
  | nil => exact scans_nil
  | @cons text item texts items htext hrest ih =>
    cases hrest with
    | nil =>
      rw [List.intercalate_singleton, List.intercalate_singleton]
      exact htext
    | cons hb hrest =>
      rw [List.intercalate_cons_cons, List.intercalate_cons_cons, List.append_assoc,
        List.append_assoc]
      have hcomma : Inert [','] := inert_of_quiet (List.forall_mem_singleton.2 rfl)
      refine htext.append (Scans.inert_append hcomma ih) ?_
      rw [List.singleton_append, List.head?_cons]
      decide

end SqlBridge.Sql
