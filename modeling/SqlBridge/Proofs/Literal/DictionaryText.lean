import SqlBridge.Proofs.Descriptor.Content
import SqlBridge.Proofs.Literal.Field
import SqlBridge.Proofs.Text.Runs

/-!
# Reading dictionaries

The grammar of dictionary texts: entries with commas between them, an entry being a key in double quotes, an
arrow, and a value in double quotes or the word for the null in any case. Blanks may stand between all of
these. What a store type of dictionaries writes is read back entry by entry, whatever characters the keys and
values have.
-/

namespace SqlBridge

namespace DictionaryText

open Literal

/-- The characters that only stand outside of quotes as marks of the grammar. -/
def reserved : List Char := ['"', '\\', ',', '=', '>']

/-- The field at the start of a text, after any blanks. -/
def readField? (cs : List Char) : Option (Field × List Char) :=
  Field.read? reserved (Text.trimStart cs)

/-- The value that a field stands for. Without quotes there is only the word for the null. -/
def valueOf? : Field → Option (Option String)
  | .quoted s => some (some s)
  | .bare s => if Text.lower s = "null" then some none else none

/-- What stands after the arrow at the start of a text. -/
def readArrow? (cs : List Char) : Option (List Char) :=
  (Text.expect? '=' (Text.trimStart cs)).bind (Text.expect? '>')

/-- The entry at the start of a text, and what stands after it. -/
def readPair? (cs : List Char) : Option ((String × Option String) × List Char) := do
  let (key, cs) ← readField? cs
  let cs ← readArrow? cs
  let (value, cs) ← readField? cs
  match key with
  | .quoted key => (valueOf? value).map fun value => ((key, value), cs)
  | .bare _ => none

/-- The entries of a text that has one at least. -/
def readPairs? (cs : List Char) : Option (List (String × Option String)) :=
  match readPair? cs with
  | none => none
  | some (entry, rest) =>
    match Text.trimStart rest with
    | [] => some [entry]
    | mark :: more =>
      if mark = ',' ∧ more.length < cs.length then (readPairs? more).map (entry :: ·) else none
termination_by cs.length
decreasing_by exact (by assumption : _ ∧ _).2

/-- The entries of a dictionary text in order, `none` for an absent value. -/
def read? (s : String) : Option (List (String × Option String)) :=
  if (Text.trimStart s.toList).isEmpty then some [] else readPairs? s.toList

/-! ## Entries -/

/-- Blanks before a quoted text or a mark are none. -/
lemma trimStart_of_mark {c : Char} (hc : Text.isBlank c = false) (cs : List Char) :
    Text.trimStart (c :: cs) = c :: cs := by
  rw [Text.trimStart, List.dropWhile_cons_of_neg]
  rw [hc]
  exact Bool.false_ne_true

lemma readField?_quoteItem (s : String) (rest : List Char) :
    readField? ((quoteItem s).toList ++ rest) = some (.quoted s, rest) := by
  have hquote : (quoteItem s).toList ++ rest = '"' :: ((backslashed s.toList ++ ['"']) ++ rest) := by
    simp [quoteItem]
  have htrim : Text.trimStart ((quoteItem s).toList ++ rest) = (quoteItem s).toList ++ rest := by
    rw [hquote]
    exact trimStart_of_mark (by decide) _
  rw [readField?, htrim]
  exact Field.read?_quoteItem reserved s rest

lemma readField?_null {rest : List Char} (hrest : Field.Stops reserved rest) :
    readField? ("NULL".toList ++ rest) = some (.bare "NULL", rest) := by
  have hbare : ∀ c ∈ "NULL".toList, Field.isBare reserved c = true := List.all_eq_true.1 (by decide)
  exact Field.read?_bare (by decide) hbare hrest

/-- An entry is made of its key, the arrow and the value. -/
lemma readPair?_of_parts {cs arrow more rest : List Char} {key : String} {value : Field}
    (hkey : readField? cs = some (.quoted key, arrow)) (harrow : readArrow? arrow = some more)
    (hvalue : readField? more = some (value, rest)) :
    readPair? cs = (valueOf? value).map fun value => ((key, value), rest) := by
  simp only [readPair?, hkey, harrow, hvalue, Option.bind_eq_bind, Option.bind_some]

lemma readArrow?_arrow (more : List Char) : readArrow? ('=' :: '>' :: more) = some more := by
  rw [readArrow?, trimStart_of_mark (by decide)]
  rfl

/-- An entry is read back before whatever a field stops at. -/
lemma readPair?_entryText (entry : String × Option String) {rest : List Char}
    (hrest : Field.Stops reserved rest) :
    readPair? ((entryText entry).toList ++ rest) = some (entry, rest) := by
  obtain ⟨key, value⟩ := entry
  cases value with
  | some value =>
    have htext : (entryText (key, some value)).toList ++ rest
        = (quoteItem key).toList ++ ('=' :: '>' :: ((quoteItem value).toList ++ rest)) := by
      simp [entryText]
    rw [htext, readPair?_of_parts (readField?_quoteItem key _) (readArrow?_arrow _)
      (readField?_quoteItem value rest)]
    rfl
  | none =>
    have htext : (entryText (key, none)).toList ++ rest
        = (quoteItem key).toList ++ ('=' :: '>' :: ("NULL".toList ++ rest)) := by
      simp [entryText]
    have hnull : valueOf? (.bare "NULL") = some none := by decide
    rw [htext, readPair?_of_parts (readField?_quoteItem key _) (readArrow?_arrow _)
      (readField?_null hrest), hnull]
    rfl

/-- Blanks before an entry make no difference. -/
lemma readPair?_blanks {blanks : List Char} (h : ∀ c ∈ blanks, Text.isBlank c = true) (cs : List Char) :
    readPair? (blanks ++ cs) = readPair? cs := by
  have hfield : readField? (blanks ++ cs) = readField? cs := by
    rw [readField?, readField?, Text.trimStart, Text.trimStart, List.dropWhile_append_of_pos h]
  rw [readPair?, readPair?, hfield]

/-! ## Dictionaries -/

lemma readPairs?_last {cs : List Char} {entry : String × Option String}
    (h : readPair? cs = some (entry, [])) : readPairs? cs = some [entry] := by
  rw [readPairs?, h]
  rfl

lemma readPairs?_more {cs more : List Char} {entry : String × Option String}
    (h : readPair? cs = some (entry, ',' :: more)) (hshort : more.length < cs.length) :
    readPairs? cs = (readPairs? more).map (entry :: ·) := by
  have hmark : Text.trimStart (',' :: more) = ',' :: more := trimStart_of_mark (by decide) more
  rw [readPairs?, h]
  simp only [hmark, true_and]
  rw [if_pos hshort]

/-- Entries with commas between them are read back one by one, with blanks in front or without. -/
lemma readPairs?_entryTexts {blanks : List Char} (hblanks : ∀ c ∈ blanks, Text.isBlank c = true)
    (entry : String × Option String) (entries : List (String × Option String)) :
    readPairs? (blanks ++ ", ".toList.intercalate ((entry :: entries).map fun e => (entryText e).toList))
      = some (entry :: entries) := by
  induction entries generalizing blanks entry with
  | nil =>
    have hstops : Field.Stops reserved [] := nofun
    have hread := readPair?_entryText entry hstops
    rw [List.append_nil] at hread
    rw [List.map_singleton, List.intercalate_singleton]
    exact readPairs?_last ((readPair?_blanks hblanks _).trans hread)
  | cons next entries ih =>
    have hspace : ∀ c ∈ [' '], Text.isBlank c = true := List.forall_mem_singleton.2 rfl
    have hmore := ih hspace next
    generalize htail : [' '] ++ ", ".toList.intercalate ((next :: entries).map fun e => (entryText e).toList)
      = tail at hmore
    have htext : ", ".toList.intercalate ((entry :: next :: entries).map fun e => (entryText e).toList)
        = (entryText entry).toList ++ ',' :: tail := by
      rw [← htail, List.map_cons, List.map_cons, List.intercalate_cons_cons, List.append_assoc]
      rfl
    have hstops : Field.Stops reserved (',' :: tail) := by
      rintro c ⟨⟩
      decide
    have hread := (readPair?_blanks hblanks _).trans (readPair?_entryText entry hstops)
    have hshort : tail.length < (blanks ++ ((entryText entry).toList ++ ',' :: tail)).length := by
      simp only [List.length_append, List.length_cons]
      omega
    rw [htext, readPairs?_more hread hshort, hmore]
    rfl

/-- A dictionary text is read back as the entries that it was made of. -/
lemma read?_dictionaryText (entries : List (String × Option String)) :
    read? (dictionaryText entries) = some entries := by
  cases entries with
  | nil => rfl
  | cons entry entries =>
    have htext : (dictionaryText (entry :: entries)).toList
        = ", ".toList.intercalate ((entry :: entries).map fun e => (entryText e).toList) := by
      rw [dictionaryText, String.toList_intercalate, List.map_map]
      rfl
    have hblank : (Text.trimStart (dictionaryText (entry :: entries)).toList).isEmpty = false := by
      obtain ⟨tail, htail⟩ : ∃ tail, (dictionaryText (entry :: entries)).toList = '"' :: tail := by
        cases entries <;> simp [htext, entryText, quoteItem]
      rw [htail, trimStart_of_mark (by decide)]
      rfl
    have hnone : ∀ c ∈ ([] : List Char), Text.isBlank c = true := by simp
    rw [read?, hblank, htext]
    exact readPairs?_entryTexts hnone entry entries

end DictionaryText

namespace Descriptor

open Literal

/-- A store type of dictionaries writes every dictionary, as a text that is read back as its entries in order:
the same keys with the same values, the null for the absent ones only, whatever characters they have. Each of
the three literals is made of that text. -/
theorem read_dictionary {s : Signature} (hdb : s.dbType = .plain .hstore)
    (entries : List (String × Option String)) :
    ∃ raw, DictionaryText.read? raw = some entries ∧
      s.rawText (.scalar (.dictionary entries)) = .ok raw ∧
      (scalar s).toplevel (.scalar (.dictionary entries)) = .ok (s.casting (quoteSql raw)) ∧
      (scalar s).embedded (.scalar (.dictionary entries)) = .ok (item false raw) ∧
      (scalar s).uncast (.scalar (.dictionary entries)) = .ok (quoteSql raw) := by
  have hraw : s.rawText (.scalar (.dictionary entries)) = .ok (dictionaryText entries) := by
    rw [Signature.rawText, hdb]
    rfl
  have hv : HostValue.scalar (.dictionary entries) ≠ .null := nofun
  refine ⟨dictionaryText entries, DictionaryText.read?_dictionaryText entries, hraw, ?_, ?_, ?_⟩
  · rw [toplevel_of_ne_null rfl hv, content, hraw]
    show Except.ok (s.literalOfRaw (dictionaryText entries)) = _
    rw [Signature.literalOfRaw, hdb]
    rfl
  · rw [embedded, hraw]
    show Except.ok (s.itemOfRaw (dictionaryText entries)) = _
    rw [Signature.itemOfRaw, hdb]
    rfl
  · rw [uncast_of_ne_null _ hv, content, hraw]
    show Except.ok (s.elementOfRaw (dictionaryText entries)) = _
    rw [Signature.elementOfRaw, hdb]
    rfl

/-- Keys and values of marks, empty ones, and the word for the null beside a null. -/
theorem read_dictionary_of_marks :
    let s := Signature.plain "hstore" (.scalar .dictionary) (.plain .hstore)
    let entries := [("\"=>\\", some "NULL"), ("", none), (", ", some "")]
    let raw := "\"\\\"=>\\\\\"=>\"NULL\", \"\"=>NULL, \", \"=>\"\""
    s.dbType = .plain .hstore ∧ s.rawText (.scalar (.dictionary entries)) = .ok raw ∧
      DictionaryText.read? raw = some entries ∧
      (scalar s).uncast (.scalar (.dictionary entries)) = .ok (quoteSql raw) := by
  intro s entries raw
  have hraw : s.rawText (.scalar (.dictionary entries)) = .ok raw := by rfl
  obtain ⟨raw', hread, hraw', -, -, huncast⟩ := read_dictionary (s := s) rfl entries
  obtain rfl : raw = raw' := Except.ok.inj (hraw.symm.trans hraw')
  exact ⟨rfl, hraw, hread, huncast⟩

end Descriptor

end SqlBridge
