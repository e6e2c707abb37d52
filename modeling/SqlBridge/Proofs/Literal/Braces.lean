import Mathlib.Data.List.Forall2
import Mathlib.Tactic.Lemma

/-!
# Elements in braces

The outer grammar of array and multirange literals: elements between braces with a separator between
them. How one element is read is a parameter. `readBraced?_braced` reads the elements back from the texts
that they were written as.
-/

namespace SqlBridge.Literal

variable {α : Type}

/-- The elements up to the brace that closes the text, each read by `one`. -/
def readElements? (one : List Char → Option (α × List Char)) (separator cs : List Char) :
    Option (List α) :=
  match one cs with
  | none => none
  | some (a, rest) =>
    if rest = ['\x7d'] then some [a]
    else if separator.isPrefixOf rest ∧ (rest.drop separator.length).length < cs.length then
      (readElements? one separator (rest.drop separator.length)).map (a :: ·)
    else none
termination_by cs.length
decreasing_by exact (by assumption : _ ∧ _).2

/-- The elements of a text in braces. -/
def readBraced? (one : List Char → Option (α × List Char)) (separator : List Char) (s : String) :
    Option (List α) :=
  match s.toList with
  | '\x7b' :: cs => if cs = ['\x7d'] then some [] else readElements? one separator cs
  | _ => none

/-- A text that is read as one element before a comma or a closing brace, whatever follows. -/
def ReadsAs (one : List Char → Option (α × List Char)) (text : List Char) (a : α) : Prop :=
  ∀ rest : List Char, rest.head? = some ',' ∨ rest.head? = some '\x7d' →
    one (text ++ rest) = some (a, rest)

variable {one : List Char → Option (α × List Char)}

lemma readElements?_last {separator text : List Char} {a : α} (h : ReadsAs one text a) :
    readElements? one separator (text ++ ['\x7d']) = some [a] := by
  rw [readElements?, h _ (.inr rfl)]
  simp

lemma readElements?_more {separator text more : List Char} {a : α}
    (hsep : separator.head? = some ',') (h : ReadsAs one text a) :
    readElements? one separator (text ++ (separator ++ more))
      = (readElements? one separator more).map (a :: ·) := by
  obtain ⟨sep, rfl⟩ : ∃ sep, separator = ',' :: sep := by
    cases separator with
    | nil => cases hsep
    | cons c sep => exact ⟨sep, by rw [Option.some.inj hsep]⟩
  have hshort : more.length < (text ++ (',' :: sep ++ more)).length := by
    simp only [List.length_append, List.length_cons]
    omega
  rw [readElements?, h _ (.inl rfl)]
  simp only [List.drop_left]
  rw [if_neg (by simp), if_pos ⟨by simp [List.isPrefixOf_iff_prefix], hshort⟩]

lemma readElements?_intercalate {separator : List Char} (hsep : separator.head? = some ',')
    {texts : List (List Char)} {values : List α} (h : List.Forall₂ (ReadsAs one) texts values)
    (hne : texts ≠ []) :
    readElements? one separator (separator.intercalate texts ++ ['\x7d']) = some values := by
  induction h with
  | nil => exact absurd rfl hne
  | @cons text a texts values ha hrest ih =>
    cases hrest with
    | nil => rw [List.intercalate_singleton]; exact readElements?_last ha
    | cons hb hrest =>
      rw [List.intercalate_cons_cons, List.append_assoc, List.append_assoc,
        readElements?_more hsep ha, ih (List.cons_ne_nil _ _)]
      rfl

lemma toList_braced (separator : String) (texts : List String) :
    ("\x7b" ++ separator.intercalate texts ++ "\x7d").toList
      = '\x7b' :: (separator.toList.intercalate (texts.map String.toList) ++ ['\x7d']) := by
  simp [String.toList_intercalate]

/-- The elements of a text in braces are read back, if the closing brace alone is no element. -/
lemma readBraced?_braced {separator : String} (hsep : separator.toList.head? = some ',')
    (hnone : one ['\x7d'] = none) {texts : List String} {values : List α}
    (h : List.Forall₂ (fun text a => ReadsAs one text.toList a) texts values) :
    readBraced? one separator.toList ("\x7b" ++ separator.intercalate texts ++ "\x7d")
      = some values := by
  rw [readBraced?, toList_braced]
  cases h with
  | nil => rfl
  | @cons text a texts values ha hrest =>
    have hlist : List.Forall₂ (ReadsAs one) ((text :: texts).map String.toList) (a :: values) :=
      List.forall₂_map_left_iff.2 (.cons ha hrest)
    have hread := readElements?_intercalate hsep hlist (List.cons_ne_nil _ _)
    -- an element of no text would be read off the brace itself
    have hbrace : separator.toList.intercalate ((text :: texts).map String.toList) ++ ['\x7d']
        ≠ ['\x7d'] := by
      intro hb
      rw [hb, readElements?, hnone] at hread
      cases hread
    simp only
    rw [if_neg hbrace, hread]

/-! ## What a reading says of the elements -/

lemma readElements?_eq_cons {separator cs : List Char} {a : α} {values : List α}
    (h : readElements? one separator cs = some (a :: values)) :
    ∃ rest, one cs = some (a, rest) ∧
      ((rest = ['\x7d'] ∧ values = []) ∨
        ∃ more, rest = separator ++ more ∧ readElements? one separator more = some values) := by
  rw [readElements?] at h
  cases hone : one cs with
  | none =>
    rw [hone] at h
    cases h
  | some read =>
    obtain ⟨b, rest⟩ := read
    rw [hone] at h
    dsimp only at h
    by_cases hrest : rest = ['\x7d']
    · rw [if_pos hrest] at h
      cases h
      exact ⟨rest, rfl, .inl ⟨hrest, rfl⟩⟩
    · rw [if_neg hrest] at h
      split at h
      · rename_i hsep
        obtain ⟨more, rfl⟩ := List.isPrefixOf_iff_prefix.1 hsep.1
        rw [List.drop_left] at h
        obtain ⟨values', hmore, hcons⟩ := Option.map_eq_some_iff.1 h
        cases hcons
        exact ⟨_, rfl, .inr ⟨more, rfl, hmore⟩⟩
      · cases h

section

variable {β : Type} {writes : β → String → Prop} {holds : β → α → Prop} {P : β → Prop} {separator : String}
  {xs : List β} {texts : List String} {values : List α}

lemma forall_of_readElements? (hsep : separator.toList.head? = some ',')
    (hone : ∀ x text a, writes x text → holds x a → ∀ rest rest' : List Char,
      (rest.head? = some ',' ∨ rest.head? = some '\x7d') → one (text.toList ++ rest) = some (a, rest') →
        P x ∧ rest' = rest)
    (htexts : List.Forall₂ writes xs texts) (hvalues : List.Forall₂ holds xs values) (hne : texts ≠ [])
    (h : readElements? one separator.toList
      (separator.toList.intercalate (texts.map String.toList) ++ ['\x7d']) = some values) :
    ∀ x ∈ xs, P x := by
  induction htexts generalizing values with
  | nil => exact absurd rfl hne
  | @cons x text xs texts hx htexts ih =>
    cases hvalues with
    | @cons _ a _ values ha hvalues =>
      obtain ⟨rest, hread, hrest⟩ := readElements?_eq_cons h
      cases htexts with
      | nil =>
        rw [List.map_singleton, List.intercalate_singleton] at hread
        exact List.forall_mem_singleton.2 (hone _ _ _ hx ha _ _ (.inr rfl) hread).1
      | @cons y text' xs texts hy htexts =>
        rw [List.map_cons, List.map_cons, List.intercalate_cons_cons, List.append_assoc,
          List.append_assoc] at hread
        have hhead : (separator.toList ++ (separator.toList.intercalate ((text' :: texts).map String.toList) ++
            ['\x7d'])).head? = some ',' := by
          rw [List.head?_append, hsep]
          rfl
        obtain ⟨hP, rfl⟩ := hone _ _ _ hx ha _ _ (.inl hhead) hread
        refine List.forall_mem_cons.2 ⟨hP, ?_⟩
        -- the separator behind the first text is where the reader goes on
        rcases hrest with ⟨hclosed, -⟩ | ⟨more, hmore, hread'⟩
        · rw [hclosed] at hhead
          cases hhead
        · rw [← List.append_cancel_left hmore] at hread'
          exact ih hvalues (List.cons_ne_nil _ _) hread'

/-- Of a list that was written in braces and is read back, what follows for one member from the reader taking up
the text of that member, no more and no less, holds for all. -/
lemma forall_of_readBraced? (hsep : separator.toList.head? = some ',')
    (hone : ∀ x text a, writes x text → holds x a → ∀ rest rest' : List Char,
      (rest.head? = some ',' ∨ rest.head? = some '\x7d') → one (text.toList ++ rest) = some (a, rest') →
        P x ∧ rest' = rest)
    (htexts : List.Forall₂ writes xs texts) (hvalues : List.Forall₂ holds xs values)
    (h : readBraced? one separator.toList ("\x7b" ++ separator.intercalate texts ++ "\x7d") = some values) :
    ∀ x ∈ xs, P x := by
  rw [readBraced?, toList_braced] at h
  simp only at h
  split at h
  · cases h
    cases hvalues
    exact nofun
  · cases htexts with
    | nil => exact nofun
    | cons hx htexts =>
      exact forall_of_readElements? hsep hone (.cons hx htexts) hvalues (List.cons_ne_nil _ _) h

end

end SqlBridge.Literal
