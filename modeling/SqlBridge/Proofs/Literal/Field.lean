import Mathlib.Tactic.Lemma
import SqlBridge.Literal.Quoting
import SqlBridge.Proofs.Text.Runs

/-!
# Fields of literals

Array and range literals hold their parts as fields: a text in double quotes, in which a backslash keeps
the character after it, or a run of characters that are neither blank nor reserved. `Field.read?` reads the
field at the start of a text; `Field.read?_item` reads back what `item` writes, for any text. A text without marks is
written as it stands.
-/

namespace SqlBridge.Literal

/-- A part of an array or range literal. -/
inductive Field where
  | quoted (content : String)
  | bare (content : String)
deriving DecidableEq, Repr

namespace Field

/-- The text that a field holds. -/
def content : Field → String
  | .quoted s => s
  | .bare s => s

/-- The content of double quotes that are open, and what stands after them. -/
def readQuoted? : List Char → Option (List Char × List Char)
  | [] => none
  | '"' :: rest => some ([], rest)
  | '\\' :: c :: rest => (readQuoted? rest).map fun p => (c :: p.1, p.2)
  | c :: rest => (readQuoted? rest).map fun p => (c :: p.1, p.2)

/-- A character that a bare field may hold. -/
def isBare (reserved : List Char) (c : Char) : Bool :=
  !reserved.contains c && !Text.isBlank c

/-- The field at the start of a text, and what stands after it. A bare field may be empty. -/
def read? (reserved : List Char) : List Char → Option (Field × List Char)
  | '"' :: rest => (readQuoted? rest).map fun p => (.quoted (String.ofList p.1), p.2)
  | cs =>
    some (.bare (String.ofList (cs.takeWhile (isBare reserved))), cs.dropWhile (isBare reserved))

/-- A bare field ends before the text: it is over, or a reserved character other than a double quote
stands first. -/
def Stops (reserved rest : List Char) : Prop :=
  ∀ c ∈ rest.head?, c ∈ reserved ∧ c ≠ '"'

/-- What backslashes were put into is read back up to the closing quote. -/
lemma readQuoted?_backslashed (cs rest : List Char) :
    readQuoted? (backslashed cs ++ '"' :: rest) = some (cs, rest) := by
  induction cs with
  | nil => rfl
  | cons c cs ih =>
    by_cases hc : c = '"' ∨ c = '\\'
    · rw [backslashed, if_pos hc]
      rcases hc with rfl | rfl
      · exact congrArg (Option.map _) ih
      · exact congrArg (Option.map _) ih
    · rw [backslashed, if_neg hc]
      rw [not_or] at hc
      rw [List.cons_append, readQuoted?]
      · rw [ih]; rfl
      · exact hc.1
      · exact fun _ _ e _ => hc.2 e

lemma read?_quoteItem (reserved : List Char) (s : String) (rest : List Char) :
    read? reserved ((quoteItem s).toList ++ rest) = some (.quoted s, rest) := by
  have e : (quoteItem s).toList ++ rest = '"' :: (backslashed s.toList ++ '"' :: rest) := by
    simp [quoteItem]
  rw [e, read?, readQuoted?_backslashed]
  simp

lemma takeWhile_isBare_of_stops {reserved rest : List Char} (hr : Stops reserved rest) :
    rest.takeWhile (isBare reserved) = [] ∧ rest.dropWhile (isBare reserved) = rest := by
  cases rest with
  | nil => exact ⟨rfl, rfl⟩
  | cons c rest =>
    have hc : isBare reserved c = false := by
      have hmem := (hr c rfl).1
      simp [isBare, hmem]
    simp [hc]

lemma read?_bare {reserved : List Char} {s : String} {rest : List Char} (hq : '"' ∈ reserved)
    (hs : ∀ c ∈ s.toList, isBare reserved c = true) (hr : Stops reserved rest) :
    read? reserved (s.toList ++ rest) = some (.bare s, rest) := by
  obtain ⟨htake, hdrop⟩ := takeWhile_isBare_of_stops hr
  rw [read?]
  · rw [List.takeWhile_append_of_pos hs, List.dropWhile_append_of_pos hs, htake, hdrop]
    simp
  · -- a double quote at the start would belong to the rest or to the run, and stands in neither
    intro rest' e
    cases hcs : s.toList with
    | nil =>
      rw [hcs, List.nil_append] at e
      exact (hr '"' (by rw [e]; rfl)).2 rfl
    | cons c cs =>
      rw [hcs, List.cons_append, List.cons.injEq] at e
      have hbare := hs c (by rw [hcs]; exact List.mem_cons_self)
      rw [e.1] at hbare
      simp [isBare, hq] at hbare

/-- A text made an item is read back as a field of that text. An item that stands bare is not empty and
does not spell null. -/
lemma read?_item {reserved : List Char} (hm : ∀ c ∈ reserved, isItemMark c = true)
    (hq : '"' ∈ reserved) (always : Bool) (s : String) {rest : List Char}
    (hr : Stops reserved rest) :
    ∃ f, read? reserved ((item always s).toList ++ rest) = some (f, rest) ∧
      (f = .quoted s ∨ (f = .bare s ∧ s ≠ "" ∧ Text.lower s ≠ "null")) := by
  by_cases h : (always || needsItemQuotes s) = true
  · rw [item, if_pos h]
    exact ⟨.quoted s, read?_quoteItem reserved s rest, .inl rfl⟩
  · rw [item, if_neg h]
    simp only [needsItemQuotes, Bool.or_eq_true, List.any_eq_true, String.isEmpty_iff, beq_iff_eq,
      not_or, not_exists, not_and] at h
    obtain ⟨-, ⟨hempty, hnull⟩, hmark⟩ := h
    refine ⟨.bare s, read?_bare hq ?_ hr, .inr ⟨rfl, hempty, hnull⟩⟩
    intro c hc
    have hplain := hmark c hc
    -- what needs no double quotes holds no mark, and every reserved character is one
    have hreserved : c ∉ reserved := fun hmem => hplain (hm c hmem)
    have hblank : Text.isBlank c = false := by
      rw [isItemMark, Bool.or_eq_true, not_or] at hplain
      exact Bool.eq_false_iff.2 hplain.2
    simp [isBare, hreserved, hblank]

/-- A field that does not start with a double quote is a run of characters that a bare field may hold. -/
lemma bare_of_read? {reserved cs rest : List Char} {f : Field} (hq : cs.head? ≠ some '"')
    (h : read? reserved cs = some (f, rest)) :
    ∃ run, cs = run ++ rest ∧ f = .bare (String.ofList run) ∧ ∀ c ∈ run, isBare reserved c = true := by
  rw [read?] at h
  · cases h
    exact ⟨_, List.takeWhile_append_dropWhile.symm, rfl, List.all_eq_true.1 List.all_takeWhile⟩
  · rintro rest' rfl
    exact hq rfl

end Field

/-- Different texts make different items. -/
lemma item_injective (always : Bool) : Function.Injective (item always) := by
  intro s s' h
  have hm : ∀ c ∈ ['"'], isItemMark c = true := by
    intro c hc
    rw [List.mem_singleton.1 hc]
    decide
  have hstops : Field.Stops ['"'] [] := fun c hc => absurd hc (Option.not_mem_none c)
  obtain ⟨f, hf, hs⟩ := Field.read?_item hm List.mem_cons_self always s hstops
  obtain ⟨f', hf', hs'⟩ := Field.read?_item hm List.mem_cons_self always s' hstops
  -- one field is read, and it holds both texts
  have hcontent : f.content = s := by rcases hs with rfl | ⟨rfl, -⟩ <;> rfl
  have hcontent' : f'.content = s' := by rcases hs' with rfl | ⟨rfl, -⟩ <;> rfl
  rw [h, hf'] at hf
  cases hf
  exact hcontent.symm.trans hcontent'

/-! ## Texts without marks -/

lemma isItemMark_of_isDigit {c : Char} (h : c.isDigit = true) : isItemMark c = false := by
  have hne (mark : Char) (hmark : mark.isDigit = false) : c ≠ mark := by
    rintro rfl
    rw [hmark] at h
    cases h
  have hblank : Text.isBlank c = false := Text.isBlank_of_isAlphanum (by rw [Char.isAlphanum, h, Bool.or_true])
  simp [isItemMark, hblank, hne]

/-- A text without marks is an item as it stands, if one of its characters is not in the word for null. -/
lemma item_of_not_mark {s : String} {c : Char} (hc : c ∈ s.toList) (hlower : c.toLower ∉ "null".toList)
    (hmarks : ∀ d ∈ s.toList, isItemMark d = false) : item false s = s := by
  have hempty : ¬ s.isEmpty = true := by
    intro h
    rw [String.isEmpty_iff.1 h] at hc
    cases hc
  have hnull : ¬ (Text.lower s == "null") = true := by
    intro h
    have hmem : c.toLower ∈ (Text.lower s).toList := by
      rw [Text.lower, String.toList_ofList]
      exact List.mem_map.2 ⟨c, hc, rfl⟩
    rw [eq_of_beq h] at hmem
    exact hlower hmem
  have hplain : ¬ s.toList.any isItemMark = true := by
    rw [List.any_eq_true]
    rintro ⟨d, hd, hmark⟩
    rw [hmarks d hd] at hmark
    cases hmark
  have hneeds : ¬ needsItemQuotes s = true := by
    rw [needsItemQuotes, Bool.or_eq_true, Bool.or_eq_true, not_or, not_or]
    exact ⟨⟨hempty, hnull⟩, hplain⟩
  exact if_neg hneeds

lemma doubleQuotes_of_not_mem {cs : List Char} (h : '\'' ∉ cs) : doubleQuotes cs = cs := by
  induction cs with
  | nil => rfl
  | cons c cs ih =>
    rw [List.mem_cons, not_or] at h
    obtain ⟨hc, hcs⟩ := h
    rw [doubleQuotes, if_neg (Ne.symm hc), ih hcs]

lemma quoteSql_of_not_mem {s : String} (h : '\'' ∉ s.toList) : quoteSql s = "'" ++ s ++ "'" := by
  rw [quoteSql, escapeSql, doubleQuotes_of_not_mem h, String.ofList_toList]

end SqlBridge.Literal
