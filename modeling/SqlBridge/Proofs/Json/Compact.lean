import SqlBridge.Json.Printer
import SqlBridge.Json.Reader
import SqlBridge.Proofs.Text.Integers
import SqlBridge.Proofs.Text.Runs

/-!
# Compact documents read again

The compact text of a document is read as that document, its fields in their order, if its numbers are
integers of 64 bits and its arrays and objects are not nested deeper than the reader goes. The reader's fuel
is twice the length of the text: a document takes two steps for each of its characters at most.
-/

namespace SqlBridge.Json

variable {cs rest : List Char} {fuel depth : Nat} {k : String} {i : Int} {j : Json}

/-! ## Strings -/

/-- A control character is read from its four hexadecimal digits. -/
lemma readUnit?_paddedHexDigits {n : Nat} (hn : n < 32) (rest : List Char) :
    readUnit? (Text.paddedHexDigits 4 n ++ rest) = some (n, rest) := by
  have hall : ∀ n < 32,
      Text.paddedHexDigits 4 n = ['0', '0', Nat.digitChar (n / 16), Nat.digitChar (n % 16)] ∧
      Text.readHex? ['0', '0', Nat.digitChar (n / 16), Nat.digitChar (n % 16)] = some n := by
    decide +kernel
  obtain ⟨hdigits, hvalue⟩ := hall n hn
  rw [hdigits]
  show (Text.readHex? ['0', '0', Nat.digitChar (n / 16), Nat.digitChar (n % 16)]).map (·, rest) = _
  rw [hvalue, Option.map_some]

lemma readPieces?_backslash {c : Char} (h : readEscape? cs = some (.char c, rest)) :
    readPieces? (fuel + 1) ('\\' :: cs) = (readPieces? fuel rest).map fun p => (.char c :: p.1, p.2) := by
  simp only [readPieces?, h, Option.bind_eq_bind, Option.bind_some]
  cases readPieces? fuel rest <;> rfl

/-- An escaped character is read back as one piece. -/
lemma readPieces?_escapeChar (fuel : Nat) (c : Char) (cs : List Char) :
    readPieces? (fuel + 1) (escapeChar c ++ cs) =
      (readPieces? fuel cs).map fun p => (.char c :: p.1, p.2) := by
  unfold escapeChar
  split
  · exact readPieces?_backslash rfl
  · exact readPieces?_backslash rfl
  · exact readPieces?_backslash rfl
  · exact readPieces?_backslash rfl
  · exact readPieces?_backslash rfl
  · rename_i hquote hbackslash _ _ _
    split_ifs with hb hf hcontrol
    · obtain rfl : c = '\x08' := Char.toNat_inj.1 hb
      exact readPieces?_backslash rfl
    · obtain rfl : c = '\x0c' := Char.toNat_inj.1 hf
      exact readPieces?_backslash rfl
    · refine readPieces?_backslash ?_
      show readEscape? ('u' :: (Text.paddedHexDigits 4 c.toNat ++ cs)) = _
      rw [readEscape?, readUnit?_paddedHexDigits hcontrol, Option.map_some, Piece.ofUnit, if_neg (by omega),
        Char.ofNat_toNat]
    · -- the character stands for itself, as it is neither a quote nor a backslash
      rw [List.singleton_append, readPieces?, if_neg hcontrol]
      · cases readPieces? fuel cs <;> rfl
      · exact hquote
      · exact hbackslash

lemma readPieces?_escaped (cs rest : List Char) (h : cs.length < fuel) :
    readPieces? fuel (cs.flatMap escapeChar ++ '"' :: rest) = some (cs.map .char, rest) := by
  induction cs generalizing fuel with
  | nil =>
    obtain ⟨fuel, rfl⟩ := Nat.exists_eq_succ_of_ne_zero (Nat.ne_of_gt h)
    rfl
  | cons c cs ih =>
    obtain ⟨fuel, rfl⟩ := Nat.exists_eq_succ_of_ne_zero (Nat.ne_of_gt (Nat.zero_lt_of_lt h))
    rw [List.flatMap_cons, List.append_assoc, readPieces?_escapeChar, ih (Nat.lt_of_succ_lt_succ h)]
    rfl

lemma joinPieces?_chars (cs : List Char) : joinPieces? (cs.map .char) = some cs := by
  induction cs with
  | nil => rfl
  | cons c cs ih => rw [List.map_cons, joinPieces?, ih, Option.map_some]

/-- A string is read back from its escaped characters, whatever they are. -/
lemma readString?_escaped (k : String) (rest : List Char) (h : k.toList.length < fuel) :
    readString? fuel (k.toList.flatMap escapeChar ++ '"' :: rest) = some (some k, rest) := by
  rw [readString?, readPieces?_escaped k.toList rest h, Option.map_some, joinPieces?_chars, Option.map_some,
    String.ofList_toList]

lemma escapeChar_ne_nil (c : Char) : escapeChar c ≠ [] := by
  unfold escapeChar
  split
  · exact List.cons_ne_nil _ _
  · exact List.cons_ne_nil _ _
  · exact List.cons_ne_nil _ _
  · exact List.cons_ne_nil _ _
  · exact List.cons_ne_nil _ _
  · split_ifs <;> exact List.cons_ne_nil _ _

lemma length_le_length_escaped (cs : List Char) : cs.length ≤ (cs.flatMap escapeChar).length := by
  induction cs with
  | nil => exact Nat.le_refl 0
  | cons c cs ih =>
    have hpos : 0 < (escapeChar c).length := List.length_pos_of_ne_nil (escapeChar_ne_nil c)
    rw [List.flatMap_cons, List.length_append, List.length_cons]
    omega

/-! ## Numbers -/

/-- The text can stand behind a part of a document: it is over, or a comma or a closing mark stands first. -/
def Follows (rest : List Char) : Prop :=
  ∀ c ∈ rest.head?, c = ',' ∨ c = ']' ∨ c = '\x7d'

/-- Digits of a number below the limit are all taken. -/
lemma absorb_eq {digits : List Char} {s : Nat} (h : Nat.ofDigitChars 10 digits s < twoTo 64) :
    absorb s digits = (Nat.ofDigitChars 10 digits s, 0) := by
  induction digits generalizing s with
  | nil => rfl
  | cons c rest ih =>
    rw [Nat.ofDigitChars_cons, Nat.mul_comm] at h ⊢
    have hnext : s * 10 + (c.toNat - '0'.toNat) < twoTo 64 := by
      refine Nat.lt_of_le_of_lt ?_ h
      rw [Nat.ofDigitChars_eq_ofDigitChars_zero]
      exact Nat.le_trans (Nat.le_mul_of_pos_left _ (Nat.pow_pos (by decide))) (Nat.le_add_right _ _)
    rw [absorb]
    simp only [hnext, if_true]
    exact ih h

/-- Only the numeral of zero begins with a zero. -/
lemma head?_toDigits_ne {n : Nat} (hn : n ≠ 0) : (Nat.toDigits 10 n).head? ≠ some '0' := by
  induction n using Nat.strongRecOn with
  | _ n ih =>
    rw [Nat.toDigits_eq_if (by decide)]
    split
    · rename_i hlt
      have hall : ∀ n < 10, n ≠ 0 → [n.digitChar].head? ≠ some '0' := by decide
      exact hall n hlt hn
    · rename_i hge
      rw [List.head?_append_of_ne_nil _ Nat.toDigits_ne_nil]
      exact ih (n / 10) (by omega) (by omega)

lemma readUnsigned?_toDigits {n : Nat} (hn : n < twoTo 64) (negative : Bool) (hrest : Follows rest) :
    readUnsigned? negative (Nat.toDigits 10 n ++ rest) = some (some (integerOrFloat negative n), rest) := by
  have hstops : ∀ c ∈ rest.head?, c.isDigit = false := by
    intro c hc
    rcases hrest c hc with rfl | rfl | rfl <;> rfl
  have hrun : Text.IsRun Char.isDigit (Nat.toDigits 10 n) rest := ⟨(Sql.isDigits_toDigits n).2, hstops⟩
  have hne : (Nat.toDigits 10 n).isEmpty = false := by
    rw [List.isEmpty_eq_false_iff]
    exact Nat.toDigits_ne_nil
  have hlead :
      ((Nat.toDigits 10 n).head? == some '0' && decide (1 < (Nat.toDigits 10 n).length)) = false := by
    by_cases h0 : n = 0
    · subst h0
      rfl
    · rw [Bool.and_eq_false_iff]
      exact .inl (beq_eq_false_iff_ne.2 (head?_toDigits_ne h0))
  have hfraction : readFraction? rest = some ([], false, rest) := by
    rw [readFraction?]
    rintro rest' rfl
    rcases hrest '.' rfl with h | h | h <;> cases h
  have hscale : readScale? rest = some (0, false, rest) := by
    cases rest with
    | nil => rfl
    | cons c rest =>
      rcases hrest c rfl with rfl | rfl | rfl <;> rfl
  have habsorb : absorb 0 (Nat.toDigits 10 n) = (n, 0) := by
    rw [absorb_eq] <;> rw [Nat.ofDigitChars_ten_toDigits]
    exact hn
  rw [readUnsigned?]
  simp only [hrun.takeWhile, hrun.dropWhile, hne, hlead, Bool.or_self, Bool.false_eq_true, if_false,
    hfraction, habsorb, Option.bind_eq_bind, Option.bind_some, hscale]
  rfl

/-- An integer of 64 bits, signed or unsigned. -/
def Number.IsWhole : Number → Prop
  | .integer i => -(twoTo 63 : Int) ≤ i ∧ i < (twoTo 64 : Int)
  | .float _ => False
  | .single _ => False

lemma readNumber?_text (h : (Number.integer i).IsWhole) (hrest : Follows rest) :
    readNumber? ((toString i).toList ++ rest) = some (some (.integer i), rest) := by
  obtain ⟨hlow, hhigh⟩ := h
  rw [Int.toString_eq_repr, Int.repr_eq_if]
  by_cases hsign : 0 ≤ i
  · have hlt : i.toNat < twoTo 64 := by omega
    rw [if_pos hsign, Nat.toList_repr, readNumber?, readUnsigned?_toDigits hlt false hrest]
    · show some (some (Number.integer i.toNat), rest) = _
      rw [Int.toNat_of_nonneg hsign]
    · -- a minus sign is no digit
      rintro rest' e
      obtain ⟨c, cs, hdigits⟩ := List.exists_cons_of_ne_nil (Nat.toDigits_ne_nil (b := 10) (n := i.toNat))
      rw [hdigits, List.cons_append, List.cons.injEq] at e
      have hc := (Sql.isDigits_toDigits i.toNat).2 c (by rw [hdigits]; exact List.mem_cons_self)
      rw [e.1] at hc
      cases hc
  · have hpos : 0 < (-i).toNat := by omega
    have hle : (-i).toNat ≤ twoTo 63 := by omega
    have hlt : twoTo 63 < twoTo 64 := by decide
    rw [if_neg hsign, String.toList_append, Nat.toList_repr]
    show readNumber? ('-' :: (Nat.toDigits 10 (-i).toNat ++ rest)) = _
    rw [readNumber?, readUnsigned?_toDigits (Nat.lt_of_le_of_lt hle hlt) true hrest, integerOrFloat, if_pos rfl,
      if_pos ⟨hpos, hle⟩]
    have hneg : -((-i).toNat : Int) = i := by omega
    rw [hneg]

/-! ## Documents -/

mutual

/-- All numbers are integers of 64 bits, and every part can be read. -/
def IsWhole : Json → Prop
  | .number n => n.IsWhole
  | .array items => ItemsWhole items
  | .object fields => FieldsWhole fields
  | .unreadable => False
  | _ => True

/-- Every item is whole. -/
def ItemsWhole : List Json → Prop
  | [] => True
  | j :: rest => IsWhole j ∧ ItemsWhole rest

/-- The value of every field is whole. -/
def FieldsWhole : List (String × Json) → Prop
  | [] => True
  | (_, j) :: rest => IsWhole j ∧ FieldsWhole rest

end

mutual

/-- How deep arrays and objects are nested. -/
def nesting : Json → Nat
  | .array items => itemsNesting items + 1
  | .object fields => fieldsNesting fields + 1
  | _ => 0

/-- How deep the deepest item is nested. -/
def itemsNesting : List Json → Nat
  | [] => 0
  | j :: rest => max (nesting j) (itemsNesting rest)

/-- How deep the deepest value of a field is nested. -/
def fieldsNesting : List (String × Json) → Nat
  | [] => 0
  | (_, j) :: rest => max (nesting j) (fieldsNesting rest)

end

lemma isWhole_array {items : List Json} : (Json.array items).IsWhole ↔ ∀ j ∈ items, j.IsWhole := by
  induction items with
  | nil => exact iff_of_true trivial (List.forall_mem_nil _)
  | cons j rest ih =>
    rw [List.forall_mem_cons, ← ih]
    exact Iff.rfl

lemma isWhole_object {fields : List (String × Json)} :
    (Json.object fields).IsWhole ↔ ∀ e ∈ fields, e.2.IsWhole := by
  induction fields with
  | nil => exact iff_of_true trivial (List.forall_mem_nil _)
  | cons e rest ih =>
    rw [List.forall_mem_cons, ← ih]
    exact Iff.rfl

lemma skipBlanks_cons {c : Char} (hc : isBlank c = false) (cs : List Char) : skipBlanks (c :: cs) = c :: cs :=
  List.dropWhile_cons_of_neg (Bool.eq_false_iff.1 hc)

lemma follows_cons {c : Char} (hc : c = ',' ∨ c = ']' ∨ c = '\x7d') (cs : List Char) :
    Follows (c :: cs) := by
  rintro _ ⟨⟩
  exact hc

lemma within_of_lt (h : 0 < depth) (j : Json) : within depth j = j :=
  if_neg (Nat.ne_of_gt h)

/-! ## Texts of documents -/

lemma toList_quote (k : String) : (quote k).toList = '"' :: (k.toList.flatMap escapeChar ++ ['"']) := by
  rw [quote, String.toList_ofList]

lemma toList_compact_array (items : List Json) :
    (Json.array items).compact.toList = '[' :: ((compactItems items).toList ++ [']']) := by
  rw [compact, String.toList_append, String.toList_append]
  rfl

lemma toList_compact_object (fields : List (String × Json)) :
    (Json.object fields).compact.toList = '\x7b' :: ((compactFields fields).toList ++ ['\x7d']) := by
  rw [compact, String.toList_append, String.toList_append]
  rfl

lemma toList_compactItems_cons (j j' : Json) (rest : List Json) :
    (compactItems (j :: j' :: rest)).toList =
      j.compact.toList ++ ',' :: (compactItems (j' :: rest)).toList := by
  rw [compactItems, String.toList_append, String.toList_append, List.append_assoc]
  · rfl
  · exact List.cons_ne_nil _ _

/-- The text of a field behind the quote that opens its key, where `cs` is the text of its value. -/
def fieldChars (k : String) (cs : List Char) : List Char :=
  k.toList.flatMap escapeChar ++ '"' :: ':' :: cs

lemma fieldChars_append (k : String) (cs rest : List Char) :
    fieldChars k cs ++ rest = fieldChars k (cs ++ rest) := by
  simp only [fieldChars, List.append_assoc, List.cons_append]

lemma length_le_length_fieldChars (k : String) (cs : List Char) :
    k.toList.length + cs.length + 2 ≤ (fieldChars k cs).length := by
  have hkey := length_le_length_escaped k.toList
  simp only [fieldChars, List.length_append, List.length_cons]
  omega

lemma toList_compactFields_singleton (k : String) (j : Json) :
    (compactFields [(k, j)]).toList = '"' :: fieldChars k j.compact.toList := by
  rw [compactFields, String.toList_append, String.toList_append, toList_quote]
  simp [fieldChars]

lemma toList_compactFields_cons (k : String) (j : Json) (field : String × Json)
    (rest : List (String × Json)) :
    (compactFields ((k, j) :: field :: rest)).toList =
      '"' :: fieldChars k (j.compact.toList ++ ',' :: (compactFields (field :: rest)).toList) := by
  rw [compactFields]
  · simp [toList_quote, fieldChars]
  · exact List.cons_ne_nil _ _

lemma exists_toString_cons (i : Int) : ∃ c cs, (toString i).toList = c :: cs := by
  apply List.exists_cons_of_ne_nil
  rw [Int.toString_eq_repr, Int.repr_eq_if]
  split
  · rw [Nat.toList_repr]
    exact Nat.toDigits_ne_nil
  · rw [String.toList_append]
    exact List.cons_ne_nil _ _

lemma not_blank_of_minus_or_isDigit {c : Char} (h : c = '-' ∨ c.isDigit = true) :
    isBlank c = false ∧ c ≠ ']' := by
  rcases h with rfl | h
  · decide
  · refine ⟨Bool.eq_false_iff.2 fun hblank => ?_, ?_⟩
    · simp only [isBlank, Bool.or_eq_true, beq_iff_eq] at hblank
      obtain ((rfl | rfl) | rfl) | rfl := hblank <;> cases h
    · rintro rfl
      cases h

/-- A document does not begin with a blank or a closing bracket. -/
lemma exists_compact_cons (h : j.IsWhole) :
    ∃ c cs, j.compact.toList = c :: cs ∧ isBlank c = false ∧ c ≠ ']' := by
  cases j with
  | null => exact ⟨'n', _, rfl, by decide⟩
  | bool b =>
    cases b with
    | true => exact ⟨'t', _, rfl, by decide⟩
    | false => exact ⟨'f', _, rfl, by decide⟩
  | number n =>
    cases n with
    | integer i =>
      obtain ⟨c, cs, hcs⟩ := exists_toString_cons i
      refine ⟨c, cs, hcs, not_blank_of_minus_or_isDigit (Text.minus_or_isDigit_of_mem (i := i) ?_)⟩
      rw [hcs]
      exact List.mem_cons_self
    | float x => cases h
    | single x => cases h
  | string s => exact ⟨'"', _, toList_quote s, by decide⟩
  | array items => exact ⟨'[', _, toList_compact_array items, by decide⟩
  | object fields => exact ⟨'\x7b', _, toList_compact_object fields, by decide⟩
  | unreadable => cases h

lemma length_compact_pos (h : j.IsWhole) : 0 < j.compact.toList.length := by
  obtain ⟨c, cs, hcs, -⟩ := exists_compact_cons h
  rw [hcs]
  exact Nat.succ_pos _

lemma exists_compactItems_cons {items : List Json} (h : ItemsWhole (j :: items)) :
    ∃ c cs, (compactItems (j :: items)).toList = c :: cs ∧ isBlank c = false ∧ c ≠ ']' := by
  obtain ⟨c, cs, hcs, hc⟩ := exists_compact_cons h.1
  cases items with
  | nil => exact ⟨c, cs, by rw [compactItems, hcs], hc⟩
  | cons j' rest => exact ⟨c, _, by rw [toList_compactItems_cons, hcs, List.cons_append], hc⟩

lemma exists_compactFields_cons (field : String × Json) (fields : List (String × Json)) :
    ∃ cs, (compactFields (field :: fields)).toList = '"' :: cs := by
  obtain ⟨k, j⟩ := field
  cases fields with
  | nil => exact ⟨_, toList_compactFields_singleton k j⟩
  | cons field rest => exact ⟨_, toList_compactFields_cons k j field rest⟩

/-! ## Steps of the reader -/

lemma readValue?_number {c : Char} (hc : c = '-' ∨ c.isDigit = true) (fuel depth : Nat) (cs : List Char) :
    readValue? (fuel + 1) depth (c :: cs) =
      (readNumber? (c :: cs)).map fun p => (ofRead .number p.1, p.2) := by
  rw [readValue?, skipBlanks_cons (not_blank_of_minus_or_isDigit hc).1]
  -- the other forms of a document begin with other characters
  split
  all_goals first
    | rfl
    | (rename_i e; cases e; rcases hc with h | h <;> cases h)

lemma readValue?_quote (fuel depth : Nat) (cs : List Char) :
    readValue? (fuel + 1) depth ('"' :: cs) =
      (readString? fuel cs).map fun p => (ofRead .string p.1, p.2) :=
  rfl

lemma readValue?_bracket {c : Char} (hblank : isBlank c = false) (hc : c ≠ ']') (fuel depth : Nat)
    (cs : List Char) :
    readValue? (fuel + 1) depth ('[' :: c :: cs) =
      (readItems? fuel (depth - 1) (c :: cs)).map fun p => (within depth (.array p.1), p.2) := by
  have hskip := skipBlanks_cons hblank cs
  simp only [readValue?, skipBlanks_cons (c := '[') rfl]
  split
  · rename_i e
    rw [hskip] at e
    cases e
    exact absurd rfl hc
  · rw [hskip]

lemma readValue?_brace (fuel depth : Nat) (cs : List Char) :
    readValue? (fuel + 1) depth ('\x7b' :: '"' :: cs) =
      (readFields? fuel (depth - 1) ('"' :: cs)).map fun p => (within depth (ofRead .object p.1), p.2) :=
  rfl

lemma readItems?_of_comma (h : readValue? fuel depth cs = some (j, ',' :: rest)) :
    readItems? (fuel + 1) depth cs = (readItems? fuel depth rest).map fun p => (j :: p.1, p.2) := by
  simp only [readItems?, h, Option.bind_eq_bind, Option.bind_some, skipBlanks_cons (c := ',') rfl]
  cases readItems? fuel depth rest <;> rfl

lemma readItems?_of_bracket (h : readValue? fuel depth cs = some (j, ']' :: rest)) :
    readItems? (fuel + 1) depth cs = some ([j], rest) := by
  simp only [readItems?, h, Option.bind_eq_bind, Option.bind_some, skipBlanks_cons (c := ']') rfl]

lemma readFields?_of_comma (hk : k.toList.length < fuel)
    (h : readValue? fuel depth cs = some (j, ',' :: rest)) :
    readFields? (fuel + 1) depth ('"' :: fieldChars k cs) =
      (readFields? fuel depth rest).map fun p => (p.1.map ((k, j) :: ·), p.2) := by
  rw [readFields?, skipBlanks_cons rfl]
  simp only [fieldChars, readString?_escaped k (':' :: cs) hk, h, Option.bind_eq_bind, Option.bind_some,
    skipBlanks_cons (c := ':') rfl, skipBlanks_cons (c := ',') rfl]
  cases readFields? fuel depth rest <;> rfl

lemma readFields?_of_brace (hk : k.toList.length < fuel)
    (h : readValue? fuel depth cs = some (j, '\x7d' :: rest)) :
    readFields? (fuel + 1) depth ('"' :: fieldChars k cs) = some (some [(k, j)], rest) := by
  rw [readFields?, skipBlanks_cons rfl]
  simp only [fieldChars, readString?_escaped k (':' :: cs) hk, h, Option.bind_eq_bind, Option.bind_some,
    skipBlanks_cons (c := ':') rfl, skipBlanks_cons (c := '\x7d') rfl]
  rfl

/-! ## Whole texts -/

mutual

/-- The text of a document is read as the document up to what stands behind it. -/
lemma readValue?_compact : (j : Json) → j.IsWhole → ∀ (fuel depth : Nat) (rest : List Char),
    2 * j.compact.toList.length ≤ fuel + 2 → j.nesting ≤ depth → Follows rest →
    readValue? (fuel + 1) depth (j.compact.toList ++ rest) = some (j, rest)
  | .null => fun _ _ _ _ _ _ _ => rfl
  | .bool true => fun _ _ _ _ _ _ _ => rfl
  | .bool false => fun _ _ _ _ _ _ _ => rfl
  | .number (.integer i) => by
    intro h fuel depth rest _ _ hrest
    obtain ⟨c, cs, hcs⟩ := exists_toString_cons i
    have hc : c = '-' ∨ c.isDigit = true :=
      Text.minus_or_isDigit_of_mem (i := i) (by rw [hcs]; exact List.mem_cons_self)
    show readValue? (fuel + 1) depth ((toString i).toList ++ rest) = _
    rw [hcs, List.cons_append, readValue?_number hc, ← List.cons_append, ← hcs, readNumber?_text h hrest]
    rfl
  | .number (.float _) => fun h => h.elim
  | .number (.single _) => fun h => h.elim
  | .string s => by
    intro _ fuel depth rest hfuel _ _
    have htext : (Json.string s).compact.toList = '"' :: (s.toList.flatMap escapeChar ++ ['"']) :=
      toList_quote s
    have hlength := length_le_length_escaped s.toList
    rw [htext] at hfuel ⊢
    simp only [List.length_cons, List.length_append] at hfuel
    have hs : s.toList.length < fuel := by omega
    rw [List.cons_append, List.append_assoc, List.singleton_append, readValue?_quote,
      readString?_escaped s rest hs]
    rfl
  | .array [] => by
    intro _ fuel depth rest _ hdepth _
    show some (within depth (.array []), rest) = _
    rw [within_of_lt hdepth]
  | .array (j :: items) => by
    intro h fuel depth rest hfuel hdepth _
    obtain ⟨c, cs, hcs, hblank, hc⟩ := exists_compactItems_cons h
    rw [toList_compact_array] at hfuel ⊢
    simp only [List.length_cons, List.length_append, List.length_nil] at hfuel
    have hread := readItems?_compactItems (j :: items) (List.cons_ne_nil _ _) h fuel (depth - 1) rest
      (by omega) (Nat.le_sub_one_of_lt hdepth)
    rw [List.cons_append, List.append_assoc, List.singleton_append]
    rw [hcs, List.cons_append] at hread ⊢
    rw [readValue?_bracket hblank hc, hread, Option.map_some, within_of_lt (Nat.zero_lt_of_lt hdepth)]
  | .object [] => by
    intro _ fuel depth rest _ hdepth _
    show some (within depth (.object []), rest) = _
    rw [within_of_lt hdepth]
  | .object (field :: fields) => by
    intro h fuel depth rest hfuel hdepth _
    obtain ⟨cs, hcs⟩ := exists_compactFields_cons field fields
    rw [toList_compact_object] at hfuel ⊢
    simp only [List.length_cons, List.length_append, List.length_nil] at hfuel
    have hread := readFields?_compactFields (field :: fields) (List.cons_ne_nil _ _) h fuel (depth - 1) rest
      (by omega) (Nat.le_sub_one_of_lt hdepth)
    rw [List.cons_append, List.append_assoc, List.singleton_append]
    rw [hcs, List.cons_append] at hread ⊢
    rw [readValue?_brace, hread, Option.map_some, within_of_lt (Nat.zero_lt_of_lt hdepth)]
    rfl
  | .unreadable => fun h => h.elim

lemma readItems?_compactItems : (items : List Json) → items ≠ [] → ItemsWhole items →
    ∀ (fuel depth : Nat) (rest : List Char), 2 * (compactItems items).toList.length ≤ fuel →
    itemsNesting items ≤ depth →
    readItems? fuel depth ((compactItems items).toList ++ ']' :: rest) = some (items, rest)
  | [] => fun hne => (hne rfl).elim
  | [j] => by
    intro _ h fuel depth rest hfuel hdepth
    have hpos := length_compact_pos h.1
    rw [compactItems] at hfuel ⊢
    obtain ⟨fuel, rfl⟩ : ∃ f, fuel = f + 2 := ⟨fuel - 2, by omega⟩
    have hitem := readValue?_compact j h.1 fuel depth (']' :: rest) (by omega) (Nat.max_le.1 hdepth).1
      (follows_cons (.inr (.inl rfl)) rest)
    exact readItems?_of_bracket hitem
  | j :: j' :: items => by
    intro _ h fuel depth rest hfuel hdepth
    have hpos := length_compact_pos h.1
    rw [toList_compactItems_cons] at hfuel ⊢
    simp only [List.length_append, List.length_cons] at hfuel
    obtain ⟨fuel, rfl⟩ : ∃ f, fuel = f + 2 := ⟨fuel - 2, by omega⟩
    rw [List.append_assoc, List.cons_append]
    have hitem := readValue?_compact j h.1 fuel depth
      (',' :: ((compactItems (j' :: items)).toList ++ ']' :: rest)) (by omega) (Nat.max_le.1 hdepth).1
      (follows_cons (.inl rfl) _)
    have hrest := readItems?_compactItems (j' :: items) (List.cons_ne_nil _ _) h.2 (fuel + 1) depth rest
      (by omega) (Nat.max_le.1 hdepth).2
    rw [readItems?_of_comma hitem, hrest, Option.map_some]

lemma readFields?_compactFields : (fields : List (String × Json)) → fields ≠ [] → FieldsWhole fields →
    ∀ (fuel depth : Nat) (rest : List Char), 2 * (compactFields fields).toList.length ≤ fuel →
    fieldsNesting fields ≤ depth →
    readFields? fuel depth ((compactFields fields).toList ++ '\x7d' :: rest) = some (some fields, rest)
  | [] => fun hne => (hne rfl).elim
  | [(k, j)] => by
    intro _ h fuel depth rest hfuel hdepth
    have hlength := length_le_length_fieldChars k j.compact.toList
    rw [toList_compactFields_singleton] at hfuel ⊢
    rw [List.length_cons] at hfuel
    obtain ⟨fuel, rfl⟩ : ∃ f, fuel = f + 2 := ⟨fuel - 2, by omega⟩
    rw [List.cons_append, fieldChars_append]
    have hvalue := readValue?_compact j h.1 fuel depth ('\x7d' :: rest) (by omega) (Nat.max_le.1 hdepth).1
      (follows_cons (.inr (.inr rfl)) rest)
    exact readFields?_of_brace (by omega) hvalue
  | (k, j) :: field :: fields => by
    intro _ h fuel depth rest hfuel hdepth
    have hlength := length_le_length_fieldChars k
      (j.compact.toList ++ ',' :: (compactFields (field :: fields)).toList)
    rw [toList_compactFields_cons] at hfuel ⊢
    simp only [List.length_append, List.length_cons] at hfuel hlength
    obtain ⟨fuel, rfl⟩ : ∃ f, fuel = f + 2 := ⟨fuel - 2, by omega⟩
    rw [List.cons_append, fieldChars_append, List.append_assoc, List.cons_append]
    have hvalue := readValue?_compact j h.1 fuel depth
      (',' :: ((compactFields (field :: fields)).toList ++ '\x7d' :: rest)) (by omega)
      (Nat.max_le.1 hdepth).1 (follows_cons (.inl rfl) _)
    have hrest := readFields?_compactFields (field :: fields) (List.cons_ne_nil _ _) h.2 (fuel + 1) depth rest
      (by omega) (Nat.max_le.1 hdepth).2
    rw [readFields?_of_comma (by omega) hvalue, hrest, Option.map_some]
    rfl

end

/-- A compact text is that of one document only, and it is read as this one. -/
theorem read?_compact (h : j.IsWhole) (hdepth : j.nesting ≤ maxDepth) : read? j.compact = some j := by
  have hstops : Follows [] := fun c hc => absurd hc (Option.not_mem_none c)
  have hread := readValue?_compact j h (2 * j.compact.toList.length + 1) maxDepth [] (by omega) hdepth hstops
  rw [List.append_nil] at hread
  rw [read?, hread]
  rfl

end SqlBridge.Json
