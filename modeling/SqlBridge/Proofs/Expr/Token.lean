import SqlBridge.Expr.Operator
import SqlBridge.Proofs.Registry.StoreExtent

/-!
# Tokens of rendered expressions

The text of an expression as a row of tokens, and a reader that takes the tokens off a text. What it looks for
depends on whether an operand is complete: before that a name, a parenthesis or a leading operator, after that
what can stand behind an operand. The tokens of every row in which they stand where they belong are read back.
-/

namespace SqlBridge

/-- What an operator on one operand adds to the text of its operand. -/
def UnaryOp.mark (op : UnaryOp) : List Char :=
  if op.isTrailing then ' ' :: op.symbol.toList
  else if op = .not then op.symbol.toList ++ [' ']
  else op.symbol.toList

/-- The symbols of the operators between two operands. -/
def BinaryOp.symbols : List String :=
  all.map symbol

/-- A part of the text of an expression. -/
inductive ExprToken where
  | column (name : String)
  /-- The name of a function and the parenthesis behind it. -/
  | call (name : String)
  | opening
  | closing
  | comma
  | bracket
  | unbracket
  | unary (op : UnaryOp)
  | cast (store : String)
  | binary (symbol : String)
  /-- The comparison with any element of the array that follows, and the parenthesis before the array. -/
  | anyOf (symbol : String)
deriving DecidableEq

namespace ExprToken

def chars : ExprToken → List Char
  | .column name => name.toList
  | .call name => name.toList ++ ['(']
  | .opening => ['(']
  | .closing => [')']
  | .comma => [',', ' ']
  | .bracket => ['[']
  | .unbracket => [']']
  | .unary op => op.mark
  | .cast store => ':' :: ':' :: store.toList
  | .binary symbol => ' ' :: (symbol.toList ++ [' '])
  | .anyOf symbol => ' ' :: (symbol.toList ++ " ANY (".toList)

/-- The text of a row of tokens. -/
def charsOf (ts : List ExprToken) : List Char :=
  ts.flatMap chars

/-- An operand is complete behind the token. -/
def completes : ExprToken → Bool
  | .column _ | .closing | .unbracket | .cast _ => true
  | .unary op => op.isTrailing
  | _ => false

/-! ## The reader -/

/-- The operator on one operand at the start of a text. -/
def readMark? (trailing : Bool) (cs : List Char) : Option (ExprToken × List Char) :=
  (UnaryOp.all.find? fun op => op.isTrailing == trailing && op.mark.isPrefixOf cs).map fun op =>
    (.unary op, cs.drop op.mark.length)

/-- The parenthesis at the start of a text. -/
def readParenthesis? : List Char → Option (ExprToken × List Char)
  | '(' :: rest => some (.opening, rest)
  | ')' :: rest => some (.closing, rest)
  | _ => none

/-- A name as a token: that of a function if a parenthesis follows, and else that of a column. -/
def ofName (name : String) : List Char → ExprToken × List Char
  | '(' :: rest => (.call name, rest)
  | rest => (.column name, rest)

/-- The token at the start of a text where an operand is expected, other than an operator. -/
def readOperand? (cs : List Char) : Option (ExprToken × List Char) :=
  let name := cs.takeWhile isNameChar
  if name.isEmpty then readParenthesis? cs
  else some (ofName (String.ofList name) (cs.dropWhile isNameChar))

/-- The operator between two operands whose symbol stands at the start of a text. -/
def readBinary? (cs : List Char) : Option (ExprToken × List Char) :=
  match cs.dropWhile (· != ' ') with
  | [] => none
  | _ :: rest =>
    let symbol := String.ofList (cs.takeWhile (· != ' '))
    if "ANY (".toList.isPrefixOf rest then some (.anyOf symbol, rest.drop "ANY (".toList.length)
    else some (.binary symbol, rest)

/-- The token at the start of a text behind a complete operand, other than an operator on that operand. -/
def readBehind? : List Char → Option (ExprToken × List Char)
  | ')' :: rest => some (.closing, rest)
  | ',' :: ' ' :: rest => some (.comma, rest)
  | '[' :: rest => some (.bracket, rest)
  | ']' :: rest => some (.unbracket, rest)
  | ':' :: ':' :: rest => some (.cast (StoreType.readName rest).1, (StoreType.readName rest).2)
  | ' ' :: rest => readBinary? rest
  | _ => none

/-- The token at the start of a text, and the rest of the text. -/
def next? (complete : Bool) (cs : List Char) : Option (ExprToken × List Char) :=
  readMark? complete cs <|> if complete then readBehind? cs else readOperand? cs

/-- The tokens of a text. -/
def tokens? (complete : Bool) (cs : List Char) : Option (List ExprToken) :=
  if cs.isEmpty then some []
  else
    match next? complete cs with
    | none => none
    | some (t, rest) =>
      -- a token without characters would be read for ever
      if rest.length < cs.length then (tokens? t.completes rest).map (t :: ·) else none
termination_by cs.length

/-! ## Rows of tokens -/

/-- A name of a column or function: characters of names, and at least one. -/
def IsWord (name : String) : Prop :=
  name ≠ "" ∧ IsPlainName name

/-- The token can stand where an operand is complete or is not. The word for the negation is no column. -/
def Fits (complete : Bool) : ExprToken → Prop
  | .column name => complete = false ∧ IsWord name ∧ name ≠ "NOT"
  | .call name => complete = false ∧ IsWord name
  | .opening => complete = false
  | .closing => True
  | .comma | .bracket | .unbracket => complete = true
  | .unary op => op.isTrailing = complete
  | .cast store => complete = true ∧ StoreType.IsDelimited store
  | .binary symbol | .anyOf symbol => complete = true ∧ symbol ∈ BinaryOp.symbols

/-- Every token stands where it can. -/
inductive Flows : Bool → List ExprToken → Prop
  | nil {complete : Bool} : Flows complete []
  | cons {complete : Bool} {t : ExprToken} {ts : List ExprToken} :
    t.Fits complete → Flows t.completes ts → Flows complete (t :: ts)

/-- A text that can stand behind a complete operand. -/
def IsBehind (rest : List Char) : Prop :=
  ∀ c cs, rest = c :: cs → c ∈ [')', ',', ']', ':'] ∨ (c = '[' ∧ cs.head? ≠ some ']') ∨
    (c = ' ' ∧ ∀ d ∈ cs.head?, d.isLower = false ∧ d ≠ '(')

variable {ts : List ExprToken} {t : ExprToken} {complete : Bool} {rest : List Char} {name symbol : String}

lemma charsOf_cons (t : ExprToken) (ts : List ExprToken) : charsOf (t :: ts) = t.chars ++ charsOf ts :=
  List.flatMap_cons

lemma charsOf_append (ts ts' : List ExprToken) : charsOf (ts ++ ts') = charsOf ts ++ charsOf ts' :=
  List.flatMap_append

/-! ## Symbols -/

/-- A symbol has no blank, does not start with a small letter or a parenthesis, and is not the word at the start
of a test for null. -/
lemma symbol_spec (h : symbol ∈ BinaryOp.symbols) :
    (∀ c ∈ symbol.toList, (c != ' ') = true) ∧
      (∃ c cs, symbol.toList = c :: cs ∧ c.isLower = false ∧ c ≠ '(') ∧ symbol ≠ "IS" := by
  have hall : ∀ symbol ∈ BinaryOp.symbols, symbol.toList.all (· != ' ') = true ∧
      symbol.toList.head?.any (fun c => !c.isLower && c != '(') = true ∧ symbol ≠ "IS" := by
    decide
  obtain ⟨hblank, hhead, hne⟩ := hall symbol h
  refine ⟨List.all_eq_true.1 hblank, ?_, hne⟩
  obtain ⟨c, hc, hc'⟩ := (Option.any_eq_true _ _).1 hhead
  obtain ⟨cs, hcs⟩ := List.head?_eq_some_iff.1 hc
  simp only [Bool.and_eq_true, Bool.not_eq_true', bne_iff_ne] at hc'
  exact ⟨c, cs, hcs, hc'⟩

/-! ## Where tokens stand -/

/-- The tokens that can stand where an operand is expected. -/
lemma Fits.operand (h : t.Fits false) :
    (∃ name, t = .column name ∧ IsWord name ∧ name ≠ "NOT") ∨ (∃ name, t = .call name ∧ IsWord name) ∨
      t = .opening ∨ t = .closing ∨ ∃ op, t = .unary op ∧ op.isTrailing = false := by
  cases t with
  | column name => exact .inl ⟨name, rfl, h.2⟩
  | call name => exact .inr (.inl ⟨name, rfl, h.2⟩)
  | opening => exact .inr (.inr (.inl rfl))
  | closing => exact .inr (.inr (.inr (.inl rfl)))
  | unary op => exact .inr (.inr (.inr (.inr ⟨op, rfl, h⟩)))
  | comma => cases h
  | bracket => cases h
  | unbracket => cases h
  | cast store => cases h.1
  | binary symbol => cases h.1
  | anyOf symbol => cases h.1

/-- The tokens that can stand behind a complete operand. -/
lemma Fits.behind (h : t.Fits true) :
    t = .closing ∨ t = .comma ∨ t = .bracket ∨ t = .unbracket ∨ (∃ op, t = .unary op ∧ op.isTrailing = true) ∨
      (∃ store, t = .cast store ∧ StoreType.IsDelimited store) ∨
      ∃ symbol ∈ BinaryOp.symbols, t = .binary symbol ∨ t = .anyOf symbol := by
  cases t with
  | closing => exact .inl rfl
  | comma => exact .inr (.inl rfl)
  | bracket => exact .inr (.inr (.inl rfl))
  | unbracket => exact .inr (.inr (.inr (.inl rfl)))
  | unary op => exact .inr (.inr (.inr (.inr (.inl ⟨op, rfl, h⟩))))
  | cast store => exact .inr (.inr (.inr (.inr (.inr (.inl ⟨store, rfl, h.2⟩)))))
  | binary symbol => exact .inr (.inr (.inr (.inr (.inr (.inr ⟨symbol, h.2, .inl rfl⟩)))))
  | anyOf symbol => exact .inr (.inr (.inr (.inr (.inr (.inr ⟨symbol, h.2, .inr rfl⟩)))))
  | column name => cases h.1
  | call name => cases h.1
  | opening => cases h

/-! ## What a row starts with -/

lemma exists_head_of_isWord (h : IsWord name) : ∃ c cs, name.toList = c :: cs ∧ isNameChar c = true := by
  obtain ⟨hne, hplain⟩ := h
  cases hcs : name.toList with
  | nil => exact absurd (String.toList_eq_nil_iff.1 hcs) hne
  | cons c cs => exact ⟨c, cs, rfl, hplain c (by rw [hcs]; exact List.mem_cons_self)⟩

lemma mark_of_isTrailing {op : UnaryOp} (h : op.isTrailing = true) :
    ∃ cs, op.mark = ' ' :: 'I' :: 'S' :: ' ' :: cs := by
  cases op with
  | isNull => exact ⟨_, rfl⟩
  | isNotNull => exact ⟨_, rfl⟩
  | _ => cases h

lemma mark_of_isTrailing_eq_false {op : UnaryOp} (h : op.isTrailing = false) :
    (op = .not ∧ op.mark = "NOT ".toList) ∨ ∃ c cs, op.mark = c :: cs ∧ c ∈ ['-', '~', '!'] := by
  cases op with
  | not => exact .inl ⟨rfl, rfl⟩
  | negate => exact .inr ⟨'-', _, rfl, by decide⟩
  | bitwiseNot => exact .inr ⟨'~', _, rfl, by decide⟩
  | textSearchNegate => exact .inr ⟨'!', _, rfl, by decide⟩
  | _ => cases h

lemma IsBehind.head (h : IsBehind rest) : ∀ c ∈ rest.head?, isNameChar c = false := by
  have hmarks : ∀ c ∈ [')', ',', ']', ':'], (!isNameChar c) = true := List.all_eq_true.1 (by decide)
  cases rest with
  | nil => exact nofun
  | cons c cs =>
    rintro _ ⟨⟩
    rcases h c cs rfl with hc | ⟨rfl, -⟩ | ⟨rfl, -⟩
    · simpa using hmarks c hc
    · rfl
    · rfl

/-- A word before a text that can stand behind an operand is the run of name characters there. -/
lemma IsBehind.isRun (h : IsBehind rest) (hname : IsWord name) : Text.IsRun isNameChar name.toList rest :=
  ⟨hname.2, h.head⟩

lemma isRun_paren (hname : IsWord name) : Text.IsRun isNameChar name.toList ('(' :: rest) :=
  ⟨hname.2, by rintro _ ⟨⟩; rfl⟩

/-- Where an operand is expected, a row starts with a character of names or a mark that no bracket is. -/
lemma head?_of_flows (h : Flows false ts) :
    ∀ c ∈ (charsOf ts).head?, isNameChar c = true ∨ c ∈ ['(', ')', '-', '~', '!'] := by
  cases h with
  | nil => exact nofun
  | @cons _ t ts ht hts =>
    rw [charsOf_cons]
    rcases ht.operand with ⟨name, rfl, hname, -⟩ | ⟨name, rfl, hname⟩ | rfl | rfl | ⟨op, rfl, hop⟩
    · obtain ⟨c, cs, hcs, hc⟩ := exists_head_of_isWord hname
      rw [chars, hcs]
      rintro _ ⟨⟩
      exact .inl hc
    · obtain ⟨c, cs, hcs, hc⟩ := exists_head_of_isWord hname
      rw [chars, hcs]
      rintro _ ⟨⟩
      exact .inl hc
    · rintro _ ⟨⟩
      exact .inr (by decide)
    · rintro _ ⟨⟩
      exact .inr (by decide)
    · rw [chars]
      rcases mark_of_isTrailing_eq_false hop with ⟨-, e⟩ | ⟨c, cs, e, hc⟩
      · rw [e]
        rintro _ ⟨⟩
        exact .inl (by decide)
      · rw [e]
        rintro _ ⟨⟩
        exact .inr (List.mem_cons_of_mem _ (List.mem_cons_of_mem _ hc))

/-- Behind a complete operand, every row starts with what can stand there. -/
lemma isBehind_of_flows (h : Flows true ts) : IsBehind (charsOf ts) := by
  have hsymbol : ∀ {symbol : String} {rest}, symbol ∈ BinaryOp.symbols →
      ∀ d ∈ (symbol.toList ++ rest).head?, d.isLower = false ∧ d ≠ '(' := by
    intro symbol rest hmem
    obtain ⟨-, ⟨d, ds, hds, hd⟩, -⟩ := symbol_spec hmem
    rw [hds]
    rintro _ ⟨⟩
    exact hd
  cases h with
  | nil => exact nofun
  | @cons _ t ts ht hts =>
    rw [charsOf_cons]
    rintro c cs e
    rcases ht.behind with rfl | rfl | rfl | rfl | ⟨op, rfl, hop⟩ | ⟨store, rfl, -⟩ | ⟨symbol, hmem, rfl | rfl⟩
    · cases e; simp
    · cases e; simp
    · cases e
      refine .inr (.inl ⟨rfl, fun hhead => ?_⟩)
      rcases head?_of_flows hts ']' hhead with hc | hc
      · cases hc
      · revert hc
        decide
    · cases e; simp
    · obtain ⟨cs', e'⟩ := mark_of_isTrailing hop
      rw [chars, e'] at e
      cases e
      refine .inr (.inr ⟨rfl, ?_⟩)
      rintro _ ⟨⟩
      decide
    · cases e; simp
    · rw [chars, List.cons_append, List.append_assoc, List.cons.injEq] at e
      rw [← e.1, ← e.2]
      exact .inr (.inr ⟨rfl, hsymbol hmem⟩)
    · rw [chars, List.cons_append, List.append_assoc, List.cons.injEq] at e
      rw [← e.1, ← e.2]
      exact .inr (.inr ⟨rfl, hsymbol hmem⟩)

/-- Where an operand is expected, no row starts with the word for any and a parenthesis behind a blank. -/
lemma not_any_of_flows (h : Flows false ts) : ¬ "ANY (".toList <+: charsOf ts := by
  rintro ⟨rest, hrest⟩
  have hany : "ANY (".toList ++ rest = "ANY".toList ++ ' ' :: '(' :: rest := rfl
  have hrun : Text.IsRun isNameChar "ANY".toList (' ' :: '(' :: rest) :=
    ⟨List.all_eq_true.1 (by decide), by rintro _ ⟨⟩; rfl⟩
  cases h with
  | nil => cases hrest
  | @cons _ t ts ht hts =>
    rw [charsOf_cons, hany] at hrest
    -- behind a name that is the word for any, the blank and the parenthesis would have to be a token's start
    rcases ht.operand with ⟨name, rfl, hname, -⟩ | ⟨name, rfl, hname⟩ | rfl | rfl | ⟨op, rfl, hop⟩
    · have hbehind := isBehind_of_flows hts
      have hdrop := congrArg (List.dropWhile isNameChar) hrest
      rw [hrun.dropWhile, chars, (hbehind.isRun hname).dropWhile] at hdrop
      rcases hbehind _ _ hdrop.symm with hc | ⟨hc, -⟩ | ⟨-, hc⟩
      · revert hc
        decide
      · cases hc
      · exact (hc '(' rfl).2 rfl
    · have hdrop := congrArg (List.dropWhile isNameChar) hrest
      rw [hrun.dropWhile, chars, List.append_assoc, List.singleton_append, (isRun_paren hname).dropWhile] at hdrop
      cases hdrop
    · cases hrest
    · cases hrest
    · have hhead := congrArg List.head? hrest
      rcases mark_of_isTrailing_eq_false hop with ⟨-, e⟩ | ⟨c, cs, e, hc⟩
      · rw [chars, e] at hhead
        cases hhead
      · rw [chars, e] at hhead
        cases hhead
        revert hc
        decide

/-! ## Reading a token back -/

lemma readMark?_mark (op : UnaryOp) (rest : List Char) :
    readMark? op.isTrailing (op.mark ++ rest) = some (.unary op, rest) := by
  cases op <;> rfl

lemma next?_unary (op : UnaryOp) (rest : List Char) :
    next? op.isTrailing ((ExprToken.unary op).chars ++ rest) = some (.unary op, rest) := by
  rw [next?, chars, readMark?_mark]
  rfl

lemma readMark?_eq_none {cs : List Char}
    (h : ∀ op : UnaryOp, op.isTrailing = complete → ¬ op.mark <+: cs) : readMark? complete cs = none := by
  rw [readMark?, Option.map_eq_none_iff, List.find?_eq_none]
  intro op _ hop
  rw [Bool.and_eq_true, beq_iff_eq, List.isPrefixOf_iff_prefix] at hop
  exact h op hop.1 hop.2

/-- No operator is read off a word, unless it is the one for the negation with a blank behind it. -/
lemma readMark?_word (hname : IsWord name) (hrun : Text.IsRun isNameChar name.toList rest)
    (hnot : name ≠ "NOT" ∨ rest.head? ≠ some ' ') : readMark? false (name.toList ++ rest) = none := by
  refine readMark?_eq_none fun op hop => ?_
  rintro ⟨rest', hrest⟩
  rcases mark_of_isTrailing_eq_false hop with ⟨-, e⟩ | ⟨c, cs, e, hc⟩
  · have hnot' : Text.IsRun isNameChar "NOT".toList (' ' :: rest') :=
      ⟨List.all_eq_true.1 (by decide), by rintro _ ⟨⟩; rfl⟩
    have hsplit : "NOT".toList ++ ' ' :: rest' = name.toList ++ rest := by
      rw [← hrest, e]
      rfl
    have htake := congrArg (List.takeWhile isNameChar) hsplit
    have hdrop := congrArg (List.dropWhile isNameChar) hsplit
    rw [hnot'.takeWhile, hrun.takeWhile] at htake
    rw [hnot'.dropWhile, hrun.dropWhile] at hdrop
    rcases hnot with hnot | hnot
    · exact hnot (String.toList_inj.1 htake.symm)
    · rw [← hdrop] at hnot
      exact hnot rfl
  · obtain ⟨d, ds, hds, hd⟩ := exists_head_of_isWord hname
    rw [e, hds] at hrest
    obtain ⟨rfl, -⟩ := List.cons.inj hrest
    have hmarks : ∀ c ∈ ['-', '~', '!'], (!isNameChar c) = true := List.all_eq_true.1 (by decide)
    have hmark := hmarks c hc
    rw [hd] at hmark
    cases hmark

/-- No operator is read behind an operand off a text that does not start with a blank. -/
lemma readMark?_of_head {c : Char} (hc : c ≠ ' ') (cs : List Char) : readMark? true (c :: cs) = none := by
  refine readMark?_eq_none fun op hop => ?_
  rintro ⟨rest', hrest⟩
  obtain ⟨cs', e⟩ := mark_of_isTrailing hop
  rw [e] at hrest
  cases hrest
  exact hc rfl

/-- No test for null is read off a symbol. -/
lemma readMark?_symbol (h : symbol ∈ BinaryOp.symbols) (rest : List Char) :
    readMark? true (' ' :: (symbol.toList ++ ' ' :: rest)) = none := by
  obtain ⟨hblank, -, hne⟩ := symbol_spec h
  refine readMark?_eq_none fun op hop => ?_
  rintro ⟨rest', hrest⟩
  obtain ⟨cs, e⟩ := mark_of_isTrailing hop
  -- up to the second blank, one text has the symbol and the other the first word of the test
  have hsymbol : Text.IsRun (· != ' ') symbol.toList (' ' :: rest) := ⟨hblank, by rintro _ ⟨⟩; rfl⟩
  have htest : Text.IsRun (· != ' ') "IS".toList (' ' :: (cs ++ rest')) :=
    ⟨List.all_eq_true.1 (by decide), by rintro _ ⟨⟩; rfl⟩
  have hsplit : "IS".toList ++ ' ' :: (cs ++ rest') = symbol.toList ++ ' ' :: rest := by
    rw [e] at hrest
    exact (List.cons.inj hrest).2
  have htake := congrArg (List.takeWhile (· != ' ')) hsplit
  rw [htest.takeWhile, hsymbol.takeWhile] at htake
  exact hne (String.toList_inj.1 htake.symm)

lemma readOperand?_word (hname : IsWord name) (hrun : Text.IsRun isNameChar name.toList rest) :
    readOperand? (name.toList ++ rest) = some (ofName name rest) := by
  obtain ⟨c, cs, hcs, -⟩ := exists_head_of_isWord hname
  have hne : ¬ name.toList.isEmpty = true := by
    rw [hcs]
    exact Bool.false_ne_true
  rw [readOperand?, hrun.takeWhile, hrun.dropWhile, if_neg hne, String.ofList_toList]

lemma ofName_behind (hrest : IsBehind rest) : ofName name rest = (.column name, rest) := by
  rw [ofName]
  rintro rest' rfl
  rcases hrest _ _ rfl with hc | ⟨hc, -⟩ | ⟨hc, -⟩
  · revert hc
    decide
  · cases hc
  · cases hc

lemma readBinary?_any (h : symbol ∈ BinaryOp.symbols) (rest : List Char) :
    readBinary? (symbol.toList ++ (" ANY (".toList ++ rest)) = some (.anyOf symbol, rest) := by
  obtain ⟨hblank, -, -⟩ := symbol_spec h
  have hrun : Text.IsRun (· != ' ') symbol.toList (' ' :: ("ANY (".toList ++ rest)) :=
    ⟨hblank, by rintro _ ⟨⟩; rfl⟩
  have hany : " ANY (".toList ++ rest = ' ' :: ("ANY (".toList ++ rest) := rfl
  rw [readBinary?, hany, hrun.dropWhile, hrun.takeWhile]
  simp only [String.ofList_toList]
  rw [if_pos (List.isPrefixOf_iff_prefix.2 (List.prefix_append _ _)), List.drop_left]

lemma readBinary?_binary (h : symbol ∈ BinaryOp.symbols) (hrest : ¬ "ANY (".toList <+: rest) :
    readBinary? (symbol.toList ++ ' ' :: rest) = some (.binary symbol, rest) := by
  obtain ⟨hblank, -, -⟩ := symbol_spec h
  have hrun : Text.IsRun (· != ' ') symbol.toList (' ' :: rest) := ⟨hblank, by rintro _ ⟨⟩; rfl⟩
  rw [readBinary?, hrun.dropWhile, hrun.takeWhile]
  simp only [String.ofList_toList]
  rw [if_neg fun e => hrest (List.isPrefixOf_iff_prefix.1 e)]

/-- No store type goes on with what can stand behind an operand. -/
lemma IsBehind.isEnd (h : IsBehind rest) : StoreType.IsEnd rest := by
  have hmarks : ∀ c ∈ [')', ',', ']', ':'], ∀ cs, StoreType.goesOn false c cs = false := by
    intro c hc cs
    simp only [List.mem_cons, List.not_mem_nil, or_false] at hc
    rcases hc with rfl | rfl | rfl | rfl <;> rfl
  refine ⟨?_, ?_⟩
  · rintro c cs e
    rcases h c cs e with hc | ⟨rfl, -⟩ | ⟨rfl, hd⟩
    · exact hmarks c hc cs
    · rfl
    · have hlower : cs.head?.any Char.isLower = false := by
        rw [Option.any_eq_false]
        exact fun d hd' => (hd d hd').1
      rw [StoreType.goesOn, hlower]
      rfl
  · rintro ⟨cs, rfl⟩
    rcases h _ _ rfl with hc | ⟨-, hc⟩ | ⟨hc, -⟩
    · revert hc
      decide
    · exact hc rfl
    · cases hc

/-- A token is read back from its text before the text of a row that can follow. -/
lemma next?_chars (ht : t.Fits complete) (hts : Flows t.completes ts) :
    next? complete (t.chars ++ charsOf ts) = some (t, charsOf ts) := by
  cases complete with
  | false =>
    rcases ht.operand with ⟨name, rfl, hname, hnot⟩ | ⟨name, rfl, hname⟩ | rfl | rfl | ⟨op, rfl, hop⟩
    · have hbehind := isBehind_of_flows hts
      have hrun := hbehind.isRun hname
      rw [next?, chars, readMark?_word hname hrun (.inl hnot)]
      exact (readOperand?_word hname hrun).trans (congrArg some (ofName_behind hbehind))
    · have hrun : Text.IsRun isNameChar name.toList ('(' :: charsOf ts) := isRun_paren hname
      rw [next?, chars, List.append_assoc, List.singleton_append, readMark?_word hname hrun (.inr nofun)]
      exact readOperand?_word hname hrun
    · rfl
    · rfl
    · rw [← hop]
      exact next?_unary op _
  | true =>
    rcases ht.behind with rfl | rfl | rfl | rfl | ⟨op, rfl, hop⟩ | ⟨store, rfl, hstore⟩ | ⟨symbol, hmem, rfl | rfl⟩
    · rfl
    · rfl
    · rfl
    · rfl
    · rw [← hop]
      exact next?_unary op _
    · have hread := hstore _ (isBehind_of_flows hts).isEnd
      rw [next?, chars, List.cons_append, readMark?_of_head (by decide)]
      simp only [if_true, List.cons_append, readBehind?, hread]
      rfl
    · rw [next?, chars, List.cons_append, List.append_assoc, List.singleton_append, readMark?_symbol hmem]
      exact readBinary?_binary hmem (not_any_of_flows hts)
    · have hany : " ANY (".toList ++ charsOf ts = ' ' :: ("ANY (".toList ++ charsOf ts) := rfl
      rw [next?, chars, List.cons_append, List.append_assoc, hany, readMark?_symbol hmem]
      exact readBinary?_any hmem _

lemma chars_ne_nil (ht : t.Fits complete) : t.chars ≠ [] := by
  cases t with
  | column name => exact fun e => ht.2.1.1 (String.toList_eq_nil_iff.1 e)
  | call name => exact List.append_ne_nil_of_right_ne_nil _ (List.cons_ne_nil _ _)
  | unary op => cases op <;> exact List.cons_ne_nil _ _
  | _ => exact List.cons_ne_nil _ _

/-- The tokens of a row in which each stands where it can are read back from its text. -/
theorem tokens?_charsOf (h : Flows complete ts) : tokens? complete (charsOf ts) = some ts := by
  induction h with
  | nil => rw [tokens?]; rfl
  | @cons complete t ts ht hts ih =>
    have hlength : (charsOf ts).length < (t.chars ++ charsOf ts).length := by
      rw [List.length_append]
      exact Nat.lt_add_of_pos_left (List.length_pos_iff.2 (chars_ne_nil ht))
    have hne : ¬ (t.chars ++ charsOf ts).isEmpty = true := by
      rw [List.isEmpty_iff]
      exact List.append_ne_nil_of_left_ne_nil (chars_ne_nil ht) _
    rw [charsOf_cons, tokens?, if_neg hne, next?_chars ht hts]
    simp only [if_pos hlength, ih]
    rfl

end ExprToken

end SqlBridge
