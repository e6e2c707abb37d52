import SqlBridge.Proofs.Expr.Token

/-!
# Shapes of expressions

What the text of an expression can show of its tree: names, symbols, store types, and which node is an operand of
which. A shape is written as a row of tokens, and `read?` takes shapes back from such rows with a stack of what is
still open. It reads `settle` of the shape that was written: an operation behind an operand binds tighter than one
before it, and parentheses around a comparison are no row of one element.
-/

namespace SqlBridge

/-- The tree of an expression without descriptors, null flags and host types, with symbols for operators. -/
inductive Shape where
  | column (name : String)
  | call (name : String) (args : List Shape)
  | row (elements : List Shape)
  | binary (symbol : String) (left right : Shape)
  | anyOf (symbol : String) (item array : Shape)
  | unary (op : UnaryOp) (operand : Shape)
  | cast (operand : Shape) (store : String)
  | subscript (array index : Shape)

namespace Shape

/-- The shape takes parentheses as an operand. -/
def isCompound : Shape → Bool
  | .binary _ _ _ | .anyOf _ _ _ => true
  | _ => false

/-- The tokens of an operand, in parentheses if it is compound. -/
def enclosed (compound : Bool) (ts : List ExprToken) : List ExprToken :=
  if compound then .opening :: (ts ++ [.closing]) else ts

mutual

/-- The tokens of a shape. -/
def tokens : Shape → List ExprToken
  | .column name => [.column name]
  | .call name args => .call name :: (listTokens args ++ [.closing])
  | .row elements => .opening :: (listTokens elements ++ [.closing])
  | .binary symbol l r => enclosed l.isCompound l.tokens ++ .binary symbol :: enclosed r.isCompound r.tokens
  | .anyOf symbol item array =>
    enclosed item.isCompound item.tokens ++ .anyOf symbol :: (array.tokens ++ [.closing])
  | .unary op s =>
    if op.isTrailing then enclosed s.isCompound s.tokens ++ [.unary op]
    else .unary op :: enclosed s.isCompound s.tokens
  | .cast s store => enclosed s.isCompound s.tokens ++ [.cast store]
  | .subscript s index => enclosed s.isCompound s.tokens ++ .bracket :: (index.tokens ++ [.unbracket])

/-- The tokens of several shapes, with commas between them. -/
def listTokens : List Shape → List ExprToken
  | [] => []
  | [s] => s.tokens
  | s :: s' :: rest => s.tokens ++ .comma :: listTokens (s' :: rest)

end

/-- What stands in parentheses as an operand: a comparison or operation on its own, and else a row. -/
def asOperand : Shape → Shape
  | .row [s] => if s.isCompound then s else .row [s]
  | s => s

/-- The shape with an operation put behind it, within all operators before it. -/
def behind (f : Shape → Shape) : Shape → Shape
  | .unary op s => if op.isTrailing then f (.unary op s) else .unary op (behind f s)
  | s => f s

mutual

/-- The shape that the text of a shape is read as. -/
def settle : Shape → Shape
  | .column name => .column name
  | .call name args => .call name (settleAll args)
  | .row elements => .row (settleAll elements)
  | .binary symbol l r => .binary symbol l.settle.asOperand r.settle.asOperand
  | .anyOf symbol item array => .anyOf symbol item.settle.asOperand array.settle
  | .unary op s =>
    if op.isTrailing then s.settle.asOperand.behind (.unary op) else .unary op s.settle.asOperand
  | .cast s store => s.settle.asOperand.behind (.cast · store)
  | .subscript s index => s.settle.asOperand.behind (.subscript · index.settle)

def settleAll : List Shape → List Shape
  | [] => []
  | s :: rest => s.settle :: settleAll rest

end

/-- A row of one element that would take the same parentheses as an operand. -/
def isLoneRow : Shape → Bool
  | .row [s] => s.isCompound
  | _ => false

/-- An operator stands before the rest of the shape. -/
def isLed : Shape → Bool
  | .unary op _ => !op.isTrailing
  | _ => false

mutual

/-- No operation stands right behind an operator before it, and no operand is a row of one comparison. -/
def isSeparate : Shape → Bool
  | .column _ => true
  | .call _ args => areSeparate args
  | .row elements => areSeparate elements
  | .binary _ l r => l.isSeparate && !l.isLoneRow && (r.isSeparate && !r.isLoneRow)
  | .anyOf _ item array => item.isSeparate && !item.isLoneRow && array.isSeparate
  | .unary op s => s.isSeparate && !s.isLoneRow && !(op.isTrailing && s.isLed)
  | .cast s _ => s.isSeparate && !s.isLoneRow && !s.isLed
  | .subscript s index => s.isSeparate && !s.isLoneRow && !s.isLed && index.isSeparate

def areSeparate : List Shape → Bool
  | [] => true
  | s :: rest => s.isSeparate && areSeparate rest

end

/-! ## Lists of shapes -/

variable {s p c : Shape} {es : List Shape} {ts : List ExprToken} {f : Shape → Shape}

/-- Induction on a shape, with what holds of all arguments of a call and of all elements of a row. -/
@[elab_as_elim]
theorem induction {motive : Shape → Prop} (column : ∀ name, motive (.column name))
    (call : ∀ name args, (∀ s ∈ args, motive s) → motive (.call name args))
    (row : ∀ elements, (∀ s ∈ elements, motive s) → motive (.row elements))
    (binary : ∀ symbol l r, motive l → motive r → motive (.binary symbol l r))
    (anyOf : ∀ symbol item array, motive item → motive array → motive (.anyOf symbol item array))
    (unary : ∀ op s, motive s → motive (.unary op s))
    (cast : ∀ s store, motive s → motive (.cast s store))
    (subscript : ∀ s index, motive s → motive index → motive (.subscript s index)) (s : Shape) : motive s :=
  @Shape.rec motive (fun es => ∀ s ∈ es, motive s) column call row binary anyOf unary
    (fun s store => cast s store) subscript nofun (fun _ _ hs hes => List.forall_mem_cons.2 ⟨hs, hes⟩) s

lemma settleAll_eq (es : List Shape) : settleAll es = es.map settle := by
  induction es with
  | nil => rfl
  | cons s es ih => rw [settleAll, ih, List.map_cons]

lemma areSeparate_eq (es : List Shape) : areSeparate es = es.all isSeparate := by
  induction es with
  | nil => rfl
  | cons s es ih => rw [areSeparate, ih, List.all_cons]

lemma listTokens_eq : ∀ es, listTokens es = [ExprToken.comma].intercalate (es.map tokens)
  | [] => rfl
  | [s] => by rw [listTokens, List.map_singleton, List.intercalate_singleton]
  | s :: s' :: rest => by
    rw [listTokens, listTokens_eq (s' :: rest)]
    simp only [List.map_cons, List.intercalate_cons_cons, List.append_assoc, List.singleton_append]

/-! ## Settled shapes -/

lemma asOperand_of_isLoneRow (h : s.isLoneRow = false) : s.asOperand = s := by
  cases s with
  | row es =>
    match es, h with
    | [], _ => rfl
    | [s], h =>
      rw [isLoneRow] at h
      rw [asOperand, if_neg (by rw [h]; exact Bool.false_ne_true)]
    | _ :: _ :: _, _ => rfl
  | _ => rfl

/-- An operand is what stands there, or the comparison or operation in its parentheses. -/
lemma asOperand_cases (s : Shape) :
    s.asOperand = s ∨ ∃ t, s = .row [t] ∧ t.isCompound = true ∧ s.asOperand = t := by
  by_cases h : s.isLoneRow = true
  · right
    cases s with
    | row es =>
      match es, h with
      | [t], h => exact ⟨t, rfl, h, if_pos h⟩
    | _ => cases h
  · exact .inl (asOperand_of_isLoneRow (Bool.eq_false_iff.2 h))

lemma isLoneRow_of_isCompound (h : s.isCompound = true) : s.isLoneRow = false := by
  cases s with
  | binary symbol l r => rfl
  | anyOf symbol item array => rfl
  | _ => cases h

lemma isLed_of_isCompound (h : s.isCompound = true) : s.isLed = false := by
  cases s with
  | binary symbol l r => rfl
  | anyOf symbol item array => rfl
  | _ => cases h

lemma behind_of_isLed (h : s.isLed = false) : s.behind f = f s := by
  cases s with
  | unary op s =>
    have htrailing : op.isTrailing = true := by
      simpa [isLed] using h
    rw [behind, if_pos htrailing]
  | _ => rfl

/-- Shapes without ambiguity are read as they are. -/
theorem settle_of_isSeparate (h : s.isSeparate = true) : s.settle = s := by
  have hlist : ∀ es : List Shape, (∀ s ∈ es, s.isSeparate = true → s.settle = s) →
      areSeparate es = true → settleAll es = es := by
    intro es ih hes
    rw [areSeparate_eq, List.all_eq_true] at hes
    rw [settleAll_eq]
    exact (List.map_congr_left fun s hs => ih s hs (hes s hs)).trans (List.map_id es)
  induction s using Shape.induction with
  | column name => rfl
  | call name args ih => rw [settle, hlist args ih h]
  | row elements ih => rw [settle, hlist elements ih h]
  | binary symbol l r ihl ihr =>
    simp only [isSeparate, Bool.and_eq_true, Bool.not_eq_true'] at h
    rw [settle, ihl h.1.1, ihr h.2.1, asOperand_of_isLoneRow h.1.2, asOperand_of_isLoneRow h.2.2]
  | anyOf symbol item array ihi iha =>
    simp only [isSeparate, Bool.and_eq_true, Bool.not_eq_true'] at h
    rw [settle, ihi h.1.1, iha h.2, asOperand_of_isLoneRow h.1.2]
  | unary op s ih =>
    simp only [isSeparate, Bool.and_eq_true, Bool.not_eq_true'] at h
    rw [settle, ih h.1.1, asOperand_of_isLoneRow h.1.2]
    by_cases hop : op.isTrailing = true
    · rw [if_pos hop, behind_of_isLed (by simpa [hop] using h.2)]
    · rw [if_neg hop]
  | cast s store ih =>
    simp only [isSeparate, Bool.and_eq_true, Bool.not_eq_true'] at h
    rw [settle, ih h.1.1, asOperand_of_isLoneRow h.1.2, behind_of_isLed h.2]
  | subscript s index ihs ihi =>
    simp only [isSeparate, Bool.and_eq_true, Bool.not_eq_true'] at h
    rw [settle, ihs h.1.1.1, ihi h.2, asOperand_of_isLoneRow h.1.1.2, behind_of_isLed h.1.2]

/-! ## Tokens of settled shapes -/

lemma enclosed_asOperand (s : Shape) :
    enclosed s.asOperand.isCompound s.asOperand.tokens = enclosed s.isCompound s.tokens := by
  rcases asOperand_cases s with e | ⟨t, rfl, hcompound, e⟩
  · rw [e]
  · rw [e, hcompound]
    rfl

/-- An operation put behind a shape adds its tokens at the end. -/
lemma tokens_behind (htokens : ∀ s, (f s).tokens = enclosed s.isCompound s.tokens ++ ts)
    (hcompound : ∀ s, (f s).isCompound = false) (s : Shape) :
    (s.behind f).tokens = enclosed s.isCompound s.tokens ++ ts ∧ (s.behind f).isCompound = false := by
  induction s using Shape.induction with
  | unary op s ih =>
    by_cases hop : op.isTrailing = true
    · rw [behind, if_pos hop]
      exact ⟨htokens _, hcompound _⟩
    · rw [behind, if_neg hop, tokens, if_neg hop, ih.1, ih.2, tokens, if_neg hop]
      exact ⟨rfl, rfl⟩
  | _ => exact ⟨htokens _, hcompound _⟩

/-- A shape and what it is read as have the same tokens, in parentheses as operands or not. -/
theorem tokens_settle (s : Shape) : s.settle.tokens = s.tokens ∧ s.settle.isCompound = s.isCompound := by
  have hlist : ∀ es : List Shape, (∀ s ∈ es, s.settle.tokens = s.tokens ∧ s.settle.isCompound = s.isCompound) →
      listTokens (settleAll es) = listTokens es := by
    intro es ih
    rw [settleAll_eq, listTokens_eq, listTokens_eq, List.map_map]
    exact congrArg _ (List.map_congr_left fun s hs => (ih s hs).1)
  have hoperand : ∀ {s : Shape}, s.settle.tokens = s.tokens ∧ s.settle.isCompound = s.isCompound →
      enclosed s.settle.asOperand.isCompound s.settle.asOperand.tokens = enclosed s.isCompound s.tokens := by
    intro s ih
    rw [enclosed_asOperand, ih.1, ih.2]
  induction s using Shape.induction with
  | column name => exact ⟨rfl, rfl⟩
  | call name args ih => exact ⟨by rw [settle, tokens, tokens, hlist args ih], rfl⟩
  | row elements ih => exact ⟨by rw [settle, tokens, tokens, hlist elements ih], rfl⟩
  | binary symbol l r ihl ihr => exact ⟨by rw [settle, tokens, tokens, hoperand ihl, hoperand ihr], rfl⟩
  | anyOf symbol item array ihi iha => exact ⟨by rw [settle, tokens, tokens, hoperand ihi, iha.1], rfl⟩
  | unary op s ih =>
    rw [settle]
    by_cases hop : op.isTrailing = true
    · have htokens : ∀ s, (Shape.unary op s).tokens = enclosed s.isCompound s.tokens ++ [.unary op] := by
        intro s
        rw [tokens, if_pos hop]
      obtain ⟨hbehind, hcompound⟩ := tokens_behind htokens (fun _ => rfl) s.settle.asOperand
      rw [if_pos hop, hbehind, hcompound, hoperand ih, htokens]
      exact ⟨rfl, rfl⟩
    · rw [if_neg hop, tokens, if_neg hop, hoperand ih, tokens, if_neg hop]
      exact ⟨rfl, rfl⟩
  | cast s store ih =>
    obtain ⟨hbehind, hcompound⟩ :=
      tokens_behind (f := (.cast · store)) (fun _ => rfl) (fun _ => rfl) s.settle.asOperand
    rw [settle, hbehind, hcompound, hoperand ih]
    exact ⟨rfl, rfl⟩
  | subscript s index ihs ihi =>
    obtain ⟨hbehind, hcompound⟩ :=
      tokens_behind (f := (.subscript · index.settle)) (fun _ => rfl) (fun _ => rfl) s.settle.asOperand
    rw [settle, hbehind, hcompound, hoperand ihs, ihi.1]
    exact ⟨rfl, rfl⟩

end Shape

end SqlBridge
