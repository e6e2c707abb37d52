import SqlBridge.Proofs.Expr.NullFlags
import SqlBridge.Proofs.Expr.Readable

/-!
# Neighbours in texts

An operator that stands right before a character of operators is read as a longer operator, and an index that stands
right behind a cast as a part of the type. The text of a node stands in that of the whole expression with no such
character behind it. So only what the operand of the node begins or ends with can run into its operator or its index.
-/

namespace SqlBridge

/-- A character that operators are made of. -/
def isOperatorChar (c : Char) : Bool :=
  "+-*/<>=~!@#%^&|`?".toList.contains c

/-- The text begins with a character of operators, so that an operator right before it is read as a longer one. -/
def beginsWithOperator (text : String) : Bool :=
  text.toList.head?.any isOperatorChar

/-- The part stands in the text with no character of operators behind it. -/
def StandsIn (part text : String) : Prop :=
  ∃ before after, text = before ++ part ++ after ∧ beginsWithOperator after = false

/-! ## Texts -/

lemma beginsWithOperator_append {s t : String} (ht : beginsWithOperator t = false) :
    beginsWithOperator (s ++ t) = beginsWithOperator s := by
  rw [beginsWithOperator, beginsWithOperator, String.toList_append, List.head?_append]
  cases h : s.toList.head? with
  | some c => rfl
  | none => exact ht

/-- Only the first of two texts tells what they begin with, unless it is empty. -/
lemma beginsWithOperator_of_ne {s : String} (hs : s ≠ "") (t : String) :
    beginsWithOperator (s ++ t) = beginsWithOperator s := by
  rw [beginsWithOperator, beginsWithOperator, String.toList_append, List.head?_append_of_ne_nil]
  exact fun h => hs (String.toList_inj.1 h)

namespace StandsIn

variable {part text whole mark : String}

lemma refl (s : String) : StandsIn s s :=
  ⟨"", "", by simp, rfl⟩

lemma behind (s : String) (h : StandsIn part text) : StandsIn part (s ++ text) := by
  obtain ⟨before, after, rfl, hafter⟩ := h
  exact ⟨s ++ before, after, by simp only [String.append_assoc], hafter⟩

lemma before (h : StandsIn part text) {t : String} (ht : beginsWithOperator t = false) :
    StandsIn part (text ++ t) := by
  obtain ⟨before, after, rfl, hafter⟩ := h
  exact ⟨before, after ++ t, by simp only [String.append_assoc], (beginsWithOperator_append ht).trans hafter⟩

/-- A mark behind a part that begins with no operator keeps the rest of the text from it. -/
lemma beforeMark (h : StandsIn part text) (hne : mark ≠ "") (hmark : beginsWithOperator mark = false) (s : String) :
    StandsIn part (text ++ (mark ++ s)) :=
  h.before ((beginsWithOperator_of_ne hne s).trans hmark)

lemma trans (h : StandsIn part text) (h' : StandsIn text whole) : StandsIn part whole := by
  obtain ⟨before, after, rfl, hafter⟩ := h'
  exact (h.behind before).before hafter

end StandsIn

namespace Expr

/-- The node occurs in the expression. -/
inductive Occurs (n : Expr) : Expr → Prop
  | here : Occurs n n
  | within {kind : ExprKind} {es : List Expr} {flags : List Bool} {t : HostType} {m : Option Descriptor} {e : Expr} :
    e ∈ es → Occurs n e → Occurs n (.node kind es flags t m)

/-- The text of the expression as an operand, in parentheses if it takes them. -/
def enclosedText (e : Expr) : String :=
  OperandText.enclosed ⟨e.text, e.kind.isCompound⟩

/-- How what is composed begins with an operator as an operand: it is an operator before its own operand, a parameter
with its mark, or a constant or column with such a text. An element of an array begins like the array. -/
inductive BeginsWithOperator : Expr → Prop
  | unary {op : UnaryOp} {es : List Expr} {flags : List Bool} {t : HostType} {m : Option Descriptor} :
    (ExprKind.unary op).isTight = true → BeginsWithOperator (.node (.unary op) es flags t m)
  | parameter {name : String} {t : HostType} {m : Option Descriptor} : BeginsWithOperator (.parameter name t m)
  | constant {v : HostValue} {t : HostType} {m : Option Descriptor} :
    beginsWithOperator (constant v t m).text = true → BeginsWithOperator (.constant v t m)
  | column {table : Option String} {name : String} {nullable : Bool} {t : HostType} {m : Option Descriptor} :
    beginsWithOperator (column table name nullable t m).text = true →
    BeginsWithOperator (.column table name nullable t m)
  | subscript {array index : Expr} {flags : List Bool} {t : HostType} {m : Option Descriptor} :
    BeginsWithOperator array → BeginsWithOperator (.node .subscript [array, index] flags t m)

/-- The expression as an operand ends in a cast that is in no parentheses: it is a cast, an array or constant that is
written with its store type, or an operator before such an operand. -/
inductive EndsInCast : Expr → Prop
  | cast {es : List Expr} {flags : List Bool} {t : HostType} {m : Option Descriptor} :
    EndsInCast (.node .cast es flags t m)
  | arrayOf {es : List Expr} {flags : List Bool} {t : HostType} {d : Descriptor} :
    EndsInCast (.node .arrayOf es flags t (some d))
  | constant {v : HostValue} {t : HostType} {d : Descriptor} {literal : String} :
    d.toplevel v = .ok (literal ++ "::" ++ d.storeType) → EndsInCast (.constant v t (some d))
  | unary {op : UnaryOp} {operand : Expr} {flags : List Bool} {t : HostType} {m : Option Descriptor} :
    op.isTrailing = false → EndsInCast operand → EndsInCast (.node (.unary op) [operand] flags t m)

variable {e n : Expr} {kind : ExprKind} {es : List Expr} {flags : List Bool} {t : HostType} {m : Option Descriptor}

/-! ## Operands in texts -/

lemma standsIn_enclosedText (e : Expr) : StandsIn e.text e.enclosedText := by
  rw [enclosedText, OperandText.enclosed]
  cases e.kind.isCompound with
  | false => exact .refl _
  | true => exact ((StandsIn.refl e.text).behind "(").before rfl

lemma standsIn_listed (he : e ∈ es) : StandsIn e.text (listed (operandTexts es)) := by
  rw [listed, operandTexts_eq, List.map_map]
  induction es with
  | nil => cases he
  | cons e' es ih =>
    cases es with
    | nil =>
      rw [List.mem_singleton.1 he]
      exact .refl _
    | cons e'' es =>
      rw [List.map_cons, List.map_cons, String.intercalate_cons_cons, String.append_assoc]
      rcases List.mem_cons.1 he with rfl | he
      · exact (StandsIn.refl e.text).beforeMark (by decide) rfl _
      · exact ((ih he).behind _).behind _

lemma text_cast (a : Expr) :
    (Expr.node .cast [a] flags t m).text =
      a.enclosedText ++ ("::" ++ (m.map (·.storeType)).getD t.text) := by
  rw [text_node, ← String.append_assoc]
  rfl

lemma text_binary (op : BinaryOp) (a b : Expr) :
    (Expr.node (.binary op) [a, b] flags t m).text =
      a.enclosedText ++ (" " ++ (op.symbol ++ (" " ++ b.enclosedText))) := by
  rw [text_node, nodeText, enclosedText, enclosedText]
  simp only [List.map_cons, List.map_nil, String.intercalate_cons_cons, String.intercalate_singleton,
    String.append_assoc]

lemma text_subscript (a i : Expr) :
    (Expr.node .subscript [a, i] flags t m).text = a.enclosedText ++ ("[" ++ (i.text ++ "]")) := by
  rw [text_node, ← String.append_assoc, ← String.append_assoc]
  rfl

/-- The text of an operator before its operand, when it is no word. -/
lemma text_prefixed {op : UnaryOp} (h : (ExprKind.unary op).isTight = true) (a : Expr) :
    (Expr.node (.unary op) [a] flags t m).text = op.symbol ++ a.enclosedText := by
  cases op with
  | not | isNull | isNotNull => cases h
  | negate | bitwiseNot | textSearchNegate =>
    rw [text_node]
    rfl

/-- The text of an operand stands in that of its node. -/
lemma standsIn_node (hfits : kind.Fits es.length flags) (he : e ∈ es) :
    StandsIn e.text (Expr.node kind es flags t m).text := by
  have henclosed := standsIn_enclosedText e
  cases kind with
  | constant | parameter | column =>
    obtain rfl := List.eq_nil_of_length_eq_zero (hfits.arity 0 rfl)
    cases he
  | function name aggregate nullable =>
    rw [text, nodeText]
    exact ((standsIn_listed he).behind _).before rfl
  | row =>
    rw [text, nodeText]
    exact ((standsIn_listed he).behind _).before rfl
  | arrayOf =>
    rw [text, nodeText.eq_def]
    simp only [String.append_assoc]
    exact ((standsIn_listed he).beforeMark (by decide) rfl _).behind _
  | unary op =>
    obtain ⟨a, rfl⟩ := List.length_eq_one_iff.1 (hfits.arity 1 rfl)
    obtain rfl := List.mem_singleton.1 he
    rw [text_node, nodeText, List.map_singleton, unaryText]
    split
    · rw [String.append_assoc]
      exact henclosed.beforeMark (by decide) rfl _
    · split
      · exact henclosed.behind _
      · exact henclosed.behind _
  | cast =>
    obtain ⟨a, rfl⟩ := List.length_eq_one_iff.1 (hfits.arity 1 rfl)
    obtain rfl := List.mem_singleton.1 he
    rw [text_cast]
    exact henclosed.beforeMark (by decide) rfl _
  | binary op =>
    obtain ⟨a, b, rfl⟩ := List.length_eq_two.1 (hfits.arity 2 rfl)
    rw [text_binary]
    rcases List.mem_pair.1 he with rfl | rfl
    · exact henclosed.beforeMark (by decide) rfl _
    · exact (((henclosed.behind _).behind _).behind _).behind _
  | subscript =>
    obtain ⟨a, b, rfl⟩ := List.length_eq_two.1 (hfits.arity 2 rfl)
    rw [text_subscript]
    rcases List.mem_pair.1 he with rfl | rfl
    · exact henclosed.beforeMark (by decide) rfl _
    · exact (((StandsIn.refl e.text).before rfl).behind _).behind _
  | anyOf op =>
    obtain ⟨a, b, rfl⟩ := List.length_eq_two.1 (hfits.arity 2 rfl)
    rw [text_node, nodeText.eq_def]
    simp only [List.map_cons, List.map_nil, String.append_assoc]
    rcases List.mem_pair.1 he with rfl | rfl
    · exact henclosed.beforeMark (by decide) rfl _
    · exact (((((StandsIn.refl e.text).before rfl).behind _).behind _).behind _).behind _
  | position =>
    obtain ⟨a, b, rfl⟩ := List.length_eq_two.1 (hfits.arity 2 rfl)
    rw [text_node, nodeText.eq_def]
    simp only [List.map_cons, List.map_nil, String.append_assoc]
    rcases List.mem_pair.1 he with rfl | rfl
    · exact ((StandsIn.refl e.text).beforeMark (by decide) rfl _).behind _
    · exact ((((StandsIn.refl e.text).before rfl).behind _).behind _).behind _

theorem Occurs.standsIn (h : Occurs n e) (he : e.Sound) : StandsIn n.text e.text := by
  induction h with
  | here => exact .refl _
  | within hmem _ ih =>
    cases he with
    | node hfits hes => exact (ih (hes _ hmem)).trans (standsIn_node hfits hmem)

/-! ## Operands at symbols -/

/-- The flags fit at every node, and an operand that stands right at the symbol of a node has the property. -/
inductive Touched (lead : Expr → Prop) : Expr → Prop
  | node {kind : ExprKind} {es : List Expr} {flags : List Bool} {t : HostType} {m : Option Descriptor} :
    kind.Fits es.length flags → TouchesOnly lead kind es → (∀ e ∈ es, Touched lead e) →
    Touched lead (.node kind es flags t m)

variable {lead : Expr → Prop}

lemma hereditary_touched (lead : Expr → Prop) : Hereditary lead (Touched lead) where
  node hfits htouch hes := .node hfits htouch hes
  operand he hx := by
    cases he with
    | node _ _ hes => exact hes _ hx
  withMapping d he := by
    cases he with
    | node hfits htouch hes => exact .node hfits htouch hes

lemma Touched.sound (h : Touched lead e) : e.Sound := by
  induction h with
  | node hfits _ _ ih => exact .node hfits ih

lemma Occurs.touched (h : Occurs n e) (he : Touched lead e) : Touched lead n := by
  induction h with
  | here => exact he
  | within hmem _ ih =>
    cases he with
    | node _ _ hes => exact ih (hes _ hmem)

end Expr

end SqlBridge
