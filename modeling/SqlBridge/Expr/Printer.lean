import SqlBridge.Descriptor.Render
import SqlBridge.Expr.Basic

/-!
# SQL text of expressions

An operand that is itself a binary comparison or operation stands in parentheses; every other operand
stands as it is.
-/

namespace SqlBridge.Expr

/-- The text of an operand, and whether it takes parentheses. -/
structure OperandText where
  text : String
  compound : Bool

/-- The text of an operand within an operation. -/
def OperandText.enclosed (o : OperandText) : String :=
  if o.compound then "(" ++ o.text ++ ")" else o.text

/-- Texts with commas between them. -/
def listed (os : List OperandText) : String :=
  ", ".intercalate (os.map (·.text))

/-- The text of a constant: its literal where the descriptor is known. -/
def constantText (value : HostValue) : Option Descriptor → String
  | some d =>
    match d.toplevel value with
    | .ok literal => literal
    | .error _ => "<invalid literal: " ++ value.text ++ ">"
  | none => value.text

/-- The text of an operation on one operand. -/
def unaryText (op : UnaryOp) : List OperandText → String
  | [] => op.symbol
  | o :: _ =>
    if op.isTrailing then o.enclosed ++ " " ++ op.symbol
    else if op = .not then op.symbol ++ " " ++ o.enclosed
    else op.symbol ++ o.enclosed

/-- The text of a node from those of its operands. -/
def nodeText (kind : ExprKind) (os : List OperandText) (hostType : HostType)
    (mapping : Option Descriptor) : String :=
  match kind with
  | .constant value => constantText value mapping
  | .parameter name => "@" ++ name
  | .column (some table) name _ => table ++ "." ++ name
  | .column none name _ => name
  | .function name _ _ => name ++ "(" ++ listed os ++ ")"
  | .binary op => (" " ++ op.symbol ++ " ").intercalate (os.map (·.enclosed))
  | .unary op => unaryText op os
  | .cast =>
    (match os with
      | o :: _ => o.enclosed
      | [] => "")
      ++ "::" ++ (mapping.map (·.storeType)).getD hostType.text
  | .row => "(" ++ listed os ++ ")"
  | .arrayOf =>
    "ARRAY[" ++ listed os ++ "]"
      ++ (match mapping with
        | some d => "::" ++ d.storeType
        | none => "")
  | .subscript =>
    match os with
    | [array, index] => array.enclosed ++ "[" ++ index.text ++ "]"
    | _ => listed os
  | .anyOf op =>
    match os with
    | [item, array] => item.enclosed ++ " " ++ op.symbol ++ " ANY (" ++ array.text ++ ")"
    | _ => listed os
  | .position =>
    match os with
    | [needle, haystack] => "position(" ++ needle.text ++ " IN " ++ haystack.text ++ ")"
    | _ => listed os

mutual

/-- The SQL text of an expression. -/
def text : Expr → String
  | .node kind es _ hostType mapping => nodeText kind (operandTexts es) hostType mapping

/-- The texts of operands. -/
def operandTexts : List Expr → List OperandText
  | [] => []
  | e :: es => ⟨text e, e.kind.isCompound⟩ :: operandTexts es

end

end SqlBridge.Expr
