import SqlBridge.Descriptor.Basic
import SqlBridge.Expr.Operator
import SqlBridge.HostValue.Basic

/-!
# SQL expressions

Expressions are trees of nodes. Each node knows the host type of its value, its descriptor where one is
known, and of each operand whether a null in it makes the whole null.
-/

namespace SqlBridge

/-- What a node of an expression is. -/
inductive ExprKind where
  | constant (value : HostValue)
  | parameter (name : String)
  | column (table : Option String) (name : String) (nullable : Bool)
  /-- A call; `nullable` calls may be null for operands that are not. -/
  | function (name : String) (aggregate nullable : Bool)
  | binary (op : BinaryOp)
  | unary (op : UnaryOp)
  /-- The operand as the store type of the node's descriptor. -/
  | cast
  | row
  /-- An element of an array; the first one has index 1. -/
  | subscript
  /-- The first operand compared with any element of the second. -/
  | anyOf (op : BinaryOp)
  /-- The place of the first operand within the second. -/
  | position
  | arrayOf

/-- An SQL expression. -/
inductive Expr where
  | node (kind : ExprKind) (operands : List Expr) (nullFlags : List Bool) (hostType : HostType)
    (mapping : Option Descriptor)

namespace ExprKind

/-- A constant or a parameter, whose store type can still be chosen. -/
def isFree : ExprKind → Bool
  | .constant _ | .parameter _ => true
  | _ => false

/-- The node takes parentheses as an operand. -/
def isCompound : ExprKind → Bool
  | .binary _ | .anyOf _ => true
  | _ => false

end ExprKind

namespace Expr

/-- What the node is. -/
def kind : Expr → ExprKind
  | .node k _ _ _ _ => k

/-- The operands in order. -/
def operands : Expr → List Expr
  | .node _ es _ _ _ => es

/-- For each operand, whether a null in it makes the node null. -/
def nullFlags : Expr → List Bool
  | .node _ _ flags _ _ => flags

/-- The host type of the value. -/
def hostType : Expr → HostType
  | .node _ _ _ t _ => t

/-- The descriptor of the value, where one is known. -/
def mapping : Expr → Option Descriptor
  | .node _ _ _ _ m => m

/-- The expression with a descriptor. -/
def withMapping (d : Descriptor) : Expr → Expr
  | .node k es flags t _ => .node k es flags t (some d)

/-- A node without operands. -/
def leaf (kind : ExprKind) (hostType : HostType) (mapping : Option Descriptor) : Expr :=
  .node kind [] [] hostType mapping

/-- A constant of a host type. -/
def constant (value : HostValue) (hostType : HostType) (mapping : Option Descriptor) : Expr :=
  leaf (.constant value) hostType mapping

/-- A parameter of the query. -/
def parameter (name : String) (hostType : HostType) (mapping : Option Descriptor) : Expr :=
  leaf (.parameter name) hostType mapping

/-- A column, of a table if one is named. -/
def column (table : Option String) (name : String) (nullable : Bool) (hostType : HostType)
    (mapping : Option Descriptor) : Expr :=
  leaf (.column table name nullable) hostType mapping

/-- The store type, where the descriptor is known. -/
def storeType? (e : Expr) : Option String :=
  e.mapping.map (·.storeType)

/-- The value of a constant. -/
def value? (e : Expr) : Option HostValue :=
  match e.kind with
  | .constant v => some v
  | _ => none

/-- The expression is a row of expressions. -/
def isRow (e : Expr) : Bool :=
  match e.kind with
  | .row => true
  | _ => false

/-- The name of the function that is called. -/
def functionName? (e : Expr) : Option String :=
  match e.kind with
  | .function name _ _ => some name
  | _ => none

mutual

/-- Each node of the tree has as many null flags as operands. -/
def isWellFormed : Expr → Bool
  | .node _ es flags _ _ => flags.length == es.length && areWellFormed es

/-- The same of several trees. -/
def areWellFormed : List Expr → Bool
  | [] => true
  | e :: es => isWellFormed e && areWellFormed es

end

end Expr

end SqlBridge
