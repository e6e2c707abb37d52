import SqlBridge.Expr.Basic
import SqlBridge.Registry.Containers

/-!
# Building expressions

Composite expressions are built with the registry at hand: a node without a given descriptor takes that
of an operand of the same host type, or else the default of its host type. Constants and parameters that
carry no store type of their own take the one that the other operand suggests. A composite node needs a
null flag for each operand.
-/

namespace SqlBridge.Expr

variable (r : Registry)

/-- The flags, if there is one for each operand. -/
def checkFlags (subject : String) (operands : List Expr) (flags : List Bool) :
    Except Fault (List Bool) :=
  if flags.length = operands.length then .ok flags
  else .error (.flagCount subject operands.length flags.length)

/-- The composite node of a kind, if its flags fit. -/
def compose (subject : String) (kind : ExprKind) (operands : List Expr) (flags : List Bool)
    (hostType : HostType) (mapping : Option Descriptor) : Except Fault Expr :=
  (checkFlags subject operands flags).map fun flags => .node kind operands flags hostType mapping

/-- A constant of the host type that the value shows, a string where it shows none. -/
def constantOf (value : HostValue) : Expr :=
  match value.hostType? with
  | some t => constant value t (r.findHost t)
  | none => constant value (.scalar .string) none

/-- A constant with a descriptor. -/
def constantWith (value : HostValue) (d : Descriptor) : Expr :=
  constant value d.hostType (some d)

/-- A constant of a store type. -/
def constantAs (value : HostValue) (store : String) : Except Fault Expr :=
  (r.requireStore store).map (constantWith value)

/-- The first descriptor among those of the operands that is of the host type, or else the default. -/
def resultMapping (hostType : HostType) (operands : List Expr) : Option Descriptor :=
  (operands.filterMap mapping).find? (·.hostType == hostType) <|> r.findHost hostType

/-- A call of a function. -/
def call (aggregate : Bool) (name : String) (args : List Expr) (flags : List Bool)
    (hostType : HostType) (mapping : Option Descriptor) : Except Fault Expr :=
  compose name (.function name aggregate true) args flags hostType
    (mapping <|> resultMapping r hostType args)

/-- A call of an ordinary function. -/
def function (name : String) (args : List Expr) (flags : List Bool) (hostType : HostType)
    (mapping : Option Descriptor) : Except Fault Expr :=
  call r false name args flags hostType mapping

/-- A call of an aggregate function. -/
def aggregate (name : String) (args : List Expr) (flags : List Bool) (hostType : HostType)
    (mapping : Option Descriptor) : Except Fault Expr :=
  call r true name args flags hostType mapping

/-- A constant or parameter whose store type nobody chose: it has no descriptor, or that of the default
store type of its host type. -/
def isRetypable (e : Expr) : Bool :=
  e.kind.isFree
    && (match e.mapping with
      | none => true
      | some d => (r.findHost e.hostType).any (·.storeType == d.storeType))

/-- The expression with a descriptor, if its own store type is free to choose and the host types
agree. -/
def retype (d : Descriptor) (e : Expr) : Expr :=
  if isRetypable r e && e.hostType == d.hostType then e.withMapping d else e

/-- The descriptor that somebody chose. -/
def chosenMapping? (e : Expr) : Option Descriptor :=
  if isRetypable r e then none else e.mapping

/-- The descriptor that two operands share: a chosen one, the right one only if it has modifiers and
the left one has none; else any, or the default of the left host type. -/
def sharedMapping (left right : Expr) : Option Descriptor :=
  match chosenMapping? r left, chosenMapping? r right with
  | some l, some d => if l.facets.isEmpty && !d.facets.isEmpty then some d else some l
  | some l, none => some l
  | none, some d => some d
  | none, none => left.mapping <|> right.mapping <|> r.findHost left.hostType

/-- Two operands with the descriptor that they share. -/
def share (left right : Expr) : List Expr :=
  match sharedMapping r left right with
  | some d => [retype r d left, retype r d right]
  | none => [left, right]

/-- An operation on two operands. -/
def binary (op : BinaryOp) (left right : Expr) (flags : List Bool) (hostType : HostType)
    (mapping : Option Descriptor) : Except Fault Expr :=
  let operands := share r left right
  compose op.symbol (.binary op) operands flags hostType
    (mapping <|> resultMapping r hostType operands)

/-- An operation on one operand. -/
def unary (op : UnaryOp) (operand : Expr) (flags : List Bool) (hostType : HostType)
    (mapping : Option Descriptor) : Except Fault Expr :=
  compose op.symbol (.unary op) [operand] flags hostType
    (mapping <|> resultMapping r hostType [operand])

/-- The operand as a descriptor's store type. -/
def castWith (operand : Expr) (d : Descriptor) (flags : List Bool) : Except Fault Expr :=
  compose "CAST" .cast [operand] flags d.hostType (some d)

/-- The operand as a store type. -/
def castTo (operand : Expr) (store : String) : Except Fault Expr := do
  castWith operand (← r.requireStore store) [true]

/-- A row of one or more expressions. -/
def rowOf (elements : List Expr) (flags : List Bool) : Except Fault Expr :=
  if elements.isEmpty then .error .emptyRow
  else compose "ROW" .row elements flags (.tuple (elements.map hostType)) none

/-- The element of an array at an index that counts from 1. -/
def subscript (array index : Expr) (flags : List Bool) : Except Fault Expr :=
  match array.hostType.element? with
  | none => .error .notAnArray
  | some element =>
    compose "[]" .subscript [array, index] flags element
      (array.mapping.bind Descriptor.element? <|> r.findHost element)

/-- An item with the descriptor of the elements of an array, if its own store type is free. -/
def retypeElement (array item : Expr) : Expr :=
  match array.mapping.bind Descriptor.element? with
  | some d => retype r d item
  | none => item

/-- The item compared with any element of the array. -/
def anyOf (op : BinaryOp) (item array : Expr) (flags : List Bool) : Except Fault Expr :=
  compose "ANY" (.anyOf op) [retypeElement r array item, array] flags (.scalar .bool)
    (r.findHost (.scalar .bool))

/-- The array of expressions of a host type. -/
def arrayOf (elements : List Expr) (elementType : HostType) (flags : List Bool) :
    Except Fault Expr :=
  compose "ARRAY" .arrayOf elements flags (.array elementType) (r.findHost (.array elementType))

/-- The place of one expression within another. -/
def position (needle haystack : Expr) (flags : List Bool) : Except Fault Expr :=
  compose "position" .position [needle, haystack] flags (.scalar .int32)
    (r.findHost (.scalar .int32))

end SqlBridge.Expr
