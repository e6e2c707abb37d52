import SqlBridge.Expr.Builder
import SqlBridge.Operation.Basic

/-!
# Lowerings

A lowering turns some operations into SQL expressions. It declines the operations of others, and those
whose operands it has no SQL for; an error is kept for operations that are its own and cannot be right.
-/

namespace SqlBridge

/-- What becomes of an operation: an expression, nothing when it is declined, or a failure. -/
abbrev Lowered : Type :=
  Except Fault (Option Expr)

/-- A lowering of operations. -/
structure Lowering where
  name : String
  lower : Operation → List Expr → Lowered

/-- The lowering of the operations that a table names, on first operands that it accepts. -/
def Lowering.ofTable {α : Type} (name : String) (domains : List Domain) (accepts : Expr → Bool)
    (table : List (String × α)) (lower : α → Operation → List Expr → Lowered) : Lowering where
  name := name
  lower o args :=
    if domains.contains o.domain && args.head?.any accepts then
      match Entries.get? o.name table with
      | some a => lower a o args
      | none => .ok none
    else .ok none

namespace Lowered

/-- The operation is left to others. -/
def declined : Lowered :=
  .ok none

/-- An expression that has been built. -/
def built (e : Except Fault Expr) : Lowered :=
  e.map some

end Lowered

namespace Expr

variable (r : Registry)

/-- The text of a constant. -/
def constantText? (e : Expr) : Option String :=
  match e.value? with
  | some (.scalar (.string s)) => some s
  | _ => none

/-- The number of a constant. -/
def constantInt? (e : Expr) : Option Int :=
  match e.value? with
  | some (.scalar (.int16 i)) => some i.toInt
  | some (.scalar (.int32 i)) => some i.toInt
  | some (.scalar (.int64 i)) => some i.toInt
  | _ => none

/-- The 32-bit constant that is larger by `delta`, if it has 32 bits. -/
def shifted? (delta : Int) (e : Expr) : Option Int32 :=
  match e.value? with
  | some (.scalar (.int32 i)) =>
    let sum := i.toInt + delta
    if -twoTo 31 ≤ sum ∧ sum < twoTo 31 then some (Int32.ofInt sum) else none
  | _ => none

/-- The expression plus `delta`, computed at once for a constant. -/
def offset (e : Expr) (delta : Int) : Except Fault Expr :=
  match shifted? delta e with
  | some i => .ok (constantOf r (.int32 i))
  | none =>
    binary r (if delta < 0 then .subtract else .add) e
      (constantOf r (.int32 (Int32.ofInt delta.natAbs))) [true, true] e.hostType none

/-- A comparison that is null if one of its operands is. -/
def predicate (op : BinaryOp) (left right : Expr) : Except Fault Expr :=
  binary r op left right [true, true] (.scalar .bool) none

/-- An operation that gives a value like its left operand, and null if one of them is. -/
def combine (op : BinaryOp) (left right : Expr) : Except Fault Expr :=
  binary r op left right [true, true] left.hostType left.mapping

/-- A call that is null if one of its arguments is. -/
def strictCall (name : String) (args : List Expr) (hostType : HostType) : Except Fault Expr :=
  function r name args (args.map fun _ => true) hostType none

/-- The parts of a pair, given as a row or as a constant tuple. -/
def pair? (e : Expr) : Option (Expr × Expr) :=
  if e.isRow then
    match e.operands with
    | [a, b] => some (a, b)
    | _ => none
  else
    match e.value? with
    | some (.tuple [a, b]) => some (constantOf r a, constantOf r b)
    | _ => none

end Expr

end SqlBridge
