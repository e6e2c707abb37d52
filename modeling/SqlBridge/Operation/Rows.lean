import SqlBridge.Operation.Lowering

/-!
# Comparisons of rows

Rows of the same length compared element by element. A constant tuple counts as the row of its parts.
-/

namespace SqlBridge

/-- A comparison of two rows. -/
structure RowOperation where
  op : BinaryOp
deriving DecidableEq, Repr

namespace RowOperation

/-- The comparisons by name. -/
def table : List (String × RowOperation) :=
  [("Equals", ⟨.equal⟩),
   ("NotEquals", ⟨.notEqual⟩),
   ("GreaterThan", ⟨.greaterThan⟩),
   ("GreaterThanOrEqual", ⟨.greaterThanOrEqual⟩),
   ("LessThan", ⟨.lessThan⟩),
   ("LessThanOrEqual", ⟨.lessThanOrEqual⟩)]

variable (r : Registry)

/-- An operand as a row; nothing for what is neither a row nor a constant tuple. -/
def asRow (e : Expr) : Lowered :=
  if e.isRow then .ok (some e)
  else
    match e.value? with
    | some (.tuple values) =>
      .built (Expr.rowOf (values.map (Expr.constantOf r)) (values.map fun _ => false))
    | _ => .declined

/-- The comparison of two rows. -/
def compare (op : RowOperation) (o : Operation) (left right : Expr) : Except Fault Expr :=
  if left.operands.length = right.operands.length then
    Expr.binary r op.op left right [false, false] (.scalar .bool) none
  else .error (.rowLengths o.text left.operands.length right.operands.length)

/-- The SQL of a comparison. -/
def build (op : RowOperation) (o : Operation) (args : List Expr) : Lowered :=
  match args with
  | [left, right] => do
    match ← asRow r left, ← asRow r right with
    | some left, some right => Lowered.built (compare r op o left right)
    | _, _ => Lowered.declined
  | _ => .declined

end RowOperation

/-- The lowering of comparisons of rows. -/
def Lowering.rows (r : Registry) : Lowering :=
  .ofTable "row-value" [.rowValue] (fun _ => true) RowOperation.table
    fun op o args => RowOperation.build r op o args

end SqlBridge
