import SqlBridge.Operation.Lowering

/-!
# Operations on ranges and multiranges

The first operand is the range or multirange. Results keep to the family of range types that the
operand's descriptor belongs to.
-/

namespace SqlBridge

/-- An operation on a range or a multirange. -/
inductive RangeOperation where
  /-- A comparison with a range or a value. -/
  | compare (op : BinaryOp)
  /-- A set operation of two ranges. -/
  | combine (op : BinaryOp)
  /-- A test by a function. -/
  | test (function : String)
  /-- A boundary value by a function, of ranges only. -/
  | bound (function : String)
  | merge
  /-- Whether a multirange has any value. -/
  | any
  /-- The multirange of all ranges of a group. -/
  | union
  /-- The common part of all ranges of a group. -/
  | intersection
deriving DecidableEq, Repr

namespace RangeOperation

open SqlBridge.Expr

/-- The operations by name. -/
def table : List (String × RangeOperation) :=
  [("Contains", .compare .contains),
   ("ContainedBy", .compare .containedBy),
   ("Overlaps", .compare .overlaps),
   ("IsStrictlyLeftOf", .compare .strictlyLeftOf),
   ("IsStrictlyRightOf", .compare .strictlyRightOf),
   ("DoesNotExtendLeftOf", .compare .doesNotExtendLeftOf),
   ("DoesNotExtendRightOf", .compare .doesNotExtendRightOf),
   ("IsAdjacentTo", .compare .isAdjacentTo),
   ("Union", .combine .add),
   ("Intersect", .combine .multiply),
   ("Except", .combine .subtract),
   ("IsEmpty", .test "isempty"),
   ("LowerBoundIsInclusive", .test "lower_inc"),
   ("UpperBoundIsInclusive", .test "upper_inc"),
   ("LowerBoundInfinite", .test "lower_inf"),
   ("UpperBoundInfinite", .test "upper_inf"),
   ("LowerBound", .bound "lower"),
   ("UpperBound", .bound "upper"),
   ("Merge", .merge),
   ("Any", .any),
   ("RangeAgg", .union),
   ("RangeIntersectAgg", .intersection)]

variable (r : Registry)

/-- The descriptor of the boundary values of an operand. -/
def subtypeMapping (range : Expr) : Option Descriptor :=
  range.mapping.bind Descriptor.subtype?

/-- The descriptor of the ranges that an operand is or consists of. -/
def rangeMapping (range : Expr) : Option Descriptor :=
  range.mapping.bind fun d => if d.isRange then some d else d.range?

/-- The descriptor of multiranges over the boundary values of an operand. -/
def multirangeMapping (range : Expr) : Option Descriptor :=
  (subtypeMapping range).bind r.findMultirange

/-- The host type of the boundary values of an operand. -/
def subtype (range : Expr) : HostType :=
  range.hostType.subtype?.getD (.scalar .string)

/-- An operand with the descriptor of the boundary values, if its own store type is free. -/
def retypeBound (range other : Expr) : Expr :=
  match subtypeMapping range with
  | some d => retype r d other
  | none => other

/-- A call of an aggregate function that gives multiranges or ranges. -/
def collect (name : String) (multi : Bool) (range : Expr) : Except Fault Expr :=
  if multi then
    aggregate r name [range] [false] (.multirange (subtype range)) (multirangeMapping r range)
  else aggregate r name [range] [false] (.range (subtype range)) (rangeMapping range)

/-- The SQL of an operation. -/
def build (op : RangeOperation) (args : List Expr) : Lowered :=
  match op, args with
  | .compare op, [range, other] => .built (predicate r op range (retypeBound r range other))
  | .combine op, [range, other] => .built (Expr.combine r op range other)
  | .test name, [range] => .built (strictCall r name [range] (.scalar .bool))
  | .bound name, [range] =>
    if range.hostType.isMultirange then .declined
    else .built (function r name [range] [true] (subtype range) (subtypeMapping range))
  | .merge, [range, other] =>
    if range.hostType.isMultirange then .declined
    else
      .built (function r "range_merge" [range, other] [true, true] range.hostType range.mapping)
  | .merge, [range] =>
    if range.hostType.isMultirange then
      .built (function r "range_merge" [range] [true] (.range (subtype range)) (rangeMapping range))
    else .declined
  | .any, [range] =>
    if range.hostType.isMultirange then
      .built do
        unary r .not (← strictCall r "isempty" [range] (.scalar .bool)) [true] (.scalar .bool) none
    else .declined
  | .union, [range] => .built (collect r "range_agg" true range)
  | .intersection, [range] =>
    .built (collect r "range_intersect_agg" range.hostType.isMultirange range)
  | _, _ => .declined

end RangeOperation

/-- The lowering of operations on ranges and multiranges. -/
def Lowering.ranges (r : Registry) : Lowering :=
  .ofTable "range" [.range, .multirange]
    (fun range => range.hostType.isRange || range.hostType.isMultirange) RangeOperation.table
    fun op _ args => RangeOperation.build r op args

end SqlBridge
