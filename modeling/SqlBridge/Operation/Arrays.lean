import SqlBridge.Operation.Lowering

/-!
# Operations on arrays and lists

The first operand is the array. Programs count its elements from 0, databases from 1.
-/

namespace SqlBridge

/-- An operation on an array. -/
inductive ArrayOperation where
  | length | any | first | elementAt | contains | indexOf | concat | append | prepend | remove | join
  /-- A comparison with another array. -/
  | compare (op : BinaryOp)
deriving DecidableEq, Repr

namespace ArrayOperation

open SqlBridge.Expr

/-- The operations by name. -/
def table : List (String × ArrayOperation) :=
  [("Length", .length),
   ("Count", .length),
   ("Any", .any),
   ("First", .first),
   ("ElementAt", .elementAt),
   ("Contains", .contains),
   ("IndexOf", .indexOf),
   ("Concat", .concat),
   ("Append", .append),
   ("Prepend", .prepend),
   ("Remove", .remove),
   ("Join", .join),
   ("SequenceEqual", .compare .equal),
   ("Overlaps", .compare .overlaps),
   ("ContainsAll", .compare .contains),
   ("ContainedBy", .compare .containedBy)]

variable (r : Registry)

/-- The number of elements. -/
def cardinality (array : Expr) : Except Fault Expr :=
  strictCall r "cardinality" [array] (.scalar .int32)

/-- A call whose value is an array like the given one. -/
def likeArray (array : Expr) (name : String) (args : List Expr) (flags : List Bool) :
    Except Fault Expr :=
  function r name args flags array.hostType array.mapping

/-- The first index of an item, -1 when it is missing. -/
def index (array item : Expr) : Except Fault Expr := do
  let position ← function r "array_position" [array, retypeElement r array item] [true, false]
    (.scalar .int32) none
  let fromZero ← offset r position (-1)
  function r "COALESCE" [fromZero, constantOf r (.int32 (-1))] [false, false] (.scalar .int32) none

/-- The SQL of an operation. -/
def build (op : ArrayOperation) (args : List Expr) : Lowered :=
  match op, args with
  | .length, [array] => .built (cardinality r array)
  | .any, [array] => .built do
    predicate r .greaterThan (← cardinality r array) (constantOf r (.int32 0))
  | .first, [array] => .built (subscript r array (constantOf r (.int32 1)) [true, true])
  | .elementAt, [array, index] => .built do subscript r array (← offset r index 1) [true, true]
  | .contains, [array, item] => .built (anyOf r .equal item array [true, true])
  | .indexOf, [array, item] => .built (index r array item)
  | .concat, [array, other] =>
    .built (binary r .concat array other [false, false] array.hostType array.mapping)
  | .append, [array, item] =>
    .built (likeArray r array "array_append" [array, retypeElement r array item] [false, false])
  | .prepend, [array, item] =>
    .built (likeArray r array "array_prepend" [retypeElement r array item, array] [false, false])
  | .remove, [array, item] =>
    .built (likeArray r array "array_remove" [array, retypeElement r array item] [true, false])
  | .join, [array, separator] =>
    .built (strictCall r "array_to_string" [array, separator] (.scalar .string))
  | .compare op, [array, other] => .built (predicate r op array other)
  | _, _ => .declined

end ArrayOperation

/-- The lowering of operations on arrays and lists. -/
def Lowering.arrays (r : Registry) : Lowering :=
  .ofTable "array" [.array, .list] (fun array => array.hostType.isSequence) ArrayOperation.table
    fun op _ args => ArrayOperation.build r op args

end SqlBridge
