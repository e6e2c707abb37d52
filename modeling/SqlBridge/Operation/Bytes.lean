import SqlBridge.Operation.Lowering

/-!
# Operations on byte sequences

The first operand is the sequence of bytes. A single byte is searched for as a sequence of its own.
-/

namespace SqlBridge

/-- An operation on a sequence of bytes. -/
inductive BytesOperation where
  | length | contains | indexOf | first | elementAt | equal
deriving DecidableEq, Repr

namespace BytesOperation

open SqlBridge.Expr

/-- The operations by name. -/
def table : List (String × BytesOperation) :=
  [("Length", .length),
   ("Contains", .contains),
   ("IndexOf", .indexOf),
   ("First", .first),
   ("ElementAt", .elementAt),
   ("SequenceEqual", .equal)]

variable (r : Registry)

/-- The place of a byte, 0 when it is missing. -/
def place (bytes value : Expr) : Except Fault Expr := do
  let zero ← constantAs r (.scalar (.bytes [0])) "bytea"
  let needle ← strictCall r "set_byte" [zero, constantOf r (.int32 0), value] (.scalar .bytes)
  position r needle bytes [true, true]

/-- The byte at an index that counts from 0. -/
def byteAt (bytes index : Expr) : Except Fault Expr :=
  strictCall r "get_byte" [bytes, index] (.scalar .int32)

/-- The SQL of an operation. -/
def build (op : BytesOperation) (args : List Expr) : Lowered :=
  match op, args with
  | .length, [bytes] => .built (strictCall r "length" [bytes] (.scalar .int32))
  | .contains, [bytes, value] => .built do
    predicate r .greaterThan (← place r bytes value) (constantOf r (.int32 0))
  | .indexOf, [bytes, value] => .built do offset r (← place r bytes value) (-1)
  | .first, [bytes] => .built (byteAt r bytes (constantOf r (.int32 0)))
  | .elementAt, [bytes, index] => .built (byteAt r bytes index)
  | .equal, [bytes, other] => .built (predicate r .equal bytes other)
  | _, _ => .declined

end BytesOperation

/-- The lowering of operations on byte sequences. -/
def Lowering.bytes (r : Registry) : Lowering :=
  .ofTable "byte-sequence" [.bytes] (fun bytes => bytes.hostType == .scalar .bytes)
    BytesOperation.table fun op _ args => BytesOperation.build r op args

end SqlBridge
