import SqlBridge.Operation.Lowering

/-!
# Operations on network addresses

Comparison, containment, arithmetic and bits of addresses and networks, and what functions tell of them.
-/

namespace SqlBridge

/-- An operation on an address or a network. -/
inductive NetworkOperation where
  | compare (op : BinaryOp)
  /-- An operation that gives an address like its first operand. -/
  | combine (op : BinaryOp)
  /-- A function with a result of its own type. -/
  | function (name : String) (result : Scalar)
  /-- A function whose result is like its operand. -/
  | sameKind (name : String)
  | bitwiseNot
  /-- The difference of two addresses, or an address less a number. -/
  | subtract
  | setMaskLength
  | sameFamily
  | merge
deriving DecidableEq, Repr

namespace NetworkOperation

/-- The operations by name. -/
def table : List (String × NetworkOperation) :=
  [("LessThan", .compare .lessThan),
   ("LessThanOrEqual", .compare .lessThanOrEqual),
   ("GreaterThanOrEqual", .compare .greaterThanOrEqual),
   ("GreaterThan", .compare .greaterThan),
   ("ContainedBy", .compare .strictlyLeftOf),
   ("ContainedByOrEqual", .compare .containedByOrEqual),
   ("Contains", .compare .strictlyRightOf),
   ("ContainsOrEqual", .compare .containsOrEqual),
   ("ContainsOrContainedBy", .compare .overlaps),
   ("Abbreviate", .function "abbrev" .string),
   ("Broadcast", .function "broadcast" .ipAddress),
   ("Family", .function "family" .int32),
   ("Host", .function "host" .string),
   ("HostMask", .function "hostmask" .ipAddress),
   ("MaskLength", .function "masklen" .int32),
   ("Netmask", .function "netmask" .ipAddress),
   ("Network", .function "network" .ipNetwork),
   ("Text", .function "text" .string),
   ("Truncate", .sameKind "trunc"),
   ("Set7BitMac8", .sameKind "macaddr8_set7bit"),
   ("BitwiseNot", .bitwiseNot),
   ("BitwiseAnd", .combine .bitwiseAnd),
   ("BitwiseOr", .combine .bitwiseOr),
   ("Add", .combine .add),
   ("Subtract", .subtract),
   ("SetMaskLength", .setMaskLength),
   ("SameFamily", .sameFamily),
   ("Merge", .merge)]

/-- The host type is one of addresses or networks. -/
def isNetwork : HostType → Bool
  | .scalar s => [.ipAddress, .ipNetwork, .macAddress].contains s
  | _ => false

variable (r : Registry)

/-- The SQL of an operation. -/
def build (op : NetworkOperation) (args : List Expr) : Lowered :=
  match op, args with
  | .compare op, [left, right] => .built (Expr.predicate r op left right)
  | .combine op, [left, right] => .built (Expr.combine r op left right)
  | .function name result, [operand] => .built (Expr.strictCall r name [operand] (.scalar result))
  | .sameKind name, [operand] =>
    .built (Expr.function r name [operand] [true] operand.hostType operand.mapping)
  | .bitwiseNot, [operand] =>
    .built (Expr.unary r .bitwiseNot operand [true] operand.hostType operand.mapping)
  | .subtract, [left, right] =>
    if isNetwork right.hostType then
      .built (Expr.binary r .subtract left right [true, true] (.scalar .int64) none)
    else .built (Expr.combine r .subtract left right)
  | .setMaskLength, [operand, length] =>
    .built (Expr.function r "set_masklen" [operand, length] [true, true] operand.hostType
      operand.mapping)
  | .sameFamily, [left, right] =>
    .built (Expr.strictCall r "inet_same_family" [left, right] (.scalar .bool))
  | .merge, [left, right] =>
    .built (Expr.strictCall r "inet_merge" [left, right] (.scalar .ipNetwork))
  | _, _ => .declined

end NetworkOperation

/-- The lowering of operations on network addresses. -/
def Lowering.networks (r : Registry) : Lowering :=
  .ofTable "network" [.network] (fun e => NetworkOperation.isNetwork e.hostType)
    NetworkOperation.table fun op _ args => NetworkOperation.build r op args

end SqlBridge
