import SqlBridge.Operation.Lowering

/-!
# Groups collected into one value

The values of a group as one text, array or JSON document.
-/

namespace SqlBridge

/-- A way of collecting a group. -/
inductive CollectOperation where
  /-- As a text, with a separator. -/
  | text
  | array
  /-- As an array document of a store type, by a function. -/
  | document (function store : String)
  /-- As an object document of a store type, by a function, from pairs of keys and values. -/
  | object (function store : String)
deriving DecidableEq, Repr

namespace CollectOperation

open SqlBridge.Expr

/-- The operations by name. -/
def table : List (String × CollectOperation) :=
  [("StringJoin", .text),
   ("ArrayAgg", .array),
   ("JsonAgg", .document "json_agg" "json"),
   ("JsonbAgg", .document "jsonb_agg" "jsonb"),
   ("JsonObjectAgg", .object "json_object_agg" "json"),
   ("JsonbObjectAgg", .object "jsonb_object_agg" "jsonb")]

variable (r : Registry)

/-- The texts of a group, the empty text for an empty group. -/
def joined (values separator : Expr) : Except Fault Expr := do
  let all ← aggregate r "string_agg" [values, separator] [false, false] (.scalar .string)
    values.mapping
  function r "COALESCE" [all, constantOf r (.string "")] [false, false] (.scalar .string) none

/-- The descriptor of arrays of values like the given ones. -/
def arrayMapping (values : Expr) : Option Descriptor :=
  match values.mapping with
  | some d => (d.arrayOf none true).toOption
  | none => r.findHost (.array values.hostType)

/-- A document of a store type, collected by a function. -/
def collected (name store : String) (args : List Expr) : Except Fault Expr :=
  aggregate r name args (args.map fun _ => false) (.scalar .json) (r.findStore store)

/-- The SQL of an operation. -/
def build (op : CollectOperation) (args : List Expr) : Lowered :=
  match op, args with
  | .text, [values, separator] => .built (joined r values separator)
  | .array, [values] =>
    .built (aggregate r "array_agg" [values] [false] (.array values.hostType)
      (arrayMapping r values))
  | .document name store, [values] => .built (collected r name store [values])
  | .object name store, [e] =>
    match pair? r e with
    | some (key, value) => .built (collected r name store [key, value])
    | none => .declined
  | _, _ => .declined

end CollectOperation

/-- The lowering of groups that are collected into one value. -/
def Lowering.collections (r : Registry) : Lowering :=
  .ofTable "misc-aggregate" [.aggregate] (fun _ => true) CollectOperation.table
    fun op _ args => CollectOperation.build r op args

end SqlBridge
