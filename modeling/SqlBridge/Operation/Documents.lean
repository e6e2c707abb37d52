import SqlBridge.Operation.Lowering

/-!
# Operations on JSON documents

The first operand is the document. Documents without a descriptor count as the binary form, which alone
has the operators for containment and existence.
-/

namespace SqlBridge

/-- An operation on a JSON document. -/
inductive DocumentOperation where
  | property
  | text
  /-- A property as a value of a host type. -/
  | typed (target : Scalar)
  | arrayLength
  | typeOf
  /-- A comparison that only the binary form has. -/
  | compare (op : BinaryOp)
  | path
  | pathText
deriving DecidableEq, Repr

namespace DocumentOperation

open SqlBridge.Expr

/-- The operations by name. -/
def table : List (String × DocumentOperation) :=
  [("GetProperty", .property),
   ("GetString", .text),
   ("GetInt32", .typed .int32),
   ("GetInt64", .typed .int64),
   ("GetDouble", .typed .float64),
   ("GetDecimal", .typed .decimal),
   ("GetBoolean", .typed .bool),
   ("GetArrayLength", .arrayLength),
   ("JsonTypeof", .typeOf),
   ("JsonContains", .compare .contains),
   ("JsonContained", .compare .containedBy),
   ("JsonExists", .compare .jsonExists),
   ("JsonExistsAny", .compare .jsonExistsAny),
   ("JsonExistsAll", .compare .jsonExistsAll),
   ("JsonPath", .path),
   ("JsonPathText", .pathText)]

variable (r : Registry)

/-- Whether an operand is a document in the binary form; nothing for what is no document. -/
def isBinary? (document : Expr) : Option Bool :=
  match document.storeType? with
  | some store =>
    if store = "jsonb" then some true else if store = "json" then some false else none
  | none => if document.hostType = .scalar .json then some true else none

/-- The name of a function for the form of the document. -/
def functionName (document : Expr) (name : String) : String :=
  (if isBinary? document = some true then "jsonb_" else "json_") ++ name

/-- A property as text. -/
def textOf (document key : Expr) : Except Fault Expr :=
  binary r .jsonGetText document key [true, true] (.scalar .string) none

/-- A path: the sequence that alone is given, or the array of the given steps. -/
def pathOf (steps : List Expr) : Except Fault Expr :=
  match steps with
  | [step] =>
    if step.hostType.isSequence then .ok step else arrayOf r [step] (.scalar .string) [false]
  | steps => arrayOf r steps (.scalar .string) (steps.map fun _ => false)

/-- The SQL of an operation. -/
def build (op : DocumentOperation) (o : Operation) (args : List Expr) : Lowered :=
  match op, args with
  | .property, [document, key] => .built (combine r .jsonGet document key)
  | .text, [document, key] => .built (textOf r document key)
  | .typed target, [document, key] => .built do
    let d ← r.requireHost (.scalar target)
    castWith (← textOf r document key) d [true]
  | .arrayLength, [document] =>
    .built (strictCall r (functionName document "array_length") [document] (.scalar .int32))
  | .typeOf, [document] =>
    .built (strictCall r (functionName document "typeof") [document] (.scalar .string))
  | .compare op, [document, other] =>
    if isBinary? document = some true then .built (predicate r op document other)
    else .error (.binaryJsonOnly o.name o.text)
  | .path, document :: step :: steps => .built do
    combine r .jsonGetPath document (← pathOf r (step :: steps))
  | .pathText, document :: step :: steps => .built do
    binary r .jsonGetPathText document (← pathOf r (step :: steps)) [true, true] (.scalar .string)
      none
  | _, _ => .declined

end DocumentOperation

/-- The lowering of operations on JSON documents. -/
def Lowering.documents (r : Registry) : Lowering :=
  .ofTable "json" [.json] (fun document => (DocumentOperation.isBinary? document).isSome)
    DocumentOperation.table fun op o args => DocumentOperation.build r op o args

end SqlBridge
