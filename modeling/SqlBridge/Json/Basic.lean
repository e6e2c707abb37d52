import SqlBridge.Entries
import SqlBridge.Number.FloatValue

/-!
# JSON documents

Documents keep the order of an object's fields. A document as it was read may repeat a key;
`Json.merge` gives each key its first place and its last value. It may also have unreadable parts, which
do no harm where they are passed over.
-/

namespace SqlBridge

/-- A JSON number: an integer of 64 bits, signed or unsigned, or a floating-point value. -/
inductive Json.Number where
  | integer (i : Int)
  /-- A 64-bit floating-point value. -/
  | float (x : FloatValue)
  /-- A 32-bit floating-point value. It is written but never read. -/
  | single (x : FloatValue)
deriving DecidableEq, Repr

/-- A JSON document. -/
inductive Json where
  | null
  | bool (b : Bool)
  | number (n : Json.Number)
  | string (s : String)
  | array (items : List Json)
  | object (fields : List (String × Json))
  /-- A part of a text that keeps to the grammar and has no value: a number beyond the 64-bit range, a
  string with half of a surrogate pair, an object with such a key, or nesting that is too deep. -/
  | unreadable

namespace Json

instance : Inhabited Json := ⟨.null⟩

/-- The document of a natural number. -/
def nat (n : Nat) : Json :=
  .number (.integer n)

/-- The document of an integer. -/
def int (i : Int) : Json :=
  .number (.integer i)

/-- The document of an unsigned 32-bit number. -/
def uint32 (n : UInt32) : Json :=
  nat n.toNat

/-- `null` for no value. -/
def option {α : Type} (f : α → Json) : Option α → Json
  | none => .null
  | some a => f a

/-- The document of a 64-bit floating-point value; those without digits have none but `null`. -/
def double (x : FloatValue) : Json :=
  if x.isFinite then .number (.float x) else .null

/-- The document of a 32-bit floating-point value; those without digits have none but `null`. -/
def single (x : FloatValue) : Json :=
  if x.isFinite then .number (.single x) else .null

mutual

/-- The document in which every key of an object stands once. -/
def merge : Json → Json
  | .array items => .array (mergeItems items)
  | .object fields => .object (Entries.ofList (mergeFields fields))
  | j => j

/-- Merges each item. -/
def mergeItems : List Json → List Json
  | [] => []
  | j :: rest => merge j :: mergeItems rest

/-- Merges the value of each field and keeps all fields. -/
def mergeFields : List (String × Json) → List (String × Json)
  | [] => []
  | (k, j) :: rest => (k, merge j) :: mergeFields rest

end

mutual

/-- Every part of the document has a value. -/
def isReadable : Json → Bool
  | .unreadable => false
  | .array items => itemsReadable items
  | .object fields => fieldsReadable fields
  | _ => true

/-- Every item is readable. -/
def itemsReadable : List Json → Bool
  | [] => true
  | j :: rest => isReadable j && itemsReadable rest

/-- The value of every field is readable. -/
def fieldsReadable : List (String × Json) → Bool
  | [] => true
  | (_, j) :: rest => isReadable j && fieldsReadable rest

end

/-- The value of the first field with the key. -/
def field? (key : String) : Json → Option Json
  | .object fields => Entries.get? key fields
  | _ => none

/-- The text of a string document. -/
def asString? : Json → Option String
  | .string s => some s
  | _ => none

/-- The truth value of a Boolean document. -/
def asBool? : Json → Option Bool
  | .bool b => some b
  | _ => none

/-- The integer of a number document without fraction or exponent. -/
def asInt? : Json → Option Int
  | .number (.integer i) => some i
  | _ => none

/-- An integer from 0 up to below `bound`. -/
def asNatBelow? (bound : Nat) (j : Json) : Option Nat :=
  j.asInt?.bind fun i => if 0 ≤ i ∧ i < bound then some i.toNat else none

/-- An unsigned 32-bit integer. -/
def asUInt32? (j : Json) : Option UInt32 :=
  (j.asNatBelow? UInt32.size).map UInt32.ofNat

/-- The document stands for no content: it is `null`, or with `emptyObjects` an object without fields. -/
def isNothing (emptyObjects : Bool) : Json → Bool
  | .null => true
  | .object [] => emptyObjects
  | _ => false

/-- The name of a variant without content: the name itself, or an object that gives it no content. -/
def asVariant? (emptyObjects : Bool) : Json → Option String
  | .string s => some s
  | .object [(s, j)] => if j.isNothing emptyObjects then some s else none
  | _ => none

/-- The fields of a record with the given field names, which may also be written as the list of its
values in that order; no key may stand twice. -/
def asRecord? (names : List String) : Json → Option (List (String × Json))
  | .object fields =>
    if names.all fun n => (fields.filter (·.1 == n)).length ≤ 1 then some fields else none
  | .array items => if items.length ≤ names.length then some (names.zip items) else none
  | _ => none

end Json

end SqlBridge
