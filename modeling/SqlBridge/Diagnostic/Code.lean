import SqlBridge.Text.Numeral

/-!
# Error codes

Numbered error codes in four classes, their text, and what is known about each.
-/

namespace SqlBridge

/-- The class of an error: which activity failed. -/
inductive ErrorClass where
  | mapping
  | lowering
  | literal
  | configuration
deriving DecidableEq, Repr

namespace ErrorClass

/-- The name of a class. -/
def name : ErrorClass → String
  | .mapping => "Mapping"
  | .lowering => "Translation"
  | .literal => "Literal"
  | .configuration => "Configuration"

end ErrorClass

/-- An error code, a number of 16 bits. -/
structure ErrorCode where
  number : UInt16
deriving DecidableEq, Repr

namespace ErrorCode

/-- The letters KB and at least four digits. -/
def text (c : ErrorCode) : String :=
  "KB" ++ Text.padded 4 c.number.toNat

/-- The class that a code's number belongs to. -/
def class? (c : ErrorCode) : Option ErrorClass :=
  if c.number = 0 then none
  else if c.number < 100 then some .mapping
  else if c.number < 200 then some .lowering
  else if c.number < 300 then some .literal
  else if c.number < 400 then some .configuration
  else none

/-- What a known code stands for, and advice where there is any. -/
def known : List (UInt16 × String × Option String) :=
  [(1, "No mapping for store type and host type combination", none),
   (2, "Unknown store type name", none),
   (3, "Unknown host type name", none),
   (4, "Nested array mappings are not supported",
      some "KingbaseES arrays are flattened; map the element type instead"),
   (100, "Operation could not be translated",
      some "Evaluate the operation outside the database or rewrite the query"),
   (101, "Constant argument required", none),
   (102, "Row value length mismatch", none),
   (103, "Operation not supported for the operand store type", none),
   (104, "Null-propagation vector length does not match operand count", none),
   (105, "Unexpected argument shape", none),
   (200, "Value does not match the mapping's host type", none),
   (201, "Non-UTC value for a UTC-only store type",
      some "Convert the value to UTC or enable legacy timestamp behavior"),
   (202, "Unknown enum label", none),
   (203, "Value cannot be represented as a literal", none),
   (300, "User-defined range subtype cannot be resolved",
      some "Check the subtype host type and store type of the range definition"),
   (301, "Duplicate type registration", none),
   (302, "Sequence strategy requires an integer or enum host type", none),
   (303, "Invalid option value", none)]

/-- The entry of a code among the known ones. -/
def info? (c : ErrorCode) : Option (String × Option String) :=
  (known.find? (·.1 == c.number)).map (·.2)

/-- What the code stands for. -/
def description (c : ErrorCode) : String :=
  (c.info?.map (·.1)).getD "Unknown error"

/-- The advice that goes with the code. -/
def help? (c : ErrorCode) : Option String :=
  c.info?.bind (·.2)

end ErrorCode

end SqlBridge
