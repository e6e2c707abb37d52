import SqlBridge.Json.Basic
import SqlBridge.StoreType.Facets
import SqlBridge.Text.Blank
import SqlBridge.Text.Numeral

/-!
# Reading store types

A store type as a user writes it, split into its base name and its modifiers: `varchar(32)[]` is
`varchar[]` of size 32. A text whose parentheses hold anything but one or two numbers is a base name as
a whole.
-/

namespace SqlBridge

/-- A store type split into its base name and its modifiers. -/
structure ParsedStoreType where
  baseName : String
  /-- The base name is that of a character type. -/
  isUnicode : Bool := false
  size : Option UInt32 := none
  precision : Option UInt32 := none
  scale : Option UInt32 := none
deriving DecidableEq, Repr

namespace StoreType

/-- The names of store types whose single modifier is a precision. -/
def precisionNames : List String :=
  ["numeric", "decimal", "time", "timetz", "timestamp", "timestamptz", "interval", "float"]

/-- The names of store types that hold characters. -/
def characterNames : List String :=
  ["text", "citext", "character varying", "varchar", "character", "char", "bpchar"]

/-- A single modifier after the name is a precision. -/
def takesPrecision (name : List Char) : Bool :=
  precisionNames.contains (String.ofList ((Text.trim name).map Char.toLower))

/-- Leaves out the square brackets that open a reversed name. -/
def dropBrackets : List Char → List Char
  | ']' :: '[' :: rest => dropBrackets rest
  | cs => cs

/-- The name, with any number of square brackets after it, is that of a character type. -/
def isCharacter (name : List Char) : Bool :=
  characterNames.contains
    (String.ofList ((dropBrackets (Text.trim name).reverse).reverse.map Char.toLower))

/-- A number with blanks around it, and the rest. -/
def readModifier? (cs : List Char) : Option (UInt32 × List Char) :=
  let rest := Text.skipSpaces cs
  (Text.readUInt32? (rest.takeWhile Char.isDigit)).map fun n =>
    (n, Text.skipSpaces (rest.dropWhile Char.isDigit))

/-- One number, or two with a comma between them. -/
def readModifiers? (cs : List Char) : Option (UInt32 × Option UInt32) := do
  let (first, rest) ← readModifier? cs
  match rest with
  | [] => some (first, none)
  | mark :: rest =>
    if mark = ',' then
      let (second, rest) ← readModifier? rest
      if rest.isEmpty then some (first, some second) else none
    else none

/-- The texts before, inside and after the first parentheses. -/
def splitParentheses? (cs : List Char) : Option (List Char × List Char × List Char) :=
  match cs.dropWhile (· != '(') with
  | [] => none
  | _ :: tail =>
    match tail.dropWhile (· != ')') with
    | [] => none
    | _ :: after => some (cs.takeWhile (· != '('), tail.takeWhile (· != ')'), after)

/-- The store type with modifiers that a text spells. -/
def parseModified? (cs : List Char) : Option ParsedStoreType := do
  let (before, inside, after) ← splitParentheses? cs
  let (first, second) ← readModifiers? inside
  let name := Text.trimEnd before
  let base := name ++ after
  let parsed : ParsedStoreType :=
    { baseName := String.ofList base, isUnicode := isCharacter base }
  match second with
  | some scale => some { parsed with precision := some first, scale := some scale }
  | none =>
    if takesPrecision name then some { parsed with precision := some first }
    else some { parsed with size := some first }

/-- Splits a store type. -/
def parse (raw : String) : ParsedStoreType :=
  (parseModified? raw.toList).getD { baseName := raw, isUnicode := isCharacter raw.toList }

end StoreType

namespace ParsedStoreType

/-- Some modifier stood in the text. -/
def hasModifiers (p : ParsedStoreType) : Bool :=
  p.size.isSome || p.precision.isSome || p.scale.isSome

/-- The modifiers as facets, with the length fixed or not. -/
def facets (p : ParsedStoreType) (fixedLength : Bool) : Facets :=
  { size := p.size, precision := p.precision, scale := p.scale, fixedLength }

/-- The parts under their names, `null` for those that are absent. -/
def toJson (p : ParsedStoreType) : Json :=
  .object [("base_name", .string p.baseName),
    ("is_unicode", if p.isUnicode then .bool true else .null),
    ("size", .option .uint32 p.size),
    ("precision", .option .uint32 p.precision),
    ("scale", .option .uint32 p.scale)]

end ParsedStoreType

end SqlBridge
