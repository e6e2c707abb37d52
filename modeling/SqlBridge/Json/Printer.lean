import SqlBridge.Json.Basic
import SqlBridge.Number.Notation

/-!
# Printing JSON

The compact form without blanks and the indented form with two blanks a level. Strings escape the
quote, the backslash and the control characters.
-/

namespace SqlBridge.Json

/-- The escaped form of a character in a JSON string. -/
def escapeChar (c : Char) : List Char :=
  match c with
  | '"' => ['\\', '"']
  | '\\' => ['\\', '\\']
  | '\n' => ['\\', 'n']
  | '\r' => ['\\', 'r']
  | '\t' => ['\\', 't']
  | c =>
    if c.toNat = 8 then ['\\', 'b']
    else if c.toNat = 12 then ['\\', 'f']
    else if c.toNat < 32 then '\\' :: 'u' :: Text.paddedHexDigits 4 c.toNat
    else [c]

/-- A JSON string with its quotes. -/
def quote (s : String) : String :=
  String.ofList ('"' :: (s.toList.flatMap escapeChar ++ ['"']))

/-- The text of a number. -/
def Number.text : Number → String
  | .integer i => toString i
  | .float x => FloatNotation.json.text .double x
  | .single x => FloatNotation.jsonSingle.text .single x

/-- The text of a document without parts. -/
def leafText : Json → String
  | .bool b => if b then "true" else "false"
  | .number n => n.text
  | .string s => quote s
  | _ => "null"

mutual

/-- The compact form. -/
def compact : Json → String
  | .array items => "[" ++ compactItems items ++ "]"
  | .object fields => "\x7b" ++ compactFields fields ++ "\x7d"
  | j => leafText j

/-- The items, separated by commas. -/
def compactItems : List Json → String
  | [] => ""
  | [j] => compact j
  | j :: rest => compact j ++ "," ++ compactItems rest

/-- The fields, separated by commas. -/
def compactFields : List (String × Json) → String
  | [] => ""
  | [(k, j)] => quote k ++ ":" ++ compact j
  | (k, j) :: rest => quote k ++ ":" ++ compact j ++ "," ++ compactFields rest

end

/-- A new line at the given level. -/
def newLine (level : Nat) : String :=
  String.ofList ('\n' :: List.replicate (2 * level) ' ')

mutual

/-- The indented form of a document that stands at the given level. -/
def indented (level : Nat) : Json → String
  | .array [] => "[]"
  | .object [] => "\x7b\x7d"
  | .array items => "[" ++ indentedItems (level + 1) items ++ newLine level ++ "]"
  | .object fields => "\x7b" ++ indentedFields (level + 1) fields ++ newLine level ++ "\x7d"
  | j => leafText j

/-- The items, one a line. -/
def indentedItems (level : Nat) : List Json → String
  | [] => ""
  | [j] => newLine level ++ indented level j
  | j :: rest => newLine level ++ indented level j ++ "," ++ indentedItems level rest

/-- The fields, one a line. -/
def indentedFields (level : Nat) : List (String × Json) → String
  | [] => ""
  | [(k, j)] => newLine level ++ quote k ++ ": " ++ indented level j
  | (k, j) :: rest =>
    newLine level ++ quote k ++ ": " ++ indented level j ++ "," ++ indentedFields level rest

end

/-- The indented form. -/
def pretty (j : Json) : String :=
  indented 0 j

end SqlBridge.Json
