import SqlBridge.Text.Blank

/-!
# Quoting

Texts inside SQL strings, where a quote is written twice, and texts as items of array, range and
dictionary literals, where a double quote and a backslash take a backslash before them.
-/

namespace SqlBridge.Literal

/-- The characters with every single quote written twice. -/
def doubleQuotes : List Char → List Char
  | [] => []
  | c :: cs => if c = '\'' then '\'' :: '\'' :: doubleQuotes cs else c :: doubleQuotes cs

/-- The text as it stands between the quotes of an SQL string. -/
def escapeSql (s : String) : String :=
  String.ofList (doubleQuotes s.toList)

/-- The text as an SQL string. -/
def quoteSql (s : String) : String :=
  "'" ++ escapeSql s ++ "'"

/-- The characters with a backslash before every double quote and backslash. -/
def backslashed : List Char → List Char
  | [] => []
  | c :: cs => if c = '"' ∨ c = '\\' then '\\' :: c :: backslashed cs else c :: backslashed cs

/-- The text as an item in double quotes. -/
def quoteItem (s : String) : String :=
  "\"" ++ String.ofList (backslashed s.toList) ++ "\""

/-- A character that an item can only hold between double quotes. -/
def isItemMark (c : Char) : Bool :=
  ['"', '\\', ',', '(', ')', '[', ']', '\x7b', '\x7d'].contains c || Text.isBlank c

/-- The text can only be an item between double quotes: it is empty, spells null or holds a mark. -/
def needsItemQuotes (s : String) : Bool :=
  s.isEmpty || Text.lower s == "null" || s.toList.any isItemMark

/-- The text as an item, in double quotes where they are needed or wanted. -/
def item (always : Bool) (s : String) : String :=
  if always || needsItemQuotes s then quoteItem s else s

end SqlBridge.Literal
