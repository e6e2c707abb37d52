import SqlBridge.Command.Table
import SqlBridge.Json.Printer

/-!
# Output formats

A document as compact or indented JSON, or as a table where it has the shape of one.
-/

namespace SqlBridge

/-- How documents are written. -/
inductive OutputFormat where
  | json
  | pretty
  | table
deriving DecidableEq, Repr

namespace OutputFormat

/-- The word for a format. -/
def name : OutputFormat → String
  | .json => "json"
  | .pretty => "pretty"
  | .table => "table"

/-- The format with the given name. -/
def ofName? (name : String) : Option OutputFormat :=
  [json, pretty, table].find? (·.name == name)

/-- A document as the text of a cell. An object goes by its store type if it has one. -/
def cell (j : Json) : String :=
  match j with
  | .string s => s
  | .number n => n.text
  | .bool b => if b then "true" else "false"
  | .array items => "[" ++ toString items.length ++ " items]"
  | .object fields =>
    match Entries.get? "store_type" fields with
    | some (.string s) => s
    | _ => "\x7b\x7d with " ++ toString fields.length ++ " fields"
  | _ => "-"

/-- The row of an object under the given columns, empty cells for keys that it lacks. -/
def row? (keys : List String) : Json → Option (List String)
  | .object fields => some (keys.map fun k => ((Entries.get? k fields).map cell).getD "")
  | _ => none

/-- A document as a table: an object as its keys and values, a list of objects with the keys of the
first one as columns. -/
def asTable? : Json → Option String
  | .object fields => some (Table.draw ["Key", "Value"] (fields.map fun e => [e.1, cell e.2]))
  | .array [] => some "(empty list)"
  | .array (.object first :: rest) =>
    let keys := first.map (·.1)
    ((Json.object first :: rest).mapM (row? keys)).map (Table.draw keys)
  | _ => none

/-- A document in a format; what is no table is written as indented JSON. -/
def write (format : OutputFormat) (j : Json) : String :=
  match format with
  | .json => j.compact
  | .pretty => j.pretty
  | .table => (asTable? j).getD j.pretty

end OutputFormat

end SqlBridge
