import SqlBridge.Descriptor.Describe
import SqlBridge.Descriptor.Render
import SqlBridge.HostType.Notation
import SqlBridge.HostValue.Form
import SqlBridge.Json.Reader
import SqlBridge.Options.Form
import SqlBridge.Registry.Containers

/-!
# Commands

The four commands of the program: the descriptor for a request, the literals of a value, the parts of a
store type, and the list of store types. Each gives a document.
-/

namespace SqlBridge

/-- What is asked of the `map` command. -/
structure MapArguments where
  store : Option String := none
  host : Option String := none
  size : Option UInt32 := none
  precision : Option UInt32 := none
  scale : Option UInt32 := none
  fixedLength : Bool := false
  unicode : Option Bool := none
  isKey : Bool := false

/-- What is asked of the `literal` command. -/
structure LiteralArguments where
  store : Option String := none
  host : Option String := none
  /-- The JSON form of the value. -/
  value : String

/-- A command with its arguments. -/
inductive Command where
  | map (arguments : MapArguments)
  | literal (arguments : LiteralArguments)
  | parseType (raw : String)
  | types

/-- Why a file cannot be read. -/
inductive FileFault where
  | missing
  | denied
  /-- The path goes on below a file. -/
  | notDirectory
  | isDirectory
  | nameTooLong
  /-- The file is no UTF-8 text. -/
  | notText
deriving DecidableEq, Repr

/-- The wording of a fault, with the number of the system's error. -/
def FileFault.message : FileFault → String
  | .missing => "No such file or directory (os error 2)"
  | .denied => "Permission denied (os error 13)"
  | .notDirectory => "Not a directory (os error 20)"
  | .isDirectory => "Is a directory (os error 21)"
  | .nameTooLong => "File name too long (os error 36)"
  | .notText => "stream did not contain valid UTF-8"

/-- Why a command fails. -/
inductive CommandFailure where
  | fault (f : Fault)
  /-- Neither a store type nor a host type was named. -/
  | nothingRequested
  | invalidValue (text : String)
  | unreadableOptions (path : String) (cause : FileFault)

namespace CommandFailure

/-- The message of a failure that has no report. -/
def message? : CommandFailure → Option String
  | .fault _ => none
  | .nothingRequested => some "At least one of --store-type and --host-type is required"
  | .invalidValue text => some ("Invalid host value: " ++ text)
  | .unreadableOptions path cause =>
    some ("Failed to read options file: " ++ path ++ ": " ++ cause.message)

/-- The text of a failure for a reader. -/
def text (p : Palette) : CommandFailure → String
  | .fault f => f.report.diagnostic.lines p
  | failure => p.alarm "Error:" ++ " " ++ failure.message?.getD ""

end CommandFailure

namespace Command

/-- A failure of the library as one of a command. -/
def check {α : Type} (result : Except Fault α) : Except CommandFailure α :=
  result.mapError .fault

/-- A host type from its notation, where one is given. -/
def readHost (notation? : Option String) : Except CommandFailure (Option HostType) :=
  match notation? with
  | some s => (check (HostType.parse s)).map some
  | none => .ok none

/-- The request of the `map` command. -/
def mapRequest (a : MapArguments) : Except CommandFailure Request := do
  if a.store.isNone && a.host.isNone then .error .nothingRequested
  let host ← readHost a.host
  return {
    store := a.store
    host
    unicode := a.unicode
    size := a.size
    precision := a.precision
    scale := a.scale
    fixedLength := a.fixedLength
    isKey := a.isKey }

/-- The document of the descriptor for a request. -/
def describe (r : Registry) (a : MapArguments) : Except CommandFailure Json := do
  let q ← mapRequest a
  let d ← check (r.require q)
  return d.toJson

/-- The value that a text is the JSON form of. -/
def readValue (text : String) : Except CommandFailure HostValue :=
  match (Json.read? text).bind (HostValue.ofJson? {}) with
  | some v => .ok v
  | none => .error (.invalidValue text)

/-- The document of the literals of a value, by the host type that is named or else the value's own. -/
def render (r : Registry) (a : LiteralArguments) : Except CommandFailure Json := do
  let v ← readValue a.value
  let host ← readHost a.host
  let q : Request := { store := a.store, host := if a.host.isSome then host else v.hostType? }
  let d ← check (r.require q)
  let toplevel ← check (d.toplevel v)
  let embedded ← check (d.embedded v)
  return .object
    [("store_type", .string d.storeType), ("toplevel", .string toplevel),
      ("embedded", .string embedded)]

/-- Every name once, in the order of code points. -/
def sortedNames (r : Registry) : List String :=
  (r.names.mergeSort fun a b => a ≤ b).eraseDups

/-- The row of a name in the list of store types: the first wire type and all host types. -/
def typeRow (r : Registry) (name : String) : Json :=
  let ds := r.named name
  .object
    [("store_type", .string name),
      ("db_type", .string ((ds.head?.map fun d => d.dbType.text).getD "")),
      ("host_types", .string (", ".intercalate (ds.map fun d => d.hostType.text)))]

/-- The list of store types. -/
def typeList (r : Registry) : Json :=
  .array ((sortedNames r).map (typeRow r))

/-- The registry for the text of an options document, or for no options. -/
def registryFor (options : Option String) : Except CommandFailure Registry :=
  match options with
  | some text => check do Registry.ofOptions (← MappingOptions.ofText text)
  | none => check (Registry.ofOptions {})

/-- The document of a command. A registry is only needed by those that look something up. -/
def run (registry : Except CommandFailure Registry) : Command → Except CommandFailure Json
  | .map a => do describe (← registry) a
  | .literal a => do render (← registry) a
  | .parseType raw => .ok (StoreType.parse raw).toJson
  | .types => do return typeList (← registry)

end Command

end SqlBridge
