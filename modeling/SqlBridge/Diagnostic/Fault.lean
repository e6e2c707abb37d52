import SqlBridge.Diagnostic.Report
import SqlBridge.HostType.Basic

/-!
# Faults

Why an operation of this library fails, as causes, and the one place that words their reports.
-/

namespace SqlBridge

/-- The cause of a failure. -/
inductive Fault where
  /-- A text that is no host type. -/
  | unknownHostType (text : String)
  /-- No descriptor for the requested store type and host type. -/
  | noMapping (store : Option String) (host : Option HostType)
  /-- No descriptor for the name of a store type. -/
  | noStoreMapping (store : String)
  /-- No descriptor for a host type. -/
  | noHostMapping (host : HostType)
  /-- An array whose elements would be arrays. -/
  | nestedArray (elementStore : String)
  /-- A multirange over something that is not a range. -/
  | notARange (store : String)
  /-- A value that the store type does not write. -/
  | unwritable (value store : String)
  /-- An instant for a store type without time zone. -/
  | zonedForUnzoned (store : String)
  /-- A date-time without zone for a store type with time zone. -/
  | unzonedForZoned (store : String)
  /-- An instant that is not given in UTC. -/
  | offsetNotUtc (offset store : String)
  /-- A text that is neither a variant nor a label of an enumeration. -/
  | unknownLabel (label store : String)
  /-- An enumeration whose name or host type is taken. -/
  | duplicateEnum (store : String)
  /-- A range type whose name is taken. -/
  | duplicateRange (store : String)
  /-- A range type whose subtype has no descriptor. -/
  | unresolvedSubtype (subtype range : String) (host : HostType)
  /-- A sequence for values that are no integers. -/
  | notSequenceable (host : HostType)
  /-- A default size of zero for keys. -/
  | zeroKeySize
  /-- An enumeration without labels. -/
  | noLabels (store : String)
  /-- A text that is no options document. -/
  | malformedOptions
  /-- As many null flags as operands are needed. -/
  | flagCount (subject : String) (expected got : Nat)
  /-- A row value without elements. -/
  | emptyRow
  /-- A subscript of something that is no array. -/
  | notAnArray
  /-- An operation with another number of operands than its arity. -/
  | operandCount (operation : String) (expected got : Nat)
  /-- An operation that no lowering takes. -/
  | notLowered (operation : String)
  /-- An operation on JSON documents that only the binary form has. -/
  | binaryJsonOnly (name operation : String)
  /-- Row values of different lengths. -/
  | rowLengths (operation : String) (left right : Nat)
deriving DecidableEq

namespace Fault

/-- A report of a mapping error. -/
private def mappingReport (code : UInt16) (message : String) (about : String) : ErrorReport :=
  { kind := .mapping, code := ⟨code⟩, message, about := some about }

/-- A report of a literal error. -/
private def literalReport (code : UInt16) (message store : String) : ErrorReport :=
  { kind := .literal, code := ⟨code⟩, message, about := some store }

/-- A report of an error about the offset of a date-time. -/
private def utcReport (message store : String) : ErrorReport :=
  { literalReport 201 message store with
    context := some "Only UTC values are supported unless legacy timestamp behavior is enabled" }

/-- A report of an operation that is not lowered to SQL. -/
private def loweringReport (code : UInt16) (message about : String) : ErrorReport :=
  { kind := .lowering, code := ⟨code⟩, message, about := some about }

/-- A report of a configuration error. -/
private def configurationReport (code : UInt16) (message : String) : ErrorReport :=
  { kind := .configuration, code := ⟨code⟩, message }

/-- The report of a failure. -/
def report : Fault → ErrorReport
  | unknownHostType text => mappingReport 3 ("Unknown host type '" ++ text ++ "'") text
  | noMapping store host =>
    mappingReport 1
      ("No mapping for store type " ++ store.getD "<none>" ++ " and host type "
        ++ (host.map HostType.text).getD "<none>")
      (store.getD "<none>")
  | noStoreMapping store => mappingReport 1 ("No mapping for store type '" ++ store ++ "'") store
  | noHostMapping host => mappingReport 1 ("No mapping for host type " ++ host.text) host.text
  | nestedArray store => mappingReport 4 ("Cannot create an array of array type " ++ store) store
  | notARange store => mappingReport 1 (store ++ " is not a range type") store
  | unwritable value store =>
    literalReport 200 ("Cannot render " ++ value ++ " as a literal of type " ++ store) store
  | zonedForUnzoned store =>
    utcReport ("Cannot write an instant with an offset to " ++ store) store
  | unzonedForZoned store =>
    utcReport ("Cannot write a date-time without an offset to " ++ store) store
  | offsetNotUtc offset store =>
    utcReport ("Cannot write a date-time with offset " ++ offset ++ " to " ++ store) store
  | unknownLabel label store =>
    literalReport 202 ("'" ++ label ++ "' is not a label of enum " ++ store) store
  | duplicateEnum store => configurationReport 301 ("Enum " ++ store ++ " is already registered")
  | duplicateRange store => configurationReport 301 ("Range " ++ store ++ " is already registered")
  | unresolvedSubtype subtype range host =>
    { configurationReport 300 ("Could not resolve subtype " ++ subtype ++ " of range " ++ range) with
      context := some ("Host type " ++ host.text) }
  | notSequenceable host =>
    { configurationReport 302
        ("Sequence value generation requires an integer type, found " ++ host.text) with
      context :=
        some "Use identity generation or map the property to smallint, integer or bigint" }
  | zeroKeySize =>
    { configurationReport 303 "key_string_default_size must be positive" with
      context := some "Remove the option to keep key columns unbounded" }
  | noLabels store => configurationReport 303 ("Enum " ++ store ++ " declares no labels")
  | malformedOptions => configurationReport 303 "Invalid mapping options"
  | flagCount subject expected got =>
    loweringReport 104
      ("Expected " ++ toString expected ++ " null-propagation flags, got " ++ toString got) subject
  | emptyRow => loweringReport 105 "Row value requires at least one element" "ROW"
  | notAnArray => loweringReport 105 "Array index requires an array operand" "[]"
  | operandCount operation expected got =>
    loweringReport 105
      ("Expected " ++ toString expected ++ " operands, got " ++ toString got) operation
  | notLowered operation =>
    loweringReport 100 ("The operation " ++ operation ++ " could not be translated") operation
  | binaryJsonOnly name operation =>
    { loweringReport 103 (name ++ " is only supported on jsonb columns") operation with
      context := some "Map the column to jsonb to use containment and existence operators" }
  | rowLengths operation left right =>
    loweringReport 102
      ("Row values have different lengths (" ++ toString left ++ " and " ++ toString right ++ ")")
      operation

end Fault

end SqlBridge
