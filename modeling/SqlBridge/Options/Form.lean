import SqlBridge.HostType.Form
import SqlBridge.Json.Printer
import SqlBridge.Json.Reader
import SqlBridge.Options.Basic

/-!
# The JSON form of options

Every option may be absent, unknown keys are passed over, and a label that is given again for a
variant takes the place of the earlier one.
-/

namespace SqlBridge

/-- A value that may be `null`. -/
def nullable? {α : Type} (read : Json → Option α) : Json → Option (Option α)
  | .null => some none
  | j => (read j).map some

/-- The field with the key read by `read`, or the given value when it is absent. -/
def fieldOr? {α : Type} (key : String) (read : Json → Option α) (default : α)
    (fields : List (String × Json)) : Option α :=
  match Entries.get? key fields with
  | some j => read j
  | none => some default

/-- The field with the key read by `read`; it has to be there. -/
def requiredField? {α : Type} (key : String) (read : Json → Option α)
    (fields : List (String × Json)) : Option α :=
  (Entries.get? key fields).bind read

/-- The items of an array document, each read by `read`. -/
def items? {α : Type} (read : Json → Option α) : Json → Option (List α)
  | .array items => items.mapM read
  | _ => none

/-- A field for a text that is given. -/
def textField (key : String) : Option String → List (String × Json)
  | some s => [(key, .string s)]
  | none => []

namespace RangeDefinition

/-- The keys of a definition, in their order. -/
def keys : List String :=
  ["range_name", "schema", "subtype", "subtype_store_type"]

/-- Reads the JSON form. -/
def ofJson? (j : Json) : Option RangeDefinition := do
  let fields ← j.asRecord? keys
  let name ← requiredField? "range_name" Json.asString? fields
  let schema ← fieldOr? "schema" (nullable? Json.asString?) none fields
  let subtype ← requiredField? "subtype" HostType.ofJson? fields
  let subtypeStore ← fieldOr? "subtype_store_type" (nullable? Json.asString?) none fields
  return { name, schema, subtype, subtypeStore }

/-- The JSON form. -/
def toJson (d : RangeDefinition) : Json :=
  .object ([("range_name", .string d.name)] ++ textField "schema" d.schema
    ++ [("subtype", d.subtype.toJson)] ++ textField "subtype_store_type" d.subtypeStore)

end RangeDefinition

namespace EnumDefinition

/-- The keys of a definition, in their order. -/
def keys : List String :=
  ["name", "schema", "host_name", "labels"]

/-- A label for each variant, as an object. -/
def labelsOfJson? : Json → Option (List (String × String))
  | .object fields =>
    (fields.mapM fun (e : String × Json) => e.2.asString?.map fun label => (e.1, label)).map
      Entries.ofList
  | _ => none

/-- Reads the JSON form. -/
def ofJson? (j : Json) : Option EnumDefinition := do
  let fields ← j.asRecord? keys
  let name ← requiredField? "name" Json.asString? fields
  let schema ← fieldOr? "schema" (nullable? Json.asString?) none fields
  let hostName ← fieldOr? "host_name" (nullable? Json.asString?) none fields
  let labels ← requiredField? "labels" labelsOfJson? fields
  return { name, schema, hostName, labels }

/-- The JSON form. -/
def toJson (d : EnumDefinition) : Json :=
  .object ([("name", .string d.name)] ++ textField "schema" d.schema
    ++ textField "host_name" d.hostName
    ++ [("labels", .object (d.labels.map fun e => (e.1, .string e.2)))])

end EnumDefinition

namespace MappingOptions

/-- The keys of the options, in their order. -/
def keys : List String :=
  ["legacy_timestamp_behavior", "disable_date_time_infinity_conversions",
    "key_string_default_size", "user_ranges", "enums"]

/-- Reads the JSON form, without a check of the values. -/
def ofJson? (j : Json) : Option MappingOptions := do
  let fields ← j.asRecord? keys
  let legacyTimestamps ← fieldOr? "legacy_timestamp_behavior" Json.asBool? false fields
  let writesExtremes ← fieldOr? "disable_date_time_infinity_conversions" Json.asBool? false fields
  let keySize ← fieldOr? "key_string_default_size" (nullable? Json.asUInt32?) none fields
  let ranges ← fieldOr? "user_ranges" (items? RangeDefinition.ofJson?) [] fields
  let enums ← fieldOr? "enums" (items? EnumDefinition.ofJson?) [] fields
  return { legacyTimestamps, writesExtremes, keySize, ranges, enums }

/-- The JSON form, with all keys. -/
def toJson (o : MappingOptions) : Json :=
  .object
    [("legacy_timestamp_behavior", .bool o.legacyTimestamps),
      ("disable_date_time_infinity_conversions", .bool o.writesExtremes),
      ("key_string_default_size", .option .uint32 o.keySize),
      ("user_ranges", .array (o.ranges.map RangeDefinition.toJson)),
      ("enums", .array (o.enums.map EnumDefinition.toJson))]

/-- Reads options from their JSON form and checks them. -/
def ofDocument (j : Json) : Except Fault MappingOptions :=
  match ofJson? j with
  | some o => do
    o.validate
    return o
  | none => .error .malformedOptions

/-- Reads options from the text of a JSON document and checks them. -/
def ofText (s : String) : Except Fault MappingOptions :=
  match Json.read? s with
  | some j => ofDocument j
  | none => .error .malformedOptions

end MappingOptions

end SqlBridge
