import SqlBridge.HostType.Basic
import SqlBridge.Json.Basic

/-!
# The JSON form of host types

A scalar is its name; another type is an object that gives its kind what it is made of.
-/

namespace SqlBridge.HostType

mutual

/-- The JSON form of a host type. -/
def toJson : HostType → Json
  | .scalar s => .string s.name
  | .array e => .object [("Array", toJson e)]
  | .list e => .object [("List", toJson e)]
  | .range t => .object [("Range", toJson t)]
  | .multirange t => .object [("Multirange", toJson t)]
  | .tuple ts => .object [("Tuple", .array (toJsonAll ts))]
  | .enumeration n => .object [("Enum", .string n)]
  | .record n => .object [("Record", .string n)]

/-- The JSON forms of several host types. -/
def toJsonAll : List HostType → List Json
  | [] => []
  | t :: ts => toJson t :: toJsonAll ts

end

mutual

/-- Reads the JSON form of a host type. -/
def ofJson? : Json → Option HostType
  | .string s => (Scalar.ofName? s).map .scalar
  | .object [(key, inner)] =>
    if key = "Array" then (ofJson? inner).map .array
    else if key = "List" then (ofJson? inner).map .list
    else if key = "Range" then (ofJson? inner).map .range
    else if key = "Multirange" then (ofJson? inner).map .multirange
    else if key = "Tuple" then
      match inner with
      | .array items => (ofJsonAll? items).map .tuple
      | _ => none
    else if key = "Enum" then inner.asString?.map .enumeration
    else if key = "Record" then inner.asString?.map .record
    else
      match inner with
      | .null => (Scalar.ofName? key).map .scalar
      | _ => none
  | _ => none

/-- Reads the JSON forms of several host types. -/
def ofJsonAll? : List Json → Option (List HostType)
  | [] => some []
  | j :: js =>
    match ofJson? j, ofJsonAll? js with
    | some t, some ts => some (t :: ts)
    | _, _ => none

end

end SqlBridge.HostType
