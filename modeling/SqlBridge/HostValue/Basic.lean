import SqlBridge.Calendar.DateTime
import SqlBridge.Calendar.Interval
import SqlBridge.HostType.Basic
import SqlBridge.HostValue.Span
import SqlBridge.Json.Basic
import SqlBridge.Network.Address
import SqlBridge.Number.Decimal
import SqlBridge.Uuid

/-!
# Host values

The values that programs hold, and the host type that a value shows by itself.
-/

namespace SqlBridge

/-- A value of a scalar host type. -/
inductive ScalarValue where
  | bool (b : Bool)
  | int16 (i : Int16)
  | int32 (i : Int32)
  | int64 (i : Int64)
  | float32 (x : FloatValue)
  | float64 (x : FloatValue)
  | decimal (d : Decimal)
  | char (c : Char)
  | string (s : String)
  | bytes (bs : List UInt8)
  | dateTime (t : DateTime)
  | dateTimeUtc (t : Instant)
  | date (d : Date)
  | time (t : TimeOfDay)
  | timeTz (t : ZonedTime)
  | interval (i : Interval)
  | uuid (u : Uuid)
  | ipAddress (a : IpAddress)
  | ipNetwork (n : IpNetwork)
  | macAddress (bs : List UInt8)
  | bitString (bits : List Bool)
  | json (document : Json)
  | tsVector (s : String)
  | tsQuery (s : String)
  | regConfig (s : String)
  | dictionary (entries : List (String × Option String))
  | lTree (s : String)

/-- A value of some host type. -/
inductive HostValue where
  | null
  | scalar (v : ScalarValue)
  | array (elements : List HostValue)
  | range (r : Span HostValue)
  | multirange (rs : List (Span HostValue))
  | tuple (elements : List HostValue)
  /-- A variant of an enumeration, by name or by label. -/
  | enumeration (variant : String)
  /-- The fields of a record of the program's own. -/
  | record (fields : List (String × HostValue))

/-- The host type of a scalar value. -/
def ScalarValue.type : ScalarValue → Scalar
  | .bool _ => .bool
  | .int16 _ => .int16
  | .int32 _ => .int32
  | .int64 _ => .int64
  | .float32 _ => .float32
  | .float64 _ => .float64
  | .decimal _ => .decimal
  | .char _ => .char
  | .string _ => .string
  | .bytes _ => .bytes
  | .dateTime _ => .dateTime
  | .dateTimeUtc _ => .dateTimeUtc
  | .date _ => .date
  | .time _ => .time
  | .timeTz _ => .timeTz
  | .interval _ => .interval
  | .uuid _ => .uuid
  | .ipAddress _ => .ipAddress
  | .ipNetwork _ => .ipNetwork
  | .macAddress _ => .macAddress
  | .bitString _ => .bitString
  | .json _ => .json
  | .tsVector _ => .tsVector
  | .tsQuery _ => .tsQuery
  | .regConfig _ => .regConfig
  | .dictionary _ => .dictionary
  | .lTree _ => .lTree

namespace HostValue

instance : Inhabited HostValue := ⟨.null⟩

/-- A string value. -/
def string (s : String) : HostValue := .scalar (.string s)

/-- A 32-bit integer value. -/
def int32 (i : Int32) : HostValue := .scalar (.int32 i)

/-- The value is null. -/
def isNull : HostValue → Bool
  | .null => true
  | _ => false

mutual

/-- The host type that a value shows by itself. Nulls, enumerations, records and containers without a
typed part show none; an array or multirange goes by its first typed part. -/
def hostType? : HostValue → Option HostType
  | .null => none
  | .scalar v => some (.scalar v.type)
  | .array elements => (firstType? elements).map .array
  | .range r => (spanType? r).map .range
  | .multirange rs => (firstSpanType? rs).map .multirange
  | .tuple elements => (allTypes? elements).map .tuple
  | .enumeration _ => none
  | .record _ => none

/-- The first host type that a value of a list shows. -/
def firstType? : List HostValue → Option HostType
  | [] => none
  | v :: rest =>
    match hostType? v with
    | some t => some t
    | none => firstType? rest

/-- The host types of all values of a list. -/
def allTypes? : List HostValue → Option (List HostType)
  | [] => some []
  | v :: rest =>
    match hostType? v, allTypes? rest with
    | some t, some ts => some (t :: ts)
    | _, _ => none

/-- The host type of the boundary value of a side. -/
def boundType? : Bound HostValue → Option HostType
  | .infinite => none
  | .inclusive v => hostType? v
  | .exclusive v => hostType? v

/-- The host type of the boundary values of a range, from below if it can be told there. -/
def spanType? : Span HostValue → Option HostType
  | .empty => none
  | .bounds l u =>
    match boundType? l with
    | some t => some t
    | none => boundType? u

/-- The first subtype that a range of a list shows. -/
def firstSpanType? : List (Span HostValue) → Option HostType
  | [] => none
  | r :: rest =>
    match spanType? r with
    | some t => some t
    | none => firstSpanType? rest

end

end HostValue

end SqlBridge
