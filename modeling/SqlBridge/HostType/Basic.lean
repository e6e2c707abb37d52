/-!
# Host types

The types of the values that programs hold: scalars, the containers over them, and the named types.
Equality of host types is decidable, so that tables can be keyed by them.
-/

namespace SqlBridge

/-- The scalar host types. -/
inductive Scalar where
  | bool | int16 | int32 | int64 | float32 | float64 | decimal | char | string | bytes
  | dateTime | dateTimeUtc | date | time | timeTz | interval
  | uuid | ipAddress | ipNetwork | macAddress | bitString | json | tsVector | tsQuery | regConfig
  | dictionary | lTree
deriving DecidableEq, Repr

/-- The type of a program's values. -/
inductive HostType where
  | scalar (s : Scalar)
  /-- A sequence of fixed length. -/
  | array (element : HostType)
  /-- A sequence that can grow. -/
  | list (element : HostType)
  | range (subtype : HostType)
  | multirange (subtype : HostType)
  | tuple (elements : List HostType)
  /-- An enumeration, known by its name. -/
  | enumeration (name : String)
  /-- A record of the program's own, known by its name. -/
  | record (name : String)

namespace Scalar

/-- Every scalar host type. -/
def all : List Scalar :=
  [.bool, .int16, .int32, .int64, .float32, .float64, .decimal, .char, .string, .bytes,
   .dateTime, .dateTimeUtc, .date, .time, .timeTz, .interval,
   .uuid, .ipAddress, .ipNetwork, .macAddress, .bitString, .json, .tsVector, .tsQuery, .regConfig,
   .dictionary, .lTree]

/-- The name of a scalar host type. -/
def name : Scalar → String
  | .bool => "Bool"
  | .int16 => "Int16"
  | .int32 => "Int32"
  | .int64 => "Int64"
  | .float32 => "Float32"
  | .float64 => "Float64"
  | .decimal => "Decimal"
  | .char => "Char"
  | .string => "String"
  | .bytes => "Bytes"
  | .dateTime => "DateTime"
  | .dateTimeUtc => "DateTimeUtc"
  | .date => "Date"
  | .time => "Time"
  | .timeTz => "TimeTz"
  | .interval => "Interval"
  | .uuid => "Uuid"
  | .ipAddress => "IpAddress"
  | .ipNetwork => "IpNetwork"
  | .macAddress => "MacAddress"
  | .bitString => "BitString"
  | .json => "Json"
  | .tsVector => "TsVector"
  | .tsQuery => "TsQuery"
  | .regConfig => "RegConfig"
  | .dictionary => "Dictionary"
  | .lTree => "LTree"

/-- The scalar host type with the given name. -/
def ofName? (name : String) : Option Scalar :=
  all.find? (·.name == name)

/-- A signed integer type. -/
def isInteger : Scalar → Bool
  | .int16 | .int32 | .int64 => true
  | _ => false

/-- An integer, floating-point or decimal type. -/
def isNumeric : Scalar → Bool
  | .int16 | .int32 | .int64 | .float32 | .float64 | .decimal => true
  | _ => false

/-- A type of dates, times or durations. -/
def isTemporal : Scalar → Bool
  | .dateTime | .dateTimeUtc | .date | .time | .timeTz | .interval => true
  | _ => false

end Scalar

namespace HostType

mutual

/-- Equality of host types as a Boolean. -/
def beq : HostType → HostType → Bool
  | .scalar s, .scalar t => decide (s = t)
  | .array a, .array b => beq a b
  | .list a, .list b => beq a b
  | .range a, .range b => beq a b
  | .multirange a, .multirange b => beq a b
  | .tuple as, .tuple bs => beqAll as bs
  | .enumeration m, .enumeration n => decide (m = n)
  | .record m, .record n => decide (m = n)
  | _, _ => false

/-- Equality of lists of host types as a Boolean. -/
def beqAll : List HostType → List HostType → Bool
  | [], [] => true
  | a :: as, b :: bs => beq a b && beqAll as bs
  | _, _ => false

end

mutual

theorem beq_iff_eq : (a b : HostType) → (beq a b = true ↔ a = b)
  | .scalar s, b => by cases b <;> simp [beq]
  | .array a, b => by cases b <;> simp [beq, beq_iff_eq a]
  | .list a, b => by cases b <;> simp [beq, beq_iff_eq a]
  | .range a, b => by cases b <;> simp [beq, beq_iff_eq a]
  | .multirange a, b => by cases b <;> simp [beq, beq_iff_eq a]
  | .tuple as, b => by cases b <;> simp [beq, beqAll_iff_eq as]
  | .enumeration m, b => by cases b <;> simp [beq]
  | .record m, b => by cases b <;> simp [beq]

theorem beqAll_iff_eq : (as bs : List HostType) → (beqAll as bs = true ↔ as = bs)
  | [], bs => by cases bs <;> simp [beqAll]
  | a :: as, bs => by cases bs <;> simp [beqAll, beq_iff_eq a, beqAll_iff_eq as]

end

instance : DecidableEq HostType := fun a b => decidable_of_iff (beq a b = true) (beq_iff_eq a b)

/-- A signed integer type. -/
def isInteger : HostType → Bool
  | .scalar s => s.isInteger
  | _ => false

/-- An integer, floating-point or decimal type. -/
def isNumeric : HostType → Bool
  | .scalar s => s.isNumeric
  | _ => false

/-- A type of dates, times or durations. -/
def isTemporal : HostType → Bool
  | .scalar s => s.isTemporal
  | _ => false

/-- An enumeration. -/
def isEnumeration : HostType → Bool
  | .enumeration _ => true
  | _ => false

/-- A range type. -/
def isRange : HostType → Bool
  | .range _ => true
  | _ => false

/-- A multirange type. -/
def isMultirange : HostType → Bool
  | .multirange _ => true
  | _ => false

/-- The element type of an array or a list. -/
def element? : HostType → Option HostType
  | .array e => some e
  | .list e => some e
  | _ => none

/-- An array or a list. -/
def isSequence (t : HostType) : Bool :=
  t.element?.isSome

/-- The subtype of a range or a multirange. -/
def subtype? : HostType → Option HostType
  | .range t => some t
  | .multirange t => some t
  | _ => none

/-- The element types of a tuple. -/
def tupleElements? : HostType → Option (List HostType)
  | .tuple ts => some ts
  | _ => none

/-- The name without arguments; a named type goes by its own name. -/
def name : HostType → String
  | .scalar s => s.name
  | .array _ => "Array"
  | .list _ => "List"
  | .range _ => "Range"
  | .multirange _ => "Multirange"
  | .tuple _ => "Tuple"
  | .enumeration n => n
  | .record n => n

mutual

/-- The notation of a host type, such as `Array<Range<Int32>>`. -/
def text : HostType → String
  | .scalar s => s.name
  | .array e => "Array<" ++ text e ++ ">"
  | .list e => "List<" ++ text e ++ ">"
  | .range t => "Range<" ++ text t ++ ">"
  | .multirange t => "Multirange<" ++ text t ++ ">"
  | .tuple ts => "Tuple<" ++ texts ts ++ ">"
  | .enumeration n => "Enum:" ++ n
  | .record n => "Record:" ++ n

/-- The notations of several host types with commas between them. -/
def texts : List HostType → String
  | [] => ""
  | [t] => text t
  | t :: ts => text t ++ "," ++ texts ts

end

/-- The number of container layers around the innermost type. -/
def depth : HostType → Nat
  | .array e => depth e + 1
  | .list e => depth e + 1
  | .range t => depth t + 1
  | .multirange t => depth t + 1
  | _ => 0

theorem depth_lt_of_element? {t e : HostType} (h : t.element? = some e) : e.depth < t.depth := by
  cases t <;> simp [element?] at h <;> subst h <;> simp [depth]

end HostType

end SqlBridge
