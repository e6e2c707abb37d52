import SqlBridge.Json.Basic

/-!
# Wire types

The tags by which the database client picks the wire format of a parameter. Containers wrap the tag of
what they hold.
-/

namespace SqlBridge

/-- The wire tag of a type that holds no other. -/
inductive DbTag where
  | boolean | smallint | integer | bigint | real | double | numeric | money
  | text | varchar | char | citext | bytea
  | timestamp | timestampTz | date | time | timeTz | interval
  | uuid | inet | cidr | macAddr | macAddr8 | bit | varbit | json | jsonb
  | tsVector | tsQuery | regConfig | hstore | lTree
  /-- An enumeration, which the client resolves by its store type's name. -/
  | enum
  /-- A type that the client does not know; it is sent as text. -/
  | unknown
deriving DecidableEq, Repr

/-- The wire type of a parameter. -/
inductive DbType where
  | plain (tag : DbTag)
  | array (element : DbType)
  | range (subtype : DbType)
  | multirange (subtype : DbType)
deriving DecidableEq, Repr

namespace DbTag

/-- Every plain wire tag. -/
def all : List DbTag :=
  [.boolean, .smallint, .integer, .bigint, .real, .double, .numeric, .money, .text, .varchar, .char,
   .citext, .bytea, .timestamp, .timestampTz, .date, .time, .timeTz, .interval, .uuid, .inet, .cidr,
   .macAddr, .macAddr8, .bit, .varbit, .json, .jsonb, .tsVector, .tsQuery, .regConfig, .hstore,
   .lTree, .enum, .unknown]

/-- The name of a plain wire tag. -/
def name : DbTag → String
  | .boolean => "Boolean"
  | .smallint => "Smallint"
  | .integer => "Integer"
  | .bigint => "Bigint"
  | .real => "Real"
  | .double => "Double"
  | .numeric => "Numeric"
  | .money => "Money"
  | .text => "Text"
  | .varchar => "Varchar"
  | .char => "Char"
  | .citext => "Citext"
  | .bytea => "Bytea"
  | .timestamp => "Timestamp"
  | .timestampTz => "TimestampTz"
  | .date => "Date"
  | .time => "Time"
  | .timeTz => "TimeTz"
  | .interval => "Interval"
  | .uuid => "Uuid"
  | .inet => "Inet"
  | .cidr => "Cidr"
  | .macAddr => "MacAddr"
  | .macAddr8 => "MacAddr8"
  | .bit => "Bit"
  | .varbit => "Varbit"
  | .json => "Json"
  | .jsonb => "Jsonb"
  | .tsVector => "TsVector"
  | .tsQuery => "TsQuery"
  | .regConfig => "RegConfig"
  | .hstore => "Hstore"
  | .lTree => "LTree"
  | .enum => "Enum"
  | .unknown => "Unknown"

/-- The plain wire tag with the given name. -/
def ofName? (name : String) : Option DbTag :=
  all.find? (·.name == name)

end DbTag

namespace DbType

/-- The wire type wraps another one. -/
def isContainer : DbType → Bool
  | .plain _ => false
  | _ => true

/-- The plain tag of a wire type that wraps no other. -/
def tag? : DbType → Option DbTag
  | .plain t => some t
  | _ => none

/-- The containers from outside in and the plain tag, with bars between them. -/
def text : DbType → String
  | .plain t => t.name
  | .array e => "Array | " ++ text e
  | .range t => "Range | " ++ text t
  | .multirange t => "Multirange | " ++ text t

/-- The JSON form: a name, or an object that gives a container's name what it wraps. -/
def toJson : DbType → Json
  | .plain t => .string t.name
  | .array e => .object [("Array", toJson e)]
  | .range t => .object [("Range", toJson t)]
  | .multirange t => .object [("Multirange", toJson t)]

/-- Reads the JSON form. -/
def ofJson? : Json → Option DbType
  | .string s => (DbTag.ofName? s).map .plain
  | .object [(key, inner)] =>
    if key = "Array" then (ofJson? inner).map .array
    else if key = "Range" then (ofJson? inner).map .range
    else if key = "Multirange" then (ofJson? inner).map .multirange
    else match inner with
      | .null => (DbTag.ofName? key).map .plain
      | _ => none
  | _ => none

end DbType

end SqlBridge
