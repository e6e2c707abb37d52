import SqlBridge.Descriptor.Basic
import SqlBridge.Options.Basic

/-!
# Built-in store types

The store types that every database has: the names of each, the host types they store, the store type
that each host type goes to by default, and the range types. Every name has descriptors of its own, so
that a descriptor goes by the name it was asked for.
-/

namespace SqlBridge.Builtin

/-- Store types of several names, for the same host types. -/
structure Family where
  names : List String
  /-- The host types, the preferred one first. -/
  hosts : List Scalar
  tag : DbTag
  fixedLength : Bool := false
deriving DecidableEq, Repr

/-- The families whose host types do not hang on the options, up to those of date-times. -/
def leadingFamilies : List Family :=
  [⟨["boolean", "bool"], [.bool], .boolean, false⟩,
   ⟨["smallint", "int2"], [.int16], .smallint, false⟩,
   ⟨["integer", "int", "int4"], [.int32], .integer, false⟩,
   ⟨["bigint", "int8"], [.int64], .bigint, false⟩,
   ⟨["real", "float4"], [.float32], .real, false⟩,
   ⟨["double precision", "float8"], [.float64], .double, false⟩,
   ⟨["numeric", "decimal"], [.decimal], .numeric, false⟩,
   ⟨["money"], [.decimal], .money, false⟩,
   ⟨["text"], [.string], .text, false⟩,
   ⟨["character varying", "varchar"], [.string], .varchar, false⟩,
   ⟨["character", "char", "bpchar"], [.string], .char, true⟩,
   ⟨["citext"], [.string], .citext, false⟩,
   ⟨["bytea"], [.bytes], .bytea, false⟩]

/-- The families of date-times. In legacy mode each of them also stores the other's host type. -/
def dateTimeFamilies (legacy : Bool) : List Family :=
  [⟨["timestamp without time zone", "timestamp"],
      .dateTime :: (if legacy then [.dateTimeUtc] else []), .timestamp, false⟩,
   ⟨["timestamp with time zone", "timestamptz"],
      .dateTimeUtc :: (if legacy then [.dateTime] else []), .timestampTz, false⟩]

/-- The families after those of date-times. -/
def trailingFamilies : List Family :=
  [⟨["date"], [.date], .date, false⟩,
   ⟨["time without time zone", "time"], [.time], .time, false⟩,
   ⟨["time with time zone", "timetz"], [.timeTz], .timeTz, false⟩,
   ⟨["interval"], [.interval], .interval, false⟩,
   ⟨["uuid"], [.uuid], .uuid, false⟩,
   ⟨["inet"], [.ipAddress, .ipNetwork], .inet, false⟩,
   ⟨["cidr"], [.ipNetwork], .cidr, false⟩,
   ⟨["macaddr"], [.macAddress], .macAddr, false⟩,
   ⟨["macaddr8"], [.macAddress], .macAddr8, false⟩,
   ⟨["bit"], [.bitString], .bit, true⟩,
   ⟨["bit varying", "varbit"], [.bitString], .varbit, false⟩,
   ⟨["jsonb"], [.json, .string], .jsonb, false⟩,
   ⟨["json"], [.json, .string], .json, false⟩,
   ⟨["tsvector"], [.tsVector], .tsVector, false⟩,
   ⟨["tsquery"], [.tsQuery], .tsQuery, false⟩,
   ⟨["regconfig"], [.regConfig], .regConfig, false⟩,
   ⟨["hstore"], [.dictionary], .hstore, false⟩,
   ⟨["ltree"], [.lTree, .string], .lTree, false⟩]

/-- All families of built-in store types. -/
def families (legacy : Bool) : List Family :=
  leadingFamilies ++ dateTimeFamilies legacy ++ trailingFamilies

/-- The descriptor of a name of a family for a host type. -/
def Family.descriptor (f : Family) (o : LiteralOptions) (name : String) (host : Scalar) :
    Descriptor :=
  .scalar
    { Signature.plain name (.scalar host) (.plain f.tag) with
      facets := { fixedLength := f.fixedLength }, literals := o }

/-- The names of a family, each with its descriptors. -/
def Family.entries (f : Family) (o : LiteralOptions) : List (String × List Descriptor) :=
  f.names.map fun name => (name, f.hosts.map (f.descriptor o name))

/-- All built-in names, each with its descriptors. -/
def entries (o : MappingOptions) : List (String × List Descriptor) :=
  (families o.legacyTimestamps).flatMap fun f => f.entries o.literals

/-- The store type that values of a host type go to by default. -/
def defaultStores (legacy : Bool) : List (Scalar × String) :=
  [(.bool, "boolean"),
   (.int16, "smallint"),
   (.int32, "integer"),
   (.int64, "bigint"),
   (.float32, "real"),
   (.float64, "double precision"),
   (.decimal, "numeric"),
   (.string, "text"),
   (.bytes, "bytea"),
   (.dateTime, "timestamp without time zone"),
   (.dateTimeUtc, if legacy then "timestamp without time zone" else "timestamp with time zone"),
   (.date, "date"),
   (.time, "time without time zone"),
   (.timeTz, "time with time zone"),
   (.interval, "interval"),
   (.uuid, "uuid"),
   (.ipAddress, "inet"),
   (.ipNetwork, "cidr"),
   (.macAddress, "macaddr"),
   (.bitString, "bit varying"),
   (.json, "jsonb"),
   (.tsVector, "tsvector"),
   (.tsQuery, "tsquery"),
   (.regConfig, "regconfig"),
   (.dictionary, "hstore"),
   (.lTree, "ltree")]

/-- The names of a built-in range type and its multirange type, and the store type of its boundary
values. -/
structure RangeNames where
  range : String
  multirange : String
  subtype : String
deriving DecidableEq, Repr

/-- The built-in range types. -/
def rangeTypes : List RangeNames :=
  [⟨"int4range", "int4multirange", "integer"⟩,
   ⟨"int8range", "int8multirange", "bigint"⟩,
   ⟨"numrange", "nummultirange", "numeric"⟩,
   ⟨"tsrange", "tsmultirange", "timestamp without time zone"⟩,
   ⟨"tstzrange", "tstzmultirange", "timestamp with time zone"⟩,
   ⟨"daterange", "datemultirange", "date"⟩]

/-- The descriptor of a single character. -/
def singleCharacter (o : LiteralOptions) : Descriptor :=
  .scalar
    ({ Signature.plain "character" (.scalar .char) (.plain .char) with literals := o }.withFacets
      { size := some 1, fixedLength := true })

/-- The store types that take documents of any host type. -/
def documentStores : List String :=
  ["json", "jsonb"]

/-- The store types of a fixed number of characters. -/
def fixedCharacterStores : List String :=
  ["character", "char", "bpchar"]

end SqlBridge.Builtin
