import SqlBridge.Descriptor.Signature
import SqlBridge.Diagnostic.Fault
import SqlBridge.HostValue.Text
import SqlBridge.Literal.Quoting

/-!
# Literals of scalar values

A scalar store type has one raw text for a value, the text that the database prints, and three literals
made of it: one to stand in SQL by itself, one inside an array or range literal, and one inside an array
constructor, whose cast gives the type. Which host values a store type writes is a table; what the
raw text is hangs on the value alone, apart from date-times and documents.
-/

namespace SqlBridge

namespace DbTag

/-- The store types of the tag hold JSON documents. -/
def isDocument : DbTag → Bool
  | .json | .jsonb => true
  | _ => false

/-- The host types whose values a store type with the tag writes. Store types of documents write
every value and are left out. -/
def writes : DbTag → List Scalar
  | .boolean => [.bool]
  | .smallint | .integer | .bigint => [.int16, .int32, .int64]
  | .numeric => [.int16, .int32, .int64, .decimal]
  | .money => [.decimal]
  | .real | .double => [.float32, .float64]
  | .text | .varchar | .char | .citext => [.string, .char]
  | .bytea => [.bytes]
  | .timestamp | .timestampTz => [.dateTime, .dateTimeUtc]
  | .date => [.date]
  | .time => [.time]
  | .timeTz => [.timeTz]
  | .interval => [.interval]
  | .uuid => [.uuid]
  | .inet => [.ipAddress, .ipNetwork]
  | .cidr => [.ipNetwork]
  | .macAddr | .macAddr8 => [.macAddress]
  | .bit | .varbit => [.bitString]
  | .tsVector => [.tsVector, .string]
  | .tsQuery => [.tsQuery, .string]
  | .regConfig => [.regConfig, .string]
  | .lTree => [.lTree, .string]
  | .hstore => [.dictionary]
  | .json | .jsonb | .enum | .unknown => []

end DbTag

namespace Literal

/-- The text of one of the extreme values: minus infinity for the first, infinity for the last, the
usual text for the others or with the words switched off. -/
def infinityOr {α : Type} [DecidableEq α] (o : LiteralOptions) (first last a : α) (usual : String) :
    String :=
  if o.infinityWords ∧ a = first then "-infinity"
  else if o.infinityWords ∧ a = last then "infinity"
  else usual

/-- A date-time without zone. -/
def dateTimeText (o : LiteralOptions) (t : DateTime) : String :=
  infinityOr o .first .last t (t.textWith "T")

/-- An instant, in UTC. -/
def instantText (o : LiteralOptions) (t : Instant) : String :=
  infinityOr o .first .last t.utc (t.utc.textWith "T" ++ "Z")

/-- Bytes as a hexadecimal string. -/
def bytesText (bs : List UInt8) : String :=
  "\\x" ++ String.join (bs.map fun b => Text.paddedHex 2 b.toNat)

/-- A hardware address, its bytes separated by colons. -/
def macAddressText (bs : List UInt8) : String :=
  ":".intercalate (bs.map fun b => Text.paddedHex 2 b.toNat)

/-- An entry of a dictionary, `NULL` for an absent text. -/
def entryText (entry : String × Option String) : String :=
  quoteItem entry.1 ++ "=>" ++ (match entry.2 with
    | some s => quoteItem s
    | none => "NULL")

/-- A dictionary as its entries with commas between them. -/
def dictionaryText (entries : List (String × Option String)) : String :=
  ", ".intercalate (entries.map entryText)

/-- The raw text of a value. -/
def plainText (o : LiteralOptions) : ScalarValue → String
  | .float32 x => FloatNotation.literal.text .single x
  | .float64 x => FloatNotation.literal.text .double x
  | .bytes bs => bytesText bs
  | .dateTime t => dateTimeText o t
  | .dateTimeUtc t => instantText o t
  | .date d => infinityOr o .first .last d d.text
  | .macAddress bs => macAddressText bs
  | .dictionary entries => dictionaryText entries
  | v => v.text

/-- How literals of a store type are spelled. -/
inductive Spelling where
  /-- Without quotes: numbers and truth values. -/
  | bare
  /-- In quotes, without a cast. -/
  | textual
  /-- In quotes, with a cast. -/
  | quoted
deriving DecidableEq, Repr

/-- How literals of a wire type are spelled. -/
def spelling : DbType → Spelling
  | .plain .boolean | .plain .smallint | .plain .integer | .plain .bigint
  | .plain .real | .plain .double | .plain .numeric => .bare
  | .plain .text | .plain .varchar | .plain .char | .plain .json | .plain .jsonb => .textual
  | _ => .quoted

/-- Items of the wire type always stand in double quotes. -/
def alwaysQuotesItems : DbType → Bool
  | .plain .text | .plain .varchar | .plain .char | .plain .citext
  | .plain .json | .plain .jsonb => true
  | _ => false

/-- Bare numbers of the wire type take a cast, lest they be read as another type. -/
def castsNumbers : DbType → Bool
  | .plain .smallint | .plain .bigint | .plain .real => true
  | _ => false

/-- The words for the numbers without digits, which only stand in quotes. -/
def isNumberWord (s : String) : Bool :=
  s == "NaN" || s == "Infinity" || s == "-Infinity"

/-- ASCII letters in upper case. -/
def upper (s : String) : String :=
  String.ofList (s.toList.map Char.toUpper)

end Literal

namespace Signature

open Literal

/-- The store type does not write the value. -/
def unwritable {α : Type} (s : Signature) (v : HostValue) : Except Fault α :=
  .error (.unwritable v.text s.storeType)

/-- A document of any value; text for a host type of strings is the document itself. -/
def documentText (s : Signature) : HostValue → String
  | .scalar (.string text) =>
    if s.hostType = .scalar .string then text else (Json.string text).compact
  | v => v.toJson.compact

/-- The raw text of a scalar value that the store type writes. Outside legacy mode a date-time has a
zone exactly if the store type has one, and an instant is given in UTC. -/
def scalarText (s : Signature) (tag : DbTag) : ScalarValue → Except Fault String
  | .dateTime t =>
    if tag = .timestampTz ∧ !s.literals.legacyTimestamps then .error (.unzonedForZoned s.storeType)
    else .ok (plainText s.literals (.dateTime t))
  | .dateTimeUtc t =>
    if tag = .timestamp then
      if s.literals.legacyTimestamps then .ok (plainText s.literals (.dateTime t.utc))
      else .error (.zonedForUnzoned s.storeType)
    else if t.offset ≠ 0 ∧ !s.literals.legacyTimestamps then
      .error (.offsetNotUtc (Instant.offsetText t.offset) s.storeType)
    else .ok (plainText s.literals (.dateTimeUtc t))
  | v => .ok (plainText s.literals v)

/-- The raw text of a value that is not null. -/
def rawText (s : Signature) (v : HostValue) : Except Fault String :=
  match s.dbType with
  | .plain tag =>
    if tag.isDocument then .ok (s.documentText v)
    else
      match v with
      | .scalar a => if tag.writes.contains a.type then s.scalarText tag a else s.unwritable v
      | _ => s.unwritable v
  | _ => s.unwritable v

/-- The item that a raw text makes inside an array or range literal. -/
def itemOfRaw (s : Signature) (raw : String) : String :=
  item (alwaysQuotesItems s.dbType) raw

/-- The literal that a raw text makes in SQL. A cast binds tighter than a minus sign, so that negative
numbers with a cast take parentheses. -/
def literalOfRaw (s : Signature) (raw : String) : String :=
  match spelling s.dbType with
  | .bare =>
    if s.dbType = .plain .boolean then upper raw
    else if isNumberWord raw then s.casting (quoteSql raw)
    else if castsNumbers s.dbType then
      s.casting (if raw.toList.head? = some '-' then "(" ++ raw ++ ")" else raw)
    else raw
  | .textual => quoteSql raw
  | .quoted => s.casting (quoteSql raw)

/-- The literal that a raw text makes inside an array constructor. -/
def elementOfRaw (s : Signature) (raw : String) : String :=
  match spelling s.dbType with
  | .bare =>
    if s.dbType = .plain .boolean then upper raw
    else if isNumberWord raw then quoteSql raw
    else raw
  | _ => quoteSql raw

end Signature

end SqlBridge
