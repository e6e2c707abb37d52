import SqlBridge.HostValue.Basic
import SqlBridge.Number.Notation

/-!
# The JSON form of scalar values

What stands for a scalar value in the JSON form of host values, one kind of document per type.
-/

namespace SqlBridge

namespace ScalarValue

/-- Reads a list with the given reader of its items. -/
def readList? {α : Type} (read : Json → Option α) : Json → Option (List α)
  | .array items => items.mapM read
  | _ => none

/-- A byte. -/
def readByte? (j : Json) : Option UInt8 :=
  (j.asNatBelow? 256).map UInt8.ofNat

/-- An integer from `low` on below `high`. -/
def readInt? (low high : Int) (j : Json) : Option Int :=
  j.asInt?.bind fun i => if low ≤ i ∧ i < high then some i else none

/-- A signed 32-bit integer. -/
def readInt32? (j : Json) : Option Int32 :=
  (readInt? (-twoTo 31) (twoTo 31) j).map Int32.ofInt

/-- A signed 64-bit integer. -/
def readInt64? (j : Json) : Option Int64 :=
  (readInt? (-twoTo 63) (twoTo 63) j).map Int64.ofInt

/-- A number as the nearest value of a format; with `floatWords` also the words for the values without
digits. -/
def readFloat? (floatWords : Bool) (f : FloatFormat) : Json → Option FloatValue
  | .number (.integer i) => some (f.ofInt i)
  | .number (.float x) => some (x.convert f)
  | .number (.single x) => some (x.convert f)
  | .string s =>
    if !floatWords then none
    else if s = "NaN" then some .nan
    else if s = "Infinity" then some (.infinite false)
    else if s = "-Infinity" then some (.infinite true)
    else none
  | _ => none

/-- A decimal as a text, or as a number, which goes by its digits. -/
def readDecimal? : Json → Option Decimal
  | .string s => Decimal.read? s.toList
  | .number (.integer i) => Decimal.ofInt? i
  | .number (.float x) => Decimal.readPlain? (FloatNotation.plain.text .double x).toList
  | .number (.single x) => Decimal.readPlain? (FloatNotation.plain.text .single x).toList
  | _ => none

/-- A text of one character. -/
def readChar? (j : Json) : Option Char :=
  match j.asString?.map String.toList with
  | some [c] => some c
  | _ => none

/-- A text, or `null` for none. -/
def readText? : Json → Option (Option String)
  | .null => some none
  | .string s => some (some s)
  | _ => none

/-- The entries of a dictionary, each key once. -/
def readDictionary? : Json → Option (List (String × Option String))
  | .object fields =>
    (fields.mapM fun f => (readText? f.2).map (f.1, ·)).map Entries.ofList
  | _ => none

/-- A time of day with its offset. -/
def readZonedTime? (j : Json) : Option ZonedTime := do
  let fields := Json.object (← j.asRecord? ["time", "offset_seconds"])
  let time ← (← (← fields.field? "time").asString?) |> TimeOfDay.read?
  some ⟨time, ← readInt32? (← fields.field? "offset_seconds")⟩

/-- An interval by its parts. -/
def readInterval? (j : Json) : Option Interval := do
  let fields := Json.object (← j.asRecord? ["months", "days", "microseconds"])
  some ⟨← readInt32? (← fields.field? "months"), ← readInt32? (← fields.field? "days"),
    ← readInt64? (← fields.field? "microseconds")⟩

/-- A network by its address and the length of its network part. -/
def readNetwork? (j : Json) : Option IpNetwork := do
  let fields := Json.object (← j.asRecord? ["address", "prefix"])
  let address ← (← (← fields.field? "address").asString?) |> IpAddress.read?
  some ⟨address, ← readByte? (← fields.field? "prefix")⟩

/-- Reads the content of a scalar value of the given type. -/
def ofJson? (floatWords : Bool) (type : Scalar) (j : Json) : Option ScalarValue :=
  match type with
  | .bool => j.asBool?.map .bool
  | .int16 => (readInt? (-twoTo 15) (twoTo 15) j).map fun i => .int16 (Int16.ofInt i)
  | .int32 => (readInt32? j).map .int32
  | .int64 => (readInt64? j).map .int64
  | .float32 => (readFloat? floatWords .single j).map .float32
  | .float64 => (readFloat? floatWords .double j).map .float64
  | .decimal => (readDecimal? j).map .decimal
  | .char => (readChar? j).map .char
  | .string => j.asString?.map .string
  | .bytes => (readList? readByte? j).map .bytes
  | .dateTime => (j.asString?.bind DateTime.read?).map .dateTime
  | .dateTimeUtc => (j.asString?.bind Instant.read?).map .dateTimeUtc
  | .date => (j.asString?.bind Date.read?).map .date
  | .time => (j.asString?.bind TimeOfDay.read?).map .time
  | .timeTz => (readZonedTime? j).map .timeTz
  | .interval => (readInterval? j).map .interval
  | .uuid => (j.asString?.bind Uuid.read?).map .uuid
  | .ipAddress => (j.asString?.bind IpAddress.read?).map .ipAddress
  | .ipNetwork => (readNetwork? j).map .ipNetwork
  | .macAddress => (readList? readByte? j).map .macAddress
  | .bitString => (readList? Json.asBool? j).map .bitString
  | .json => if j.isReadable then some (.json j.merge) else none
  | .tsVector => j.asString?.map .tsVector
  | .tsQuery => j.asString?.map .tsQuery
  | .regConfig => j.asString?.map .regConfig
  | .dictionary => (readDictionary? j).map .dictionary
  | .lTree => j.asString?.map .lTree

/-- The content of a scalar value in the JSON form. -/
def toForm : ScalarValue → Json
  | .bool b => .bool b
  | .int16 i => .int i.toInt
  | .int32 i => .int i.toInt
  | .int64 i => .int i.toInt
  | .float32 x => .single x
  | .float64 x => .double x
  | .decimal d => .string d.text
  | .char c => .string (String.ofList [c])
  | .string s => .string s
  | .bytes bs => .array (bs.map fun b => .nat b.toNat)
  | .dateTime t => .string (t.textWith "T")
  | .dateTimeUtc t => .string (t.joinedText true)
  | .date d => .string d.text
  | .time t => .string t.text
  | .timeTz t => .object [("time", .string t.time.text), ("offset_seconds", .int t.offset.toInt)]
  | .interval i =>
    .object [("months", .int i.months.toInt), ("days", .int i.days.toInt),
      ("microseconds", .int i.microseconds.toInt)]
  | .uuid u => .string u.text
  | .ipAddress a => .string a.text
  | .ipNetwork n => .object [("address", .string n.address.text), ("prefix", .nat n.length.toNat)]
  | .macAddress bs => .array (bs.map fun b => .nat b.toNat)
  | .bitString bits => .array (bits.map .bool)
  | .json document => document
  | .tsVector s => .string s
  | .tsQuery s => .string s
  | .regConfig s => .string s
  | .dictionary entries => .object (entries.map fun e => (e.1, Json.option .string e.2))
  | .lTree s => .string s

end ScalarValue

end SqlBridge
