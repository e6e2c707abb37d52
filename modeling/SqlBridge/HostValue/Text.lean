import SqlBridge.HostValue.Basic
import SqlBridge.Json.Printer

/-!
# Texts and documents of host values

The JSON document that stands for a value, and the text that messages show of it. Containers other
than ranges are shown by their document.
-/

namespace SqlBridge

/-- A bit string as zeros and ones. -/
def bitsText (bits : List Bool) : String :=
  String.ofList (bits.map fun b => if b then '1' else '0')

/-- A list of bytes as a document. -/
def bytesJson (bs : List UInt8) : Json :=
  .array (bs.map fun b => .nat b.toNat)

/-- A dictionary as a document, `null` for an absent text. -/
def dictionaryJson (entries : List (String × Option String)) : Json :=
  .object (entries.map fun e => (e.1, Json.option .string e.2))

namespace ScalarValue

/-- The document of a scalar value. -/
def toJson : ScalarValue → Json
  | .bool b => .bool b
  | .int16 i => .int i.toInt
  | .int32 i => .int i.toInt
  | .int64 i => .int i.toInt
  | .float32 x => .double (x.convert .double)
  | .float64 x => .double x
  | .decimal d =>
    match d.toInt? with
    | some i => if -twoTo 63 ≤ i ∧ i < twoTo 63 then .int i else .double d.toDouble
    | none => .double d.toDouble
  | .char c => .string (String.ofList [c])
  | .string s => .string s
  | .bytes bs => bytesJson bs
  | .dateTime t => .string (t.textWith "T")
  | .dateTimeUtc t => .string (t.joinedText false)
  | .date d => .string d.text
  | .time t => .string t.text
  | .timeTz t => .string t.text
  | .interval i => .string i.text
  | .uuid u => .string u.text
  | .ipAddress a => .string a.text
  | .ipNetwork n => .string n.text
  | .macAddress bs => bytesJson bs
  | .bitString bits => .string (bitsText bits)
  | .json document => document
  | .tsVector s => .string s
  | .tsQuery s => .string s
  | .regConfig s => .string s
  | .dictionary entries => dictionaryJson entries
  | .lTree s => .string s

/-- The text of a scalar value. -/
def text : ScalarValue → String
  | .bool b => if b then "true" else "false"
  | .int16 i => toString i.toInt
  | .int32 i => toString i.toInt
  | .int64 i => toString i.toInt
  | .float32 x => FloatNotation.plain.text .single x
  | .float64 x => FloatNotation.plain.text .double x
  | .decimal d => d.text
  | .char c => String.ofList [c]
  | .string s => s
  | .bytes bs => (bytesJson bs).compact
  | .dateTime t => t.textWith " "
  | .dateTimeUtc t => t.spacedText
  | .date d => d.text
  | .time t => t.text
  | .timeTz t => t.text
  | .interval i => i.text
  | .uuid u => u.text
  | .ipAddress a => a.text
  | .ipNetwork n => n.text
  | .macAddress bs => (bytesJson bs).compact
  | .bitString bits => bitsText bits
  | .json document => document.compact
  | .tsVector s => s
  | .tsQuery s => s
  | .regConfig s => s
  | .dictionary entries => (dictionaryJson entries).compact
  | .lTree s => s

end ScalarValue

namespace HostValue

mutual

/-- The document of a value. -/
def toJson : HostValue → Json
  | .null => .null
  | .scalar v => v.toJson
  | .array elements => .array (toJsonAll elements)
  | .range r => .string (spanText r)
  | .multirange rs => .array (spanJsons rs)
  | .tuple elements => .array (toJsonAll elements)
  | .enumeration variant => .string variant
  | .record fields => .object (fieldJsons fields)

/-- The documents of several values. -/
def toJsonAll : List HostValue → List Json
  | [] => []
  | v :: rest => toJson v :: toJsonAll rest

/-- The documents of several ranges. -/
def spanJsons : List (Span HostValue) → List Json
  | [] => []
  | r :: rest => .string (spanText r) :: spanJsons rest

/-- The documents of the fields of a record. -/
def fieldJsons : List (String × HostValue) → List (String × Json)
  | [] => []
  | (name, v) :: rest => (name, toJson v) :: fieldJsons rest

/-- The text of a value. -/
def text : HostValue → String
  | .null => "null"
  | .scalar v => v.text
  | .array elements => (Json.array (toJsonAll elements)).compact
  | .range r => spanText r
  | .multirange rs => (Json.array (spanJsons rs)).compact
  | .tuple elements => (Json.array (toJsonAll elements)).compact
  | .enumeration variant => variant
  | .record fields => (Json.object (fieldJsons fields)).compact

/-- The text of a side of a range, empty when it is infinite. -/
def boundText : Bound HostValue → String
  | .infinite => ""
  | .inclusive v => text v
  | .exclusive v => text v

/-- The text of a range: the word `empty`, or the texts of its sides between brackets. -/
def spanText : Span HostValue → String
  | .empty => "empty"
  | .bounds l u => Span.bracket l.isInclusive (boundText l) (boundText u) u.isInclusive

end

end HostValue

end SqlBridge
