import SqlBridge.Calendar.Time

/-!
# Date-times

Date-times without a zone, and instants, which are held in UTC together with the offset that they were
written with.
-/

namespace SqlBridge

/-- A date with a time of day. -/
structure DateTime where
  date : Date
  time : TimeOfDay
deriving DecidableEq, Repr

namespace DateTime

/-- The earliest date-time. -/
def first : DateTime := ⟨.first, .first⟩

/-- The latest date-time. -/
def last : DateTime := ⟨.last, .last⟩

/-- The text with the given separator between date and time. -/
def textWith (separator : String) (t : DateTime) : String :=
  t.date.text ++ separator ++ t.time.text

/-- The date-time a number of seconds later, for less than a day in either direction. A leap second
stays one. -/
def shift (t : DateTime) (seconds : Int) : DateTime :=
  let total := (t.time.seconds : Int) + seconds
  let date := if total < 0 then t.date.previous else if total < 86400 then t.date else t.date.next
  ⟨date, (total % 86400).toNat, t.time.nanoseconds⟩

/-- Reads a text that is one date-time, with a `T` between date and time. -/
def read? (s : String) : Option DateTime := do
  let (date, cs) ← Calendar.readDate? s.toList
  let (time, cs) ← Calendar.readTime? (← Calendar.readMark? 'T' cs)
  if (Text.trimStart cs).isEmpty then some ⟨date, time⟩ else none

end DateTime

/-- An instant in UTC, with the offset from UTC in seconds that it was written with. -/
structure Instant where
  utc : DateTime
  offset : Int
deriving DecidableEq, Repr

namespace Instant

/-- The date-time that clocks at the offset show. -/
def localTime (t : Instant) : DateTime :=
  t.utc.shift t.offset

/-- The text `±hour:minute` of an offset, with the seconds when there are any. -/
def offsetText (offset : Int) : String :=
  let n := offset.natAbs
  (if offset < 0 then "-" else "+") ++ Text.padded 2 (n / 3600) ++ ":" ++ Text.padded 2 (n / 60 % 60)
    ++ (if n % 60 = 0 then "" else ":" ++ Text.padded 2 (n % 60))

/-- The local date-time and the offset, separated by blanks. -/
def spacedText (t : Instant) : String :=
  t.localTime.textWith " " ++ " " ++ offsetText t.offset

/-- The local date-time and the offset as one word; `zulu` writes a zero offset as `Z`. -/
def joinedText (zulu : Bool) (t : Instant) : String :=
  t.localTime.textWith "T" ++ (if zulu && t.offset == 0 then "Z" else offsetText t.offset)

/-- Two digits at the very start of a text, as a number below `bound`. -/
def readPair? (bound : Nat) : List Char → Option (Nat × List Char)
  | a :: b :: rest =>
    (Text.readNat? [a, b]).bind fun n => if n < bound then some (n, rest) else none
  | _ => none

/-- An offset: `Z`, the word UTC, or a sign with hours and minutes. -/
def readOffset? (cs : List Char) : Option (Int × List Char) :=
  match cs with
  | 'Z' :: rest => some (0, rest)
  | 'z' :: rest => some (0, rest)
  | sign :: rest =>
    if (cs.take 3).map Char.toUpper = ['U', 'T', 'C'] then some (0, cs.drop 3)
    else if sign == '+' || sign == '-' || sign == '\u2212' then do
      let (hours, rest) ← readPair? 100 rest
      let (minutes, rest) ← readPair? 60 (rest.dropWhile fun c => c == ':' || Text.isBlank c)
      let seconds : Int := hours * 3600 + minutes * 60
      some (if sign == '+' then seconds else -seconds, rest)
    else none
  | [] => none

/-- Reads a text that is one date-time with an offset of less than a day, with or without blanks after
it. -/
def read? (s : String) : Option Instant := do
  let (date, cs) ← Calendar.readDate? s.toList
  match cs with
  | mark :: cs =>
    if mark == 'T' || mark == 't' || mark == ' ' then
      let (time, cs) ← Calendar.readTime? cs
      let (offset, cs) ← readOffset? (Text.trimStart cs)
      let utc := DateTime.shift ⟨date, time⟩ (-offset)
      let isWhole := (Text.trimStart cs).isEmpty
      if isWhole && offset.natAbs < 86400 && utc.date.isValid then some ⟨utc, offset⟩ else none
    else none
  | [] => none

end Instant

end SqlBridge
