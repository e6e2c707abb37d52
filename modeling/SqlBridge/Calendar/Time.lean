import SqlBridge.Calendar.Date
import SqlBridge.Number.Power

/-!
# Times of day

Times of day with nanoseconds and leap seconds, the same with an offset from UTC, and their texts.
-/

namespace SqlBridge

/-- A time of day. A leap second is the second before it with a nanosecond count from `10 ^ 9` on. -/
structure TimeOfDay where
  /-- Whole seconds since midnight. -/
  seconds : Nat
  nanoseconds : Nat
deriving DecidableEq, Repr

namespace TimeOfDay

/-- Midnight. -/
def first : TimeOfDay := ⟨0, 0⟩

/-- The last nanosecond of an ordinary day. -/
def last : TimeOfDay := ⟨86399, 999999999⟩

/-- A fraction of a second with none, three, six or nine digits, the fewest that lose nothing. -/
def fractionText (nanoseconds : Nat) : String :=
  if nanoseconds = 0 then ""
  else if nanoseconds % 1000000 = 0 then "." ++ Text.padded 3 (nanoseconds / 1000000)
  else if nanoseconds % 1000 = 0 then "." ++ Text.padded 6 (nanoseconds / 1000)
  else "." ++ Text.padded 9 nanoseconds

/-- The text `hour:minute:second` with the fraction; a leap second is second 60. -/
def text (t : TimeOfDay) : String :=
  Text.padded 2 (t.seconds / 3600) ++ ":" ++ Text.padded 2 (t.seconds / 60 % 60) ++ ":"
    ++ Text.padded 2 (t.seconds % 60 + t.nanoseconds / 1000000000)
    ++ fractionText (t.nanoseconds % 1000000000)

end TimeOfDay

namespace Calendar

/-- The nanoseconds of a fraction that may follow; digits after the ninth are dropped. -/
def readFraction? : List Char → Option (Nat × List Char)
  | '.' :: rest =>
    let digits := rest.takeWhile Char.isDigit
    let kept := digits.take 9
    (Text.readNat? kept).map fun n =>
      (n * tenTo (9 - kept.length), rest.drop digits.length)
  | cs => some (0, cs)

/-- A second with its fraction, as ordinary second and nanoseconds. -/
def readSecond? (cs : List Char) : Option (Nat × Nat × List Char) := do
  let (second, cs) ← readNumber? 2 cs
  let (nanoseconds, cs) ← readFraction? cs
  if second < 60 then some (second, nanoseconds, cs)
  else if second = 60 then some (59, 1000000000 + nanoseconds, cs)
  else none

/-- The hour and the minute at the start of a text, in seconds, and the rest. -/
def readHourMinute? (cs : List Char) : Option (Nat × List Char) := do
  let (hour, cs) ← readNumber? 2 cs
  let (minute, cs) ← readNumber? 2 (← readMark? ':' cs)
  if hour < 24 ∧ minute < 60 then some (hour * 3600 + minute * 60, cs) else none

/-- A time of day with its seconds at the start of a text, and the rest. -/
def readTime? (cs : List Char) : Option (TimeOfDay × List Char) := do
  let (seconds, cs) ← readHourMinute? cs
  let (second, nanoseconds, cs) ← readSecond? (← readMark? ':' cs)
  some (⟨seconds + second, nanoseconds⟩, cs)

end Calendar

/-- Reads a text that is one time of day; the seconds may be absent. -/
def TimeOfDay.read? (s : String) : Option TimeOfDay := do
  let (seconds, rest) ← Calendar.readHourMinute? s.toList
  if (Text.trimStart rest).isEmpty then some ⟨seconds, 0⟩
  else
    let (t, rest) ← Calendar.readTime? s.toList
    if (Text.trimStart rest).isEmpty then some t else none

/-- A time of day with an offset from UTC in seconds, east being positive. -/
structure ZonedTime where
  time : TimeOfDay
  offset : Int32
deriving DecidableEq, Repr

/-- The text of an offset: a sign and the hours, then minutes and seconds as far as they are needed. -/
def ZonedTime.offsetText (offset : Int) : String :=
  let n := offset.natAbs
  (if offset < 0 then "-" else "+") ++ Text.padded 2 (n / 3600)
    ++ (if n % 3600 = 0 then "" else ":" ++ Text.padded 2 (n % 3600 / 60))
    ++ (if n % 60 = 0 then "" else ":" ++ Text.padded 2 (n % 60))

/-- The time of day followed by the offset. -/
def ZonedTime.text (t : ZonedTime) : String :=
  t.time.text ++ offsetText t.offset.toInt

end SqlBridge
