import SqlBridge.Text.Numeral

/-!
# Intervals

Durations of months, days and microseconds, which do not convert into each other, and their text with
designators.
-/

namespace SqlBridge

/-- A duration of months, days and microseconds. -/
structure Interval where
  months : Int32
  days : Int32
  microseconds : Int64
deriving DecidableEq, Repr

namespace Interval

/-- A number with its designator, left out when it is zero. -/
def part (n : Int) (designator : String) : String :=
  if n = 0 then "" else toString n ++ designator

/-- Microseconds as seconds with at most six places and no zeros at their end. -/
def secondsText (microseconds : Int) : String :=
  let n := microseconds.natAbs
  let fraction := Text.dropTrailingZeros (Text.paddedDigits 6 (n % 1000000))
  (if microseconds < 0 then "-" else "") ++ toString (n / 1000000)
    ++ (if fraction.isEmpty then "" else "." ++ String.ofList fraction)

/-- The part after `T`: hours, minutes and seconds, the seconds standing also for nothing at all. -/
def timeText (microseconds : Int) : String :=
  let hours := microseconds.tdiv 3600000000
  let minutes := (microseconds.tmod 3600000000).tdiv 60000000
  let rest := microseconds.tmod 60000000
  part hours "H" ++ part minutes "M"
    ++ (if rest ≠ 0 ∨ (hours = 0 ∧ minutes = 0) then secondsText rest ++ "S" else "")

/-- The text with designators, such as `P1Y2M3DT4H5M6.5S`; every part has its own sign. -/
def text (i : Interval) : String :=
  let years := i.months.toInt.tdiv 12
  let months := i.months.toInt.tmod 12
  let days := i.days.toInt
  let micros := i.microseconds.toInt
  "P" ++ part years "Y" ++ part months "M" ++ part days "D"
    ++ (if micros ≠ 0 ∨ (years = 0 ∧ months = 0 ∧ days = 0) then "T" ++ timeText micros else "")

end Interval

end SqlBridge
