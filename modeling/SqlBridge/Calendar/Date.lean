import SqlBridge.Text.Blank
import SqlBridge.Text.Numeral

/-!
# Calendar dates

Dates of the proleptic Gregorian calendar, their text, and reading it. Years have four digits; a year
beyond them is signed.
-/

namespace SqlBridge

/-- A calendar date. -/
structure Date where
  year : Int
  month : Nat
  day : Nat
deriving DecidableEq, Repr

namespace Date

/-- A year with a 29th of February. -/
def isLeapYear (year : Int) : Bool :=
  year % 4 == 0 && (year % 100 != 0 || year % 400 == 0)

/-- The number of days of a month. -/
def daysInMonth (year : Int) (month : Nat) : Nat :=
  if month = 2 then (if isLeapYear year then 29 else 28)
  else if month = 4 ∨ month = 6 ∨ month = 9 ∨ month = 11 then 30
  else 31

/-- The earliest date. -/
def first : Date := ⟨-262143, 1, 1⟩

/-- The latest date. -/
def last : Date := ⟨262142, 12, 31⟩

/-- The date exists and lies between the earliest and the latest one. -/
def isValid (d : Date) : Bool :=
  first.year ≤ d.year && d.year ≤ last.year && 1 ≤ d.month && d.month ≤ 12 && 1 ≤ d.day
    && d.day ≤ daysInMonth d.year d.month

/-- The day after. -/
def next (d : Date) : Date :=
  if d.day < daysInMonth d.year d.month then { d with day := d.day + 1 }
  else if d.month < 12 then ⟨d.year, d.month + 1, 1⟩
  else ⟨d.year + 1, 1, 1⟩

/-- The day before. -/
def previous (d : Date) : Date :=
  if 1 < d.day then { d with day := d.day - 1 }
  else if 1 < d.month then ⟨d.year, d.month - 1, daysInMonth d.year (d.month - 1)⟩
  else ⟨d.year - 1, 12, 31⟩

/-- The text of a year: four digits, or a sign and at least four. -/
def yearText (year : Int) : String :=
  if 0 ≤ year ∧ year ≤ 9999 then Text.padded 4 year.toNat
  else (if year < 0 then "-" else "+") ++ Text.padded 4 year.natAbs

/-- The text `year-month-day`. -/
def text (d : Date) : String :=
  yearText d.year ++ "-" ++ Text.padded 2 d.month ++ "-" ++ Text.padded 2 d.day

end Date

namespace Calendar

/-- One to `most` digits at the start of a text, blanks before them left out, and the rest. -/
def readNumber? (most : Nat) (cs : List Char) : Option (Nat × List Char) :=
  let cs := Text.trimStart cs
  let digits := (cs.take most).takeWhile Char.isDigit
  (Text.readNat? digits).map (·, cs.drop digits.length)

/-- A year: up to four digits, or a sign and any number of them. -/
def readYear? (cs : List Char) : Option (Int × List Char) :=
  match Text.trimStart cs with
  | '-' :: rest =>
    let digits := rest.takeWhile Char.isDigit
    (Text.readNat? digits).map fun n => (-(n : Int), rest.drop digits.length)
  | '+' :: rest =>
    let digits := rest.takeWhile Char.isDigit
    (Text.readNat? digits).map fun n => ((n : Int), rest.drop digits.length)
  | cs => (readNumber? 4 cs).map fun p => ((p.1 : Int), p.2)

/-- The rest of a text after a character that has to stand there, blanks before it left out. -/
def readMark? (mark : Char) (cs : List Char) : Option (List Char) :=
  Text.expect? mark (Text.trimStart cs)

/-- A date at the start of a text, and the rest. -/
def readDate? (cs : List Char) : Option (Date × List Char) := do
  let (year, cs) ← readYear? cs
  let (month, cs) ← readNumber? 2 (← readMark? '-' cs)
  let (day, cs) ← readNumber? 2 (← readMark? '-' cs)
  let date : Date := ⟨year, month, day⟩
  if date.isValid then some (date, cs) else none

end Calendar

/-- Reads a text that is one date. -/
def Date.read? (s : String) : Option Date :=
  (Calendar.readDate? s.toList).bind fun p =>
    if (Text.trimStart p.2).isEmpty then some p.1 else none

end SqlBridge
