import SqlBridge.Number.Shortest
import SqlBridge.Text.Numeral

/-!
# Notations of floating-point values

How shortest digits are spelled: where positional writing ends, what an exponent looks like, whether
an integral value keeps a decimal, and the words for the values that have no digits.
-/

namespace SqlBridge

/-- The decisions of a way to write floating-point values. The decimal point stands `point` places
after the first digit's left side, so `point = 1` for the values from 1 up to 10. -/
structure FloatNotation where
  /-- The point positions that are written without an exponent. -/
  positional : Int → Bool
  /-- An integral value written without an exponent ends in `.0`. -/
  keepsDecimal : Bool
  /-- What stands between the exponent mark and a non-negative exponent. -/
  plus : String
  /-- Of two equally near shortest decimals the upper one is taken. -/
  tieUp : Bool
  nan : String
  infinity : String

namespace FloatNotation

/-- Messages and plain texts: never an exponent, never a needless decimal. -/
def plain : FloatNotation where
  positional := fun _ => true
  keepsDecimal := false
  plus := ""
  tieUp := true
  nan := "NaN"
  infinity := "inf"

/-- SQL literals: positional from 0.0001 up to below 10^16, always with a decimal or an exponent. -/
def literal : FloatNotation where
  positional := fun point => -3 ≤ point && point ≤ 16
  keepsDecimal := true
  plus := ""
  tieUp := true
  nan := "NaN"
  infinity := "Infinity"

/-- JSON numbers: positional from 0.00001 up to below 10^16, signed exponents beyond. A document has
no word for the values without digits. -/
def json : FloatNotation where
  positional := fun point => -4 ≤ point && point ≤ 16
  keepsDecimal := true
  plus := "+"
  tieUp := false
  nan := "null"
  infinity := "null"

/-- JSON numbers of 32 bits: positional from 0.000001 up to below 10^13. -/
def jsonSingle : FloatNotation :=
  { json with positional := fun point => -5 ≤ point && point ≤ 13 }

/-- Digits with the decimal point at `point`. -/
def place (n : FloatNotation) (digits : List Char) (point : Int) : List Char :=
  if point ≤ 0 then '0' :: '.' :: (List.replicate (-point).toNat '0' ++ digits)
  else
    let whole := point.toNat
    if whole < digits.length then digits.take whole ++ '.' :: digits.drop whole
    else digits ++ List.replicate (whole - digits.length) '0'
      ++ (if n.keepsDecimal then ['.', '0'] else [])

/-- Digits with one of them before the decimal point, and the exponent that this takes. -/
def exponential (n : FloatNotation) (digits : List Char) (point : Int) : List Char :=
  let e := point - 1
  digits.take 1 ++ (if digits.length ≤ 1 then [] else '.' :: digits.drop 1)
    ++ 'e' :: ((if e < 0 then ['-'] else n.plus.toList) ++ Nat.toDigits 10 e.natAbs)

/-- The text of a decimal, from its digits without trailing zeros. -/
def decimalText (n : FloatNotation) (d : Decimal10) : List Char :=
  let all := Nat.toDigits 10 d.coefficient
  let digits := if d.coefficient = 0 then ['0'] else Text.dropTrailingZeros all
  let point : Int := if d.coefficient = 0 then 1 else all.length + d.exponent
  if n.positional point then n.place digits point else n.exponential digits point

/-- The text of a value of the format `f`. -/
def text (n : FloatNotation) (f : FloatFormat) : FloatValue → String
  | .nan => n.nan
  | .infinite negative => if negative then "-" ++ n.infinity else n.infinity
  | .finite negative m e =>
    let digits := String.ofList (n.decimalText (shortestDecimal f n.tieUp m e))
    if negative then "-" ++ digits else digits

end FloatNotation

end SqlBridge
