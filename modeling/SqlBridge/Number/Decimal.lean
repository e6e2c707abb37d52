import SqlBridge.Number.FloatValue
import SqlBridge.Text.Numeral

/-!
# Fixed-point decimals

Decimals with a 96-bit coefficient and up to 28 places after the point. The places are part of the
value: `1.10` and `1.1` are different texts of one number.
-/

namespace SqlBridge

/-- The decimal `± coefficient / 10 ^ scale`. -/
structure Decimal where
  negative : Bool
  coefficient : Nat
  scale : Nat
  coefficient_lt : coefficient < twoTo 96
  scale_le : scale ≤ 28
deriving DecidableEq, Repr

namespace Decimal

/-- The decimal of the given parts, when the coefficient and the scale are in range. -/
def mk? (negative : Bool) (coefficient scale : Nat) : Option Decimal :=
  if h : coefficient < twoTo 96 ∧ scale ≤ 28 then
    some ⟨negative, coefficient, scale, h.1, h.2⟩
  else none

/-- The integer `i`, when it fits. -/
def ofInt? (i : Int) : Option Decimal :=
  mk? (i < 0) i.natAbs 0

/-- The digits with the point before the last `scale` of them, after the sign. -/
def text (d : Decimal) : String :=
  let digits := Text.paddedDigits (d.scale + 1) d.coefficient
  let whole := digits.take (digits.length - d.scale)
  let fraction := digits.drop (digits.length - d.scale)
  (if d.negative then "-" else "") ++ String.ofList whole
    ++ (if d.scale = 0 then "" else "." ++ String.ofList fraction)

/-- The integer equal to the decimal, when there is one. -/
def toInt? (d : Decimal) : Option Int :=
  if d.coefficient % tenTo d.scale = 0 then
    let n : Int := d.coefficient / tenTo d.scale
    some (if d.negative then -n else n)
  else none

/-- `10 ^ n` by repeated squaring in the 64-bit format, each step rounded. -/
def floatPower (n : Nat) : FloatValue :=
  go 6 n (FloatFormat.double.ofInt 10) (FloatFormat.double.ofInt 1)
where
  /-- Takes the bits of the exponent from the lowest up. -/
  go : Nat → Nat → FloatValue → FloatValue → FloatValue
    | 0, _, _, acc => acc
    | steps + 1, n, base, acc =>
      let acc := if n % 2 = 1 then acc.times .double base else acc
      if n / 2 = 0 then acc else go steps (n / 2) (base.times .double base) acc

/-- The 64-bit value: the whole part and the fraction are converted apart, added, and brought back to
the decimal's own places. -/
def toDouble (d : Decimal) : FloatValue :=
  let f := FloatFormat.double
  let power := tenTo d.scale
  let whole := f.round false (d.coefficient / power) 1
  let fraction := (f.round false (d.coefficient % power) 1).dividedBy f (f.round false power 1)
  let magnitude :=
    if d.coefficient % power = 0 then whole
    else
      let places := floatPower d.scale
      (((whole.plus f fraction).times f places).toIntegral f).dividedBy f places
  if d.negative then magnitude.neg else magnitude

/-! ## Reading -/

/-- The signs of a text that spells digits with at most one point among them and separators after the
first digit: the digits before the point, and what stands after it, where `none` is a separator. -/
def scan? : (started point : Bool) → List Char → Option (List Nat × List (Option Nat))
  | started, _, [] => if started then some ([], []) else none
  | started, point, c :: rest =>
    if c.isDigit then
      let digit := c.toNat - '0'.toNat
      (scan? true point rest).map fun p =>
        if point then (p.1, some digit :: p.2) else (digit :: p.1, p.2)
    else if c == '.' && !point then scan? started true rest
    else if c == '_' && started then
      (scan? started point rest).map fun p => if point then (p.1, none :: p.2) else p
    else none

/-- The number that digits spell. -/
def ofDigits (digits : List Nat) : Nat :=
  digits.foldl (fun n digit => n * 10 + digit) 0

/-- Appends places while there are fewer than 28 and the coefficient fits; also what is left over. -/
def appendPlaces : (coefficient scale : Nat) → List (Option Nat) → Nat × Nat × List (Option Nat)
  | coefficient, scale, [] => (coefficient, scale, [])
  | coefficient, scale, none :: rest =>
    if scale < 28 then appendPlaces coefficient scale rest else (coefficient, scale, none :: rest)
  | coefficient, scale, some digit :: rest =>
    let next := coefficient * 10 + digit
    if scale < 28 ∧ next < twoTo 96 then appendPlaces next (scale + 1) rest
    else (coefficient, scale, some digit :: rest)

/-- Coefficients below this limit can take a digit in one machine word. -/
def wordLimit : Nat := (twoTo 64 - 1) / 10 - 255

/-- The digit by which a coefficient is rounded, from what is left over after its places. A separator
right after the last place hides it when the places before the last one fit a machine word, and is passed
over otherwise. -/
def roundingDigit (coefficient : Nat) : List (Option Nat) → Nat
  | some digit :: _ => digit
  | left => if coefficient / 10 < wordLimit then 0 else (left.filterMap id).headD 0

/-- The decimal with the next unit at its last place; a coefficient that no longer fits gives that place
up. -/
def nextUnit? (negative : Bool) (coefficient scale : Nat) : Option Decimal :=
  if coefficient + 1 < twoTo 96 then mk? negative (coefficient + 1) scale
  else if scale = 0 then none
  else mk? negative ((coefficient + 5) / 10) (scale - 1)

/-- The decimal of what stands before and after the point. As many places as fit are kept, and the digit
after them rounds half up; zero has no sign. -/
def ofPlaces? (negative : Bool) (whole : List Nat) (fraction : List (Option Nat)) : Option Decimal :=
  let n := ofDigits whole
  if twoTo 96 ≤ n then none
  else
    match appendPlaces n 0 fraction with
    | (coefficient, scale, left) =>
      if 5 ≤ roundingDigit coefficient left then nextUnit? negative coefficient scale
      else mk? (negative && coefficient != 0) coefficient scale

/-- Reads a decimal without exponent. -/
def readPlain? : List Char → Option Decimal
  | '-' :: rest => (scan? false false rest).bind fun p => ofPlaces? true p.1 p.2
  | '+' :: rest => (scan? false false rest).bind fun p => ofPlaces? false p.1 p.2
  | cs => (scan? false false cs).bind fun p => ofPlaces? false p.1 p.2

/-- Reads an unsigned exponent of at most 28, which may carry a plus sign. -/
def readExponent? (cs : List Char) : Option Nat :=
  let digits := match cs with
    | '+' :: rest => rest
    | cs => cs
  (Text.readNat? digits).bind fun e => if e ≤ 28 then some e else none

/-- Moves the point to the left by at most 28 places. Places beyond the last one are rounded half up,
and what becomes zero then keeps its sign. -/
def shiftDown? (d : Decimal) (places : Nat) : Option Decimal :=
  let excess := d.scale + places - 28
  mk? d.negative ((d.coefficient + tenTo excess / 2) / tenTo excess) (d.scale + places - excess)

/-- Moves the point to the right; beyond the places at hand the number is filled up with zeros. -/
def shiftUp? (d : Decimal) (places : Nat) : Option Decimal :=
  if places ≤ d.scale then mk? d.negative d.coefficient (d.scale - places)
  else mk? d.negative (d.coefficient * tenTo (places - d.scale)) 0

/-- Reads a decimal with an exponent, which moves the point. -/
def readScientific? (cs : List Char) : Option Decimal := do
  let isMark := fun c => c == 'e' || c == 'E'
  let d ← readPlain? (cs.takeWhile fun c => !isMark c)
  match cs.dropWhile fun c => !isMark c with
  | _ :: '-' :: exponent => shiftDown? d (← readExponent? exponent)
  | _ :: exponent => shiftUp? d (← readExponent? exponent)
  | [] => none

/-- Reads a decimal with or without exponent. -/
def read? (cs : List Char) : Option Decimal :=
  readPlain? cs <|> readScientific? cs

end Decimal

end SqlBridge
