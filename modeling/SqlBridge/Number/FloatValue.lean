import SqlBridge.Number.Power

/-!
# Binary floating-point values

The values of the two binary interchange formats, held exactly as sign, significand and exponent, and
rounding of a quotient of naturals to the nearest value of a format.
-/

namespace SqlBridge

/-- A binary floating-point format: significands below `2 ^ precision`, exponents from `minExponent`
to `maxExponent`. -/
structure FloatFormat where
  precision : Nat
  minExponent : Int
  maxExponent : Int
deriving DecidableEq, Repr

/-- A value of a binary floating-point format; a finite one is `± significand * 2 ^ exponent`. -/
inductive FloatValue where
  | nan
  | infinite (negative : Bool)
  | finite (negative : Bool) (significand : Nat) (exponent : Int)
deriving DecidableEq, Repr

/-- The integer nearest to `num / den`; a half goes to the even neighbour. -/
def roundHalfEven (num den : Nat) : Nat :=
  let q := num / den
  let twice := 2 * (num % den)
  if twice < den then q else if den < twice then q + 1 else q + q % 2

/-- The quotient `num / den / 2 ^ e` as numerator and denominator. -/
def scaleDown (num den : Nat) (e : Int) : Nat × Nat :=
  if 0 ≤ e then (num, den * twoTo e.toNat) else (num * twoTo (-e).toNat, den)

namespace FloatFormat

/-- The 32-bit format. -/
def single : FloatFormat := ⟨24, -149, 104⟩

/-- The 64-bit format. -/
def double : FloatFormat := ⟨53, -1074, 971⟩

/-- The exponent of the value nearest to `num / den`: the least one whose significand fits, but not
below the format's own least exponent. -/
def exponentFor (f : FloatFormat) (num den : Nat) : Int :=
  let guess : Int := num.log2 - den.log2 - f.precision
  let scaled := scaleDown num den guess
  max f.minExponent (if scaled.1 < scaled.2 * twoTo f.precision then guess else guess + 1)

/-- The value of the format nearest to `± num / den`, ties to even; beyond the greatest finite value
lies infinity. -/
def round (f : FloatFormat) (negative : Bool) (num den : Nat) : FloatValue :=
  if num = 0 then .finite negative 0 f.minExponent
  else
    let e := f.exponentFor num den
    let scaled := scaleDown num den e
    let q := roundHalfEven scaled.1 scaled.2
    let full := q == twoTo f.precision
    let e' := if full then e + 1 else e
    if f.maxExponent < e' then .infinite negative
    else .finite negative (if full then q / 2 else q) e'

/-- The nearest value of the format to an integer. -/
def ofInt (f : FloatFormat) (i : Int) : FloatValue :=
  f.round (i < 0) i.natAbs 1

end FloatFormat

namespace FloatValue

/-- The magnitude of a finite value as numerator and denominator; zero for the others. -/
def ratio : FloatValue → Nat × Nat
  | .finite _ m e => if 0 ≤ e then (m * twoTo e.toNat, 1) else (m, twoTo (-e).toNat)
  | _ => (0, 1)

/-- The sign bit. -/
def isNegative : FloatValue → Bool
  | .nan => false
  | .infinite negative => negative
  | .finite negative _ _ => negative

/-- Neither infinite nor a NaN. -/
def isFinite : FloatValue → Bool
  | .finite _ _ _ => true
  | _ => false

/-- The same magnitude with the opposite sign. -/
def neg : FloatValue → FloatValue
  | .nan => .nan
  | .infinite negative => .infinite !negative
  | .finite negative m e => .finite (!negative) m e

/-- The value of another format nearest to this one. -/
def convert (f : FloatFormat) : FloatValue → FloatValue
  | .finite negative m e =>
    let r := ratio (.finite negative m e)
    f.round negative r.1 r.2
  | x => x

/-- The rounded product of two finite magnitudes, with the sign of the first. -/
def times (f : FloatFormat) (x y : FloatValue) : FloatValue :=
  f.round x.isNegative (x.ratio.1 * y.ratio.1) (x.ratio.2 * y.ratio.2)

/-- The rounded quotient of two finite magnitudes, with the sign of the first. -/
def dividedBy (f : FloatFormat) (x y : FloatValue) : FloatValue :=
  f.round x.isNegative (x.ratio.1 * y.ratio.2) (x.ratio.2 * y.ratio.1)

/-- The rounded sum of two finite magnitudes, with the sign of the first. -/
def plus (f : FloatFormat) (x y : FloatValue) : FloatValue :=
  f.round x.isNegative (x.ratio.1 * y.ratio.2 + y.ratio.1 * x.ratio.2) (x.ratio.2 * y.ratio.2)

/-- The nearest integer in the format, a half going away from zero. -/
def toIntegral (f : FloatFormat) (x : FloatValue) : FloatValue :=
  if x.isFinite then f.round x.isNegative ((2 * x.ratio.1 + x.ratio.2) / (2 * x.ratio.2)) 1 else x

end FloatValue

end SqlBridge
