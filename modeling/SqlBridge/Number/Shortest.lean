import SqlBridge.Number.FloatValue

/-!
# Shortest decimals

The decimal of fewest digits that reads back as a given binary floating-point value, and of those the
nearest to it. A decimal reads back when it lies between the midpoints to the value's neighbours; a
midpoint itself reads back when the significand is even.
-/

namespace SqlBridge

/-- The decimal `coefficient * 10 ^ exponent`. -/
structure Decimal10 where
  coefficient : Nat
  exponent : Int
deriving DecidableEq, Repr

/-- The position of the decimal point of `num / den`: the least `n` with `num / den < 10 ^ n`. -/
def pointPosition (num den : Nat) : Int :=
  if den ≤ num then (Nat.toDigits 10 (num / den)).length
  else 1 - (Nat.toDigits 10 ((den - 1) / num)).length

/-- The reals that round to a value, in quarters of the last place: the ends, the value itself, the
quarter as a quotient, and whether the ends belong. -/
structure RoundingInterval where
  low : Nat
  value : Nat
  high : Nat
  unitNum : Nat
  unitDen : Nat
  closed : Bool

/-- The rounding interval of `significand * 2 ^ exponent`; the gap below a power of two is half the
gap above. -/
def RoundingInterval.of (f : FloatFormat) (significand : Nat) (exponent : Int) : RoundingInterval where
  low := 4 * significand
    - (if significand = twoTo (f.precision - 1) ∧ f.minExponent < exponent then 1 else 2)
  value := 4 * significand
  high := 4 * significand + 2
  unitNum := if 2 ≤ exponent then twoTo (exponent - 2).toNat else 1
  unitDen := if 2 ≤ exponent then 1 else twoTo (2 - exponent).toNat
  closed := significand % 2 = 0

namespace RoundingInterval

/-- The quarter counted in multiples of `10 ^ g`, as a quotient. -/
def onGrid (i : RoundingInterval) (g : Int) : Nat × Nat :=
  (i.unitNum * tenTo (-g).toNat, i.unitDen * tenTo g.toNat)

/-- The decimal `t * 10 ^ g` lies in the interval. -/
def contains (i : RoundingInterval) (t : Nat) (g : Int) : Bool :=
  let (a, b) := i.onGrid g
  if i.closed then i.low * a ≤ t * b && t * b ≤ i.high * a
  else i.low * a < t * b && t * b < i.high * a

/-- The point of the grid `10 ^ g` in the interval that is nearest to the value. Of two equally near
points the upper one is taken if `tieUp`, else the even one. -/
def nearest? (i : RoundingInterval) (tieUp : Bool) (g : Int) : Option Nat :=
  let (a, b) := i.onGrid g
  let t := i.value * a / b
  match i.contains t g, i.contains (t + 1) g with
  | true, true =>
    let below := i.value * a - t * b
    let above := (t + 1) * b - i.value * a
    some (if below < above then t else if above < below then t + 1
      else if tieUp || t % 2 = 1 then t + 1 else t)
  | true, false => some t
  | false, true => some (t + 1)
  | false, false => none

/-- The first grid, from coarse to fine, that has a point in the interval. -/
def search (i : RoundingInterval) (tieUp : Bool) (point : Int) : (digits : Nat) → (more : Nat) → Decimal10
  | digits, 0 => ⟨i.value * (i.onGrid (point - digits)).1 / (i.onGrid (point - digits)).2, point - digits⟩
  | digits, more + 1 =>
    match i.nearest? tieUp (point - digits) with
    | some t => ⟨t, point - digits⟩
    | none => i.search tieUp point (digits + 1) more

end RoundingInterval

/-- The shortest decimal that reads back as `significand * 2 ^ exponent`; seventeen digits always
suffice. -/
def shortestDecimal (f : FloatFormat) (tieUp : Bool) (significand : Nat) (exponent : Int) : Decimal10 :=
  if significand = 0 then ⟨0, 0⟩
  else
    let i := RoundingInterval.of f significand exponent
    i.search tieUp (pointPosition (i.value * i.unitNum) i.unitDen) 1 17

end SqlBridge
