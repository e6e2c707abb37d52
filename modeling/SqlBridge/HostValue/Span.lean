/-!
# Ranges of values

A range is empty or has two sides, each infinite, inclusive or exclusive. The facts about its
boundaries are read off its shape.
-/

namespace SqlBridge

/-- One side of a range. -/
inductive Bound (α : Type) where
  | infinite
  | inclusive (value : α)
  | exclusive (value : α)
deriving DecidableEq, Repr

/-- A range of values. -/
inductive Span (α : Type) where
  | empty
  | bounds (lower upper : Bound α)
deriving DecidableEq, Repr

namespace Bound

variable {α : Type}

/-- The value at a finite side. -/
def value? : Bound α → Option α
  | .infinite => none
  | .inclusive a => some a
  | .exclusive a => some a

/-- The value at the side belongs to the range. -/
def isInclusive : Bound α → Bool
  | .inclusive _ => true
  | _ => false

/-- There is no value at the side. -/
def isInfinite : Bound α → Bool
  | .infinite => true
  | _ => false

/-- The side with a value, or the infinite one without. -/
def ofOption (value : Option α) (inclusive : Bool) : Bound α :=
  match value with
  | none => .infinite
  | some a => if inclusive then .inclusive a else .exclusive a

end Bound

namespace Span

variable {α : Type}

/-- The range with the given boundary values, infinite where there is none. -/
def ofValues (lower : Option α) (lowerInclusive : Bool) (upper : Option α) (upperInclusive : Bool) :
    Span α :=
  .bounds (.ofOption lower lowerInclusive) (.ofOption upper upperInclusive)

/-- Both boundary values belong to the range. -/
def closed (lower upper : α) : Span α := ofValues (some lower) true (some upper) true

/-- The lower boundary value belongs to the range and the upper one does not. -/
def closedOpen (lower upper : α) : Span α := ofValues (some lower) true (some upper) false

/-- Neither boundary value belongs to the range. -/
def opened (lower upper : α) : Span α := ofValues (some lower) false (some upper) false

/-- The range of all values. -/
def unbounded : Span α := ofValues none false none false

/-- The range holds no value by its shape. -/
def isEmpty : Span α → Bool
  | .empty => true
  | .bounds _ _ => false

/-- The lower boundary value. -/
def lower? : Span α → Option α
  | .empty => none
  | .bounds l _ => l.value?

/-- The upper boundary value. -/
def upper? : Span α → Option α
  | .empty => none
  | .bounds _ u => u.value?

/-- The lower boundary value belongs to the range. -/
def lowerInclusive : Span α → Bool
  | .empty => false
  | .bounds l _ => l.isInclusive

/-- The upper boundary value belongs to the range. -/
def upperInclusive : Span α → Bool
  | .empty => false
  | .bounds _ u => u.isInclusive

/-- The range extends without end downwards. -/
def lowerInfinite : Span α → Bool
  | .empty => false
  | .bounds l _ => l.isInfinite

/-- The range extends without end upwards. -/
def upperInfinite : Span α → Bool
  | .empty => false
  | .bounds _ u => u.isInfinite

/-- The brackets around two boundary texts, square where the boundary belongs to the range. -/
def bracket (lowerInclusive : Bool) (lower upper : String) (upperInclusive : Bool) : String :=
  (if lowerInclusive then "[" else "(") ++ lower ++ "," ++ upper ++ (if upperInclusive then "]" else ")")

end Span

/-- Some range of several is not empty. -/
def multirangeIsNonEmpty {α : Type} (ranges : List (Span α)) : Bool :=
  ranges.any fun r => !r.isEmpty

end SqlBridge
