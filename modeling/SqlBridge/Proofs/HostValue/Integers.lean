import SqlBridge.Number.Power
import SqlBridge.Proofs.Descriptor.DateTimes

/-!
# Integers in values

The integers that stand in a value, at whatever depth, and the room that their types have for them.
-/

namespace SqlBridge

/-! ## Widths of integers -/

/-- The number of bits of an integer host type. -/
def Scalar.integerBits? : Scalar → Option Nat
  | .int16 => some 16
  | .int32 => some 32
  | .int64 => some 64
  | _ => none

/-- The host type is one of integers. -/
def Scalar.IsInteger (a : Scalar) : Prop :=
  a.integerBits?.isSome = true

/-- The host type is one of integers that have room in so many bits. -/
def Scalar.IsNarrow (bits : Nat) (a : Scalar) : Prop :=
  ∃ n ≤ bits, a.integerBits? = some n

/-- The number of bits of an integer store type. -/
def DbTag.integerBits? : DbTag → Option Nat
  | .smallint => some 16
  | .integer => some 32
  | .bigint => some 64
  | _ => none

/-- The integer has room in so many bits, one of which is for its sign. -/
def InBits (bits : Nat) (i : Int) : Prop :=
  -twoTo (bits - 1) ≤ i ∧ i < twoTo (bits - 1)

instance (bits : Nat) (i : Int) : Decidable (InBits bits i) :=
  inferInstanceAs (Decidable (_ ∧ _))

/-- The integer that a value of an integer type is. -/
def ScalarValue.integer? : ScalarValue → Option Int
  | .int16 i => some i.toInt
  | .int32 i => some i.toInt
  | .int64 i => some i.toInt
  | _ => none

lemma Scalar.IsInteger.isNarrow {a : Scalar} (h : a.IsInteger) : a.IsNarrow 64 := by
  cases a with
  | int16 | int32 | int64 => exact ⟨_, by decide, rfl⟩
  | _ => cases h

lemma InBits.mono {bits bits' : Nat} {i : Int} (h : InBits bits i) (hbits : bits ≤ bits') :
    InBits bits' i := by
  have hnat : twoTo (bits - 1) ≤ twoTo (bits' - 1) :=
    Nat.pow_le_pow_right (by decide) (Nat.sub_le_sub_right hbits 1)
  obtain ⟨hlower, hupper⟩ := h
  exact ⟨by omega, by omega⟩

namespace ScalarValue

variable {a : ScalarValue}

lemma isInteger_iff : a.type.IsInteger ↔ ∃ i, a.integer? = some i := by
  cases a <;> simp [ScalarValue.type, Scalar.IsInteger, Scalar.integerBits?, integer?]

lemma inBits_integer? {bits : Nat} {i : Int} (hbits : a.type.integerBits? = some bits)
    (h : a.integer? = some i) : InBits bits i := by
  cases a with
  | int16 i =>
    cases hbits
    cases h
    exact ⟨Int16.le_toInt i, Int16.toInt_lt i⟩
  | int32 i =>
    cases hbits
    cases h
    exact ⟨Int32.le_toInt i, Int32.toInt_lt i⟩
  | int64 i =>
    cases hbits
    cases h
    exact ⟨Int64.le_toInt i, Int64.toInt_lt i⟩
  | _ => cases h

end ScalarValue

/-! ## Integers of values -/

namespace HostValue

mutual

/-- The integers in a value, in order. -/
def integers : HostValue → List Int
  | .scalar a => a.integer?.toList
  | .array elements => allIntegers elements
  | .range r => spanIntegers r
  | .multirange rs => spansIntegers rs
  | .tuple elements => allIntegers elements
  | .record fields => fieldsIntegers fields
  | .null => []
  | .enumeration _ => []

/-- The integers in the values of a list. -/
def allIntegers : List HostValue → List Int
  | [] => []
  | v :: rest => integers v ++ allIntegers rest

/-- The integers at the side of a range. -/
def boundIntegers : Bound HostValue → List Int
  | .infinite => []
  | .inclusive v => integers v
  | .exclusive v => integers v

/-- The integers at both sides of a range. -/
def spanIntegers : Span HostValue → List Int
  | .empty => []
  | .bounds lower upper => boundIntegers lower ++ boundIntegers upper

/-- The integers in the ranges of a list. -/
def spansIntegers : List (Span HostValue) → List Int
  | [] => []
  | r :: rest => spanIntegers r ++ spansIntegers rest

/-- The integers in the fields of a record. -/
def fieldsIntegers : List (String × HostValue) → List Int
  | [] => []
  | (_, v) :: rest => integers v ++ fieldsIntegers rest

end

lemma allIntegers_eq (vs : List HostValue) : allIntegers vs = vs.flatMap integers := by
  induction vs with
  | nil => rfl
  | cons v vs ih => exact congrArg (integers v ++ ·) ih

lemma spansIntegers_eq (rs : List (Span HostValue)) : spansIntegers rs = rs.flatMap spanIntegers := by
  induction rs with
  | nil => rfl
  | cons r rs ih => exact congrArg (spanIntegers r ++ ·) ih

/-- The integers of a range are those of its boundary values. -/
lemma mem_spanIntegers {r : Span HostValue} {i : Int} :
    i ∈ spanIntegers r ↔ ∃ v ∈ r.values, i ∈ v.integers := by
  have hbound : ∀ b : Bound HostValue, i ∈ boundIntegers b ↔ ∃ v ∈ b.value?.toList, i ∈ v.integers := by
    intro b
    cases b <;> simp [boundIntegers, Bound.value?]
  cases r with
  | empty => simp [spanIntegers, Span.values]
  | bounds lower upper =>
    simp only [spanIntegers, Span.values, List.mem_append, hbound, or_and_right, exists_or]

end HostValue

end SqlBridge
