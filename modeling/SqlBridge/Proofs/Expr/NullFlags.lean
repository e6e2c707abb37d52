import SqlBridge.Operation.Lowering
import SqlBridge.Proofs.Outcome

/-!
# Null flags of expressions

A node tells of each operand whether a null in it makes the whole null. The flags of a node fit when
there is one for each operand, when there are as many operands as the kind of node needs, and when no
flag of an aggregate is set. Builders are followed for every property that nodes with fitting flags
inherit from their operands; that the flags fit at every node is one of these.
-/

namespace SqlBridge

namespace ExprKind

/-- The number of operands, where the kind of node fixes it. -/
def arity? : ExprKind → Option Nat
  | .constant _ | .parameter _ | .column _ _ _ => some 0
  | .unary _ | .cast => some 1
  | .binary _ | .subscript | .anyOf _ | .position => some 2
  | .function _ _ _ | .row | .arrayOf => none

/-- A call of an aggregate function. -/
def isAggregate : ExprKind → Bool
  | .function _ aggregate _ => aggregate
  | _ => false

/-- The first operand stands right at the symbol of the node: behind an operator other than a word, or before an
index. -/
def isTight : ExprKind → Bool
  | .unary op => !op.isTrailing && op != .not
  | .subscript => true
  | _ => false

/-- The flags are right for a node of the kind with a number of operands. -/
structure Fits (kind : ExprKind) (operands : Nat) (flags : List Bool) : Prop where
  count : flags.length = operands
  arity (n : Nat) : kind.arity? = some n → operands = n
  aggregate : kind.isAggregate = true → ∀ flag ∈ flags, flag = false

variable {operands : Nat} {flags : List Bool}

/-- A kind that fixes the number of operands is no aggregate. -/
lemma Fits.of_arity {kind : ExprKind} (hcount : flags.length = operands)
    (harity : kind.arity? = some operands) : kind.Fits operands flags := by
  refine ⟨hcount, ?_, ?_⟩
  · intro n hn
    rw [harity] at hn
    exact Option.some.inj hn
  · intro hagg
    cases kind with
    | function name aggregate nullable => cases harity
    | _ => cases hagg

lemma Fits.of_function {name : String} {aggregate nullable : Bool}
    (hcount : flags.length = operands)
    (hflags : aggregate = true → ∀ flag ∈ flags, flag = false) :
    (ExprKind.function name aggregate nullable).Fits operands flags :=
  ⟨hcount, nofun, hflags⟩

end ExprKind

namespace Expr

/-- The flags fit at every node. -/
inductive Sound : Expr → Prop
  | node {kind : ExprKind} {es : List Expr} {flags : List Bool} {t : HostType}
    {m : Option Descriptor} : kind.Fits es.length flags → (∀ e ∈ es, Sound e) →
    Sound (.node kind es flags t m)

lemma areWellFormed_iff (es : List Expr) :
    areWellFormed es = true ↔ ∀ e ∈ es, e.isWellFormed = true := by
  induction es with
  | nil => simp [areWellFormed]
  | cons e es ih => simp [areWellFormed, ih]

lemma Sound.isWellFormed {e : Expr} (he : e.Sound) : e.isWellFormed = true := by
  induction he with
  | node hfits _ ih =>
    rw [Expr.isWellFormed, Bool.and_eq_true, beq_iff_eq]
    exact ⟨hfits.count, (areWellFormed_iff _).2 ih⟩

/-- An operand that stands right at the symbol of its node has the property, and is a sequence if it is indexed. -/
def TouchesOnly (lead : Expr → Prop) (kind : ExprKind) (es : List Expr) : Prop :=
  kind.isTight = true → ∀ e ∈ es.head?, lead e ∧ (kind = .subscript → e.hostType.isSequence = true)

lemma TouchesOnly.of_loose {lead : Expr → Prop} {kind : ExprKind} {es : List Expr} (h : kind.isTight = false) :
    TouchesOnly lead kind es := by
  intro htight
  rw [h] at htight
  cases htight

/-- A property that nodes with fitting flags take over from their operands and hand down to them, and
that does not hang on descriptors. Nodes may need more of operands that stand right at their symbols. -/
structure Hereditary (lead P : Expr → Prop) : Prop where
  node {kind : ExprKind} {es : List Expr} {flags : List Bool} {t : HostType}
    {m : Option Descriptor} : kind.Fits es.length flags → TouchesOnly lead kind es → (∀ e ∈ es, P e) →
    P (.node kind es flags t m)
  operand {e x : Expr} : P e → x ∈ e.operands → P x
  withMapping {e : Expr} (d : Descriptor) : P e → P (e.withMapping d)

lemma hereditary_sound (lead : Expr → Prop) : Hereditary lead Sound where
  node hfits _ hes := .node hfits hes
  operand he hx := by
    cases he with
    | node hfits hes => exact hes _ hx
  withMapping d he := by
    cases he with
    | node hfits hes => exact .node hfits hes

lemma hereditary_true (lead : Expr → Prop) : Hereditary lead fun _ => True where
  node _ _ _ := trivial
  operand _ _ := trivial
  withMapping _ _ := trivial

/-- The failure is no disagreement between flags and operands. -/
def NoMiscount (f : Fault) : Prop :=
  f.report.code ≠ ⟨104⟩

/-- Only a disagreement between flags and operands has its code. -/
lemma noMiscount_of_ne {f : Fault} (h : ∀ subject expected got, f ≠ .flagCount subject expected got) :
    NoMiscount f := by
  cases f with
  | flagCount subject expected got => exact absurd rfl (h subject expected got)
  | _ =>
    intro hcode
    exact absurd hcode (by decide : ErrorCode.mk _ ≠ ErrorCode.mk _)

/-- What is built has the property, and a failure is none of the flags. -/
abbrev Yields (P : Expr → Prop) (x : Except Fault Expr) : Prop :=
  Meets P NoMiscount x

namespace Hereditary

variable {lead P : Expr → Prop} (hP : Hereditary lead P) (r : Registry)

include hP

lemma constant (v : HostValue) (t : HostType) (m : Option Descriptor) : P (constant v t m) :=
  hP.node (.of_arity rfl rfl) (.of_loose rfl) nofun

lemma constantOf (v : HostValue) : P (constantOf r v) := by
  rw [Expr.constantOf]
  cases v.hostType? with
  | none => exact hP.constant _ _ _
  | some t => exact hP.constant _ _ _

lemma constantAs (v : HostValue) (store : String) : Yields P (constantAs r v store) := by
  rw [Expr.constantAs, Registry.requireStore]
  cases r.findStore store with
  | none => exact noMiscount_of_ne nofun
  | some d => exact hP.constant _ _ _

lemma retype (d : Descriptor) {e : Expr} (he : P e) : P (retype r d e) := by
  rw [Expr.retype]
  split
  · exact hP.withMapping d he
  · exact he

lemma retypeElement (array : Expr) {item : Expr} (hitem : P item) :
    P (retypeElement r array item) := by
  rw [Expr.retypeElement]
  cases array.mapping.bind Descriptor.element? with
  | none => exact hitem
  | some d => exact hP.retype r d hitem

/-- The parts of a pair are operands, or constants. -/
lemma pair? {e : Expr} {p : Expr × Expr} (he : P e) (h : pair? r e = some p) : P p.1 ∧ P p.2 := by
  rw [Expr.pair?] at h
  by_cases hrow : e.isRow = true
  · rw [if_pos hrow] at h
    split at h
    · rename_i a b hoperands
      cases h
      refine ⟨hP.operand he ?_, hP.operand he ?_⟩
      · simp [hoperands]
      · simp [hoperands]
    · cases h
  · rw [if_neg hrow] at h
    split at h
    · cases h
      exact ⟨hP.constantOf r _, hP.constantOf r _⟩
    · cases h

variable {kind : ExprKind} {es : List Expr} {flags : List Bool} {t : HostType}
  {m : Option Descriptor} {left right e : Expr}

lemma compose {subject : String} (hfits : kind.Fits es.length flags) (htouch : TouchesOnly lead kind es)
    (hes : ∀ e ∈ es, P e) : Yields P (compose subject kind es flags t m) := by
  rw [Expr.compose, checkFlags, if_pos hfits.count]
  exact hP.node hfits htouch hes

lemma function {name : String} (hcount : flags.length = es.length) (hes : ∀ e ∈ es, P e) :
    Yields P (function r name es flags t m) :=
  hP.compose (.of_function hcount nofun) (.of_loose rfl) hes

lemma aggregate {name : String} (hcount : flags.length = es.length)
    (hflags : ∀ flag ∈ flags, flag = false) (hes : ∀ e ∈ es, P e) :
    Yields P (aggregate r name es flags t m) :=
  hP.compose (.of_function hcount fun _ => hflags) (.of_loose rfl) hes

lemma strictCall {name : String} (hes : ∀ e ∈ es, P e) : Yields P (strictCall r name es t) :=
  hP.function r (List.length_map _) hes

lemma binary {op : BinaryOp} (hcount : flags.length = 2) (hleft : P left) (hright : P right) :
    Yields P (binary r op left right flags t m) := by
  rw [Expr.binary, share]
  cases sharedMapping r left right with
  | none =>
    apply hP.compose (.of_arity hcount rfl) (.of_loose rfl)
    simp [hleft, hright]
  | some d =>
    apply hP.compose (.of_arity hcount rfl) (.of_loose rfl)
    simp [hP.retype r d hleft, hP.retype r d hright]

lemma predicate {op : BinaryOp} (hleft : P left) (hright : P right) :
    Yields P (predicate r op left right) :=
  hP.binary r rfl hleft hright

lemma combine {op : BinaryOp} (hleft : P left) (hright : P right) :
    Yields P (combine r op left right) :=
  hP.binary r rfl hleft hright

lemma unary {op : UnaryOp} (hcount : flags.length = 1) (hlead : (ExprKind.unary op).isTight = true → lead e)
    (he : P e) : Yields P (unary r op e flags t m) := by
  apply hP.compose (.of_arity hcount rfl)
  · rintro htight _ ⟨⟩
    exact ⟨hlead htight, nofun⟩
  · simp [he]

lemma castWith (d : Descriptor) (he : P e) : Yields P (castWith e d [true]) := by
  apply hP.compose (.of_arity rfl rfl) (.of_loose rfl)
  simp [he]

lemma castTo (store : String) (he : P e) : Yields P (castTo r e store) := by
  rw [Expr.castTo, Registry.requireStore]
  cases r.findStore store with
  | none => exact noMiscount_of_ne nofun
  | some d => exact hP.castWith d he

lemma rowOf (hcount : flags.length = es.length) (hes : ∀ e ∈ es, P e) :
    Yields P (rowOf es flags) := by
  rw [Expr.rowOf]
  by_cases hempty : es.isEmpty = true
  · rw [if_pos hempty]
    exact noMiscount_of_ne nofun
  · rw [if_neg hempty]
    exact hP.compose ⟨hcount, nofun, nofun⟩ (.of_loose rfl) hes

lemma subscript (hlead : lead left) (hleft : P left) (hright : P right) :
    Yields P (subscript r left right [true, true]) := by
  rw [Expr.subscript]
  cases helement : left.hostType.element? with
  | none => exact noMiscount_of_ne nofun
  | some element =>
    have hsequence : left.hostType.isSequence = true := by rw [HostType.isSequence, helement, Option.isSome_some]
    apply hP.compose (.of_arity rfl rfl)
    · rintro - _ ⟨⟩
      exact ⟨hlead, fun _ => hsequence⟩
    · simp [hleft, hright]

lemma anyOf {op : BinaryOp} (hleft : P left) (hright : P right) :
    Yields P (anyOf r op left right [true, true]) := by
  apply hP.compose (.of_arity rfl rfl) (.of_loose rfl)
  simp [hP.retypeElement r right hleft, hright]

lemma arrayOf (hcount : flags.length = es.length) (hes : ∀ e ∈ es, P e) :
    Yields P (arrayOf r es t flags) :=
  hP.compose ⟨hcount, nofun, nofun⟩ (.of_loose rfl) hes

lemma position (hleft : P left) (hright : P right) :
    Yields P (position r left right [true, true]) := by
  apply hP.compose (.of_arity rfl rfl) (.of_loose rfl)
  simp [hleft, hright]

lemma offset (delta : Int) (he : P e) : Yields P (offset r e delta) := by
  rw [Expr.offset]
  cases shifted? delta e with
  | none => exact hP.binary r rfl he (hP.constantOf r _)
  | some i => exact hP.constantOf r _

end Hereditary

end Expr

end SqlBridge
