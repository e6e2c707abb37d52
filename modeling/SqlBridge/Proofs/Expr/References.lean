import Mathlib.Algebra.Order.Group.Multiset
import SqlBridge.Operation.Lowering
import SqlBridge.Proofs.Outcome

/-!
# References of expressions

Parameters and columns are the places of an expression whose values come from outside. The references of
an expression are counted as often as they occur; what a node refers to is what its operands refer to
together. Each builder is followed with what its result refers to, and with what has to hold where it
fails.
-/

namespace SqlBridge

/-- A parameter or a column, with the host type of its value. -/
inductive Reference where
  | parameter (name : String) (hostType : HostType)
  | column (table : Option String) (name : String) (nullable : Bool) (hostType : HostType)
deriving DecidableEq

/-- A node that has no operands. -/
def ExprKind.isLeaf : ExprKind → Bool
  | .constant _ | .parameter _ | .column _ _ _ => true
  | _ => false

namespace Expr

mutual

/-- The parameters and columns of the tree. -/
def references : Expr → Multiset Reference
  | .node kind es _ t _ =>
    match kind with
    | .constant _ => 0
    | .parameter name => {.parameter name t}
    | .column table name nullable => {.column table name nullable t}
    | _ => referencesOf es

/-- Those of several trees. -/
def referencesOf : List Expr → Multiset Reference
  | [] => 0
  | e :: es => references e + referencesOf es

end

@[simp] lemma referencesOf_eq (es : List Expr) : referencesOf es = (es.map references).sum := by
  induction es with
  | nil => rfl
  | cons e es ih => rw [referencesOf, ih, List.map_cons, List.sum_cons]

/-- A node with operands refers to what they refer to. -/
lemma references_of_inner {kind : ExprKind} {es : List Expr} {flags : List Bool} {t : HostType}
    {m : Option Descriptor} (hinner : kind.isLeaf = false) :
    (node kind es flags t m).references = (es.map references).sum := by
  cases kind with
  | constant _ | parameter _ | column _ _ _ => cases hinner
  | _ => exact referencesOf_eq es

@[simp] lemma references_constant (v : HostValue) (t : HostType) (m : Option Descriptor) :
    (constant v t m).references = 0 := by
  rw [constant, leaf, references]

@[simp] lemma references_withMapping (d : Descriptor) (e : Expr) :
    (e.withMapping d).references = e.references := by
  cases e with
  | node kind es flags t m => cases kind <;> rfl

/-- A constant refers to nothing. -/
lemma references_of_value {e : Expr} {v : HostValue} (h : e.value? = some v) : e.references = 0 := by
  cases e with
  | node kind es flags t m =>
    cases kind with
    | constant value => rw [references]
    | _ => cases h

lemma references_of_text {e : Expr} {s : String} (h : constantText? e = some s) :
    e.references = 0 := by
  rw [constantText?] at h
  split at h
  · rename_i hvalue
    exact references_of_value hvalue
  · cases h

lemma references_of_int {e : Expr} {i : Int} (h : constantInt? e = some i) : e.references = 0 := by
  rw [constantInt?] at h
  split at h
  case h_4 => cases h
  all_goals
    rename_i hvalue
    exact references_of_value hvalue

lemma references_of_shifted {e : Expr} {delta : Int} {i : Int32} (h : shifted? delta e = some i) :
    e.references = 0 := by
  rw [shifted?] at h
  split at h
  · rename_i hvalue
    exact references_of_value hvalue
  · cases h

/-- A row refers to what its elements refer to. -/
lemma references_of_row {e : Expr} (h : e.isRow = true) :
    e.references = (e.operands.map references).sum := by
  cases e with
  | node kind es flags t m =>
    cases kind with
    | row => exact references_of_inner rfl
    | _ => cases h

variable (r : Registry)

@[simp] lemma references_constantOf (v : HostValue) : (constantOf r v).references = 0 := by
  rw [constantOf]
  cases v.hostType? with
  | none => exact references_constant _ _ _
  | some t => exact references_constant _ _ _

@[simp] lemma references_retype (d : Descriptor) (e : Expr) :
    (retype r d e).references = e.references := by
  rw [retype]
  split
  · exact references_withMapping d e
  · rfl

@[simp] lemma references_retypeElement (array item : Expr) :
    (retypeElement r array item).references = item.references := by
  rw [retypeElement]
  cases array.mapping.bind Descriptor.element? with
  | none => rfl
  | some d => exact references_retype r d item

lemma references_share (left right : Expr) :
    ((share r left right).map references).sum = left.references + right.references := by
  rw [share]
  cases sharedMapping r left right with
  | none => simp
  | some d => simp

/-- The parts of a pair refer to what the pair refers to. -/
lemma references_of_pair {e : Expr} {p : Expr × Expr} (h : pair? r e = some p) :
    p.1.references + p.2.references = e.references := by
  rw [pair?] at h
  by_cases hrow : e.isRow = true
  · rw [if_pos hrow] at h
    split at h
    · rename_i a b hoperands
      cases h
      rw [references_of_row hrow, hoperands]
      simp
    · cases h
  · rw [if_neg hrow] at h
    split at h
    · rename_i a b hvalue
      cases h
      rw [references_of_value hvalue]
      simp
    · cases h

/-! ## Builders -/

/-- What is built has the references, and a failure has the property. -/
abbrev Refers (m : Multiset Reference) (Q : Fault → Prop) (x : Except Fault Expr) : Prop :=
  Meets (fun e => e.references = m) Q x

variable {Q : Fault → Prop} {m : Multiset Reference} {kind : ExprKind} {es : List Expr}
  {flags : List Bool} {t : HostType} {d : Option Descriptor} {left right e : Expr}

lemma refers_compose {subject : String} (hcount : flags.length = es.length)
    (hinner : kind.isLeaf = false) (hes : (es.map references).sum = m) :
    Refers m Q (compose subject kind es flags t d) := by
  rw [compose, checkFlags, if_pos hcount]
  exact (references_of_inner hinner).trans hes

lemma refers_constantAs (v : HostValue) {store : String}
    (hstore : r.findStore store = none → Q (.noStoreMapping store)) :
    Refers 0 Q (constantAs r v store) := by
  rw [constantAs, Registry.requireStore]
  cases hfind : r.findStore store with
  | none => exact hstore hfind
  | some d => exact references_constant _ _ _

lemma refers_function {name : String} (hcount : flags.length = es.length)
    (hes : (es.map references).sum = m) : Refers m Q (function r name es flags t d) :=
  refers_compose hcount rfl hes

lemma refers_aggregate {name : String} (hcount : flags.length = es.length)
    (hes : (es.map references).sum = m) : Refers m Q (aggregate r name es flags t d) :=
  refers_compose hcount rfl hes

lemma refers_strictCall {name : String} (hes : (es.map references).sum = m) :
    Refers m Q (strictCall r name es t) :=
  refers_function r (List.length_map _) hes

lemma refers_binary {op : BinaryOp} (hcount : flags.length = 2)
    (hes : left.references + right.references = m) :
    Refers m Q (binary r op left right flags t d) := by
  have hlength : flags.length = (share r left right).length := by
    rw [hcount, share]
    cases sharedMapping r left right <;> rfl
  exact refers_compose hlength rfl ((references_share r left right).trans hes)

lemma refers_predicate {op : BinaryOp} (hes : left.references + right.references = m) :
    Refers m Q (predicate r op left right) :=
  refers_binary r rfl hes

lemma refers_combine {op : BinaryOp} (hes : left.references + right.references = m) :
    Refers m Q (combine r op left right) :=
  refers_binary r rfl hes

lemma refers_unary {op : UnaryOp} (hcount : flags.length = 1) (he : e.references = m) :
    Refers m Q (unary r op e flags t d) :=
  refers_compose hcount rfl (by simpa)

lemma refers_castWith (d : Descriptor) (he : e.references = m) :
    Refers m Q (castWith e d [true]) :=
  refers_compose rfl rfl (by simpa)

lemma refers_castTo {store : String}
    (hstore : r.findStore store = none → Q (.noStoreMapping store)) (he : e.references = m) :
    Refers m Q (castTo r e store) := by
  rw [castTo, Registry.requireStore]
  cases hfind : r.findStore store with
  | none => exact hstore hfind
  | some d => exact refers_castWith d he

lemma refers_rowOf (hempty : es = [] → Q .emptyRow) (hcount : flags.length = es.length)
    (hes : (es.map references).sum = m) : Refers m Q (rowOf es flags) := by
  rw [rowOf]
  by_cases h : es.isEmpty = true
  · rw [if_pos h]
    exact hempty (List.isEmpty_iff.1 h)
  · rw [if_neg h]
    exact refers_compose hcount rfl hes

lemma refers_subscript (harray : left.hostType.isSequence = true)
    (hes : left.references + right.references = m) :
    Refers m Q (subscript r left right [true, true]) := by
  obtain ⟨element, helement⟩ := Option.isSome_iff_exists.1 harray
  rw [subscript, helement]
  exact refers_compose rfl rfl (by simpa)

lemma refers_anyOf {op : BinaryOp} (hes : left.references + right.references = m) :
    Refers m Q (anyOf r op left right [true, true]) :=
  refers_compose rfl rfl (by simpa)

lemma refers_arrayOf (hcount : flags.length = es.length) (hes : (es.map references).sum = m) :
    Refers m Q (arrayOf r es t flags) :=
  refers_compose hcount rfl hes

lemma refers_position (hes : left.references + right.references = m) :
    Refers m Q (position r left right [true, true]) :=
  refers_compose rfl rfl (by simpa)

lemma refers_offset (delta : Int) (he : e.references = m) : Refers m Q (offset r e delta) := by
  rw [offset]
  cases hshifted : shifted? delta e with
  | none => exact refers_binary r rfl (by simpa)
  | some i => exact (references_constantOf r _).trans ((references_of_shifted hshifted).symm.trans he)

end Expr

end SqlBridge
