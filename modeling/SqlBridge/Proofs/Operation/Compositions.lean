import SqlBridge.Proofs.Expr.HostTypes
import SqlBridge.Proofs.Expr.Neighbours
import SqlBridge.Proofs.Operation.NullFlags

/-!
# Compositions of operations

Operations of the standard chain take columns, parameters, constants and what other operations give. What a lowering
builds begins with a word, a parenthesis, an operator before an operand, or an array and its index; where it is an
array itself, it ends in no cast. So an operator runs into its operand only where that is or begins with another such
operator, a parameter, or a constant or column with such a text, and an index is read as a part of a type only where
it stands behind a constant.
-/

namespace SqlBridge

open SqlBridge.Expr

/-! ## What lowerings build -/

/-- The expressions that lowerings build of their operands: calls, operations that take parentheses, operators before
an operand and casts of operations, neither of which gives an array, and elements of operands. -/
inductive Expr.Rooted (lead : Expr → Prop) : Expr → Prop
  | call {name : String} {aggregate nullable : Bool} {es : List Expr} {flags : List Bool} {t : HostType}
    {m : Option Descriptor} :
    beginsWithOperator name = false → Rooted lead (.node (.function name aggregate nullable) es flags t m)
  | compound {kind : ExprKind} {es : List Expr} {flags : List Bool} {t : HostType} {m : Option Descriptor} :
    kind.isCompound = true → Rooted lead (.node kind es flags t m)
  | unary {op : UnaryOp} {operand : Expr} {flags : List Bool} {t : HostType} {m : Option Descriptor} :
    op.isTrailing = false → t.isSequence = false → Rooted lead (.node (.unary op) [operand] flags t m)
  | cast {operand : Expr} {flags : List Bool} {t : HostType} {m : Option Descriptor} :
    operand.kind.isCompound = true → t.isSequence = false → Rooted lead (.node .cast [operand] flags t m)
  | subscript {array index : Expr} {flags : List Bool} {t : HostType} {m : Option Descriptor} :
    lead array → Rooted lead (.node .subscript [array, index] flags t m)

/-- What is built is an expression that lowerings build. -/
abbrev Expr.BuildsRooted (lead : Expr → Prop) (x : Except Fault Expr) : Prop :=
  Meets (Rooted lead) (fun _ => True) x

/-- What is made of the operation is an expression that lowerings build. -/
abbrev Lowered.Rooted (lead : Expr → Prop) (x : Lowered) : Prop :=
  Lowered.Gives (Expr.Rooted lead) (fun _ => True) x

variable {lead : Expr → Prop} {r : Registry} {es args : List Expr} {flags : List Bool} {t : HostType}
  {m : Option Descriptor} {left right : Expr}

namespace Expr

lemma buildsRooted_compose {subject : String} {kind : ExprKind} (h : Rooted lead (.node kind es flags t m)) :
    BuildsRooted lead (compose subject kind es flags t m) := by
  rw [compose, checkFlags]
  split
  · exact h
  · trivial

lemma buildsRooted_function {name : String} (hname : beginsWithOperator name = false) :
    BuildsRooted lead (function r name es flags t m) :=
  buildsRooted_compose (.call hname)

lemma buildsRooted_aggregate {name : String} (hname : beginsWithOperator name = false) :
    BuildsRooted lead (aggregate r name es flags t m) :=
  buildsRooted_compose (.call hname)

lemma buildsRooted_strictCall {name : String} (hname : beginsWithOperator name = false) :
    BuildsRooted lead (strictCall r name es t) :=
  buildsRooted_function hname

lemma buildsRooted_binary {op : BinaryOp} : BuildsRooted lead (binary r op left right flags t m) :=
  buildsRooted_compose (.compound rfl)

lemma buildsRooted_predicate {op : BinaryOp} : BuildsRooted lead (predicate r op left right) :=
  buildsRooted_binary

lemma buildsRooted_combine {op : BinaryOp} : BuildsRooted lead (combine r op left right) :=
  buildsRooted_binary

lemma buildsRooted_unary {op : UnaryOp} (hop : op.isTrailing = false) (ht : t.isSequence = false) :
    BuildsRooted lead (unary r op left flags t m) :=
  buildsRooted_compose (.unary hop ht)

lemma buildsRooted_subscript (h : lead left) : BuildsRooted lead (subscript r left right flags) := by
  rw [Expr.subscript]
  split
  · trivial
  · exact buildsRooted_compose (.subscript h)

lemma buildsRooted_offset {delta : Int} (h : left.value? = none) : BuildsRooted lead (offset r left delta) := by
  rw [offset, shifted?, h]
  exact buildsRooted_binary

end Expr

open Lowered

/-- The lowering of a table gives expressions that lowerings build when each of its rows does, with the names of
functions that the table has. -/
lemma Lowering.rooted_ofTable {α : Type} {name : String} {domains : List Domain} {accepts : Expr → Bool}
    {table : List (String × α)} {lower : α → Operation → List Expr → Lowered} {o : Operation} (calls : α → List String)
    (htable : ∀ entry ∈ table, ∀ name ∈ calls entry.2, beginsWithOperator name = false)
    (h : ∀ a, (∀ name ∈ calls a, beginsWithOperator name = false) → (∃ first ∈ args.head?, accepts first = true) →
      Lowered.Rooted lead (lower a o args)) :
    Lowered.Rooted lead ((Lowering.ofTable name domains accepts table lower).lower o args) :=
  Lowering.gives_ofTable fun a _ hget hfirst => h a (htable _ (Entries.mem_of_get? hget)) hfirst

namespace ArrayOperation

lemma rooted_build (op : ArrayOperation) (hargs : ∀ e ∈ args, lead e) : Lowered.Rooted lead (build r op args) := by
  unfold build
  split
  case h_13 => exact gives_declined
  all_goals apply gives_built
  case h_1 | h_11 => exact buildsRooted_strictCall rfl
  case h_2 array => exact Meets.bind_of_ok fun count _ => buildsRooted_predicate
  case h_3 array => exact buildsRooted_subscript (hargs array List.mem_cons_self)
  case h_4 array index =>
    exact Meets.bind_of_ok fun fromOne _ => buildsRooted_subscript (hargs array List.mem_cons_self)
  case h_5 array item => exact buildsRooted_compose (.compound rfl)
  case h_6 array item =>
    exact Meets.bind_of_ok fun place _ => Meets.bind_of_ok fun fromZero _ => buildsRooted_function rfl
  case h_7 => exact buildsRooted_binary
  case h_8 | h_9 | h_10 => exact buildsRooted_function rfl
  case h_12 => exact buildsRooted_predicate

end ArrayOperation

namespace RangeOperation

/-- The functions that the operation calls by name. -/
def calls : RangeOperation → List String
  | .test name | .bound name => [name]
  | _ => []

lemma buildsRooted_collect {name : String} {multi : Bool} {range : Expr} (hname : beginsWithOperator name = false) :
    BuildsRooted lead (collect r name multi range) := by
  rw [collect]
  cases multi <;> exact buildsRooted_aggregate hname

lemma rooted_build (op : RangeOperation) (hcalls : ∀ name ∈ op.calls, beginsWithOperator name = false) :
    Lowered.Rooted lead (build r op args) := by
  unfold build
  split
  case h_10 => exact gives_declined
  case h_1 => exact gives_built buildsRooted_predicate
  case h_2 => exact gives_built buildsRooted_combine
  case h_3 name range => exact gives_built (buildsRooted_strictCall (hcalls name List.mem_cons_self))
  case h_4 name range =>
    split
    · exact gives_declined
    · exact gives_built (buildsRooted_function (hcalls name List.mem_cons_self))
  case h_5 range other =>
    split
    · exact gives_declined
    · exact gives_built (buildsRooted_function rfl)
  case h_6 range =>
    split
    · exact gives_built (buildsRooted_function rfl)
    · exact gives_declined
  case h_7 range =>
    split
    · exact gives_built (Meets.bind_of_ok fun empty _ => buildsRooted_unary rfl rfl)
    · exact gives_declined
  case h_8 range => exact gives_built (buildsRooted_collect rfl)
  case h_9 range => exact gives_built (buildsRooted_collect rfl)

end RangeOperation

namespace DocumentOperation

lemma beginsWithOperator_functionName (document : Expr) (name : String) :
    beginsWithOperator (functionName document name) = false := by
  rw [functionName]
  split
  · exact beginsWithOperator_of_ne (by decide) name
  · exact beginsWithOperator_of_ne (by decide) name

lemma rooted_build {admits : String → Prop} (hr : r.ReachableBy admits) (op : DocumentOperation) (o : Operation) :
    Lowered.Rooted lead (build r op o args) := by
  unfold build
  split
  case h_9 => exact gives_declined
  case h_6 op document other =>
    split
    · exact gives_built buildsRooted_predicate
    · trivial
  all_goals apply gives_built
  case h_1 => exact buildsRooted_combine
  case h_2 => exact buildsRooted_binary
  case h_3 target document key =>
    apply Meets.bind_of_ok
    intro d hd
    apply Meets.bind_of_ok
    intro text htext
    obtain rfl := of_compose htext
    exact buildsRooted_compose (.cast rfl (hostType_of_requireHost hr hd ▸ rfl))
  case h_4 document | h_5 document => exact buildsRooted_strictCall (beginsWithOperator_functionName document _)
  case h_7 => exact Meets.bind_of_ok fun path _ => buildsRooted_combine
  case h_8 => exact Meets.bind_of_ok fun path _ => buildsRooted_binary

end DocumentOperation

namespace NetworkOperation

/-- The functions that the operation calls by name. -/
def calls : NetworkOperation → List String
  | .function name _ | .sameKind name => [name]
  | _ => []

lemma isSequence_of_isNetwork {t : HostType} (h : isNetwork t = true) : t.isSequence = false := by
  cases t with
  | scalar s => rfl
  | _ => cases h

lemma rooted_build (op : NetworkOperation) (hcalls : ∀ name ∈ op.calls, beginsWithOperator name = false)
    (hfirst : ∃ first ∈ args.head?, isNetwork first.hostType = true) : Lowered.Rooted lead (build r op args) := by
  unfold build
  split
  case h_10 => exact gives_declined
  case h_6 left right =>
    split
    · exact gives_built buildsRooted_binary
    · exact gives_built buildsRooted_combine
  all_goals apply gives_built
  case h_1 => exact buildsRooted_predicate
  case h_2 => exact buildsRooted_combine
  case h_3 name result operand => exact buildsRooted_strictCall (hcalls name List.mem_cons_self)
  case h_4 name operand => exact buildsRooted_function (hcalls name List.mem_cons_self)
  case h_5 operand =>
    obtain ⟨_, ⟨⟩, hnetwork⟩ := hfirst
    exact buildsRooted_unary rfl (isSequence_of_isNetwork hnetwork)
  case h_7 => exact buildsRooted_function rfl
  case h_8 | h_9 => exact buildsRooted_strictCall rfl

end NetworkOperation

namespace SearchOperation

/-- The functions that the operation calls by name. -/
def calls : SearchOperation → List String
  | .configurable name _ | .function name _ => [name]
  | _ => []

lemma rooted_build (op : SearchOperation) (hcalls : ∀ name ∈ op.calls, beginsWithOperator name = false) :
    Lowered.Rooted lead (build r op args) := by
  unfold build
  split
  case h_11 => exact gives_declined
  all_goals apply gives_built
  case h_1 name result text => exact buildsRooted_strictCall (hcalls name List.mem_cons_self)
  case h_2 name result config text =>
    exact Meets.bind_of_ok fun chosen _ => buildsRooted_strictCall (hcalls name List.mem_cons_self)
  case h_3 args name result => exact buildsRooted_strictCall (hcalls name List.mem_cons_self)
  case h_4 | h_5 => exact buildsRooted_strictCall rfl
  case h_6 => exact Meets.bind_of_ok fun chosen _ => buildsRooted_strictCall rfl
  case h_7 => exact Meets.bind_of_ok fun query _ => buildsRooted_predicate
  case h_8 => exact buildsRooted_combine
  case h_9 => exact buildsRooted_predicate
  case h_10 => exact buildsRooted_unary rfl rfl

end SearchOperation

namespace TrigramOperation

/-- The functions that the operation calls by name. -/
def calls : TrigramOperation → List String
  | .likeness name => [name]
  | _ => []

lemma rooted_build (op : TrigramOperation) (hcalls : ∀ name ∈ op.calls, beginsWithOperator name = false) :
    Lowered.Rooted lead (build r op args) := by
  unfold build
  split
  case h_5 => exact gives_declined
  all_goals apply gives_built
  case h_1 => exact buildsRooted_strictCall rfl
  case h_2 name left right => exact buildsRooted_strictCall (hcalls name List.mem_cons_self)
  case h_3 => exact buildsRooted_predicate
  case h_4 => exact buildsRooted_binary

end TrigramOperation

namespace FuzzyOperation

lemma rooted_build (op : FuzzyOperation) (hname : beginsWithOperator op.function = false) :
    Lowered.Rooted lead (build r op args) := by
  rw [build]
  split
  · exact gives_built (buildsRooted_strictCall hname)
  · exact gives_declined

end FuzzyOperation

namespace RegexOperation

lemma rooted_withOptions {rest : List Expr} {expression : RegexOptions → Except Fault Expr}
    (h : ∀ options, BuildsRooted lead (expression options)) : Lowered.Rooted lead (withOptions rest expression) := by
  rw [withOptions]
  split
  · exact gives_built (h _)
  · exact gives_declined

lemma rooted_build (op : RegexOperation) : Lowered.Rooted lead (build r op args) := by
  unfold build
  split
  case h_5 => exact gives_declined
  all_goals
    apply rooted_withOptions
    intro options
  case h_1 => exact Meets.bind_of_ok fun whole _ => buildsRooted_predicate
  all_goals exact buildsRooted_strictCall rfl

end RegexOperation

namespace BytesOperation

/-- A place is no constant. -/
lemma value?_of_place {bytes value e : Expr} (h : place r bytes value = .ok e) : e.value? = none := by
  obtain ⟨zero, -, h⟩ := ok_of_bind h
  obtain ⟨needle, -, h⟩ := ok_of_bind h
  rw [of_compose h]
  rfl

lemma rooted_build (op : BytesOperation) : Lowered.Rooted lead (build r op args) := by
  unfold build
  split
  case h_7 => exact gives_declined
  all_goals apply gives_built
  case h_1 | h_4 | h_5 => exact buildsRooted_strictCall rfl
  case h_2 => exact Meets.bind_of_ok fun place _ => buildsRooted_predicate
  case h_3 bytes value =>
    apply Meets.bind_of_ok
    intro place hplace
    exact buildsRooted_offset (value?_of_place hplace)
  case h_6 => exact buildsRooted_predicate

end BytesOperation

namespace StatisticsOperation

/-- The functions that the statistic calls by name. -/
def calls : StatisticsOperation → List String
  | .single name | .paired name _ => [name]

lemma rooted_build (op : StatisticsOperation) (hcalls : ∀ name ∈ op.calls, beginsWithOperator name = false) :
    Lowered.Rooted lead (build r op args) := by
  unfold build
  split
  case h_4 => exact gives_declined
  case h_1 name values =>
    split
    · exact gives_built (buildsRooted_aggregate (hcalls name List.mem_cons_self))
    · exact gives_declined
  case h_2 name result e =>
    split
    · exact gives_built (buildsRooted_aggregate (hcalls name List.mem_cons_self))
    · exact gives_declined
  case h_3 name result y x => exact gives_built (buildsRooted_aggregate (hcalls name List.mem_cons_self))

end StatisticsOperation

namespace CollectOperation

/-- The functions that the collection calls by name. -/
def calls : CollectOperation → List String
  | .document name _ | .object name _ => [name]
  | _ => []

lemma rooted_build (op : CollectOperation) (hcalls : ∀ name ∈ op.calls, beginsWithOperator name = false) :
    Lowered.Rooted lead (build r op args) := by
  unfold build
  split
  case h_1 => exact gives_built (Meets.bind_of_ok fun all _ => buildsRooted_function rfl)
  case h_2 => exact gives_built (buildsRooted_aggregate rfl)
  case h_3 name store values => exact gives_built (buildsRooted_aggregate (hcalls name List.mem_cons_self))
  case h_4 name store e =>
    split
    · exact gives_built (buildsRooted_aggregate (hcalls name List.mem_cons_self))
    · exact gives_declined
  case h_5 => exact gives_declined

end CollectOperation

namespace RowOperation

lemma rooted_build (op : RowOperation) (o : Operation) : Lowered.Rooted lead (build r op o args) := by
  unfold build
  split
  case h_1 left right =>
    apply Meets.bind_of_ok
    intro leftRow _
    apply Meets.bind_of_ok
    intro rightRow _
    split
    · apply gives_built
      rw [compare]
      split
      · exact buildsRooted_binary
      · trivial
    · exact gives_declined
  case h_2 => exact gives_declined

end RowOperation

namespace Lowering

variable {admits : String → Prop} {o : Operation}

lemma rooted_standard (hr : r.ReachableBy admits) (hargs : ∀ e ∈ args, lead e) :
    ∀ l ∈ standard r, Lowered.Rooted lead (l.lower o args) := by
  simp only [standard, List.forall_mem_cons]
  refine ⟨?arrays, ?ranges, ?documents, ?networks, ?textSearch, ?trigrams, ?fuzzyMatch, ?regexes, ?bytes,
    ?statistics, ?collections, ?rows, List.forall_mem_nil _⟩
  case arrays => exact gives_ofTable fun op _ _ _ => ArrayOperation.rooted_build op hargs
  case ranges =>
    exact rooted_ofTable RangeOperation.calls (by decide +kernel) fun op hcalls _ => op.rooted_build hcalls
  case documents => exact gives_ofTable fun op _ _ _ => DocumentOperation.rooted_build hr op o
  case networks =>
    exact rooted_ofTable NetworkOperation.calls (by decide +kernel) fun op hcalls hfirst =>
      op.rooted_build hcalls hfirst
  case textSearch =>
    exact rooted_ofTable SearchOperation.calls (by decide +kernel) fun op hcalls _ => op.rooted_build hcalls
  case trigrams =>
    exact rooted_ofTable TrigramOperation.calls (by decide +kernel) fun op hcalls _ => op.rooted_build hcalls
  case fuzzyMatch =>
    exact rooted_ofTable (fun op => [op.function]) (by decide +kernel) fun op hcalls _ =>
      op.rooted_build (hcalls op.function List.mem_cons_self)
  case regexes => exact gives_ofTable fun op _ _ _ => op.rooted_build
  case bytes => exact gives_ofTable fun op _ _ _ => op.rooted_build
  case statistics =>
    exact rooted_ofTable StatisticsOperation.calls (by decide +kernel) fun op hcalls _ => op.rooted_build hcalls
  case collections =>
    exact rooted_ofTable CollectOperation.calls (by decide +kernel) fun op hcalls _ => op.rooted_build hcalls
  case rows => exact gives_ofTable fun op _ _ _ => op.rooted_build o

/-- What the standard chain makes of an operation is an expression that lowerings build. -/
lemma rooted_lowerAll (hr : r.ReachableBy admits) (hargs : ∀ e ∈ args, lead e) :
    Lowered.Rooted lead (lowerAll (standard r) o args) := by
  rw [lowerAll]
  split
  · exact gives_firstOf (rooted_standard hr hargs)
  · trivial

end Lowering

namespace Expr

/-! ## What expressions begin with and end in -/

variable {e n : Expr}

/-- The expression is composed of columns, parameters and constants of known descriptors by operations of the standard
chain. -/
inductive Composed (r : Registry) : Expr → Prop
  | column {table : Option String} {name : String} {nullable : Bool} {t : HostType} {m : Option Descriptor} :
    Composed r (.column table name nullable t m)
  | parameter {name : String} {t : HostType} {m : Option Descriptor} : Composed r (.parameter name t m)
  | constant {v : HostValue} {t : HostType} {d : Descriptor} : Composed r (.constant v t (some d))
  | lowered {o : Operation} {args : List Expr} {e : Expr} :
    (∀ e ∈ args, Composed r e) → Lowering.lowerAll (Lowering.standard r) o args = .ok (some e) → Composed r e

lemma enclosedText_of_compound (h : e.kind.isCompound = true) : e.enclosedText = "(" ++ (e.text ++ ")") := by
  rw [enclosedText, OperandText.enclosed, ← String.append_assoc]
  exact if_pos h

lemma enclosedText_of_simple (h : e.kind.isCompound = false) : e.enclosedText = e.text := by
  rw [enclosedText, OperandText.enclosed]
  exact if_neg (Bool.eq_false_iff.1 h)

/-- Of the expressions that lowerings build, operators before an operand begin with an operator, and elements do if
their arrays do. -/
lemma Rooted.begins_iff
    (h : Rooted (fun array => beginsWithOperator array.enclosedText = true ↔ array.BeginsWithOperator) e) :
    beginsWithOperator e.enclosedText = true ↔ e.BeginsWithOperator := by
  have hneither : ∀ {e : Expr}, beginsWithOperator e.enclosedText = false → ¬ e.BeginsWithOperator →
      (beginsWithOperator e.enclosedText = true ↔ e.BeginsWithOperator) := by
    intro e htext hnot
    rw [htext]
    exact iff_of_false Bool.false_ne_true hnot
  cases h with
  | call hname =>
    refine hneither ?_ ?_
    · rw [enclosedText_of_simple rfl, text, nodeText, String.append_assoc, String.append_assoc,
        beginsWithOperator_append, hname]
      exact beginsWithOperator_of_ne (by decide) _
    · rintro ⟨⟩
  | compound hcompound =>
    refine hneither ?_ ?_
    · rw [enclosedText_of_compound]
      · exact beginsWithOperator_of_ne (by decide) _
      · exact hcompound
    · rintro (_ | _) <;> cases hcompound
  | @unary op operand flags t m hop _ =>
    cases op with
    | not =>
      refine hneither ?_ ?_
      · rw [enclosedText_of_simple rfl, text_node, nodeText, List.map_singleton, unaryText, if_neg (by decide),
          if_pos rfl, String.append_assoc]
        exact beginsWithOperator_of_ne (by decide) _
      · rintro (htight | _)
        cases htight
    | negate | bitwiseNot | textSearchNegate =>
      refine iff_of_true ?_ (.unary rfl)
      rw [enclosedText_of_simple rfl, text_prefixed rfl]
      exact beginsWithOperator_of_ne (by decide) _
    | isNull | isNotNull => cases hop
  | cast hcompound _ =>
    refine hneither ?_ ?_
    · rw [enclosedText_of_simple rfl, text_cast, enclosedText_of_compound hcompound, String.append_assoc]
      exact beginsWithOperator_of_ne (by decide) _
    · rintro ⟨⟩
  | subscript harray =>
    rw [enclosedText_of_simple rfl, text_subscript, beginsWithOperator_append, harray]
    · refine ⟨.subscript, ?_⟩
      rintro (_ | _)
      assumption
    · exact beginsWithOperator_of_ne (by decide) _

/-- No array that lowerings build ends in a cast. -/
lemma Rooted.not_endsInCast (h : Rooted lead e) (hsequence : e.hostType.isSequence = true) : ¬ e.EndsInCast := by
  intro hcast
  cases h with
  | call | subscript => cases hcast
  | compound hcompound => cases hcast <;> cases hcompound
  | unary _ ht | cast _ ht => exact Bool.false_ne_true (ht.symm.trans hsequence)

theorem Composed.begins_iff {admits : String → Prop} (hr : r.ReachableBy admits) (h : Composed r e) :
    beginsWithOperator e.enclosedText = true ↔ e.BeginsWithOperator := by
  induction h with
  | column =>
    rw [enclosedText_of_simple rfl]
    refine ⟨.column, ?_⟩
    intro h
    cases h
    assumption
  | parameter =>
    refine iff_of_true ?_ .parameter
    rw [enclosedText_of_simple rfl]
    exact beginsWithOperator_of_ne (by decide) _
  | constant =>
    rw [enclosedText_of_simple rfl]
    refine ⟨.constant, ?_⟩
    intro h
    cases h
    assumption
  | lowered _ he ih => exact ((Lowering.rooted_lowerAll hr ih).of_ok he _ rfl).begins_iff

/-- An array that is composed ends in a cast only if it is a constant that is written with one. -/
theorem Composed.endsInCast_iff {admits : String → Prop} (hr : r.ReachableBy admits) (h : Composed r e)
    (hsequence : e.hostType.isSequence = true) :
    e.EndsInCast ↔ ∃ v t d literal, e = .constant v t (some d) ∧
      d.toplevel v = .ok (literal ++ "::" ++ d.storeType) := by
  constructor
  · intro hcast
    cases h with
    | column | parameter => cases hcast
    | constant =>
      cases hcast with
      | constant hliteral => exact ⟨_, _, _, _, rfl, hliteral⟩
    | lowered _ he =>
      have hrooted : Rooted (fun _ => True) e := (Lowering.rooted_lowerAll hr (by simp)).of_ok he _ rfl
      exact absurd hcast (hrooted.not_endsInCast hsequence)
  · rintro ⟨v, t, d, literal, rfl, hliteral⟩
    exact .constant hliteral

/-- At every node of what is composed, an operand that stands right at the symbol of the node is composed. -/
lemma Composed.touched (h : Composed r e) : Touched (Composed r) e := by
  induction h with
  | column | parameter | constant => exact .node (.of_arity rfl rfl) (.of_loose rfl) nofun
  | lowered hargs he ih =>
    exact (Lowering.yields_lowerAll (hereditary_touched (Composed r)) r hargs ih).of_ok he _ rfl

/-- What stands at the symbols of compositions. The text of each node stands in the whole text. If the node is an
operator before its operand that is no word, what follows its symbol is the operand in its parentheses, and this
begins with another operator exactly if the operand is such an operator or a parameter, a constant or column with such
a text, or an element of one of these. If it is an index, what it follows is the array in its parentheses, and this
ends in a cast exactly if it is a constant that is written with one. -/
theorem neighbours_of_composed {admits : String → Prop} (hr : r.ReachableBy admits) (he : Composed r e)
    (hn : Occurs n e) :
    ∃ before after, e.text = before ++ n.text ++ after ∧
      (∀ op, n.kind = .unary op → op.isTrailing = false → op ≠ .not →
        ∃ operand, n.operands = [operand] ∧ n.text = op.symbol ++ operand.enclosedText ∧
          (beginsWithOperator (operand.enclosedText ++ after) = true ↔ operand.BeginsWithOperator)) ∧
      (n.kind = .subscript →
        ∃ array index, n.operands = [array, index] ∧ n.text = array.enclosedText ++ ("[" ++ (index.text ++ "]")) ∧
          (array.EndsInCast ↔ ∃ v t d literal, array = .constant v t (some d) ∧
            d.toplevel v = .ok (literal ++ "::" ++ d.storeType))) := by
  obtain ⟨before, after, htext, hafter⟩ := hn.standsIn he.touched.sound
  refine ⟨before, after, htext, ?unary, ?subscript⟩
  case unary =>
    intro op hkind htrailing hword
    cases hn.touched he.touched with
    | node hfits htouch _ =>
      cases hkind
      obtain ⟨operand, rfl⟩ := List.length_eq_one_iff.1 (hfits.arity 1 rfl)
      have htight : (ExprKind.unary op).isTight = true := by simp [ExprKind.isTight, htrailing, hword]
      refine ⟨operand, rfl, text_prefixed htight operand, ?_⟩
      rw [beginsWithOperator_append hafter]
      exact (htouch htight operand rfl).1.begins_iff hr
  case subscript =>
    intro hkind
    cases hn.touched he.touched with
    | node hfits htouch _ =>
      cases hkind
      obtain ⟨array, index, rfl⟩ := List.length_eq_two.1 (hfits.arity 2 rfl)
      obtain ⟨harray, hsequence⟩ := htouch rfl array rfl
      exact ⟨array, index, rfl, text_subscript array index, harray.endsInCast_iff hr (hsequence rfl)⟩

/-- What an operation on one composed operand gives is composed. -/
lemma Composed.lowered_one {o : Operation} {operand : Expr} (h : Composed r operand)
    (he : Lowering.lowerAll (Lowering.standard r) o [operand] = .ok (some e)) : Composed r e :=
  .lowered (List.forall_mem_singleton.2 h) he

/-- The negation of the first query of a column. -/
theorem neighbours_of_composed_of_queries :
    ∃ negated element : Expr, Composed (.builtin {}) negated ∧ Occurs element negated ∧
      negated.text = "!!queries[1]" ∧ negated.operands = [element] ∧ ¬ element.BeginsWithOperator ∧
      ∃ array index, element.operands = [array, index] ∧ ¬ array.EndsInCast := by
  have hr : (Registry.builtin {}).ReachableBy (fun _ => True) := .builtin {}
  have hqueries : Composed (.builtin {}) (.column none "queries" true (.array (.scalar .tsQuery)) none) := .column
  have helement := hqueries.lowered_one (o := .method .array "First" 1) rfl
  have hnegated := helement.lowered_one (o := .method .fullTextSearch "ToNegative" 1) rfl
  obtain ⟨_, after, -, hunary, -⟩ := neighbours_of_composed hr hnegated .here
  obtain ⟨element, hoperand, -, hbegins⟩ := hunary .textSearchNegate rfl rfl (by decide)
  cases hoperand
  obtain ⟨_, _, -, -, hsubscript⟩ := neighbours_of_composed hr hnegated (.within List.mem_cons_self .here)
  obtain ⟨array, index, hoperands, -, hcast⟩ := hsubscript rfl
  refine ⟨_, _, hnegated, .within List.mem_cons_self .here, by decide +kernel, rfl, ?_, array, index, hoperands, ?_⟩
  · rw [← hbegins, beginsWithOperator_of_ne (by decide +kernel)]
    decide +kernel
  · rw [hcast]
    cases hoperands
    rintro ⟨_, _, _, _, ⟨⟩, -⟩

/-- The complement of a complement, and the first element of a constant array. -/
theorem symbols_run_together :
    ∃ complement element : Expr, Composed (.builtin {}) complement ∧ Composed (.builtin {}) element ∧
      complement.text = "~~addr" ∧ complement.kind = .unary .bitwiseNot ∧
      (∃ operand, complement.operands = [operand] ∧ beginsWithOperator operand.enclosedText = true) ∧
      element.text = "ARRAY[1,2]::integer[][1]" ∧ element.kind = .subscript ∧
      ∃ array index, element.operands = [array, index] ∧ array.EndsInCast := by
  let numbers : HostValue := .array [.int32 1, .int32 2]
  have hfind : ((Registry.builtin {}).findHost (.array (.scalar .int32))).isSome = true := by decide +kernel
  obtain ⟨d, hd⟩ := Option.isSome_iff_exists.1 hfind
  have hnumbers : constantOf (.builtin {}) numbers = .constant numbers (.array (.scalar .int32)) (some d) := by
    rw [← hd]
    rfl
  have hcomposed : Composed (.builtin {}) (constantOf (.builtin {}) numbers) := hnumbers ▸ .constant
  have haddress : Composed (.builtin {}) (.column none "addr" true (.scalar .ipNetwork) none) := .column
  have hliteral : (d.toplevel numbers) = .ok ("ARRAY[1,2]" ++ "::" ++ d.storeType) := by
    have hall : ((Registry.builtin {}).findHost (.array (.scalar .int32))).all (fun d =>
        (d.toplevel numbers).toOption == some ("ARRAY[1,2]" ++ "::" ++ d.storeType)) = true := by decide +kernel
    rw [hd] at hall
    exact ok_of_toOption (beq_iff_eq.1 hall)
  refine ⟨_, _, (haddress.lowered_one (o := .method .network "BitwiseNot" 1) rfl).lowered_one
    (o := .method .network "BitwiseNot" 1) rfl, hcomposed.lowered_one (o := .method .array "First" 1) rfl,
    by decide +kernel, rfl, ⟨_, rfl, by decide +kernel⟩, by decide +kernel, rfl, _, _, rfl, ?_⟩
  rw [hnumbers]
  exact .constant hliteral

end Expr

end SqlBridge
