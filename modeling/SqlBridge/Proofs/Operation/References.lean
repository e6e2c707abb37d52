import Mathlib.Algebra.BigOperators.Group.List.Basic
import SqlBridge.Expr.Printer
import SqlBridge.Proofs.Expr.References
import SqlBridge.Proofs.Operation.Chain

/-!
# References of lowered operations

Every lowering of the standard chain puts each of its operands into its result once, apart from constants,
which refer to nothing: none is lost, and none is doubled. The failures that a lowering can run into are
named on the way.
-/

namespace SqlBridge

open SqlBridge.Expr

/-- An expression that is made of the operation has the references, and a failure has the property. -/
abbrev Lowered.Refers (m : Multiset Reference) (Q : Fault → Prop) (x : Lowered) : Prop :=
  Lowered.Gives (fun e => e.references = m) Q x

/-- The property covers the failures that lowerings of an operation can run into. -/
structure Operation.Covers (r : Registry) (o : Operation) (args : List Expr) (Q : Fault → Prop) :
    Prop where
  store (name : String) : name ∈ ["bytea", "regconfig"] → r.findStore name = none →
    Q (.noStoreMapping name)
  host (target : Scalar) : r.findHost (.scalar target) = none → Q (.noHostMapping (.scalar target))
  document (op : BinaryOp) (document other : Expr) : o.domain = .json →
    Entries.get? o.name DocumentOperation.table = some (.compare op) → args = [document, other] →
    DocumentOperation.isBinary? document = some false → Q (.binaryJsonOnly o.name o.text)
  emptyTuple (op : RowOperation) (left right : Expr) : o.domain = .rowValue →
    Entries.get? o.name RowOperation.table = some op → args = [left, right] →
    left.value? = some (.tuple []) ∨ right.value? = some (.tuple []) → Q .emptyRow
  lengths (op : RowOperation) (left right l d : Expr) : o.domain = .rowValue →
    Entries.get? o.name RowOperation.table = some op → args = [left, right] →
    RowOperation.asRow r left = .ok (some l) → RowOperation.asRow r right = .ok (some d) →
    l.operands.length ≠ d.operands.length →
    Q (.rowLengths o.text l.operands.length d.operands.length)

open Lowered

variable (r : Registry) {o : Operation} {args : List Expr} {m : Multiset Reference}
  {Q : Fault → Prop}

namespace ArrayOperation

variable {array item : Expr}

lemma refers_cardinality : Expr.Refers array.references Q (cardinality r array) :=
  refers_strictCall r (by simp)

lemma refers_index :
    Expr.Refers (array.references + item.references) Q (index r array item) := by
  rw [index]
  apply Meets.bind (refers_function r rfl rfl)
  intro place hplace
  apply Meets.bind (refers_offset r _ hplace)
  intro fromZero hfromZero
  exact refers_function r rfl (by simp [hfromZero])

lemma refers_build (op : ArrayOperation)
    (hfirst : ∃ first ∈ args.head?, first.hostType.isSequence = true) :
    Lowered.Refers (args.map references).sum Q (build r op args) := by
  obtain ⟨first, hhead, hsequence⟩ := hfirst
  unfold build
  -- one case for each row of the lowering, the last one for operands that no row takes
  split
  case h_13 => exact gives_declined
  all_goals
    cases hhead
    apply gives_built
  case h_1 => simpa using refers_cardinality r
  case h_2 =>
    apply Meets.bind (refers_cardinality r)
    intro count hcount
    exact refers_predicate r (by simp [hcount])
  case h_3 => exact refers_subscript r hsequence (by simp)
  case h_4 index =>
    apply Meets.bind (refers_offset r _ rfl)
    intro fromOne hfromOne
    exact refers_subscript r hsequence (by simp [hfromOne])
  case h_5 item => exact refers_anyOf r (by simp [add_comm])
  case h_6 item => simpa using refers_index r
  case h_7 other => exact refers_binary r rfl (by simp)
  case h_8 item | h_10 item => exact refers_function r rfl (by simp)
  case h_9 item => exact refers_function r rfl (by simp [add_comm])
  case h_11 separator => exact refers_strictCall r (by simp)
  case h_12 op other => exact refers_predicate r (by simp)

end ArrayOperation

namespace RangeOperation

@[simp] lemma references_retypeBound (range other : Expr) :
    (retypeBound r range other).references = other.references := by
  rw [retypeBound]
  cases subtypeMapping range with
  | none => rfl
  | some d => exact references_retype r d other

lemma refers_collect (name : String) (multi : Bool) (range : Expr) :
    Expr.Refers range.references Q (collect r name multi range) := by
  rw [collect]
  cases multi <;> exact refers_aggregate r rfl (by simp)

lemma refers_build (op : RangeOperation) :
    Lowered.Refers (args.map references).sum Q (build r op args) := by
  unfold build
  split
  case h_10 => exact gives_declined
  case h_1 op range other => exact gives_built (refers_predicate r (by simp))
  case h_2 op range other => exact gives_built (refers_combine r (by simp))
  case h_3 name range => exact gives_built (refers_strictCall r rfl)
  case h_4 name range =>
    split
    · exact gives_declined
    · exact gives_built (refers_function r rfl rfl)
  case h_5 range other =>
    split
    · exact gives_declined
    · exact gives_built (refers_function r rfl rfl)
  case h_6 range =>
    split
    · exact gives_built (refers_function r rfl rfl)
    · exact gives_declined
  case h_7 range =>
    split
    · apply gives_built
      apply Meets.bind (refers_strictCall r rfl)
      exact fun empty hempty => refers_unary r rfl hempty
    · exact gives_declined
  case h_8 range | h_9 range => exact gives_built (by simpa using refers_collect r _ _ range)

end RangeOperation

namespace DocumentOperation

variable {document key : Expr} {steps : List Expr}

lemma refers_textOf :
    Expr.Refers (document.references + key.references) Q (textOf r document key) :=
  refers_binary r rfl rfl

lemma refers_pathOf : Expr.Refers (steps.map references).sum Q (pathOf r steps) := by
  rw [pathOf.eq_def]
  split
  · rename_i step
    by_cases hsequence : step.hostType.isSequence = true
    · rw [if_pos hsequence]
      exact (by simp : step.references = ([step].map references).sum)
    · rw [if_neg hsequence]
      exact refers_arrayOf r rfl rfl
  · exact refers_arrayOf r (List.length_map _) rfl

lemma refers_build (op : DocumentOperation) (hQ : o.Covers r args Q) (hdomain : o.domain = .json)
    (hget : Entries.get? o.name table = some op)
    (hfirst : ∃ first ∈ args.head?, (isBinary? first).isSome = true) :
    Lowered.Refers (args.map references).sum Q (build r op o args) := by
  obtain ⟨first, hhead, hbinary⟩ := hfirst
  unfold build
  split
  case h_9 => exact gives_declined
  all_goals cases hhead
  case h_1 key => exact gives_built (refers_combine r (by simp))
  case h_2 key => exact gives_built (by simpa using refers_textOf r)
  case h_3 target key =>
    apply gives_built
    rw [Registry.requireHost]
    cases hhost : r.findHost (.scalar target) with
    | none => exact hQ.host target hhost
    | some d =>
      apply Meets.bind (refers_textOf r)
      intro text htext
      exact refers_castWith d (by simpa using htext)
  case h_4 | h_5 => exact gives_built (refers_strictCall r rfl)
  case h_6 op other =>
    by_cases hjsonb : isBinary? first = some true
    · rw [if_pos hjsonb]
      exact gives_built (refers_predicate r (by simp))
    · rw [if_neg hjsonb]
      obtain ⟨form, hform⟩ := Option.isSome_iff_exists.1 hbinary
      cases form with
      | true => exact absurd hform hjsonb
      | false => exact hQ.document op first other hdomain hget rfl hform
  case h_7 step steps =>
    apply gives_built
    apply Meets.bind (refers_pathOf r)
    intro path hpath
    exact refers_combine r (by simp [hpath])
  case h_8 step steps =>
    apply gives_built
    apply Meets.bind (refers_pathOf r)
    intro path hpath
    exact refers_binary r rfl (by simp [hpath])

end DocumentOperation

namespace NetworkOperation

lemma refers_build (op : NetworkOperation) :
    Lowered.Refers (args.map references).sum Q (build r op args) := by
  unfold build
  split
  case h_10 => exact gives_declined
  case h_1 op left right => exact gives_built (refers_predicate r (by simp))
  case h_2 op left right => exact gives_built (refers_combine r (by simp))
  case h_3 name result operand => exact gives_built (refers_strictCall r rfl)
  case h_4 name operand => exact gives_built (refers_function r rfl rfl)
  case h_5 operand => exact gives_built (refers_unary r rfl (by simp))
  case h_6 left right =>
    split
    · exact gives_built (refers_binary r rfl (by simp))
    · exact gives_built (refers_combine r (by simp))
  case h_7 operand length => exact gives_built (refers_function r rfl rfl)
  case h_8 left right | h_9 left right => exact gives_built (refers_strictCall r rfl)

end NetworkOperation

namespace SearchOperation

variable {e : Expr}

lemma refers_configuration (hQ : o.Covers r args Q) :
    Expr.Refers e.references Q (configuration r e) := by
  have hstore : r.findStore "regconfig" = none → Q (.noStoreMapping "regconfig") :=
    hQ.store "regconfig" (by simp)
  rw [configuration]
  cases htext : constantText? e with
  | some name =>
    rw [references_of_text htext]
    exact refers_constantAs r _ hstore
  | none =>
    simp only
    by_cases hconfig : e.storeType? = some "regconfig"
    · rw [if_pos hconfig]
      exact (rfl : e.references = e.references)
    · rw [if_neg hconfig]
      exact refers_castTo r hstore rfl

lemma refers_query : Expr.Refers e.references Q (query r e) := by
  rw [query]
  by_cases htext : e.hostType = .scalar .string
  · rw [if_pos htext]
    exact refers_strictCall r (by simp)
  · rw [if_neg htext]
    exact (rfl : e.references = e.references)

lemma refers_build (op : SearchOperation) (hQ : o.Covers r args Q) :
    Lowered.Refers (args.map references).sum Q (build r op args) := by
  unfold build
  split
  case h_11 => exact gives_declined
  all_goals apply gives_built
  case h_1 name result text => exact refers_strictCall r rfl
  case h_2 name result config text =>
    apply Meets.bind (refers_configuration r hQ)
    intro chosen hchosen
    exact refers_strictCall r (by simp [hchosen])
  case h_3 name result args => exact refers_strictCall r rfl
  case h_4 query document => exact refers_strictCall r (by simp [add_comm])
  case h_5 query document options => exact refers_strictCall r (by simp [add_left_comm])
  case h_6 query config document options =>
    apply Meets.bind (refers_configuration r hQ)
    intro chosen hchosen
    exact refers_strictCall r (by simp [hchosen, add_left_comm])
  case h_7 left right =>
    apply Meets.bind (refers_query r)
    intro query hquery
    exact refers_predicate r (by simp [hquery])
  case h_8 op left right => exact refers_combine r (by simp)
  case h_9 op left right => exact refers_predicate r (by simp)
  case h_10 query => exact refers_unary r rfl (by simp)

end SearchOperation

namespace TrigramOperation

lemma refers_build (op : TrigramOperation) :
    Lowered.Refers (args.map references).sum Q (build r op args) := by
  unfold build
  split
  case h_5 => exact gives_declined
  all_goals apply gives_built
  case h_1 text => exact refers_strictCall r rfl
  case h_2 name left right => exact refers_strictCall r rfl
  case h_3 op left right => exact refers_predicate r (by simp)
  case h_4 op left right => exact refers_binary r rfl (by simp)

end TrigramOperation

namespace FuzzyOperation

lemma refers_build (op : FuzzyOperation) :
    Lowered.Refers (args.map references).sum Q (build r op args) := by
  rw [build]
  split
  · exact gives_built (refers_strictCall r rfl)
  · exact gives_declined

end FuzzyOperation

namespace RegexOperation

variable {input pattern replacement : Expr} {options : RegexOptions} {rest : List Expr}

/-- Options are constants. -/
lemma references_of_options (h : trailingOptions? rest = some options) :
    (rest.map references).sum = 0 := by
  rw [trailingOptions?.eq_def] at h
  split at h
  · rfl
  · rename_i e
    rw [optionsOf?, Option.bind_eq_some_iff] at h
    obtain ⟨i, hi, _⟩ := h
    simpa using references_of_int hi
  · cases h

lemma refers_marked : Expr.Refers pattern.references Q (marked r pattern options) := by
  rw [marked]
  by_cases hempty : options.letters.isEmpty = true
  · rw [if_pos hempty]
    exact (rfl : pattern.references = pattern.references)
  · rw [if_neg hempty]
    cases htext : constantText? pattern with
    | some text => exact (references_constantOf r _).trans (references_of_text htext).symm
    | none => exact refers_binary r rfl (by simp)

lemma refers_matching :
    Expr.Refers (input.references + pattern.references) Q (matching r input pattern options) := by
  rw [matching]
  apply Meets.bind (refers_marked r)
  intro whole hwhole
  exact refers_predicate r (by rw [hwhole])

@[simp] lemma references_letterArgument (leading : String) :
    (letterArgument r leading options).references = 0 :=
  references_constantOf r _

lemma refers_withOptions {expression : RegexOptions → Except Fault Expr}
    (h : ∀ options, (rest.map references).sum = 0 → Expr.Refers m Q (expression options)) :
    Lowered.Refers m Q (withOptions rest expression) := by
  rw [withOptions]
  cases hoptions : trailingOptions? rest with
  | none => exact gives_declined
  | some options => exact gives_built (h options (references_of_options hoptions))

lemma refers_build (op : RegexOperation) :
    Lowered.Refers (args.map references).sum Q (build r op args) := by
  unfold build
  split
  case h_5 => exact gives_declined
  all_goals
    apply refers_withOptions
    intro options hrest
  case h_1 input pattern rest => simpa [hrest] using refers_matching r
  case h_2 input pattern replacement rest =>
    exact refers_strictCall r (by simp [hrest])
  case h_3 input pattern rest | h_4 input pattern rest =>
    exact refers_strictCall r (by simp [hrest])

end RegexOperation

namespace BytesOperation

variable {bytes value index : Expr}

lemma refers_place (hQ : o.Covers r args Q) :
    Expr.Refers (bytes.references + value.references) Q (place r bytes value) := by
  rw [place]
  apply Meets.bind (refers_constantAs r _ (hQ.store "bytea" (by simp)))
  intro zero hzero
  apply Meets.bind (refers_strictCall r rfl)
  intro needle hneedle
  exact refers_position r (by simp [hneedle, hzero, add_comm])

lemma refers_build (op : BytesOperation) (hQ : o.Covers r args Q) :
    Lowered.Refers (args.map references).sum Q (build r op args) := by
  unfold build
  split
  case h_7 => exact gives_declined
  all_goals apply gives_built
  case h_1 bytes => exact refers_strictCall r rfl
  case h_2 bytes value =>
    apply Meets.bind (refers_place r hQ)
    intro place hplace
    exact refers_predicate r (by simp [hplace])
  case h_3 bytes value =>
    apply Meets.bind (refers_place r hQ)
    intro place hplace
    exact refers_offset r _ (by simpa using hplace)
  case h_4 bytes => exact refers_strictCall r (by simp)
  case h_5 bytes index => exact refers_strictCall r rfl
  case h_6 bytes other => exact refers_predicate r (by simp)

end BytesOperation

namespace StatisticsOperation

lemma refers_ofPair (name : String) (result : Scalar) {pair : Expr × Expr}
    (hpair : pair.1.references + pair.2.references = m) :
    Expr.Refers m Q (ofPair r name result pair) :=
  refers_aggregate r rfl (by simpa using hpair)

lemma refers_build (op : StatisticsOperation) :
    Lowered.Refers (args.map references).sum Q (build r op args) := by
  unfold build
  split
  case h_4 => exact gives_declined
  case h_1 name values =>
    split
    · exact gives_built (refers_aggregate r rfl rfl)
    · exact gives_declined
  case h_2 name result e =>
    split
    · rename_i pair hpair
      exact gives_built (refers_ofPair r _ _ (by simpa using references_of_pair r hpair))
    · exact gives_declined
  case h_3 name result y x => exact gives_built (refers_ofPair r _ _ (by simp))

end StatisticsOperation

namespace CollectOperation

variable {values separator : Expr}

lemma refers_joined :
    Expr.Refers (values.references + separator.references) Q (joined r values separator) := by
  rw [joined]
  apply Meets.bind (refers_aggregate r rfl rfl)
  intro all hall
  exact refers_function r rfl (by simp [hall])

lemma refers_collected (name store : String) (hes : (args.map references).sum = m) :
    Expr.Refers m Q (collected r name store args) :=
  refers_aggregate r (List.length_map _) hes

lemma refers_build (op : CollectOperation) :
    Lowered.Refers (args.map references).sum Q (build r op args) := by
  unfold build
  split
  case h_1 values separator => exact gives_built (by simpa using refers_joined r)
  case h_2 values => exact gives_built (refers_aggregate r rfl rfl)
  case h_3 name store values => exact gives_built (refers_collected r _ _ rfl)
  case h_4 name store e =>
    split
    · rename_i key value hpair
      exact gives_built (refers_collected r _ _ (by simpa using references_of_pair r hpair))
    · exact gives_declined
  case h_5 => exact gives_declined

end CollectOperation

namespace RowOperation

variable {left right e : Expr}

lemma refers_asRow (hempty : e.value? = some (.tuple []) → Q .emptyRow) :
    Lowered.Refers e.references Q (asRow r e) := by
  rw [asRow]
  by_cases hrow : e.isRow = true
  · rw [if_pos hrow]
    intro e' h
    cases h
    rfl
  · rw [if_neg hrow]
    split
    · rename_i values hvalue
      apply gives_built
      apply refers_rowOf
      · intro hnil
        rw [List.map_eq_nil_iff] at hnil
        exact hempty (hnil ▸ hvalue)
      · simp
      · rw [references_of_value hvalue]
        simp [Function.comp_def, List.sum_replicate]
    · exact gives_declined

lemma refers_compare (op : RowOperation)
    (hlengths : left.operands.length ≠ right.operands.length →
      Q (.rowLengths o.text left.operands.length right.operands.length)) :
    Expr.Refers (left.references + right.references) Q (compare r op o left right) := by
  rw [compare]
  by_cases hlength : left.operands.length = right.operands.length
  · rw [if_pos hlength]
    exact refers_binary r rfl rfl
  · rw [if_neg hlength]
    exact hlengths hlength

lemma refers_build (op : RowOperation) (hQ : o.Covers r args Q) (hdomain : o.domain = .rowValue)
    (hget : Entries.get? o.name table = some op) :
    Lowered.Refers (args.map references).sum Q (build r op o args) := by
  unfold build
  split
  case h_2 => exact gives_declined
  case h_1 left right =>
    have hempty := hQ.emptyTuple op left right hdomain hget rfl
    have hleft := refers_asRow r fun h => hempty (.inl h)
    have hright := refers_asRow r fun h => hempty (.inr h)
    cases hl : asRow r left with
    | error f => exact hleft.of_error hl
    | ok leftRow =>
      cases hd : asRow r right with
      | error f => exact hright.of_error hd
      | ok rightRow =>
        cases leftRow with
        | none => exact gives_declined
        | some l =>
          cases rightRow with
          | none => exact gives_declined
          | some d =>
            have hlengths := hQ.lengths op left right l d hdomain hget rfl hl hd
            have hcompare := refers_compare r op hlengths
            rw [hleft.of_ok hl l rfl, hright.of_ok hd d rfl] at hcompare
            exact gives_built (by simpa using hcompare)

end RowOperation

/-! ## The standard chain -/

namespace Lowering

lemma refers_standard (hQ : o.Covers r args Q) :
    ∀ l ∈ standard r, Lowered.Refers (args.map references).sum Q (l.lower o args) := by
  simp only [standard, List.forall_mem_cons]
  exact ⟨gives_ofTable fun op _ _ => ArrayOperation.refers_build r op,
    gives_ofTable fun op _ _ _ => RangeOperation.refers_build r op,
    gives_ofTable fun op hdomain => DocumentOperation.refers_build r op hQ (List.mem_singleton.1 hdomain),
    gives_ofTable fun op _ _ _ => NetworkOperation.refers_build r op,
    gives_ofTable fun op _ _ _ => SearchOperation.refers_build r op hQ,
    gives_ofTable fun op _ _ _ => TrigramOperation.refers_build r op,
    gives_ofTable fun op _ _ _ => FuzzyOperation.refers_build r op,
    gives_ofTable fun op _ _ _ => RegexOperation.refers_build r op,
    gives_ofTable fun op _ _ _ => BytesOperation.refers_build r op hQ,
    gives_ofTable fun op _ _ _ => StatisticsOperation.refers_build r op,
    gives_ofTable fun op _ _ _ => CollectOperation.refers_build r op,
    gives_ofTable fun op hdomain hget _ =>
      RowOperation.refers_build r op hQ (List.mem_singleton.1 hdomain) hget,
    List.forall_mem_nil _⟩

lemma refers_firstOf_standard (hQ : o.Covers r args Q) :
    Lowered.Refers (args.map references).sum Q (firstOf o args (standard r)) :=
  gives_firstOf (refers_standard r hQ)

/-- An expression that the standard chain makes of an operation refers to the parameters and columns that
the operands refer to, each as often as they do. -/
theorem references_of_lowerAll (r : Registry) (o : Operation) (args : List Expr) (e : Expr)
    (h : lowerAll (standard r) o args = .ok (some e)) :
    e.references = (args.map references).sum := by
  have hcovers : o.Covers r args fun _ => True :=
    ⟨by simp, by simp, by simp, by simp, by simp⟩
  rw [lowerAll] at h
  by_cases harity : args.length = o.arity
  · rw [if_pos harity] at h
    exact (refers_firstOf_standard r hcovers).of_ok h e rfl
  · rw [if_neg harity] at h
    cases h

/-- A headline, whose operands come in another order than the arguments of the function. -/
theorem references_of_lowerAll_of_headline :
    ∃ e, lowerAll (standard (.builtin {})) (.method .fullTextSearch "GetResultHeadline" 4)
        [.parameter "query" (.scalar .tsQuery) none,
          .column (some "t") "config" true (.scalar .string) none,
          .column none "body" true (.scalar .string) none,
          .parameter "options" (.scalar .string) none] = .ok (some e)
      ∧ e.text = "ts_headline(t.config::regconfig, body, @query, @options)"
      ∧ e.references = {.parameter "query" (.scalar .tsQuery),
          .column (some "t") "config" true (.scalar .string),
          .column none "body" true (.scalar .string),
          .parameter "options" (.scalar .string)} := by
  have htext : (lowerAll (standard (.builtin {})) (.method .fullTextSearch "GetResultHeadline" 4)
      [.parameter "query" (.scalar .tsQuery) none,
        .column (some "t") "config" true (.scalar .string) none,
        .column none "body" true (.scalar .string) none,
        .parameter "options" (.scalar .string) none]).map (·.map Expr.text)
      = .ok (some "ts_headline(t.config::regconfig, body, @query, @options)") := by
    decide +kernel
  obtain ⟨answer, hanswer, hsome⟩ := ok_of_map htext
  obtain ⟨e, rfl, he⟩ := Option.map_eq_some_iff.1 hsome
  exact ⟨e, hanswer, he, (references_of_lowerAll _ _ _ _ hanswer).trans (by decide +kernel)⟩

end Lowering

end SqlBridge
