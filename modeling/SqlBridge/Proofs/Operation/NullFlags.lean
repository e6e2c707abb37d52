import SqlBridge.Proofs.Expr.NullFlags
import SqlBridge.Proofs.Operation.Chain

/-!
# Null flags of lowered operations

Every lowering of the standard chain builds its nodes with fitting flags, whatever it is given, and so
keeps the flags of its operands fit.
-/

namespace SqlBridge

open SqlBridge.Expr

/-- An expression that is made of the operation has the property, and a failure is none of the flags. -/
abbrev Lowered.Yields (P : Expr → Prop) (x : Lowered) : Prop :=
  Meets (fun answer => ∀ e, answer = some e → P e) NoMiscount x

variable {lead P : Expr → Prop} (hP : Hereditary lead P) (r : Registry)

namespace Lowered

omit hP

lemma yields_declined : Lowered.Yields P .declined :=
  gives_declined

lemma yields_built {x : Except Fault Expr} (hx : Expr.Yields P x) : Lowered.Yields P (.built x) :=
  gives_built hx

end Lowered

open Lowered

/-- The lowering of a table gives the property when each of its rows does. -/
lemma Lowering.yields_ofTable {α : Type} {name : String} {domains : List Domain}
    {accepts : Expr → Bool} {table : List (String × α)} {lower : α → Operation → List Expr → Lowered}
    {o : Operation} {args : List Expr} (h : ∀ a, Lowered.Yields P (lower a o args)) :
    Lowered.Yields P ((Lowering.ofTable name domains accepts table lower).lower o args) :=
  Lowering.gives_ofTable fun a _ _ _ => h a

variable {o : Operation} {args : List Expr}

include hP

namespace ArrayOperation

variable {array item : Expr}

lemma yields_cardinality (harray : P array) : Expr.Yields P (cardinality r array) :=
  hP.strictCall r (by simpa)

lemma yields_index (harray : P array) (hitem : P item) : Expr.Yields P (index r array item) := by
  rw [index]
  apply Meets.bind (hP.function r rfl (by simp [harray, hP.retypeElement r array hitem]))
  intro place hplace
  apply Meets.bind (hP.offset r _ hplace)
  intro fromZero hfromZero
  exact hP.function r rfl (by simp [hfromZero, hP.constantOf])

lemma yields_build (op : ArrayOperation) (hlead : ∀ e ∈ args, lead e) (hargs : ∀ e ∈ args, P e) :
    Lowered.Yields P (build r op args) := by
  unfold build
  -- one case for each row of the lowering, the last one for operands that no row takes
  split
  case h_13 => exact yields_declined
  all_goals
    simp only [List.forall_mem_cons] at hargs
    apply yields_built
  case h_1 array => exact yields_cardinality hP r hargs.1
  case h_2 array =>
    apply Meets.bind (yields_cardinality hP r hargs.1)
    exact fun count hcount => hP.predicate r hcount (hP.constantOf r _)
  case h_3 array => exact hP.subscript r (hlead array List.mem_cons_self) hargs.1 (hP.constantOf r _)
  case h_4 array index =>
    apply Meets.bind (hP.offset r _ hargs.2.1)
    exact fun fromOne hfromOne => hP.subscript r (hlead array List.mem_cons_self) hargs.1 hfromOne
  case h_5 array item => exact hP.anyOf r hargs.2.1 hargs.1
  case h_6 array item => exact yields_index hP r hargs.1 hargs.2.1
  case h_7 array other => exact hP.binary r rfl hargs.1 hargs.2.1
  case h_8 array item | h_9 array item | h_10 array item =>
    have hitem := hP.retypeElement r array hargs.2.1
    exact hP.function r rfl (by simp [hargs.1, hitem])
  case h_11 array separator => exact hP.strictCall r (by simpa using hargs)
  case h_12 op array other => exact hP.predicate r hargs.1 hargs.2.1

end ArrayOperation

namespace RangeOperation

variable {range other : Expr}

lemma holds_retypeBound (range : Expr) (hother : P other) : P (retypeBound r range other) := by
  rw [retypeBound]
  cases subtypeMapping range with
  | none => exact hother
  | some d => exact hP.retype r d hother

lemma yields_collect (name : String) (multi : Bool) (hrange : P range) :
    Expr.Yields P (collect r name multi range) := by
  rw [collect]
  cases multi <;> exact hP.aggregate r rfl (by simp) (by simpa)

lemma yields_build (op : RangeOperation) (hargs : ∀ e ∈ args, P e) :
    Lowered.Yields P (build r op args) := by
  unfold build
  split
  case h_10 => exact yields_declined
  all_goals simp only [List.forall_mem_cons] at hargs
  case h_1 op range other =>
    exact yields_built (hP.predicate r hargs.1 (holds_retypeBound hP r range hargs.2.1))
  case h_2 op range other => exact yields_built (hP.combine r hargs.1 hargs.2.1)
  case h_3 name range => exact yields_built (hP.strictCall r (by simpa using hargs))
  case h_4 name range =>
    split
    · exact yields_declined
    · exact yields_built (hP.function r rfl (by simpa using hargs))
  case h_5 range other =>
    split
    · exact yields_declined
    · exact yields_built (hP.function r rfl (by simpa using hargs))
  case h_6 range =>
    split
    · exact yields_built (hP.function r rfl (by simpa using hargs))
    · exact yields_declined
  case h_7 range =>
    split
    · apply yields_built
      apply Meets.bind (hP.strictCall r (by simpa using hargs))
      exact fun empty hempty => hP.unary r rfl nofun hempty
    · exact yields_declined
  case h_8 range => exact yields_built (yields_collect hP r _ _ hargs.1)
  case h_9 range => exact yields_built (yields_collect hP r _ _ hargs.1)

end RangeOperation

namespace DocumentOperation

variable {document key : Expr} {steps : List Expr}

lemma yields_textOf (hdocument : P document) (hkey : P key) :
    Expr.Yields P (textOf r document key) :=
  hP.binary r rfl hdocument hkey

lemma yields_pathOf (hsteps : ∀ e ∈ steps, P e) : Expr.Yields P (pathOf r steps) := by
  rw [pathOf.eq_def]
  split
  · rename_i step
    by_cases hsequence : step.hostType.isSequence = true
    · rw [if_pos hsequence]
      exact hsteps step List.mem_cons_self
    · rw [if_neg hsequence]
      exact hP.arrayOf r rfl hsteps
  · exact hP.arrayOf r (List.length_map _) hsteps

lemma yields_build (op : DocumentOperation) (hargs : ∀ e ∈ args, P e) :
    Lowered.Yields P (build r op o args) := by
  unfold build
  split
  case h_9 => exact yields_declined
  all_goals rw [List.forall_mem_cons] at hargs
  case h_1 document key =>
    exact yields_built (hP.combine r hargs.1 (hargs.2 key List.mem_cons_self))
  case h_2 document key =>
    exact yields_built (yields_textOf hP r hargs.1 (hargs.2 key List.mem_cons_self))
  case h_3 target document key =>
    apply yields_built
    rw [Registry.requireHost]
    cases r.findHost (.scalar target) with
    | none => exact noMiscount_of_ne nofun
    | some d =>
      apply Meets.bind (yields_textOf hP r hargs.1 (hargs.2 key List.mem_cons_self))
      exact fun text htext => hP.castWith d htext
  case h_4 document => exact yields_built (hP.strictCall r (by simpa using hargs))
  case h_5 document => exact yields_built (hP.strictCall r (by simpa using hargs))
  case h_6 op document other =>
    split
    · exact yields_built (hP.predicate r hargs.1 (hargs.2 other List.mem_cons_self))
    · exact noMiscount_of_ne nofun
  case h_7 document step steps =>
    apply yields_built
    apply Meets.bind (yields_pathOf hP r hargs.2)
    exact fun path hpath => hP.combine r hargs.1 hpath
  case h_8 document step steps =>
    apply yields_built
    apply Meets.bind (yields_pathOf hP r hargs.2)
    exact fun path hpath => hP.binary r rfl hargs.1 hpath

end DocumentOperation

namespace NetworkOperation

lemma yields_build (op : NetworkOperation) (hlead : ∀ e ∈ args, lead e) (hargs : ∀ e ∈ args, P e) :
    Lowered.Yields P (build r op args) := by
  unfold build
  split
  case h_10 => exact yields_declined
  all_goals simp only [List.forall_mem_cons] at hargs
  case h_1 op left right => exact yields_built (hP.predicate r hargs.1 hargs.2.1)
  case h_2 op left right => exact yields_built (hP.combine r hargs.1 hargs.2.1)
  case h_3 name result operand => exact yields_built (hP.strictCall r (by simpa using hargs))
  case h_4 name operand => exact yields_built (hP.function r rfl (by simpa using hargs))
  case h_5 operand => exact yields_built (hP.unary r rfl (fun _ => hlead operand List.mem_cons_self) hargs.1)
  case h_6 left right =>
    split
    · exact yields_built (hP.binary r rfl hargs.1 hargs.2.1)
    · exact yields_built (hP.combine r hargs.1 hargs.2.1)
  case h_7 operand length => exact yields_built (hP.function r rfl (by simpa using hargs))
  case h_8 left right => exact yields_built (hP.strictCall r (by simpa using hargs))
  case h_9 left right => exact yields_built (hP.strictCall r (by simpa using hargs))

end NetworkOperation

namespace SearchOperation

variable {e : Expr}

lemma yields_configuration (he : P e) : Expr.Yields P (configuration r e) := by
  rw [configuration]
  cases constantText? e with
  | some name => exact hP.constantAs r _ _
  | none =>
    simp only
    by_cases hconfig : e.storeType? = some "regconfig"
    · rw [if_pos hconfig]
      exact he
    · rw [if_neg hconfig]
      exact hP.castTo r _ he

lemma yields_query (he : P e) : Expr.Yields P (query r e) := by
  rw [query]
  by_cases htext : e.hostType = .scalar .string
  · rw [if_pos htext]
    exact hP.strictCall r (by simpa)
  · rw [if_neg htext]
    exact he

lemma yields_build (op : SearchOperation) (hlead : ∀ e ∈ args, lead e) (hargs : ∀ e ∈ args, P e) :
    Lowered.Yields P (build r op args) := by
  unfold build
  split
  case h_11 => exact yields_declined
  all_goals apply yields_built
  case h_3 name result args => exact hP.strictCall r hargs
  all_goals simp only [List.forall_mem_cons] at hargs
  case h_1 name result text => exact hP.strictCall r (by simpa using hargs)
  case h_2 name result config text =>
    apply Meets.bind (yields_configuration hP r hargs.1)
    exact fun chosen hchosen => hP.strictCall r (by simp [hchosen, hargs])
  case h_4 query document => exact hP.strictCall r (by simp [hargs])
  case h_5 query document options => exact hP.strictCall r (by simp [hargs])
  case h_6 query config document options =>
    apply Meets.bind (yields_configuration hP r hargs.2.1)
    exact fun chosen hchosen => hP.strictCall r (by simp [hchosen, hargs])
  case h_7 left right =>
    apply Meets.bind (yields_query hP r hargs.2.1)
    exact fun query hquery => hP.predicate r hargs.1 hquery
  case h_8 op left right => exact hP.combine r hargs.1 hargs.2.1
  case h_9 op left right => exact hP.predicate r hargs.1 hargs.2.1
  case h_10 query => exact hP.unary r rfl (fun _ => hlead query List.mem_cons_self) hargs.1

end SearchOperation

namespace TrigramOperation

lemma yields_build (op : TrigramOperation) (hargs : ∀ e ∈ args, P e) :
    Lowered.Yields P (build r op args) := by
  unfold build
  split
  case h_5 => exact yields_declined
  all_goals apply yields_built
  case h_1 text => exact hP.strictCall r hargs
  case h_2 name left right => exact hP.strictCall r hargs
  all_goals simp only [List.forall_mem_cons] at hargs
  case h_3 op left right => exact hP.predicate r hargs.1 hargs.2.1
  case h_4 op left right => exact hP.binary r rfl hargs.1 hargs.2.1

end TrigramOperation

namespace FuzzyOperation

lemma yields_build (op : FuzzyOperation) (hargs : ∀ e ∈ args, P e) :
    Lowered.Yields P (build r op args) := by
  rw [build]
  split
  · exact yields_built (hP.strictCall r hargs)
  · exact yields_declined

end FuzzyOperation

namespace RegexOperation

variable {input pattern replacement : Expr} {options : RegexOptions}

lemma yields_marked (hpattern : P pattern) : Expr.Yields P (marked r pattern options) := by
  rw [marked]
  by_cases hempty : options.letters.isEmpty = true
  · rw [if_pos hempty]
    exact hpattern
  · rw [if_neg hempty]
    cases constantText? pattern with
    | some text => exact hP.constantOf r _
    | none => exact hP.binary r rfl (hP.constantOf r _) hpattern

lemma yields_matching (hinput : P input) (hpattern : P pattern) :
    Expr.Yields P (matching r input pattern options) := by
  rw [matching]
  apply Meets.bind (yields_marked hP r hpattern)
  exact fun whole hwhole => hP.predicate r hinput hwhole

lemma holds_letterArgument (leading : String) : P (letterArgument r leading options) :=
  hP.constantOf r _

omit hP in
lemma yields_withOptions {rest : List Expr} {expression : RegexOptions → Except Fault Expr}
    (h : ∀ options, Expr.Yields P (expression options)) :
    Lowered.Yields P (withOptions rest expression) := by
  rw [withOptions]
  cases trailingOptions? rest with
  | none => exact yields_declined
  | some options => exact yields_built (h options)

lemma yields_build (op : RegexOperation) (hargs : ∀ e ∈ args, P e) :
    Lowered.Yields P (build r op args) := by
  unfold build
  split
  case h_5 => exact yields_declined
  all_goals
    simp only [List.forall_mem_cons] at hargs
    apply yields_withOptions
    intro options
  case h_1 input pattern rest => exact yields_matching hP r hargs.1 hargs.2.1
  case h_2 input pattern replacement rest =>
    exact hP.strictCall r (by simp [hargs.1, hargs.2.1, hargs.2.2.1, holds_letterArgument hP r])
  case h_3 input pattern rest =>
    exact hP.strictCall r (by simp [hargs.1, hargs.2.1, hP.constantOf r, holds_letterArgument hP r])
  case h_4 input pattern rest =>
    exact hP.strictCall r (by simp [hargs.1, hargs.2.1, holds_letterArgument hP r])

end RegexOperation

namespace BytesOperation

variable {bytes value index : Expr}

lemma yields_place (hbytes : P bytes) (hvalue : P value) :
    Expr.Yields P (place r bytes value) := by
  rw [place]
  apply Meets.bind (hP.constantAs r _ _)
  intro zero hzero
  apply Meets.bind (hP.strictCall r (by simp [hzero, hvalue, hP.constantOf r]))
  intro needle hneedle
  exact hP.position r hneedle hbytes

lemma yields_byteAt (hbytes : P bytes) (hindex : P index) :
    Expr.Yields P (byteAt r bytes index) :=
  hP.strictCall r (by simp [hbytes, hindex])

lemma yields_build (op : BytesOperation) (hargs : ∀ e ∈ args, P e) :
    Lowered.Yields P (build r op args) := by
  unfold build
  split
  case h_7 => exact yields_declined
  all_goals
    simp only [List.forall_mem_cons] at hargs
    apply yields_built
  case h_1 bytes => exact hP.strictCall r (by simpa using hargs)
  case h_2 bytes value =>
    apply Meets.bind (yields_place hP r hargs.1 hargs.2.1)
    exact fun place hplace => hP.predicate r hplace (hP.constantOf r _)
  case h_3 bytes value =>
    apply Meets.bind (yields_place hP r hargs.1 hargs.2.1)
    exact fun place hplace => hP.offset r _ hplace
  case h_4 bytes => exact yields_byteAt hP r hargs.1 (hP.constantOf r _)
  case h_5 bytes index => exact yields_byteAt hP r hargs.1 hargs.2.1
  case h_6 bytes other => exact hP.predicate r hargs.1 hargs.2.1

end BytesOperation

namespace StatisticsOperation

lemma yields_ofPair (name : String) (result : Scalar) {pair : Expr × Expr} (hfirst : P pair.1)
    (hsecond : P pair.2) : Expr.Yields P (ofPair r name result pair) :=
  hP.aggregate r rfl (by simp) (by simp [hfirst, hsecond])

lemma yields_build (op : StatisticsOperation) (hargs : ∀ e ∈ args, P e) :
    Lowered.Yields P (build r op args) := by
  unfold build
  split
  case h_4 => exact yields_declined
  all_goals simp only [List.forall_mem_cons] at hargs
  case h_1 name values =>
    split
    · exact yields_built (hP.aggregate r rfl (by simp) (by simpa using hargs))
    · exact yields_declined
  case h_2 name result e =>
    split
    · rename_i pair hpair
      obtain ⟨hfirst, hsecond⟩ := hP.pair? r hargs.1 hpair
      exact yields_built (yields_ofPair hP r _ _ hfirst hsecond)
    · exact yields_declined
  case h_3 name result y x => exact yields_built (yields_ofPair hP r _ _ hargs.1 hargs.2.1)

end StatisticsOperation

namespace CollectOperation

variable {values separator : Expr}

lemma yields_joined (hvalues : P values) (hseparator : P separator) :
    Expr.Yields P (joined r values separator) := by
  rw [joined]
  apply Meets.bind (hP.aggregate r rfl (by simp) (by simp [hvalues, hseparator]))
  intro all hall
  exact hP.function r rfl (by simp [hall, hP.constantOf r])

lemma yields_collected (name store : String) (hargs : ∀ e ∈ args, P e) :
    Expr.Yields P (collected r name store args) :=
  hP.aggregate r (List.length_map _) (by simp) hargs

lemma yields_build (op : CollectOperation) (hargs : ∀ e ∈ args, P e) :
    Lowered.Yields P (build r op args) := by
  unfold build
  split
  case h_1 values separator =>
    simp only [List.forall_mem_cons] at hargs
    exact yields_built (yields_joined hP r hargs.1 hargs.2.1)
  case h_2 values => exact yields_built (hP.aggregate r rfl (by simp) hargs)
  case h_3 name store values => exact yields_built (yields_collected hP r _ _ hargs)
  case h_4 name store e =>
    split
    · rename_i key value hpair
      obtain ⟨hkey, hvalue⟩ := hP.pair? r (hargs e List.mem_cons_self) hpair
      exact yields_built (yields_collected hP r _ _ (by simp [hkey, hvalue]))
    · exact yields_declined
  case h_5 => exact yields_declined

end CollectOperation

namespace RowOperation

variable {left right e : Expr}

lemma yields_asRow (he : P e) : Lowered.Yields P (asRow r e) := by
  rw [asRow]
  by_cases hrow : e.isRow = true
  · rw [if_pos hrow]
    intro e' h
    cases h
    exact he
  · rw [if_neg hrow]
    split
    · apply yields_built
      apply hP.rowOf (by simp)
      simp [hP.constantOf r]
    · exact yields_declined

lemma yields_compare (op : RowOperation) (hleft : P left) (hright : P right) :
    Expr.Yields P (compare r op o left right) := by
  rw [compare]
  by_cases hlength : left.operands.length = right.operands.length
  · rw [if_pos hlength]
    exact hP.binary r rfl hleft hright
  · rw [if_neg hlength]
    exact noMiscount_of_ne nofun

lemma yields_build (op : RowOperation) (hargs : ∀ e ∈ args, P e) :
    Lowered.Yields P (build r op o args) := by
  unfold build
  split
  case h_1 left right =>
    simp only [List.forall_mem_cons] at hargs
    apply Meets.bind (yields_asRow hP r hargs.1)
    intro leftRow hleft
    apply Meets.bind (yields_asRow hP r hargs.2.1)
    intro rightRow hright
    cases leftRow with
    | none => exact yields_declined
    | some l =>
      cases rightRow with
      | none => exact yields_declined
      | some d => exact yields_built (yields_compare hP r op (hleft l rfl) (hright d rfl))
  case h_2 => exact yields_declined

end RowOperation

/-! ## The standard chain -/

namespace Lowering

omit hP in
/-- A chain keeps what each of its lowerings keeps. -/
lemma yields_firstOf {chain : List Lowering} (h : ∀ l ∈ chain, Lowered.Yields P (l.lower o args)) :
    Lowered.Yields P (firstOf o args chain) :=
  gives_firstOf h

lemma yields_standard (hlead : ∀ e ∈ args, lead e) (hargs : ∀ e ∈ args, P e) :
    ∀ l ∈ standard r, Lowered.Yields P (l.lower o args) := by
  simp only [standard, List.forall_mem_cons]
  exact ⟨yields_ofTable fun op => ArrayOperation.yields_build hP r op hlead hargs,
    yields_ofTable fun op => RangeOperation.yields_build hP r op hargs,
    yields_ofTable fun op => DocumentOperation.yields_build hP r op hargs,
    yields_ofTable fun op => NetworkOperation.yields_build hP r op hlead hargs,
    yields_ofTable fun op => SearchOperation.yields_build hP r op hlead hargs,
    yields_ofTable fun op => TrigramOperation.yields_build hP r op hargs,
    yields_ofTable fun op => FuzzyOperation.yields_build hP r op hargs,
    yields_ofTable fun op => RegexOperation.yields_build hP r op hargs,
    yields_ofTable fun op => BytesOperation.yields_build hP r op hargs,
    yields_ofTable fun op => StatisticsOperation.yields_build hP r op hargs,
    yields_ofTable fun op => CollectOperation.yields_build hP r op hargs,
    yields_ofTable fun op => RowOperation.yields_build hP r op hargs, List.forall_mem_nil _⟩

lemma yields_lowerAll (hlead : ∀ e ∈ args, lead e) (hargs : ∀ e ∈ args, P e) :
    Lowered.Yields P (lowerAll (standard r) o args) := by
  rw [lowerAll]
  by_cases harity : args.length = o.arity
  · rw [if_pos harity]
    exact yields_firstOf (yields_standard hP r hlead hargs)
  · rw [if_neg harity]
    apply noMiscount_of_ne
    intro subject expected got h
    cases h

lemma yields_requireAll (hlead : ∀ e ∈ args, lead e) (hargs : ∀ e ∈ args, P e) :
    Expr.Yields P (requireAll (standard r) o args) := by
  rw [requireAll]
  apply Meets.bind (yields_lowerAll hP r hlead hargs)
  intro answer hanswer
  cases answer with
  | none => exact noMiscount_of_ne nofun
  | some e => exact hanswer e rfl

omit hP in
/-- Operands whose flags fit at every node are lowered to expressions whose flags do; whatever the
operands are, no failure comes from flags. -/
theorem sound_of_lowerAll (r : Registry) (o : Operation) (args : List Expr) :
    ((∀ e ∈ args, e.Sound) → ∀ e, lowerAll (standard r) o args = .ok (some e) → e.Sound)
      ∧ (∀ f, lowerAll (standard r) o args = .error f → f.report.code ≠ ⟨104⟩)
      ∧ ∀ f, requireAll (standard r) o args = .error f → f.report.code ≠ ⟨104⟩ := by
  refine ⟨?_, ?_, ?_⟩
  · intro hargs e he
    exact (yields_lowerAll (hereditary_sound fun _ => True) r (by simp) hargs).of_ok he e rfl
  · intro f hf
    exact (yields_lowerAll (hereditary_true fun _ => True) r (by simp) (by simp)).of_error hf
  · intro f hf
    exact (yields_requireAll (hereditary_true fun _ => True) r (by simp) (by simp)).of_error hf

omit hP in
/-- Texts of a group, joined by a separator. -/
theorem sound_of_lowerAll_of_join :
    ∃ e, lowerAll (standard (.builtin {})) (.method .aggregate "StringJoin" 2)
        [.column none "name" true (.scalar .string) none,
          .constantOf (.builtin {}) (.string ", ")] = .ok (some e)
      ∧ e.text = "COALESCE(string_agg(name, ', '), '')" ∧ e.Sound := by
  have hargs : ∀ e ∈ [Expr.column none "name" true (.scalar .string) none,
      .constantOf (.builtin {}) (.string ", ")], e.Sound := by
    have hcolumn : (Expr.column none "name" true (.scalar .string) none).Sound :=
      .node (.of_arity rfl rfl) nofun
    simp [hcolumn, (hereditary_sound fun _ => True).constantOf]
  have hsound := (sound_of_lowerAll (.builtin {}) (.method .aggregate "StringJoin" 2) _).1 hargs
  exact ⟨_, rfl, by decide +kernel, hsound _ rfl⟩

end Lowering

end SqlBridge
