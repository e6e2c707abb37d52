import SqlBridge.Proofs.Expr.HostTypes
import SqlBridge.Proofs.Operation.Chain

/-!
# Host types of lowered operations

Most operations leave the descriptor of what they build to the registry, or give it that of an operand of the
same host type. A few borrow one without a look at its host type: that of an operand, or a descriptor within
it. What those build is typed exactly if the borrowed descriptor happens to be for the host type.
-/

namespace SqlBridge

open SqlBridge.Expr

/-! ## Borrowed descriptors -/

/-- The host type of the node that borrows its descriptor, and that descriptor. -/
def ArrayOperation.borrowed? (op : ArrayOperation) (args : List Expr) :
    Option (HostType × Option Descriptor) :=
  match op, args with
  | .first, [array] => array.hostType.element?.map (·, array.mapping.bind Descriptor.element?)
  | .elementAt, [array, _] => array.hostType.element?.map (·, array.mapping.bind Descriptor.element?)
  | _, _ => none

def RangeOperation.borrowed? (r : Registry) (op : RangeOperation) (args : List Expr) :
    Option (HostType × Option Descriptor) :=
  match op, args with
  | .bound _, [range] => some (subtype range, subtypeMapping range)
  | .merge, [range] => some (.range (subtype range), rangeMapping range)
  | .union, [range] => some (.multirange (subtype range), multirangeMapping r range)
  | .intersection, [range] =>
    if range.hostType.isMultirange then some (.multirange (subtype range), multirangeMapping r range)
    else some (.range (subtype range), rangeMapping range)
  | _, _ => none

def SearchOperation.borrowed? (op : SearchOperation) (args : List Expr) :
    Option (HostType × Option Descriptor) :=
  match op, args with
  | .negate, [query] => some (.scalar .tsQuery, query.mapping)
  | _, _ => none

def CollectOperation.borrowed? (op : CollectOperation) (args : List Expr) :
    Option (HostType × Option Descriptor) :=
  match op, args with
  | .text, [values, _] => some (.scalar .string, values.mapping)
  | _, _ => none

/-- The host type of the node for which the operation borrows a descriptor, and that descriptor. -/
def Operation.borrowed? (r : Registry) (o : Operation) (args : List Expr) :
    Option (HostType × Option Descriptor) :=
  match o.domain with
  | .array | .list => (Entries.get? o.name ArrayOperation.table).bind (·.borrowed? args)
  | .range | .multirange => (Entries.get? o.name RangeOperation.table).bind (·.borrowed? r args)
  | .fullTextSearch => (Entries.get? o.name SearchOperation.table).bind (·.borrowed? args)
  | .aggregate => (Entries.get? o.name CollectOperation.table).bind (·.borrowed? args)
  | _ => none

/-- A borrowed descriptor is for the host type of its node. -/
def Fits (borrowed : Option (HostType × Option Descriptor)) : Prop :=
  ∀ t m, borrowed = some (t, m) → t.Admits m

lemma fits_none : Fits none :=
  nofun

lemma fits_some {t : HostType} {m : Option Descriptor} : Fits (some (t, m)) ↔ t.Admits m :=
  ⟨fun h => h t m rfl, by rintro h _ _ ⟨⟩; exact h⟩

/-- The expression that is made of the operation, if any, is typed exactly under the condition. -/
abbrev Lowered.TypedIff (p : Prop) (x : Lowered) : Prop :=
  Lowered.Gives (fun e => e.IsTyped ↔ p) (fun _ => True) x

/-- The expression that is made of the operation, if any, is typed. -/
abbrev Lowered.Typed (x : Lowered) : Prop :=
  Lowered.Gives IsTyped (fun _ => True) x

namespace Lowered

variable {p : Prop}

lemma typed_built {x : Except Fault Expr} (hx : BuildsTyped x) : Lowered.Typed (.built x) :=
  gives_built hx

lemma typedIff_built {x : Except Fault Expr} (hx : BuildsTypedIff p x) : Lowered.TypedIff p (.built x) :=
  gives_built hx

lemma Typed.iff {x : Lowered} (hx : Lowered.Typed x) (hp : p) : Lowered.TypedIff p x :=
  hx.imp fun _ h e he => iff_of_true (h e he) hp

/-- Nothing is borrowed for what is typed anyway. -/
lemma typedIff_of_typed {x : Except Fault Expr} (hx : BuildsTyped x) :
    Lowered.TypedIff (Fits none) (.built x) :=
  (typed_built hx).iff fits_none

end Lowered

open Lowered

variable {admits : String → Prop} {r : Registry} {o : Operation} {args : List Expr}

section Lowerings

variable (hr : r.ReachableBy admits)

include hr

/-! ## Operations that borrow no descriptor -/

namespace DocumentOperation

variable {document key : Expr} {steps : List Expr}

lemma buildsTyped_textOf (hdocument : document.IsTyped) (hkey : key.IsTyped) :
    BuildsTyped (textOf r document key) :=
  buildsTyped_binary hr hdocument hkey

lemma buildsTyped_pathOf (hsteps : ∀ x ∈ steps, x.IsTyped) : BuildsTyped (pathOf r steps) := by
  rw [pathOf.eq_def]
  split
  · rename_i step
    split
    · exact hsteps step List.mem_cons_self
    · exact buildsTyped_arrayOf hr hsteps
  · exact buildsTyped_arrayOf hr hsteps

lemma typed_build (op : DocumentOperation) (hargs : ∀ x ∈ args, x.IsTyped) :
    Lowered.Typed (build r op o args) := by
  unfold build
  split
  case h_9 => exact gives_declined
  all_goals rw [List.forall_mem_cons] at hargs
  case h_6 op document other =>
    split
    · exact typed_built (buildsTyped_predicate hr hargs.1 (hargs.2 other List.mem_cons_self))
    · trivial
  all_goals apply typed_built
  case h_1 document key => exact buildsTyped_combine hr hargs.1 (hargs.2 key List.mem_cons_self)
  case h_2 document key => exact buildsTyped_textOf hr hargs.1 (hargs.2 key List.mem_cons_self)
  case h_3 target document key =>
    apply Meets.bind_of_ok
    intro d _
    apply Meets.bind (buildsTyped_textOf hr hargs.1 (hargs.2 key List.mem_cons_self))
    exact fun text htext => buildsTyped_castWith d htext
  case h_4 document | h_5 document => exact buildsTyped_strictCall hr (by simpa using hargs)
  case h_7 document step steps =>
    apply Meets.bind (buildsTyped_pathOf hr hargs.2)
    exact fun path hpath => buildsTyped_combine hr hargs.1 hpath
  case h_8 document step steps =>
    apply Meets.bind (buildsTyped_pathOf hr hargs.2)
    exact fun path hpath => buildsTyped_binary hr hargs.1 hpath

end DocumentOperation

namespace NetworkOperation

lemma typed_build (op : NetworkOperation) (hargs : ∀ x ∈ args, x.IsTyped) :
    Lowered.Typed (build r op args) := by
  unfold build
  split
  case h_10 => exact gives_declined
  all_goals simp only [List.forall_mem_cons] at hargs
  case h_6 left right =>
    split
    · exact typed_built (buildsTyped_binary hr hargs.1 hargs.2.1)
    · exact typed_built (buildsTyped_combine hr hargs.1 hargs.2.1)
  all_goals apply typed_built
  case h_1 op left right => exact buildsTyped_predicate hr hargs.1 hargs.2.1
  case h_2 op left right => exact buildsTyped_combine hr hargs.1 hargs.2.1
  case h_3 | h_8 | h_9 => exact buildsTyped_strictCall hr (by simpa using hargs)
  -- the descriptor is that of the operand, whose host type the result has
  case h_4 name operand =>
    exact (buildsTypedIff_call_of_args hr (by simpa using hargs)).typed hargs.1.admits
  case h_5 operand => exact (buildsTypedIff_unary hr hargs.1).typed hargs.1.admits
  case h_7 operand length =>
    exact (buildsTypedIff_call_of_args hr (by simpa using hargs)).typed hargs.1.admits

end NetworkOperation

namespace TrigramOperation

lemma typed_build (op : TrigramOperation) (hargs : ∀ x ∈ args, x.IsTyped) :
    Lowered.Typed (build r op args) := by
  unfold build
  split
  case h_5 => exact gives_declined
  all_goals apply typed_built
  case h_1 | h_2 => exact buildsTyped_strictCall hr hargs
  all_goals simp only [List.forall_mem_cons] at hargs
  case h_3 op left right => exact buildsTyped_predicate hr hargs.1 hargs.2.1
  case h_4 op left right => exact buildsTyped_binary hr hargs.1 hargs.2.1

end TrigramOperation

namespace FuzzyOperation

lemma typed_build (op : FuzzyOperation) (hargs : ∀ x ∈ args, x.IsTyped) :
    Lowered.Typed (build r op args) := by
  rw [build]
  split
  · exact typed_built (buildsTyped_strictCall hr hargs)
  · exact gives_declined

end FuzzyOperation

namespace RegexOperation

variable {pattern : Expr} {options : RegexOptions}

lemma buildsTyped_marked (hpattern : pattern.IsTyped) : BuildsTyped (marked r pattern options) := by
  rw [marked]
  split
  · exact hpattern
  · cases constantText? pattern with
    | some text => exact isTyped_constantOf hr _
    | none => exact buildsTyped_binary hr (isTyped_constantOf hr _) hpattern

lemma isTyped_letterArgument (leading : String) : (letterArgument r leading options).IsTyped :=
  isTyped_constantOf hr _

omit hr in
lemma typed_withOptions {rest : List Expr} {expression : RegexOptions → Except Fault Expr}
    (h : ∀ options, BuildsTyped (expression options)) : Lowered.Typed (withOptions rest expression) := by
  rw [withOptions]
  cases trailingOptions? rest with
  | none => exact gives_declined
  | some options => exact typed_built (h options)

lemma typed_build (op : RegexOperation) (hargs : ∀ x ∈ args, x.IsTyped) :
    Lowered.Typed (build r op args) := by
  unfold build
  split
  case h_5 => exact gives_declined
  all_goals
    simp only [List.forall_mem_cons] at hargs
    apply typed_withOptions
    intro options
  case h_1 input pattern rest =>
    rw [matching]
    apply Meets.bind (buildsTyped_marked hr hargs.2.1)
    exact fun whole hwhole => buildsTyped_predicate hr hargs.1 hwhole
  all_goals
    apply buildsTyped_strictCall hr
    simp [hargs, isTyped_constantOf hr, isTyped_letterArgument hr]

end RegexOperation

namespace BytesOperation

variable {bytes value index : Expr}

lemma buildsTyped_place (hbytes : bytes.IsTyped) (hvalue : value.IsTyped) :
    BuildsTyped (place r bytes value) := by
  rw [place]
  apply Meets.bind (buildsTyped_constantAs r _ _)
  intro zero hzero
  apply Meets.bind (buildsTyped_strictCall hr (by simp [hzero, hvalue, isTyped_constantOf hr]))
  exact fun needle hneedle => buildsTyped_position hr hneedle hbytes

lemma typed_build (op : BytesOperation) (hargs : ∀ x ∈ args, x.IsTyped) :
    Lowered.Typed (build r op args) := by
  unfold build
  split
  case h_7 => exact gives_declined
  all_goals
    simp only [List.forall_mem_cons] at hargs
    apply typed_built
  case h_1 bytes => exact buildsTyped_strictCall hr (by simpa using hargs)
  case h_2 bytes value =>
    apply Meets.bind (buildsTyped_place hr hargs.1 hargs.2.1)
    exact fun place hplace => buildsTyped_predicate hr hplace (isTyped_constantOf hr _)
  case h_3 bytes value =>
    apply Meets.bind (buildsTyped_place hr hargs.1 hargs.2.1)
    exact fun place hplace => buildsTyped_offset hr _ hplace
  case h_4 | h_5 => exact buildsTyped_strictCall hr (by simp [hargs, isTyped_constantOf hr])
  case h_6 bytes other => exact buildsTyped_predicate hr hargs.1 hargs.2.1

end BytesOperation

namespace StatisticsOperation

lemma buildsTyped_ofPair (name : String) (result : Scalar) {pair : Expr × Expr} (hfirst : pair.1.IsTyped)
    (hsecond : pair.2.IsTyped) : BuildsTyped (ofPair r name result pair) := by
  rw [ofPair]
  exact buildsTyped_call hr (by simp [hfirst, hsecond])

lemma typed_build (op : StatisticsOperation) (hargs : ∀ x ∈ args, x.IsTyped) :
    Lowered.Typed (build r op args) := by
  unfold build
  split
  case h_4 => exact gives_declined
  all_goals simp only [List.forall_mem_cons] at hargs
  case h_1 name values =>
    split
    · exact typed_built (buildsTyped_call hr (by simpa using hargs))
    · exact gives_declined
  case h_2 name result e =>
    split
    · rename_i pair hpair
      obtain ⟨hfirst, hsecond⟩ := isTyped_pair? hr hargs.1 hpair
      exact typed_built (buildsTyped_ofPair hr _ _ hfirst hsecond)
    · exact gives_declined
  case h_3 name result y x => exact typed_built (buildsTyped_ofPair hr _ _ hargs.1 hargs.2.1)

end StatisticsOperation

namespace RowOperation

lemma typed_asRow {e : Expr} (he : e.IsTyped) : Lowered.Typed (asRow r e) := by
  rw [asRow]
  split
  · rintro _ ⟨⟩
    exact he
  · split
    · exact typed_built (buildsTyped_rowOf (by simp [isTyped_constantOf hr]))
    · exact gives_declined

lemma typed_build (op : RowOperation) (hargs : ∀ x ∈ args, x.IsTyped) :
    Lowered.Typed (build r op o args) := by
  unfold build
  split
  case h_1 left right =>
    simp only [List.forall_mem_cons] at hargs
    apply Meets.bind (typed_asRow hr hargs.1)
    intro leftRow hleft
    apply Meets.bind (typed_asRow hr hargs.2.1)
    intro rightRow hright
    split
    · rename_i l d
      rw [compare]
      split
      · exact typed_built (buildsTyped_binary hr (hleft l rfl) (hright d rfl))
      · trivial
    · exact gives_declined
  case h_2 => exact gives_declined

end RowOperation

/-! ## Operations that borrow a descriptor -/

namespace ArrayOperation

variable {array item : Expr}

lemma buildsTypedIff_elementOf {index : Expr} {flags : List Bool} (harray : array.IsTyped)
    (hindex : index.IsTyped) :
    BuildsTypedIff (Fits (array.hostType.element?.map (·, array.mapping.bind Descriptor.element?)))
      (subscript r array index flags) := by
  cases ht : array.hostType.element? with
  | none =>
    rw [subscript, ht]
    trivial
  | some t =>
    rw [Option.map_some, fits_some]
    exact buildsTypedIff_subscript hr ht harray hindex

lemma buildsTyped_index (harray : array.IsTyped) (hitem : item.IsTyped) :
    BuildsTyped (index r array item) := by
  rw [index]
  apply Meets.bind (buildsTyped_call hr (by simp [harray, isTyped_retypeElement r array hitem]))
  intro place hplace
  apply Meets.bind (buildsTyped_offset hr _ hplace)
  exact fun fromZero hfromZero => buildsTyped_call hr (by simp [hfromZero, isTyped_constantOf hr])

lemma buildsTyped_cardinality (harray : array.IsTyped) : BuildsTyped (cardinality r array) :=
  buildsTyped_strictCall hr (by simpa)

lemma typedIff_build (op : ArrayOperation) (hargs : ∀ x ∈ args, x.IsTyped) :
    Lowered.TypedIff (Fits (op.borrowed? args)) (build r op args) := by
  unfold build
  split
  case h_13 => exact gives_declined
  all_goals simp only [List.forall_mem_cons] at hargs
  case h_3 array => exact typedIff_built (buildsTypedIff_elementOf hr hargs.1 (isTyped_constantOf hr _))
  case h_4 array index =>
    apply typedIff_built
    apply Meets.bind (buildsTyped_offset hr _ hargs.2.1)
    exact fun fromOne hfromOne => buildsTypedIff_elementOf hr hargs.1 hfromOne
  all_goals apply typedIff_of_typed
  case h_1 array => exact buildsTyped_cardinality hr hargs.1
  case h_2 array =>
    apply Meets.bind (buildsTyped_cardinality hr hargs.1)
    exact fun count hcount => buildsTyped_predicate hr hcount (isTyped_constantOf hr _)
  case h_5 array item => exact buildsTyped_anyOf hr hargs.2.1 hargs.1
  case h_6 array item => exact buildsTyped_index hr hargs.1 hargs.2.1
  case h_7 array other => exact (buildsTypedIff_binary hr hargs.1 hargs.2.1).typed hargs.1.admits
  case h_8 array item | h_9 array item | h_10 array item =>
    have hitem := isTyped_retypeElement r array hargs.2.1
    rw [likeArray]
    exact (buildsTypedIff_call_of_args hr (by simp [hargs.1, hitem])).typed hargs.1.admits
  case h_11 array separator => exact buildsTyped_strictCall hr (by simpa using hargs)
  case h_12 op array other => exact buildsTyped_predicate hr hargs.1 hargs.2.1

end ArrayOperation

namespace RangeOperation

variable {range other : Expr}

omit hr in
lemma isTyped_retypeBound (range : Expr) (hother : other.IsTyped) : (retypeBound r range other).IsTyped := by
  rw [retypeBound]
  cases subtypeMapping range with
  | none => exact hother
  | some d => exact isTyped_retype r d hother

lemma buildsTypedIff_collect (name : String) (multi : Bool) (hrange : range.IsTyped) :
    BuildsTypedIff (Fits (if multi then some (.multirange (subtype range), multirangeMapping r range)
      else some (.range (subtype range), rangeMapping range))) (collect r name multi range) := by
  have hargs : ∀ x ∈ [range], x.IsTyped := List.forall_mem_singleton.2 hrange
  rw [collect]
  cases multi with
  | false =>
    show BuildsTypedIff (Fits (some (.range (subtype range), rangeMapping range)))
      (aggregate r name [range] [false] (.range (subtype range)) (rangeMapping range))
    rw [fits_some]
    exact buildsTypedIff_call_of_args hr hargs
  | true =>
    show BuildsTypedIff (Fits (some (.multirange (subtype range), multirangeMapping r range)))
      (aggregate r name [range] [false] (.multirange (subtype range)) (multirangeMapping r range))
    rw [fits_some]
    exact buildsTypedIff_call_of_args hr hargs

lemma typedIff_build (op : RangeOperation) (hargs : ∀ x ∈ args, x.IsTyped) :
    Lowered.TypedIff (Fits (op.borrowed? r args)) (build r op args) := by
  unfold build
  split
  case h_10 => exact gives_declined
  all_goals simp only [List.forall_mem_cons] at hargs
  case h_1 op range other =>
    exact typedIff_of_typed (buildsTyped_predicate hr hargs.1 (isTyped_retypeBound range hargs.2.1))
  case h_2 op range other => exact typedIff_of_typed (buildsTyped_combine hr hargs.1 hargs.2.1)
  case h_3 name range => exact typedIff_of_typed (buildsTyped_strictCall hr (by simpa using hargs))
  case h_4 name range =>
    split
    · exact gives_declined
    · rw [borrowed?, fits_some]
      exact typedIff_built (buildsTypedIff_call_of_args hr (by simpa using hargs))
  case h_5 range other =>
    split
    · exact gives_declined
    · exact typedIff_of_typed
        ((buildsTypedIff_call_of_args hr (by simpa using hargs)).typed hargs.1.admits)
  case h_6 range =>
    split
    · rw [borrowed?, fits_some]
      exact typedIff_built (buildsTypedIff_call_of_args hr (by simpa using hargs))
    · exact gives_declined
  case h_7 range =>
    split
    · apply typedIff_of_typed
      apply Meets.bind (buildsTyped_strictCall hr (by simpa using hargs))
      exact fun empty hempty => (buildsTypedIff_unary hr hempty).typed HostType.admits_none
    · exact gives_declined
  case h_8 range => exact typedIff_built (buildsTypedIff_collect hr _ true hargs.1)
  case h_9 range => exact typedIff_built (buildsTypedIff_collect hr _ _ hargs.1)

end RangeOperation

namespace SearchOperation

variable {e : Expr}

lemma buildsTyped_query (he : e.IsTyped) : BuildsTyped (query r e) := by
  rw [query]
  split
  · exact buildsTyped_strictCall hr (by simpa)
  · exact he

omit hr in
lemma buildsTyped_configuration (he : e.IsTyped) : BuildsTyped (configuration r e) := by
  rw [configuration]
  cases constantText? e with
  | some name => exact buildsTyped_constantAs r _ _
  | none =>
    simp only
    split
    · exact he
    · exact buildsTyped_castTo r _ he

lemma typedIff_build (op : SearchOperation) (hargs : ∀ x ∈ args, x.IsTyped) :
    Lowered.TypedIff (Fits (op.borrowed? args)) (build r op args) := by
  unfold build
  split
  case h_11 => exact gives_declined
  case h_3 name result args => exact typedIff_of_typed (buildsTyped_strictCall hr hargs)
  all_goals simp only [List.forall_mem_cons] at hargs
  case h_10 query =>
    rw [borrowed?, fits_some]
    exact typedIff_built (buildsTypedIff_unary hr hargs.1)
  all_goals apply typedIff_of_typed
  case h_1 | h_4 | h_5 => exact buildsTyped_strictCall hr (by simp [hargs])
  case h_2 name result config text =>
    apply Meets.bind (buildsTyped_configuration hargs.1)
    exact fun chosen hchosen => buildsTyped_strictCall hr (by simp [hchosen, hargs])
  case h_6 query config document options =>
    apply Meets.bind (buildsTyped_configuration hargs.2.1)
    exact fun chosen hchosen => buildsTyped_strictCall hr (by simp [hchosen, hargs])
  case h_7 left right =>
    apply Meets.bind (buildsTyped_query hr hargs.2.1)
    exact fun query hquery => buildsTyped_predicate hr hargs.1 hquery
  case h_8 op left right => exact buildsTyped_combine hr hargs.1 hargs.2.1
  case h_9 op left right => exact buildsTyped_predicate hr hargs.1 hargs.2.1

end SearchOperation

namespace CollectOperation

variable {values separator : Expr}

/-- The text of a group is typed if the descriptor of its values is one of texts. -/
lemma buildsTypedIff_joined (hvalues : values.IsTyped) (hseparator : separator.IsTyped) :
    BuildsTypedIff ((HostType.scalar .string).Admits values.mapping) (joined r values separator) := by
  rw [joined]
  apply Meets.bind (buildsTypedIff_call_of_args hr (by simp [hvalues, hseparator]))
  intro all hall
  refine (buildsTypedIff_call hr).imp fun e he => ?_
  rw [he, ← hall]
  simp [HostType.admits_none, isTyped_constantOf hr]

lemma admits_arrayMapping (hvalues : values.IsTyped) :
    (HostType.array values.hostType).Admits (arrayMapping r values) := by
  rw [arrayMapping]
  cases hmapping : values.mapping with
  | none => exact admits_findHost hr _
  | some d =>
    intro a ha
    rw [(Descriptor.hostType_of_arrayOf (ok_of_toOption ha)).2]
    exact congrArg HostType.array (hvalues.admits d hmapping)

lemma buildsTyped_collected {name store : String} (hstore : store ∈ Builtin.documentStores)
    (hargs : ∀ x ∈ args, x.IsTyped) : BuildsTyped (collected r name store args) :=
  (buildsTypedIff_call_of_args hr hargs).typed (admits_findStore hr hstore)

/-- Documents are collected as one of the two store types of documents. -/
def IsKnown (op : CollectOperation) : Prop :=
  ∀ name store, op = .document name store ∨ op = .object name store → store ∈ Builtin.documentStores

omit hr in
lemma isKnown_of_get? {op : CollectOperation} {name : String}
    (h : Entries.get? name table = some op) : op.IsKnown := by
  have hmem := Entries.mem_of_get? h
  simp only [table, List.mem_cons, List.not_mem_nil, Prod.mk.injEq, or_false] at hmem
  rcases hmem with ⟨-, rfl⟩ | ⟨-, rfl⟩ | ⟨-, rfl⟩ | ⟨-, rfl⟩ | ⟨-, rfl⟩ | ⟨-, rfl⟩ <;>
    rintro _ _ (⟨⟨⟩⟩ | ⟨⟨⟩⟩) <;> decide

lemma typedIff_build {op : CollectOperation} (hop : op.IsKnown) (hargs : ∀ x ∈ args, x.IsTyped) :
    Lowered.TypedIff (Fits (op.borrowed? args)) (build r op args) := by
  unfold build
  split
  case h_5 => exact gives_declined
  all_goals simp only [List.forall_mem_cons] at hargs
  case h_1 values separator =>
    rw [borrowed?, fits_some]
    exact typedIff_built (buildsTypedIff_joined hr hargs.1 hargs.2.1)
  case h_2 values =>
    exact typedIff_of_typed
      ((buildsTypedIff_call_of_args hr (by simpa using hargs)).typed (admits_arrayMapping hr hargs.1))
  case h_3 name store values =>
    exact typedIff_of_typed (buildsTyped_collected hr (hop name store (.inl rfl)) (by simpa using hargs))
  case h_4 name store e =>
    split
    · rename_i key value hpair
      obtain ⟨hkey, hvalue⟩ := isTyped_pair? hr hargs.1 hpair
      exact typedIff_of_typed
        (buildsTyped_collected hr (hop name store (.inr rfl)) (by simp [hkey, hvalue]))
    · exact gives_declined

end CollectOperation

/-! ## The standard chain -/

namespace Lowering

omit hr

lemma borrowed?_of_other (h : o.domain ∉ [.array, .list, .range, .multirange, .fullTextSearch, .aggregate]) :
    o.borrowed? r args = none := by
  rw [Operation.borrowed?]
  split <;> simp_all

lemma borrowed?_of_statistics {op : StatisticsOperation} (hdomain : o.domain = .aggregate)
    (hget : Entries.get? o.name StatisticsOperation.table = some op) : o.borrowed? r args = none := by
  rw [Operation.borrowed?, hdomain]
  cases hcollect : Entries.get? o.name CollectOperation.table with
  | none => rfl
  | some op' =>
    rw [statistics_of_collections hcollect] at hget
    cases hget

include hr

/-- What the standard chain makes of an operation on typed operands is typed exactly if the descriptor that
the operation borrows, where it borrows one, is for the host type of its node. -/
theorem typedIff_lowerAll (hargs : ∀ x ∈ args, x.IsTyped) :
    Lowered.TypedIff (Fits (o.borrowed? r args)) (lowerAll (standard r) o args) := by
  have hother : ∀ {x : Lowered}, o.borrowed? r args = none → Lowered.Typed x →
      Lowered.TypedIff (Fits (o.borrowed? r args)) x :=
    fun hnone hx => hx.iff (hnone ▸ fits_none)
  rw [lowerAll]
  by_cases harity : args.length = o.arity
  · rw [if_pos harity]
    apply gives_firstOf
    simp only [standard, List.forall_mem_cons]
    refine ⟨?arrays, ?ranges, ?documents, ?networks, ?textSearch, ?trigrams, ?fuzzyMatch, ?regexes, ?bytes,
      ?statistics, ?collections, ?rows, List.forall_mem_nil _⟩
    all_goals
      apply gives_ofTable
      intro op hdomain hget _
      simp only [List.mem_cons, List.not_mem_nil, or_false] at hdomain
    case arrays =>
      have hborrowed : o.borrowed? r args = op.borrowed? args := by
        rcases hdomain with hdomain | hdomain <;> simp only [Operation.borrowed?, hdomain, hget] <;> rfl
      rw [hborrowed]
      exact ArrayOperation.typedIff_build hr op hargs
    case ranges =>
      have hborrowed : o.borrowed? r args = op.borrowed? r args := by
        rcases hdomain with hdomain | hdomain <;> simp only [Operation.borrowed?, hdomain, hget] <;> rfl
      rw [hborrowed]
      exact RangeOperation.typedIff_build hr op hargs
    case textSearch =>
      have hborrowed : o.borrowed? r args = op.borrowed? args := by
        simp only [Operation.borrowed?, hdomain, hget]
        rfl
      rw [hborrowed]
      exact SearchOperation.typedIff_build hr op hargs
    case collections =>
      have hborrowed : o.borrowed? r args = op.borrowed? args := by
        simp only [Operation.borrowed?, hdomain, hget]
        rfl
      rw [hborrowed]
      exact CollectOperation.typedIff_build hr (CollectOperation.isKnown_of_get? hget) hargs
    case statistics =>
      exact hother (borrowed?_of_statistics hdomain hget) (StatisticsOperation.typed_build hr op hargs)
    all_goals apply hother (borrowed?_of_other (by simp [hdomain]))
    case documents => exact DocumentOperation.typed_build hr op hargs
    case networks => exact NetworkOperation.typed_build hr op hargs
    case trigrams => exact TrigramOperation.typed_build hr op hargs
    case fuzzyMatch => exact FuzzyOperation.typed_build hr op hargs
    case regexes => exact RegexOperation.typed_build hr op hargs
    case bytes => exact BytesOperation.typed_build hr op hargs
    case rows => exact RowOperation.typed_build hr op hargs
  · rw [if_neg harity]
    trivial

end Lowering

end Lowerings

end SqlBridge
