import SqlBridge.Proofs.Operation.References
import SqlBridge.Proofs.Registry.Defaults

/-!
# Refused operations

The operations that the standard chain fails on: comparisons of JSON documents in the text form, and
comparisons of rows of which one is empty or which differ in length. Everything else that has as many
operands as its arity is lowered or declined, whatever is registered.
-/

namespace SqlBridge

namespace Expr

/-- The length of a row, or of a constant tuple that is not empty. -/
def rowLength? (e : Expr) : Option Nat :=
  if e.isRow then some e.operands.length
  else
    match e.value? with
    | some (.tuple (v :: vs)) => some (v :: vs).length
    | _ => none

lemma isRow_of_value {e : Expr} {v : HostValue} (h : e.value? = some v) : e.isRow = false := by
  cases e with
  | node kind es flags t m =>
    cases kind with
    | constant _ => rfl
    | _ => cases h

end Expr

namespace Operation

/-- A comparison of JSON documents. -/
def IsDocumentComparison (o : Operation) : Prop :=
  o.domain = .json ∧
    o.name ∈ ["JsonContains", "JsonContained", "JsonExists", "JsonExistsAny", "JsonExistsAll"]

/-- A comparison of row values. -/
def IsRowComparison (o : Operation) : Prop :=
  o.domain = .rowValue ∧
    o.name ∈ ["Equals", "NotEquals", "GreaterThan", "GreaterThanOrEqual", "LessThan",
      "LessThanOrEqual"]

/-- An operation on operands for which there is no SQL, and the code of the failure. -/
inductive Refuses (o : Operation) : List Expr → ErrorCode → Prop
  | textDocument {document other : Expr} : o.IsDocumentComparison →
    document.storeType? = some "json" → Refuses o [document, other] ⟨103⟩
  | emptyTuple {left right : Expr} : o.IsRowComparison →
    left.value? = some (.tuple []) ∨ right.value? = some (.tuple []) →
    Refuses o [left, right] ⟨105⟩
  | rowLengths {left right : Expr} {m n : Nat} : o.IsRowComparison → left.rowLength? = some m →
    right.rowLength? = some n → m ≠ n → Refuses o [left, right] ⟨102⟩

lemma isDocumentComparison_iff {o : Operation} :
    o.IsDocumentComparison ↔ o.domain = .json ∧
      ∃ op, Entries.get? o.name DocumentOperation.table = some (.compare op) := by
  apply and_congr_right
  intro _
  constructor
  · intro h
    simp only [List.mem_cons, List.not_mem_nil, or_false] at h
    rcases h with h | h | h | h | h <;> rw [h] <;> exact ⟨_, rfl⟩
  · rintro ⟨op, hget⟩
    have hmem := Entries.mem_of_get? hget
    simp only [DocumentOperation.table, List.mem_cons, Prod.mk.injEq, List.not_mem_nil, or_false,
      reduceCtorEq, and_false, false_or] at hmem
    rcases hmem with ⟨h, -⟩ | ⟨h, -⟩ | ⟨h, -⟩ | ⟨h, -⟩ | ⟨h, -⟩ <;> simp [h]

lemma isRowComparison_iff {o : Operation} :
    o.IsRowComparison ↔ o.domain = .rowValue ∧
      ∃ op, Entries.get? o.name RowOperation.table = some op := by
  apply and_congr_right
  intro _
  constructor
  · intro h
    exact Entries.exists_get?_of_mem h
  · rintro ⟨op, hget⟩
    exact List.mem_map_of_mem (f := (·.1)) (Entries.mem_of_get? hget)

end Operation

namespace DocumentOperation

lemma isBinary?_eq_false {document : Expr} :
    isBinary? document = some false ↔ document.storeType? = some "json" := by
  rw [isBinary?]
  cases hstore : document.storeType? with
  | none => simp
  | some store =>
    simp only [Option.some.injEq]
    by_cases hjsonb : store = "jsonb"
    · simp [hjsonb]
    · by_cases hjson : store = "json"
      · simp [hjson]
      · simp [hjsonb, hjson]

end DocumentOperation

namespace RowOperation

variable (r : Registry) {e : Expr}

lemma asRow_of_empty (h : e.value? = some (.tuple [])) : asRow r e = .error .emptyRow := by
  rw [asRow, Expr.isRow_of_value h, h]
  rfl

lemma asRow_of_cons {v : HostValue} {vs : List HostValue}
    (h : e.value? = some (.tuple (v :: vs))) :
    ∃ l, asRow r e = .ok (some l) ∧ l.operands.length = (v :: vs).length := by
  have hcount : ((v :: vs).map fun _ => false).length
      = ((v :: vs).map (Expr.constantOf r)).length := by
    rw [List.length_map, List.length_map]
  rw [asRow, Expr.isRow_of_value h, h]
  simp only [Expr.rowOf, Expr.compose, Expr.checkFlags, if_pos hcount]
  exact ⟨_, rfl, List.length_map _⟩

/-- An operand with a length is taken as a row of that length, and no other is taken as a row. -/
lemma asRow_iff {n : Nat} :
    (∃ l, asRow r e = .ok (some l) ∧ l.operands.length = n) ↔ e.rowLength? = some n := by
  by_cases hrow : e.isRow = true
  · rw [asRow, if_pos hrow, Expr.rowLength?, if_pos hrow]
    simp
  · rw [Expr.rowLength?, if_neg hrow]
    constructor
    · rintro ⟨l, hl, rfl⟩
      have hl' := hl
      rw [asRow, if_neg hrow] at hl'
      split at hl'
      · rename_i values hvalue
        cases values with
        | nil => cases hl'
        | cons v vs =>
          obtain ⟨l', h, hlength⟩ := asRow_of_cons r hvalue
          rw [hl] at h
          cases h
          rw [hvalue, hlength]
      · cases hl'
    · intro h
      split at h
      · rename_i v vs hvalue
        cases h
        exact asRow_of_cons r hvalue
      · cases h

/-- An operand that cannot be taken as a row is an empty tuple. -/
lemma eq_emptyRow_of_asRow {f : Fault} (h : asRow r e = .error f) : f = .emptyRow := by
  have hrefers : Lowered.Refers e.references (· = .emptyRow) (asRow r e) := refers_asRow r fun _ => rfl
  exact hrefers.of_error h

variable {o : Operation} {left right : Expr} (op : RowOperation)

lemma build_of_empty (h : left.value? = some (.tuple []) ∨ right.value? = some (.tuple [])) :
    build r op o [left, right] = .error .emptyRow := by
  rw [build]
  rcases h with h | h
  · rw [asRow_of_empty r h]
    rfl
  · cases hleft : asRow r left with
    | error f =>
      rw [eq_emptyRow_of_asRow r hleft]
      rfl
    | ok l =>
      rw [asRow_of_empty r h]
      rfl

lemma build_of_lengths {m n : Nat} (hleft : left.rowLength? = some m)
    (hright : right.rowLength? = some n) (hne : m ≠ n) :
    build r op o [left, right] = .error (.rowLengths o.text m n) := by
  obtain ⟨l, hl, rfl⟩ := (asRow_iff r).2 hleft
  obtain ⟨d, hd, rfl⟩ := (asRow_iff r).2 hright
  rw [build, hl, hd]
  have hcompare : compare r op o l d = .error (.rowLengths o.text l.operands.length d.operands.length) :=
    if_neg hne
  exact congrArg Lowered.built hcompare

end RowOperation

/-! ## The standard chain -/

namespace Lowering

variable {admits : String → Prop} {r : Registry} {o : Operation} {args : List Expr}

/-- In a reachable registry a lowering only fails on what is refused. -/
lemma covers_refuses (hr : r.ReachableBy admits) :
    o.Covers r args fun f => o.Refuses args f.report.code where
  store name hname hnone := by
    have hlisted : name ∈ (Builtin.families false).flatMap (·.names) := by
      simp only [List.mem_cons, List.not_mem_nil, or_false] at hname
      rcases hname with rfl | rfl <;> decide
    obtain ⟨d, hd⟩ := hr.exists_findStore hlisted
    rw [hd] at hnone
    cases hnone
  host target hnone := by
    obtain ⟨d, hd⟩ := hr.exists_findHost target
    rw [hd] at hnone
    cases hnone
  document op document other hdomain hget hargs htext := by
    subst hargs
    have hcomparison := Operation.isDocumentComparison_iff.2 ⟨hdomain, op, hget⟩
    exact .textDocument hcomparison (DocumentOperation.isBinary?_eq_false.1 htext)
  emptyTuple op left right hdomain hget hargs hempty := by
    subst hargs
    exact .emptyTuple (Operation.isRowComparison_iff.2 ⟨hdomain, op, hget⟩) hempty
  lengths op left right l d hdomain hget hargs hl hd hne := by
    subst hargs
    have hcomparison := Operation.isRowComparison_iff.2 ⟨hdomain, op, hget⟩
    exact .rowLengths hcomparison ((RowOperation.asRow_iff r).1 ⟨l, hl, rfl⟩)
      ((RowOperation.asRow_iff r).1 ⟨d, hd, rfl⟩) hne

/-- What is refused fails with the code that it is refused with. -/
lemma firstOf_of_refuses (r : Registry) {code : ErrorCode} (h : o.Refuses args code) :
    ∃ f, firstOf o args (standard r) = .error f ∧ f.report.code = code := by
  cases h with
  | @textDocument document other hcomparison htext =>
    obtain ⟨hdomain, op, hget⟩ := Operation.isDocumentComparison_iff.1 hcomparison
    have hform := DocumentOperation.isBinary?_eq_false.2 htext
    have hlower : (documents r).lower o [document, other] = .error (.binaryJsonOnly o.name o.text) := by
      rw [documents, lower_ofTable_of_get? (by simp [hdomain]) hget ⟨document, rfl, by rw [hform]; rfl⟩]
      exact if_neg (by simp [hform])
    exact ⟨_, firstOf_of_error (by simp [standard]) hlower, rfl⟩
  | @emptyTuple left right hcomparison hempty =>
    obtain ⟨hdomain, op, hget⟩ := Operation.isRowComparison_iff.1 hcomparison
    have hlower : (rows r).lower o [left, right] = .error .emptyRow := by
      rw [rows, lower_ofTable_of_get? (by simp [hdomain]) hget ⟨left, rfl, rfl⟩]
      exact RowOperation.build_of_empty r op hempty
    exact ⟨_, firstOf_of_error (by simp [standard]) hlower, rfl⟩
  | @rowLengths left right m n hcomparison hleft hright hne =>
    obtain ⟨hdomain, op, hget⟩ := Operation.isRowComparison_iff.1 hcomparison
    have hlower : (rows r).lower o [left, right] = .error (.rowLengths o.text m n) := by
      rw [rows, lower_ofTable_of_get? (by simp [hdomain]) hget ⟨left, rfl, rfl⟩]
      exact RowOperation.build_of_lengths r op hleft hright hne
    exact ⟨_, firstOf_of_error (by simp [standard]) hlower, rfl⟩

/-- With as many operands as its arity, an operation fails exactly when it is refused, with the code that
it is refused with; otherwise it is lowered or declined. -/
theorem refuses_iff_lowerAll (hr : r.ReachableBy admits) (harity : args.length = o.arity) :
    (∀ code, (∃ f, lowerAll (standard r) o args = .error f ∧ f.report.code = code)
      ↔ o.Refuses args code)
      ∧ ((∀ code, ¬ o.Refuses args code) → ∃ answer, lowerAll (standard r) o args = .ok answer) := by
  rw [lowerAll, if_pos harity]
  have hcovers : o.Covers r args fun f => o.Refuses args f.report.code := covers_refuses hr
  have hrefers := refers_firstOf_standard r hcovers
  refine ⟨?_, ?_⟩
  · intro code
    constructor
    · rintro ⟨f, hf, rfl⟩
      exact hrefers.of_error hf
    · exact firstOf_of_refuses r
  · intro hnone
    cases hlower : firstOf o args (standard r) with
    | error f => exact absurd (hrefers.of_error hlower) (hnone _)
    | ok answer => exact ⟨answer, rfl⟩

/-- Existence of a key, which only documents in the binary form can be asked for. -/
theorem refuses_iff_lowerAll_of_keys :
    (∃ f, lowerAll (standard (.builtin {})) (.method .json "JsonExists" 2)
        [.column none "doc" true (.scalar .json) ((Registry.builtin {}).findStore "json"),
          .parameter "key" (.scalar .string) none] = .error f ∧ f.report.code = ⟨103⟩)
      ∧ ∃ answer, lowerAll (standard (.builtin {})) (.method .json "JsonExists" 2)
        [.column none "doc" true (.scalar .json) ((Registry.builtin {}).findStore "jsonb"),
          .parameter "key" (.scalar .string) none] = .ok answer := by
  have hr : (Registry.builtin {}).ReachableBy fun _ => True := .builtin {}
  have hjson : ((Registry.builtin {}).findStore "json").map (·.storeType) = some "json" := by
    decide +kernel
  have hjsonb : ((Registry.builtin {}).findStore "jsonb").map (·.storeType) ≠ some "json" := by
    decide +kernel
  refine ⟨((refuses_iff_lowerAll hr rfl).1 _).2 (.textDocument ⟨rfl, by decide⟩ hjson), ?_⟩
  refine (refuses_iff_lowerAll hr rfl).2 fun code h => ?_
  cases h with
  | textDocument _ htext => exact hjsonb htext
  | emptyTuple hrows => exact absurd hrows.1 (by decide)
  | rowLengths hrows => exact absurd hrows.1 (by decide)

end Lowering

end SqlBridge
