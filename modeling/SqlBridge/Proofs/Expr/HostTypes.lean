import SqlBridge.Operation.Lowering
import SqlBridge.Proofs.Outcome
import SqlBridge.Proofs.Registry.Consistent
import SqlBridge.Proofs.Registry.Defaults

/-!
# Host types of expressions

A node that has a descriptor ought to be of the host type of that descriptor. Builders see to it wherever
they choose the descriptor themselves, and a descriptor that they are given has to be for the host type.
-/

namespace SqlBridge

/-- The descriptor, where there is one, is for the host type. -/
def HostType.Admits (t : HostType) (m : Option Descriptor) : Prop :=
  ∀ d, m = some d → d.hostType = t

namespace HostType

variable {t : HostType} {m m' : Option Descriptor}

lemma admits_none : t.Admits none :=
  nofun

lemma admits_some {d : Descriptor} : t.Admits (some d) ↔ d.hostType = t :=
  ⟨fun h => h d rfl, by rintro h _ ⟨⟩; exact h⟩

/-- A fallback that is for the host type makes no difference. -/
lemma admits_orElse_iff (h : t.Admits m') : t.Admits (m <|> m') ↔ t.Admits m := by
  cases m with
  | none => exact ⟨fun _ => admits_none, fun _ => h⟩
  | some d => exact Iff.rfl

end HostType

namespace Expr

/-- Every node that has a descriptor is of the host type of that descriptor. -/
inductive IsTyped : Expr → Prop
  | node {kind : ExprKind} {es : List Expr} {flags : List Bool} {t : HostType} {m : Option Descriptor} :
    t.Admits m → (∀ e ∈ es, IsTyped e) → IsTyped (.node kind es flags t m)

variable {e x : Expr}

lemma isTyped_node {kind : ExprKind} {es : List Expr} {flags : List Bool} {t : HostType}
    {m : Option Descriptor} : (Expr.node kind es flags t m).IsTyped ↔ t.Admits m ∧ ∀ e ∈ es, e.IsTyped := by
  constructor
  · intro h
    cases h with
    | node hm hes => exact ⟨hm, hes⟩
  · rintro ⟨hm, hes⟩
    exact .node hm hes

lemma IsTyped.admits (h : e.IsTyped) : e.hostType.Admits e.mapping := by
  cases h with
  | node hm _ => exact hm

lemma IsTyped.operand (h : e.IsTyped) (hx : x ∈ e.operands) : x.IsTyped := by
  cases h with
  | node _ hes => exact hes x hx

lemma IsTyped.withMapping (h : e.IsTyped) {d : Descriptor} (hd : d.hostType = e.hostType) :
    (e.withMapping d).IsTyped := by
  cases h with
  | node _ hes => exact .node (HostType.admits_some.2 hd) hes

/-- Whatever is built is typed. -/
abbrev BuildsTyped (x : Except Fault Expr) : Prop :=
  Meets IsTyped (fun _ => True) x

/-- Whatever is built is typed exactly under the condition. -/
abbrev BuildsTypedIff (p : Prop) (x : Except Fault Expr) : Prop :=
  Meets (fun e => e.IsTyped ↔ p) (fun _ => True) x

lemma BuildsTypedIff.typed {p : Prop} {x : Except Fault Expr} (h : BuildsTypedIff p x) (hp : p) :
    BuildsTyped x :=
  h.imp fun _ he => he.2 hp

lemma isTyped_constant (v : HostValue) {t : HostType} {m : Option Descriptor} (hm : t.Admits m) :
    (constant v t m).IsTyped :=
  .node hm nofun

lemma isTyped_constantWith (v : HostValue) (d : Descriptor) : (constantWith v d).IsTyped :=
  isTyped_constant v (HostType.admits_some.2 rfl)

section Registry

variable {admits : String → Prop} {r : Registry} {t : HostType} {m : Option Descriptor}
  {es : List Expr} {flags : List Bool} {left right : Expr}

lemma buildsTyped_constantAs (r : Registry) (v : HostValue) (store : String) :
    BuildsTyped (constantAs r v store) := by
  rw [constantAs, Registry.requireStore]
  cases r.findStore store with
  | none => trivial
  | some d => exact isTyped_constantWith v d

lemma isTyped_retype (r : Registry) (d : Descriptor) (he : e.IsTyped) : (retype r d e).IsTyped := by
  rw [retype]
  split
  · rename_i hfree
    rw [Bool.and_eq_true, beq_iff_eq] at hfree
    exact he.withMapping hfree.2.symm
  · exact he

lemma isTyped_retypeElement (r : Registry) (array : Expr) (he : e.IsTyped) :
    (retypeElement r array e).IsTyped := by
  rw [retypeElement]
  cases array.mapping.bind Descriptor.element? with
  | none => exact he
  | some d => exact isTyped_retype r d he

lemma isTyped_share (r : Registry) (hleft : left.IsTyped) (hright : right.IsTyped) :
    ∀ x ∈ share r left right, x.IsTyped := by
  rw [share]
  cases sharedMapping r left right with
  | none => simp [hleft, hright]
  | some d => simp [isTyped_retype r d hleft, isTyped_retype r d hright]

lemma buildsTypedIff_compose {subject : String} {kind : ExprKind} :
    BuildsTypedIff (t.Admits m ∧ ∀ x ∈ es, x.IsTyped) (compose subject kind es flags t m) := by
  rw [compose, checkFlags]
  by_cases hcount : flags.length = es.length
  · rw [if_pos hcount]
    exact isTyped_node
  · rw [if_neg hcount]
    trivial

lemma buildsTyped_castWith (d : Descriptor) (he : e.IsTyped) : BuildsTyped (castWith e d flags) := by
  apply buildsTypedIff_compose.typed
  simp [HostType.admits_some, he]

lemma buildsTyped_castTo (r : Registry) (store : String) (he : e.IsTyped) :
    BuildsTyped (castTo r e store) :=
  Meets.bind_of_ok fun d _ => buildsTyped_castWith d he

lemma buildsTyped_rowOf (hes : ∀ x ∈ es, x.IsTyped) : BuildsTyped (rowOf es flags) := by
  rw [rowOf]
  split
  · trivial
  · exact buildsTypedIff_compose.typed ⟨HostType.admits_none, hes⟩

/-! ## Descriptors of a registry -/

variable (hr : r.ReachableBy admits)

include hr

lemma admits_findHost (t : HostType) : t.Admits (r.findHost t) :=
  fun _ hd => (Registry.hostType_of_find hr hd rfl).1

lemma hostType_of_requireHost {d : Descriptor} (h : r.requireHost t = .ok d) : d.hostType = t := by
  rw [Registry.requireHost] at h
  cases hfind : r.findHost t with
  | none =>
    rw [hfind] at h
    cases h
  | some d' =>
    rw [hfind] at h
    cases h
    exact admits_findHost hr t d hfind

/-- The built-in names of documents are for documents. -/
lemma admits_findStore {store : String} (hstore : store ∈ Builtin.documentStores) :
    (HostType.scalar .json).Admits (r.findStore store) := by
  have hleaf : ((Registry.leaves r.options).first? store).map (·.hostType) = some (.scalar .json) := by
    rw [Builtin.documentStores, List.mem_pair] at hstore
    obtain ⟨legacy, writesExtremes, keySize, ranges, enums⟩ := r.options
    rcases hstore with rfl | rfl <;> cases legacy <;> rfl
  obtain ⟨d, hd, hhost⟩ := Option.map_eq_some_iff.1 hleaf
  rw [Registry.findStore_of_first? (hr.first?_of_leaves hd)]
  exact HostType.admits_some.2 hhost

lemma admits_resultMapping (t : HostType) (es : List Expr) : t.Admits (resultMapping r t es) := by
  rw [resultMapping]
  cases hfind : (es.filterMap mapping).find? (·.hostType == t) with
  | none => exact admits_findHost hr t
  | some d => exact HostType.admits_some.2 (by simpa using List.find?_some hfind)

lemma isTyped_constantOf (v : HostValue) : (constantOf r v).IsTyped := by
  rw [constantOf]
  cases v.hostType? with
  | none => exact isTyped_constant v HostType.admits_none
  | some t => exact isTyped_constant v (admits_findHost hr t)

lemma isTyped_pair? {p : Expr × Expr} (he : e.IsTyped) (h : pair? r e = some p) :
    p.1.IsTyped ∧ p.2.IsTyped := by
  rw [pair?] at h
  by_cases hrow : e.isRow = true
  · rw [if_pos hrow] at h
    split at h
    · rename_i a b hoperands
      cases h
      exact ⟨he.operand (by simp [hoperands]), he.operand (by simp [hoperands])⟩
    · cases h
  · rw [if_neg hrow] at h
    split at h
    · cases h
      exact ⟨isTyped_constantOf hr _, isTyped_constantOf hr _⟩
    · cases h

/-- A call is typed if its arguments are and the descriptor it is given is for its host type. -/
lemma buildsTypedIff_call {aggregate : Bool} {name : String} :
    BuildsTypedIff (t.Admits m ∧ ∀ x ∈ es, x.IsTyped) (call r aggregate name es flags t m) := by
  rw [← HostType.admits_orElse_iff (admits_resultMapping hr t es)]
  exact buildsTypedIff_compose

lemma buildsTypedIff_call_of_args {aggregate : Bool} {name : String} (hes : ∀ x ∈ es, x.IsTyped) :
    BuildsTypedIff (t.Admits m) (call r aggregate name es flags t m) :=
  (buildsTypedIff_call hr).imp fun _ hx => hx.trans (and_iff_left hes)

lemma buildsTyped_call {aggregate : Bool} {name : String} (hes : ∀ x ∈ es, x.IsTyped) :
    BuildsTyped (call r aggregate name es flags t none) :=
  (buildsTypedIff_call_of_args hr hes).typed HostType.admits_none

lemma buildsTyped_strictCall {name : String} (hes : ∀ x ∈ es, x.IsTyped) :
    BuildsTyped (strictCall r name es t) :=
  buildsTyped_call hr hes

lemma buildsTypedIff_binary {op : BinaryOp} (hleft : left.IsTyped) (hright : right.IsTyped) :
    BuildsTypedIff (t.Admits m) (binary r op left right flags t m) := by
  rw [← HostType.admits_orElse_iff (admits_resultMapping hr t (share r left right))]
  exact buildsTypedIff_compose.imp fun _ hx => hx.trans (and_iff_left (isTyped_share r hleft hright))

lemma buildsTyped_binary {op : BinaryOp} (hleft : left.IsTyped) (hright : right.IsTyped) :
    BuildsTyped (binary r op left right flags t none) :=
  (buildsTypedIff_binary hr hleft hright).typed HostType.admits_none

lemma buildsTyped_predicate {op : BinaryOp} (hleft : left.IsTyped) (hright : right.IsTyped) :
    BuildsTyped (predicate r op left right) :=
  buildsTyped_binary hr hleft hright

lemma buildsTyped_combine {op : BinaryOp} (hleft : left.IsTyped) (hright : right.IsTyped) :
    BuildsTyped (combine r op left right) :=
  (buildsTypedIff_binary hr hleft hright).typed hleft.admits

lemma buildsTypedIff_unary {op : UnaryOp} (he : e.IsTyped) :
    BuildsTypedIff (t.Admits m) (unary r op e flags t m) := by
  rw [← HostType.admits_orElse_iff (admits_resultMapping hr t [e])]
  exact buildsTypedIff_compose.imp fun _ hx => hx.trans (and_iff_left (List.forall_mem_singleton.2 he))

/-- An element is typed if the descriptor of the elements of the array is for their host type. -/
lemma buildsTypedIff_subscript (ht : left.hostType.element? = some t) (hleft : left.IsTyped)
    (hright : right.IsTyped) : BuildsTypedIff (t.Admits (left.mapping.bind Descriptor.element?))
      (subscript r left right flags) := by
  rw [subscript, ht, ← HostType.admits_orElse_iff (admits_findHost hr t)]
  exact buildsTypedIff_compose.imp fun _ hx => hx.trans (and_iff_left (by simp [hleft, hright]))

lemma buildsTyped_anyOf {op : BinaryOp} (hleft : left.IsTyped) (hright : right.IsTyped) :
    BuildsTyped (anyOf r op left right flags) := by
  apply buildsTypedIff_compose.typed
  simp [admits_findHost hr, isTyped_retypeElement r right hleft, hright]

lemma buildsTyped_arrayOf (hes : ∀ x ∈ es, x.IsTyped) : BuildsTyped (arrayOf r es t flags) :=
  buildsTypedIff_compose.typed ⟨admits_findHost hr _, hes⟩

lemma buildsTyped_position (hleft : left.IsTyped) (hright : right.IsTyped) :
    BuildsTyped (position r left right flags) := by
  apply buildsTypedIff_compose.typed
  simp [admits_findHost hr, hleft, hright]

lemma buildsTyped_offset (delta : Int) (he : e.IsTyped) : BuildsTyped (offset r e delta) := by
  rw [offset]
  cases shifted? delta e with
  | none => exact buildsTyped_binary hr he (isTyped_constantOf hr _)
  | some i => exact isTyped_constantOf hr _

end Registry

end Expr

end SqlBridge
