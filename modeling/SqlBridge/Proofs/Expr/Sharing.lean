import SqlBridge.Expr.Builder
import SqlBridge.Proofs.Outcome

/-!
# Shared descriptors

An expression takes a descriptor that a builder offers it if it is a constant or parameter whose store type nobody
chose, and the descriptor is for its host type. Nothing but its descriptor changes then. The two operands of an
operation are offered a descriptor that they share, and they share it still once they have taken it: an operation is
built of its own operands as it was of the given ones.
-/

namespace SqlBridge.Expr

variable {r : Registry} {d d' : Descriptor} {e e' left right item array : Expr}

/-! ## Nodes -/

section

variable {kind : ExprKind} {op : BinaryOp} {operands : List Expr} {flags : List Bool} {hostType : HostType}
  {mapping : Option Descriptor}

lemma compose_eq_ok {subject : String} : compose subject kind operands flags hostType mapping = .ok e ↔
    flags.length = operands.length ∧ e = .node kind operands flags hostType mapping := by
  rw [compose, checkFlags]
  by_cases hcount : flags.length = operands.length
  · rw [if_pos hcount]
    constructor
    · rintro ⟨⟩
      exact ⟨hcount, rfl⟩
    · rintro ⟨-, rfl⟩
      rfl
  · rw [if_neg hcount]
    exact ⟨nofun, fun h => absurd h.1 hcount⟩

lemma of_compose {subject : String} (h : compose subject kind operands flags hostType mapping = .ok e) :
    e = .node kind operands flags hostType mapping :=
  (compose_eq_ok.1 h).2

end

@[simp] lemma kind_withMapping (d : Descriptor) (e : Expr) : (e.withMapping d).kind = e.kind := by
  cases e
  rfl

@[simp] lemma hostType_withMapping (d : Descriptor) (e : Expr) : (e.withMapping d).hostType = e.hostType := by
  cases e
  rfl

@[simp] lemma mapping_withMapping (d : Descriptor) (e : Expr) : (e.withMapping d).mapping = some d := by
  cases e
  rfl

@[simp] lemma withMapping_withMapping (d d' : Descriptor) (e : Expr) :
    (e.withMapping d').withMapping d = e.withMapping d := by
  cases e
  rfl

lemma withMapping_of_mapping (h : e.mapping = some d) : e.withMapping d = e := by
  cases e with
  | node kind es flags t m =>
    cases h
    rfl

/-! ## Taking a descriptor -/

/-- Nobody chose the store type: the expression is a constant or a parameter, and it has no descriptor or one of the
store type of its host type's default. -/
structure IsUnchosen (r : Registry) (e : Expr) : Prop where
  free : e.kind.isFree = true
  store (d : Descriptor) : e.mapping = some d →
    ∃ default, r.findHost e.hostType = some default ∧ default.storeType = d.storeType

/-- The expression takes the descriptor where it is offered. -/
structure Takes (r : Registry) (d : Descriptor) (e : Expr) : Prop where
  unchosen : e.IsUnchosen r
  hostType : d.hostType = e.hostType

lemma isRetypable_iff : isRetypable r e = true ↔ e.IsUnchosen r := by
  rw [isRetypable, Bool.and_eq_true]
  constructor
  · rintro ⟨hfree, hstore⟩
    refine ⟨hfree, fun d hd => ?_⟩
    simp only [hd, Option.any_eq_true, beq_iff_eq] at hstore
    exact hstore
  · intro h
    refine ⟨h.free, ?_⟩
    cases hd : e.mapping with
    | none => rfl
    | some d =>
      simp only [Option.any_eq_true, beq_iff_eq]
      exact h.store d hd

lemma retype_of_takes (h : e.Takes r d) : retype r d e = e.withMapping d := by
  rw [retype, isRetypable_iff.2 h.unchosen, h.hostType, beq_self_eq_true]
  rfl

lemma retype_of_not_takes (h : ¬ e.Takes r d) : retype r d e = e := by
  rw [retype]
  split
  · rename_i htakes
    rw [Bool.and_eq_true, beq_iff_eq, isRetypable_iff] at htakes
    exact absurd ⟨htakes.1, htakes.2.symm⟩ h
  · rfl

lemma retype_of_kind (h : e.kind.isFree = false) (d : Descriptor) : retype r d e = e := by
  apply retype_of_not_takes
  intro htakes
  rw [htakes.unchosen.free] at h
  cases h

/-- An expression that has been offered a descriptor is as it was, or it has that descriptor. -/
lemma retype_eq_or (r : Registry) (d : Descriptor) (e : Expr) :
    retype r d e = e ∨ retype r d e = e.withMapping d := by
  by_cases h : e.Takes r d
  · exact .inr (retype_of_takes h)
  · exact .inl (retype_of_not_takes h)

/-- The descriptor of an expression is no news to it. -/
lemma retype_of_mapping (h : e.mapping = some d) : retype r d e = e := by
  rcases retype_eq_or r d e with h' | h'
  · exact h'
  · rw [h', withMapping_of_mapping h]

/-- A descriptor that is offered again changes nothing. -/
lemma retype_retype (r : Registry) (d : Descriptor) (e : Expr) : retype r d (retype r d e) = retype r d e := by
  rcases retype_eq_or r d e with h | h
  · rw [h, h]
  · rw [h]
    rcases retype_eq_or r d (e.withMapping d) with h' | h'
    · exact h'
    · rw [h', withMapping_withMapping]

/-! ## Sharing a descriptor -/

lemma chosenMapping?_eq_some : chosenMapping? r e = some d ↔ e.mapping = some d ∧ ¬ e.IsUnchosen r := by
  rw [chosenMapping?, ← isRetypable_iff]
  split
  · rename_i h
    simp [h]
  · rename_i h
    simp [h]

/-- An expression with a chosen descriptor takes no other. -/
lemma retype_of_chosen (h : chosenMapping? r e = some d') (d : Descriptor) : retype r d e = e :=
  retype_of_not_takes fun htakes => (chosenMapping?_eq_some.1 h).2 htakes.unchosen

/-- What an expression has chosen after an offer is the offered descriptor, if it had chosen none before. -/
lemma chosenMapping?_retype (h : chosenMapping? r e = none) (d : Descriptor) :
    chosenMapping? r (retype r d e) = none ∨ chosenMapping? r (retype r d e) = some d := by
  rcases retype_eq_or r d e with h' | h'
  · exact .inl (h'.symm ▸ h)
  · rw [h', chosenMapping?, mapping_withMapping]
    split
    · exact .inl rfl
    · exact .inr rfl

/-- The descriptors that are offered to the operands of an operation: that of either of them, and where neither has
one, the default of the left one's host type. -/
inductive Offered (r : Registry) (left right : Expr) (d : Descriptor) : Prop
  | left : left.mapping = some d → Offered r left right d
  | right : right.mapping = some d → Offered r left right d
  | default : left.mapping = none → right.mapping = none → r.findHost left.hostType = some d →
    Offered r left right d

lemma offered_of_sharedMapping (h : sharedMapping r left right = some d) : Offered r left right d := by
  rw [sharedMapping] at h
  split at h
  · rename_i l d' hl hr
    have hleft := (chosenMapping?_eq_some.1 hl).1
    have hright := (chosenMapping?_eq_some.1 hr).1
    split at h
    · exact .right (hright.trans h)
    · exact .left (hleft.trans h)
  · rename_i l hl _
    exact .left ((chosenMapping?_eq_some.1 hl).1.trans h)
  · rename_i d' _ hr
    exact .right ((chosenMapping?_eq_some.1 hr).1.trans h)
  · simp only [Option.orElse_eq_orElse, Option.orElse_eq_or, Option.or_eq_some_iff] at h
    rcases h with h | ⟨hleft, h | ⟨hright, h⟩⟩
    · exact .left h
    · exact .right h
    · exact .default hleft hright h

lemma sharedMapping_of_fallback (hleft : chosenMapping? r left = none) (hright : chosenMapping? r right = none) :
    sharedMapping r left right = (left.mapping <|> right.mapping <|> r.findHost left.hostType) := by
  rw [sharedMapping, hleft, hright]

/-- Operands that have chosen nothing but one descriptor share that one. -/
lemma sharedMapping_eq_some (hleft : chosenMapping? r left = none ∨ chosenMapping? r left = some d)
    (hright : chosenMapping? r right = none ∨ chosenMapping? r right = some d)
    (hfallback : chosenMapping? r left = none → chosenMapping? r right = none →
      (left.mapping <|> right.mapping <|> r.findHost left.hostType) = some d) :
    sharedMapping r left right = some d := by
  rcases hleft with hl | hl
  · rcases hright with hr | hr
    · rw [sharedMapping_of_fallback hl hr]
      exact hfallback hl hr
    · rw [sharedMapping, hl, hr]
  · rw [sharedMapping, hl]
    rcases hright with hr | hr
    · rw [hr]
    · rw [hr]
      exact ite_self _

lemma fallback_retype (h : (left.mapping <|> right.mapping <|> r.findHost left.hostType) = some d) :
    ((retype r d left).mapping <|> (retype r d right).mapping <|> r.findHost (retype r d left).hostType) =
      some d := by
  rcases retype_eq_or r d left with hl | hl
  · rw [hl]
    rcases retype_eq_or r d right with hr | hr
    · rw [hr]
      exact h
    · rw [hr, mapping_withMapping]
      cases hleft : left.mapping with
      | none => rfl
      | some l =>
        rw [hleft] at h
        exact h
  · rw [hl, mapping_withMapping]
    rfl

/-- Operands share a descriptor still when they have been offered it. -/
theorem sharedMapping_retype (h : sharedMapping r left right = some d) :
    sharedMapping r (retype r d left) (retype r d right) = some d := by
  -- an operand that has chosen a descriptor stays as it is; the other can choose none but the shared one now
  cases hleft : chosenMapping? r left with
  | some l =>
    rw [retype_of_chosen hleft]
    cases hright : chosenMapping? r right with
    | some d' =>
      rw [retype_of_chosen hright]
      exact h
    | none =>
      rw [sharedMapping, hleft, hright] at h
      obtain rfl := Option.some.inj h
      refine sharedMapping_eq_some (.inr hleft) (chosenMapping?_retype hright l) fun hl => ?_
      rw [hleft] at hl
      cases hl
  | none =>
    cases hright : chosenMapping? r right with
    | some d' =>
      rw [sharedMapping, hleft, hright] at h
      obtain rfl := Option.some.inj h
      rw [retype_of_chosen hright]
      refine sharedMapping_eq_some (chosenMapping?_retype hleft d') (.inr hright) fun _ hr => ?_
      rw [hright] at hr
      cases hr
    | none =>
      rw [sharedMapping_of_fallback hleft hright] at h
      exact sharedMapping_eq_some (chosenMapping?_retype hleft d) (chosenMapping?_retype hright d)
        fun _ _ => fallback_retype h

/-! ## Operands -/

/-- Two operands are offered what they share, if there is anything. -/
lemma share_cases (r : Registry) (left right : Expr) :
    (sharedMapping r left right = none ∧ share r left right = [left, right]) ∨
      ∃ d, sharedMapping r left right = some d ∧ share r left right = [retype r d left, retype r d right] := by
  rw [share]
  cases sharedMapping r left right with
  | none => exact .inl ⟨rfl, rfl⟩
  | some d => exact .inr ⟨d, rfl, rfl⟩

lemma share_of_kind (hl : left.kind.isFree = false) (hr : right.kind.isFree = false) :
    share r left right = [left, right] := by
  rcases share_cases r left right with ⟨-, h⟩ | ⟨d, -, h⟩
  · exact h
  · rw [h, retype_of_kind hl, retype_of_kind hr]

lemma retypeElement_of_kind (h : item.kind.isFree = false) : retypeElement r array item = item := by
  rw [retypeElement]
  split
  · exact retype_of_kind h _
  · rfl

/-- Operands that have been offered what they share are not changed by another offer. -/
theorem share_again (r : Registry) (left right : Expr) :
    ∃ l x, share r left right = [l, x] ∧ share r l x = [l, x] := by
  rcases share_cases r left right with ⟨hnone, h⟩ | ⟨d, hd, h⟩
  · exact ⟨left, right, h, h⟩
  · refine ⟨_, _, h, ?_⟩
    rw [share, sharedMapping_retype hd]
    simp only [retype_retype]

/-- Beside an operand with a descriptor, the other is offered that one. It has a say in what the first one is offered
only by what it has chosen itself. -/
lemma share_of_mapping (h : left.mapping = some d) :
    share r left right = [(chosenMapping? r right).elim left (retype r · left), retype r d right] := by
  cases hright : chosenMapping? r right with
  | some c =>
    rw [retype_of_chosen hright]
    cases hleft : chosenMapping? r left with
    | some l =>
      rcases share_cases r left right with ⟨-, hshare⟩ | ⟨d', -, hshare⟩
      · rw [hshare, Option.elim_some, retype_of_chosen hleft]
      · rw [hshare, Option.elim_some, retype_of_chosen hleft, retype_of_chosen hleft, retype_of_chosen hright]
    | none =>
      have hshared : sharedMapping r left right = some c := by
        rw [sharedMapping, hleft, hright]
      rw [share, hshared]
      simp only [retype_of_chosen hright, Option.elim_some]
  | none =>
    have hshared : sharedMapping r left right = some d := by
      cases hleft : chosenMapping? r left with
      | some l =>
        rw [sharedMapping, hleft, hright, ← h, (chosenMapping?_eq_some.1 hleft).1]
      | none =>
        rw [sharedMapping_of_fallback hleft hright, h]
        rfl
    rw [share, hshared]
    simp only [retype_of_mapping h, Option.elim_none]

variable {op : BinaryOp} {flags : List Bool} {t : HostType} {m : Option Descriptor} {n : Expr}

lemma binary_eq_ok : binary r op left right flags t m = .ok n ↔
    flags.length = 2 ∧
      n = .node (.binary op) (share r left right) flags t (m <|> resultMapping r t (share r left right)) := by
  obtain ⟨l, x, hshare, -⟩ := share_again r left right
  rw [binary, compose_eq_ok, hshare]
  rfl

lemma anyOf_eq_ok : anyOf r op item array flags = .ok n ↔
    flags.length = 2 ∧ n = .node (.anyOf op) [retypeElement r array item, array] flags (.scalar .bool)
      (r.findHost (.scalar .bool)) :=
  compose_eq_ok

/-- The second expression is the first one, unless nobody chose the store type of that: then it can have a descriptor
on offer for its host type instead of its own. -/
structure Retyped (r : Registry) (offers : Descriptor → Prop) (e e' : Expr) : Prop where
  eq_or : e' = e ∨ ∃ d, offers d ∧ d.hostType = e.hostType ∧ e' = e.withMapping d
  eq_of_chosen : ¬ e.IsUnchosen r → e' = e

lemma Retyped.refl (offers : Descriptor → Prop) (e : Expr) : Retyped r offers e e :=
  ⟨.inl rfl, fun _ => rfl⟩

lemma retyped_retype {offers : Descriptor → Prop} (hd : offers d) : Retyped r offers e (retype r d e) := by
  by_cases h : e.Takes r d
  · rw [retype_of_takes h]
    exact ⟨.inr ⟨d, hd, h.hostType, rfl⟩, fun hchosen => absurd h.unchosen hchosen⟩
  · rw [retype_of_not_takes h]
    exact .refl offers e

/-- An expression that has another store type than before has taken it from a descriptor on offer. -/
lemma Retyped.of_ne {offers : Descriptor → Prop} (h : Retyped r offers e e') (hne : e'.storeType? ≠ e.storeType?) :
    ∃ d, offers d ∧ e' = e.withMapping d := by
  rcases h.eq_or with rfl | ⟨d, hd, -, rfl⟩
  · exact absurd rfl hne
  · exact ⟨d, hd, rfl⟩

/-- The operands of an operation are the given ones, except that a constant or parameter whose store type nobody chose
can have a descriptor of those offered to the operands, and an item that is compared with the elements of an array
their descriptor. -/
theorem retyped_of_built (r : Registry) (op : BinaryOp) (flags : List Bool) :
    (∀ left right t m n, binary r op left right flags t m = .ok n → ∃ l x, n.operands = [l, x] ∧
      Retyped r (Offered r left right) left l ∧ Retyped r (Offered r left right) right x) ∧
    ∀ item array n, anyOf r op item array flags = .ok n → ∃ i, n.operands = [i, array] ∧
      Retyped r (fun d => array.mapping.bind Descriptor.element? = some d) item i := by
  constructor
  · intro left right t m n h
    obtain ⟨-, rfl⟩ := binary_eq_ok.1 h
    rcases share_cases r left right with ⟨-, hshare⟩ | ⟨d, hd, hshare⟩
    · exact ⟨left, right, hshare, .refl _ left, .refl _ right⟩
    · have hoffer := offered_of_sharedMapping hd
      exact ⟨_, _, hshare, retyped_retype hoffer, retyped_retype hoffer⟩
  · intro item array n h
    obtain ⟨-, rfl⟩ := anyOf_eq_ok.1 h
    refine ⟨_, rfl, ?_⟩
    rw [retypeElement]
    cases helement : array.mapping.bind Descriptor.element? with
    | none => exact .refl _ item
    | some d => exact retyped_retype rfl

/-- A word beside a title of bounded length, and beside an array of such titles. -/
theorem retyped_of_built_of_titles :
    ∃ (r : Registry) (title titles word : Expr), word.storeType? = some "text" ∧
      (∃ n x d, binary r .equal title word [true, true] (.scalar .bool) none = .ok n ∧ n.operands = [title, x] ∧
        x = word.withMapping d ∧ x.storeType? = some "varchar(32)") ∧
      ∃ n x d, anyOf r .equal word titles [true, true] = .ok n ∧ n.operands = [x, titles] ∧
        x = word.withMapping d ∧ x.storeType? = some "varchar(32)" := by
  let r := Registry.builtin {}
  let title := column (some "b") "title" false (.scalar .string) (r.findStore "varchar(32)")
  let titles := column (some "b") "titles" false (.array (.scalar .string)) (r.findStore "varchar(32)[]")
  let word := constantOf r (.string "Oblomov")
  have hruns : (share r title word).map storeType? = [some "varchar(32)", some "varchar(32)"] ∧
      (retypeElement r titles word).storeType? = some "varchar(32)" ∧ word.storeType? = some "text" := by
    decide +kernel
  obtain ⟨hshare, hitem, hword⟩ := hruns
  have hne : some "varchar(32)" ≠ word.storeType? := by
    rw [hword]
    decide
  obtain ⟨hbinary, hany⟩ := retyped_of_built r .equal [true, true]
  refine ⟨r, title, titles, word, hword, ?_, ?_⟩
  · have hn : binary r .equal title word [true, true] (.scalar .bool) none = .ok _ := binary_eq_ok.2 ⟨rfl, rfl⟩
    obtain ⟨l, x, hoperands, hl, hx⟩ := hbinary _ _ _ _ _ hn
    obtain rfl := hl.eq_of_chosen nofun
    have hstores := (congrArg (List.map storeType?) hoperands).symm.trans hshare
    have hstore : x.storeType? = some "varchar(32)" := (List.cons.inj (List.cons.inj hstores).2).1
    obtain ⟨d, -, hd⟩ := hx.of_ne (hstore.symm ▸ hne)
    exact ⟨_, x, d, hn, hoperands, hd, hstore⟩
  · have hn : anyOf r .equal word titles [true, true] = .ok _ := anyOf_eq_ok.2 ⟨rfl, rfl⟩
    obtain ⟨i, hoperands, hi⟩ := hany _ _ _ hn
    have hstore : i.storeType? = some "varchar(32)" :=
      (congrArg storeType? (List.cons.inj hoperands).1).symm.trans hitem
    obtain ⟨d, -, hd⟩ := hi.of_ne (hstore.symm ▸ hne)
    exact ⟨_, i, d, hn, hoperands, hd, hstore⟩

/-- An operation on its own operands is the same operation. -/
theorem binary_again (h : binary r op left right flags t m = .ok n) :
    ∃ l x, n.operands = [l, x] ∧ binary r op l x flags t m = .ok n := by
  obtain ⟨hcount, rfl⟩ := binary_eq_ok.1 h
  obtain ⟨l, x, hshare, hagain⟩ := share_again r left right
  refine ⟨l, x, hshare, ?_⟩
  rw [binary_eq_ok, hshare, hagain]
  exact ⟨hcount, rfl⟩

/-- A parameter of no known store type before a column of numbers with two places. -/
theorem binary_again_of_price :
    ∃ (r : Registry) (rate price n l x : Expr), rate.storeType? = none ∧
      binary r .multiply rate price [true, true] (.scalar .decimal) none = .ok n ∧ n.operands = [l, x] ∧
      l.storeType? = some "numeric(8,2)" ∧
      binary r .multiply l x [true, true] (.scalar .decimal) none = .ok n := by
  let r := Registry.builtin {}
  let rate := parameter "rate" (.scalar .decimal) none
  let price := column none "price" false (.scalar .decimal) (r.findStore "numeric(8,2)")
  have hshare : (share r rate price).map storeType? = [some "numeric(8,2)", some "numeric(8,2)"] := by
    decide +kernel
  have hn : binary r .multiply rate price [true, true] (.scalar .decimal) none = .ok _ :=
    binary_eq_ok.2 ⟨rfl, rfl⟩
  obtain ⟨l, x, hoperands, hagain⟩ := binary_again hn
  have hstores := (congrArg (List.map storeType?) hoperands).symm.trans hshare
  exact ⟨r, rate, price, _, l, x, rfl, hn, hoperands, (List.cons.inj hstores).1, hagain⟩

end SqlBridge.Expr
