import SqlBridge.Proofs.Expr.Sharing
import SqlBridge.Proofs.Operation.Chain
import SqlBridge.Proofs.Registry.RangeTypes

/-!
# Families of ranges

A range belongs to a family with the multiranges over it. Operations on ranges keep to the family of their operand,
but for those that give the multirange of a group: they take the multirange that the registry infers from the
boundary values, and where it infers none, the default of the host type. Both are over built-in ranges.
-/

namespace SqlBridge

open SqlBridge.Expr

/-- The descriptor is the range, or a multirange over it. -/
inductive Descriptor.BelongsTo (R : Descriptor) : Descriptor → Prop
  | range : R.isRange = true → BelongsTo R R
  | multirange {s : Signature} : R.isRange = true → BelongsTo R (.multirange s R)

/-- The standard chain makes an expression of the operation, and its descriptor has the property. -/
def Operation.GivesMapping (r : Registry) (o : Operation) (args : List Expr) (P : Option Descriptor → Prop) : Prop :=
  ∃ e, Lowering.lowerAll (Lowering.standard r) o args = .ok (some e) ∧ P e.mapping

variable {admits : String → Prop} {r : Registry} {d R M s : Descriptor} {range other : Expr}

namespace Descriptor

lemma isRange_of_belongsTo (h : R.BelongsTo d) : ∃ s subtype, R = .range s subtype := by
  have hrange : R.isRange = true := by cases h <;> assumption
  cases R with
  | range s subtype => exact ⟨s, subtype, rfl⟩
  | _ => cases hrange

end Descriptor

/-- The descriptor of a result is that of an operand, or the default of its host type. -/
lemma Expr.of_resultMapping {t : HostType} {es : List Expr} (h : resultMapping r t es = some M) :
    (∃ e ∈ es, e.mapping = some M) ∨ r.findHost t = some M := by
  rw [resultMapping, Option.orElse_eq_orElse, Option.orElse_eq_or, Option.or_eq_some_iff] at h
  refine h.imp (fun hfind => ?_) And.right
  exact List.mem_filterMap.1 (List.mem_of_find?_eq_some hfind)

namespace RangeOperation

lemma rangeMapping_of_belongsTo (hd : range.mapping = some d) (h : R.BelongsTo d) : rangeMapping range = some R := by
  rw [rangeMapping, hd]
  cases h with
  | range hrange => exact if_pos hrange
  | multirange => rfl

lemma subtypeMapping_of_belongsTo (hd : range.mapping = some d) (h : R.BelongsTo d) :
    ∃ s, R.subtype? = some s ∧ subtypeMapping range = some s := by
  obtain ⟨_, s, rfl⟩ := Descriptor.isRange_of_belongsTo h
  rw [subtypeMapping, hd]
  cases h with
  | range => exact ⟨s, rfl, rfl⟩
  | multirange => exact ⟨s, rfl, rfl⟩

lemma givesMapping_of_build {o : Operation} {op : RangeOperation} {rest : List Expr} {P : Option Descriptor → Prop}
    (hdomain : o.domain = .range ∨ o.domain = .multirange)
    (hhost : (range.hostType.isRange || range.hostType.isMultirange) = true)
    (hget : Entries.get? o.name table = some op) (harity : o.arity = (range :: rest).length)
    (h : ∃ e, build r op (range :: rest) = .ok (some e) ∧ P e.mapping) : o.GivesMapping r (range :: rest) P := by
  have hl : Lowering.ranges r ∈ Lowering.standard r := by simp [Lowering.standard]
  have hbelongs : "range" = o.loweringName := by
    rcases hdomain with hdomain | hdomain <;> rw [Operation.loweringName, hdomain]
  have hdomains : o.domain ∈ [Domain.range, .multirange] := by simpa using hdomain
  obtain ⟨e, he, hP⟩ := h
  exact ⟨e, (Lowering.lowerAll_ofTable hl hbelongs hdomains hget ⟨range, rfl, hhost⟩ harity.symm).trans he, hP⟩

/-! ## Operations that keep to their operand -/

lemma mapping_of_combine (hd : range.mapping = some d) (op : BinaryOp) (other : Expr) :
    ∃ e, build r (.combine op) [range, other] = .ok (some e) ∧ e.mapping = some d := by
  have hbinary : binary r op range other [true, true] range.hostType range.mapping = .ok _ :=
    binary_eq_ok.2 ⟨rfl, rfl⟩
  refine ⟨_, congrArg Lowered.built hbinary, ?_⟩
  rw [hd]
  rfl

lemma mapping_of_bound (hhost : range.hostType.isMultirange = false) (hs : subtypeMapping range = some s)
    (function : String) : ∃ e, build r (.bound function) [range] = .ok (some e) ∧ e.mapping = some s := by
  rw [build, if_neg (by simp [hhost]), hs]
  exact ⟨_, rfl, rfl⟩

lemma mapping_of_merge (hhost : range.hostType.isMultirange = true) (hR : rangeMapping range = some R) :
    ∃ e, build r .merge [range] = .ok (some e) ∧ e.mapping = some R := by
  rw [build, if_pos hhost, hR]
  exact ⟨_, rfl, rfl⟩

lemma mapping_of_intersection (hhost : range.hostType.isMultirange = false) (hR : rangeMapping range = some R) :
    ∃ e, build r .intersection [range] = .ok (some e) ∧ e.mapping = some R := by
  rw [build, hhost, collect, if_neg Bool.false_ne_true, hR]
  exact ⟨_, rfl, rfl⟩

/-! ## Multiranges of groups -/

/-- A multirange of a group has the descriptor that is inferred, or else that of the operand or the default one. -/
lemma of_mapping_collect {name : String} {e : Expr} (he : collect r name true range = .ok e)
    (hd : range.mapping = some d) (hs : subtypeMapping range = some s) (hM : e.mapping = some M) :
    r.findMultirange s = some M ∨
      r.findMultirange s = none ∧ (M = d ∨ r.findHost (.multirange (subtype range)) = some M) := by
  cases he
  have hM' : (multirangeMapping r range <|> resultMapping r (.multirange (subtype range)) [range]) = some M := hM
  rw [multirangeMapping, hs, Option.bind_some, Option.orElse_eq_orElse, Option.orElse_eq_or,
    Option.or_eq_some_iff] at hM'
  refine hM'.imp_right (And.imp_right fun hresult => ?_)
  rcases of_resultMapping hresult with ⟨e, he, hmapping⟩ | hdefault
  · rw [List.mem_singleton.1 he, hd] at hmapping
    exact .inl (Option.some.inj hmapping).symm
  · exact .inr hdefault

/-- Where a multirange of a group has a descriptor, that is a registered one or the operand's. It is over the range
of the operand if that is built in or the operand's descriptor is taken. -/
lemma belongs_of_collect (hr : r.ReachableBy admits) (hd : range.mapping = some d) (h : R.BelongsTo d)
    (name : String) : ∃ e, collect r name true range = .ok e ∧ ∀ M, e.mapping = some M →
      (M ∈ r.allMultiranges ∨ M = d) ∧ (M.range? = some R ↔
        R ∈ (Registry.builtin r.options).allRanges ∨ M = d ∧ d.isMultirange = true) := by
  obtain ⟨s, hs, hsubtype⟩ := subtypeMapping_of_belongsTo hd h
  refine ⟨_, rfl, fun M hM => ?_⟩
  have hcases := of_mapping_collect rfl hd hsubtype hM
  have horigin : M ∈ r.allMultiranges ∨ M = d := by
    rcases hcases with hfind | ⟨-, rfl | hdefault⟩
    · exact .inl (hr.mem_of_findMultirange hfind)
    · exact .inr rfl
    · exact .inl (hr.mem_of_findHost hdefault)
  refine ⟨horigin, ?_⟩
  constructor
  · intro hover
    rcases horigin with hmem | rfl
    · obtain ⟨R', hR', hover'⟩ := hr.range?_of_mem hmem
      rw [hover] at hover'
      cases hover'
      exact .inl hR'
    · cases M with
      | multirange => exact .inr ⟨rfl, rfl⟩
      | _ => cases hover
  · rintro (hbuiltin | ⟨rfl, hmulti⟩)
    · obtain ⟨M', hfind, hover⟩ := hr.findMultirange_of_builtin hbuiltin hs
      rcases hcases with hfind' | ⟨hnone, -⟩
      · rw [hfind] at hfind'
        cases hfind'
        exact hover
      · rw [hfind] at hnone
        cases hnone
    · cases h with
      | range hrange =>
        cases R with
        | multirange => cases hrange
        | _ => cases hmulti
      | multirange => rfl

end RangeOperation

namespace Lowering

open RangeOperation

/-- Operations keep to the family of ranges of their operand: set operations have its descriptor, bounds that of the
boundary values, and merged multiranges and common parts of ranges that of the range. The multirange of a group has
no descriptor, a registered one or the operand's, and that is over the operand's range exactly if this is a built-in
range or the descriptor is the operand's own. -/
theorem mapping_of_family (hr : r.ReachableBy admits) {o : Operation}
    (hdomain : o.domain = .range ∨ o.domain = .multirange)
    (hhost : (range.hostType.isRange || range.hostType.isMultirange) = true) (hd : range.mapping = some d)
    (h : R.BelongsTo d) :
    (o.arity = 2 → o.name ∈ ["Union", "Intersect", "Except"] → ∀ other, o.GivesMapping r [range, other] (· = some d)) ∧
      (o.arity = 1 → range.hostType.isMultirange = false →
        (o.name ∈ ["LowerBound", "UpperBound"] → ∃ s, R.subtype? = some s ∧ o.GivesMapping r [range] (· = some s)) ∧
          (o.name = "RangeIntersectAgg" → o.GivesMapping r [range] (· = some R))) ∧
      (o.arity = 1 → range.hostType.isMultirange = true → o.name = "Merge" → o.GivesMapping r [range] (· = some R)) ∧
      (o.arity = 1 → o.name = "RangeAgg" ∨ o.name = "RangeIntersectAgg" ∧ range.hostType.isMultirange = true →
        o.GivesMapping r [range] fun m => ∀ M, m = some M →
          (M ∈ r.allMultiranges ∨ M = d) ∧ (M.range? = some R ↔
            R ∈ (Registry.builtin r.options).allRanges ∨ M = d ∧ d.isMultirange = true)) := by
  have hgives : ∀ {op rest P}, Entries.get? o.name RangeOperation.table = some op →
      o.arity = (range :: rest).length → (∃ e, build r op (range :: rest) = .ok (some e) ∧ P e.mapping) →
        o.GivesMapping r (range :: rest) P :=
    fun hget => givesMapping_of_build hdomain hhost hget
  obtain ⟨s, hs, hsubtype⟩ := subtypeMapping_of_belongsTo hd h
  have hR := rangeMapping_of_belongsTo hd h
  refine ⟨fun harity hname other => ?_, fun harity hmulti => ⟨fun hname => ⟨s, hs, ?_⟩, fun hname => ?_⟩,
    fun harity hmulti hname => ?_, fun harity hname => ?_⟩
  · simp only [List.mem_cons, List.not_mem_nil, or_false] at hname
    rcases hname with hname | hname | hname <;>
      exact hgives (by rw [hname]; rfl) harity (mapping_of_combine hd _ other)
  · simp only [List.mem_cons, List.not_mem_nil, or_false] at hname
    rcases hname with hname | hname <;>
      exact hgives (by rw [hname]; rfl) harity (mapping_of_bound hmulti hsubtype _)
  · exact hgives (by rw [hname]; rfl) harity (mapping_of_intersection hmulti hR)
  · exact hgives (by rw [hname]; rfl) harity (mapping_of_merge hmulti hR)
  · rcases hname with hname | ⟨hname, hmulti⟩
    · obtain ⟨e, he, hbelongs⟩ := belongs_of_collect hr hd h "range_agg"
      have hbuild : build r .union [range] = .ok (some e) := congrArg Lowered.built he
      exact hgives (by rw [hname]; rfl) harity ⟨e, hbuild, hbelongs⟩
    · obtain ⟨e, he, hbelongs⟩ := belongs_of_collect hr hd h "range_intersect_agg"
      have hbuild : build r .intersection [range] = .ok (some e) := by
        rw [build, hmulti, he]
        rfl
      exact hgives (by rw [hname]; rfl) harity ⟨e, hbuild, hbelongs⟩

/-- Common parts of built-in multiranges, beside a range of the user's own over the same values. -/
theorem mapping_of_family_of_codes :
    let codes : RangeDefinition := { name := "codes", subtype := .scalar .int32, subtypeStore := some "integer" }
    ∃ c : Catalog, c.Reachable ∧ (c.registry.userRanges.map (·.storeType)) = [codes.qualifiedName] ∧
      ∃ d R, c.registry.findStore "int4multirange" = some d ∧ d.range? = some R ∧
        (Operation.method .multirange "RangeIntersectAgg" 1).GivesMapping c.registry
          [.column none "spans" true (.multirange (.scalar .int32)) (some d)] fun m =>
            ∃ M, m = some M ∧ M.range? = some R := by
  intro codes
  let c : Catalog := (Catalog.registerRange { registry := .builtin {} } codes).2
  let o : Operation := .method .multirange "RangeIntersectAgg" 1
  have hc : c.Reachable := .range Catalog.reachableBy_builtin trivial
  have hruns : (c.registry.userRanges.map (·.storeType)) = [codes.qualifiedName] ∧
      ((c.registry.findStore "int4multirange").any fun d => (d.range?.any fun R =>
        R.isRange && (Registry.builtin c.registry.options).allRanges.contains R &&
          ((lowerAll (standard c.registry) o
            [.column none "spans" true (.multirange (.scalar .int32)) (some d)]).toOption.any fun e =>
              e.any (·.mapping.isSome)))) = true := by
    decide +kernel
  obtain ⟨hnames, hruns⟩ := hruns
  obtain ⟨d, hd, hruns⟩ := (Option.any_eq_true _ _).1 hruns
  obtain ⟨R, hR, hruns⟩ := (Option.any_eq_true _ _).1 hruns
  simp only [Bool.and_eq_true, List.contains_iff_mem] at hruns
  obtain ⟨⟨hrange, hbuiltin⟩, hmapped⟩ := hruns
  have hbelongs : R.BelongsTo d := by
    cases d with
    | multirange =>
      cases hR
      exact .multirange hrange
    | _ => cases hR
  let spans : Expr := .column none "spans" true (.multirange (.scalar .int32)) (some d)
  have hspans : (spans.hostType.isRange || spans.hostType.isMultirange) = true := rfl
  have hd' : spans.mapping = some d := rfl
  have hdomain : o.domain = .range ∨ o.domain = .multirange := .inr rfl
  obtain ⟨e, he, hmapping⟩ :=
    (mapping_of_family hc.spec.2 hdomain hspans hd' hbelongs).2.2.2 rfl (.inr ⟨rfl, rfl⟩)
  rw [he] at hmapped
  obtain ⟨M, hM⟩ := Option.isSome_iff_exists.1 hmapped
  exact ⟨c, hc, hnames, d, R, hd, hR, e, he, M, hM, (hmapping M hM).2.2 (.inl hbuiltin)⟩

/-- Groups of ranges of the user's own, which become multiranges over built-in ranges: over other ranges with the same
boundary values, and over the default ones of their host type. -/
theorem mapping_of_own_ranges :
    ∃ c : Catalog, c.Reachable ∧
      (∃ R ∈ c.registry.userRanges, R.storeType = "codes" ∧ R.isRange = true ∧
        (Operation.method .range "RangeAgg" 1).GivesMapping c.registry
          [.column none "span" true (.range (.scalar .int32)) (some R)] fun m =>
            ∃ M, m = some M ∧ M.storeType = "int4multirange" ∧ M.range? ≠ some R) ∧
      ∃ R ∈ c.registry.userRanges, R.storeType = "prices" ∧ R.isRange = true ∧
        (Operation.method .range "RangeAgg" 1).GivesMapping c.registry
          [.column none "span" true (.range (.scalar .decimal)) (some R)] fun m =>
            ∃ M, m = some M ∧ M.storeType = "nummultirange" ∧ M.range? ≠ some R := by
  let codes : RangeDefinition := { name := "codes", subtype := .scalar .int32, subtypeStore := some "integer" }
  let prices : RangeDefinition := { name := "prices", subtype := .scalar .decimal, subtypeStore := some "money" }
  let c : Catalog :=
    (Catalog.registerRange (Catalog.registerRange { registry := .builtin {} } codes).2 prices).2
  let o : Operation := .method .range "RangeAgg" 1
  have hc : c.Reachable := .range (.range Catalog.reachableBy_builtin trivial) trivial
  have hgives : ∀ {name host store}, (c.registry.userRanges.any fun R => R.storeType == name && (R.isRange &&
      ((lowerAll (standard c.registry) o [.column none "span" true host (some R)]).toOption.any fun e =>
        (e.bind (·.mapping)).any fun M => M.storeType == store && M.range? != some R))) = true →
      ∃ R ∈ c.registry.userRanges, R.storeType = name ∧ R.isRange = true ∧
        o.GivesMapping c.registry [.column none "span" true host (some R)] fun m =>
          ∃ M, m = some M ∧ M.storeType = store ∧ M.range? ≠ some R := by
    intro name host store hruns
    obtain ⟨R, hR, hruns⟩ := List.any_eq_true.1 hruns
    obtain ⟨hname, hruns⟩ := Bool.and_eq_true_iff.1 hruns
    obtain ⟨hrange, hruns⟩ := Bool.and_eq_true_iff.1 hruns
    obtain ⟨e, he, hmapping⟩ := (Option.any_eq_true _ _).1 hruns
    obtain ⟨M, hM, hfamily⟩ := (Option.any_eq_true _ _).1 hmapping
    obtain ⟨e, rfl, hM⟩ := Option.bind_eq_some_iff.1 hM
    obtain ⟨hstore, hother⟩ := Bool.and_eq_true_iff.1 hfamily
    exact ⟨R, hR, beq_iff_eq.1 hname, hrange, e, ok_of_toOption he, M, hM, beq_iff_eq.1 hstore,
      bne_iff_ne.1 hother⟩
  exact ⟨c, hc, hgives (by decide +kernel), hgives (by decide +kernel)⟩

end Lowering

end SqlBridge
