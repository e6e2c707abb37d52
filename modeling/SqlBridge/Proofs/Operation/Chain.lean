import Mathlib.Data.List.Nodup
import SqlBridge.Expr.Printer
import SqlBridge.Operation.Chain
import SqlBridge.Proofs.Entries
import SqlBridge.Proofs.Outcome

/-!
# Chains of lowerings

What holds of whatever the lowerings of a chain make of an operation holds of what the chain makes of it.
In the standard chain every operation belongs to one lowering, and the others decline it. So it makes no
difference in which order they are asked.
-/

namespace SqlBridge

namespace Lowered

/-- An expression that is made of an operation has the one property, and a failure the other. -/
abbrev Gives (P : Expr → Prop) (Q : Fault → Prop) (x : Lowered) : Prop :=
  Meets (fun answer => ∀ e, answer = some e → P e) Q x

variable {P : Expr → Prop} {Q : Fault → Prop}

lemma gives_declined : Lowered.Gives P Q .declined :=
  nofun

lemma gives_built {x : Except Fault Expr} (hx : Meets P Q x) :
    Lowered.Gives P Q (.built x) := by
  apply hx.map
  intro e he e' h
  cases h
  exact he

end Lowered

/-- The name of the lowering that an operation belongs to: domains go to one lowering each, apart from that
of aggregates, where statistics have their own. -/
def Operation.loweringName (o : Operation) : String :=
  match o.domain with
  | .array | .list => "array"
  | .range | .multirange => "range"
  | .json => "json"
  | .network => "network"
  | .fullTextSearch => "full-text-search"
  | .trigram => "trigram"
  | .fuzzyStringMatch => "fuzzy-string-match"
  | .regex => "regex"
  | .bytes => "byte-sequence"
  | .aggregate =>
    if (Entries.get? o.name StatisticsOperation.table).isSome then "statistics-aggregate"
    else "misc-aggregate"
  | .rowValue => "row-value"

namespace Lowering

variable {o : Operation} {args : List Expr}

/-! ## Lowerings of tables -/

section Table

variable {α : Type} {name : String} {domains : List Domain} {accepts : Expr → Bool}
  {table : List (String × α)} {lower : α → Operation → List Expr → Lowered}

/-- What a lowering of a table makes of a name of the table. -/
lemma lower_ofTable_of_get? {a : α} (hdomain : o.domain ∈ domains)
    (hget : Entries.get? o.name table = some a) (hfirst : ∃ first ∈ args.head?, accepts first = true) :
    (ofTable name domains accepts table lower).lower o args = lower a o args := by
  have hgate : (domains.contains o.domain && args.head?.any accepts) = true := by
    rw [Bool.and_eq_true, List.contains_iff_mem, Option.any_eq_true]
    exact ⟨hdomain, hfirst⟩
  rw [ofTable]
  simp only
  rw [if_pos hgate, hget]

/-- A lowering of a table declines, or it takes a name of the table in one of its domains, on a first operand
that it accepts. -/
lemma lower_ofTable :
    (ofTable name domains accepts table lower).lower o args = .declined ∨
      ∃ a, o.domain ∈ domains ∧ Entries.get? o.name table = some a ∧
        (∃ first ∈ args.head?, accepts first = true) ∧
        (ofTable name domains accepts table lower).lower o args = lower a o args := by
  by_cases hgate : (domains.contains o.domain && args.head?.any accepts) = true
  · have hparts := hgate
    rw [Bool.and_eq_true, List.contains_iff_mem, Option.any_eq_true] at hparts
    obtain ⟨hdomain, hfirst⟩ := hparts
    cases hget : Entries.get? o.name table with
    | none =>
      left
      rw [ofTable]
      simp only
      rw [if_pos hgate, hget]
      rfl
    | some a => exact .inr ⟨a, hdomain, rfl, hfirst, lower_ofTable_of_get? hdomain hget hfirst⟩
  · exact .inl (if_neg hgate)

lemma gives_ofTable {P : Expr → Prop} {Q : Fault → Prop}
    (h : ∀ a, o.domain ∈ domains → Entries.get? o.name table = some a →
      (∃ first ∈ args.head?, accepts first = true) → Lowered.Gives P Q (lower a o args)) :
    Lowered.Gives P Q ((ofTable name domains accepts table lower).lower o args) := by
  rcases lower_ofTable with hlower | ⟨a, hdomain, hget, hfirst, hlower⟩
  · rw [hlower]
    exact Lowered.gives_declined
  · rw [hlower]
    exact h a hdomain hget hfirst

/-- What a lowering of a table does not decline is in one of its domains and has a name of its table. -/
lemma of_lower_ofTable
    (h : (ofTable name domains accepts table lower).lower o args ≠ .declined) :
    o.domain ∈ domains ∧ ∃ a, Entries.get? o.name table = some a := by
  rcases lower_ofTable with hdeclined | ⟨a, hdomain, hget, _⟩
  · exact absurd hdeclined h
  · exact ⟨hdomain, a, hget⟩

end Table

/-! ## The standard chain -/

/-- No name of a statistic is one of another aggregate. -/
lemma statistics_of_collections {name : String} {a : CollectOperation}
    (h : Entries.get? name CollectOperation.table = some a) :
    Entries.get? name StatisticsOperation.table = none := by
  have hall : ∀ entry ∈ CollectOperation.table,
      Entries.get? entry.1 StatisticsOperation.table = none := by
    decide +kernel
  exact hall _ (Entries.mem_of_get? h)

/-- The lowerings of the standard chain only take operations that belong to them. -/
theorem name_of_lower {r : Registry} {l : Lowering} (hl : l ∈ standard r)
    (h : l.lower o args ≠ .declined) : l.name = o.loweringName := by
  simp only [standard, List.mem_cons, List.not_mem_nil, or_false] at hl
  rw [Operation.loweringName]
  rcases hl with rfl | rfl | rfl | rfl | rfl | rfl | rfl | rfl | rfl | rfl | rfl | rfl
  all_goals
    obtain ⟨hdomain, a, hget⟩ := of_lower_ofTable h
    simp only [List.mem_cons, List.not_mem_nil, or_false] at hdomain
  -- the domain tells the lowering, and the name does for the two lowerings of aggregates
  all_goals first
    | (rcases hdomain with hdomain | hdomain <;> rw [hdomain] <;> rfl)
    | (rw [hdomain]; rfl)
    | (rw [hdomain, hget]; rfl)
    | (rw [hdomain, statistics_of_collections hget]; rfl)

/-- No two lowerings of the standard chain have one name. -/
lemma nodup_names (r : Registry) : ((standard r).map (·.name)).Nodup := by
  have hnames : (standard r).map (·.name) =
      ["array", "range", "json", "network", "full-text-search", "trigram", "fuzzy-string-match",
        "regex", "byte-sequence", "statistics-aggregate", "misc-aggregate", "row-value"] := rfl
  rw [hnames]
  decide

/-- At most one lowering of the standard chain takes an operation. -/
lemma eq_of_lower {r : Registry} {l l' : Lowering} (hl : l ∈ standard r) (hl' : l' ∈ standard r)
    (h : l.lower o args ≠ .declined) (h' : l'.lower o args ≠ .declined) : l = l' := by
  have hname : l.name = l'.name := (name_of_lower hl h).trans (name_of_lower hl' h').symm
  exact List.inj_on_of_nodup_map (nodup_names r) hl hl' hname

/-! ## The order of a chain -/

variable {chain chain' : List Lowering}

lemma gives_firstOf {P : Expr → Prop} {Q : Fault → Prop}
    (h : ∀ l ∈ chain, Lowered.Gives P Q (l.lower o args)) :
    Lowered.Gives P Q (firstOf o args chain) := by
  induction chain with
  | nil => exact Lowered.gives_declined
  | cons l rest ih =>
    rw [List.forall_mem_cons] at h
    rw [firstOf]
    cases hl : l.lower o args with
    | error f => exact h.1.of_error hl
    | ok answer =>
      cases answer with
      | none => exact ih h.2
      | some e => exact h.1.of_ok hl

lemma firstOf_of_declined (h : ∀ l ∈ chain, l.lower o args = .declined) :
    firstOf o args chain = .declined := by
  induction chain with
  | nil => rfl
  | cons l rest ih =>
    rw [List.forall_mem_cons] at h
    rw [firstOf, h.1]
    exact ih h.2

/-- A lowering that takes an operation decides for a chain in which no other takes it. -/
lemma firstOf_of_unique {l : Lowering} (hl : l ∈ chain) (h : l.lower o args ≠ .declined)
    (hunique : ∀ l' ∈ chain, l'.lower o args ≠ .declined → l' = l) :
    firstOf o args chain = l.lower o args := by
  induction chain with
  | nil => cases hl
  | cons head rest ih =>
    rw [List.forall_mem_cons] at hunique
    rw [firstOf]
    by_cases hhead : head.lower o args = .declined
    · have hrest : l ∈ rest := by
        rcases List.mem_cons.1 hl with rfl | hrest
        · exact absurd hhead h
        · exact hrest
      rw [hhead]
      exact ih hrest hunique.2
    · obtain rfl := hunique.1 hhead
      split
      · rename_i hdeclined
        exact absurd hdeclined h
      · rfl

/-- The order of a chain makes no difference to an operation that at most one lowering takes. -/
lemma firstOf_perm (hperm : chain.Perm chain')
    (hunique : ∀ l ∈ chain', ∀ l' ∈ chain', l.lower o args ≠ .declined →
      l'.lower o args ≠ .declined → l' = l) :
    firstOf o args chain = firstOf o args chain' := by
  by_cases hall : ∀ l ∈ chain', l.lower o args = .declined
  · have hall' : ∀ l ∈ chain, l.lower o args = .declined :=
      fun l hl => hall l (hperm.mem_iff.1 hl)
    rw [firstOf_of_declined hall, firstOf_of_declined hall']
  · push Not at hall
    obtain ⟨l, hl, h⟩ := hall
    have honly : ∀ l' ∈ chain', l'.lower o args ≠ .declined → l' = l :=
      fun l' hl' h' => hunique l hl l' hl' h h'
    have honly' : ∀ l' ∈ chain, l'.lower o args ≠ .declined → l' = l :=
      fun l' hl' => honly l' (hperm.mem_iff.1 hl')
    rw [firstOf_of_unique hl h honly, firstOf_of_unique (hperm.mem_iff.2 hl) h honly']

/-- The lowering that takes an operation decides for the standard chain. -/
lemma firstOf_standard {r : Registry} {l : Lowering} (hl : l ∈ standard r)
    (h : l.lower o args ≠ .declined) : firstOf o args (standard r) = l.lower o args :=
  firstOf_of_unique hl h fun _ hl' h' => eq_of_lower hl' hl h' h

/-- The standard chain makes of an operation what the lowering makes of it that the operation belongs to. -/
lemma firstOf_of_name {r : Registry} {l : Lowering} (hl : l ∈ standard r) (hname : l.name = o.loweringName) :
    firstOf o args (standard r) = l.lower o args := by
  by_cases h : l.lower o args = .declined
  · rw [h]
    apply firstOf_of_declined
    intro l' hl'
    by_contra h'
    obtain rfl := List.inj_on_of_nodup_map (nodup_names r) hl' hl ((name_of_lower hl' h').trans hname.symm)
    exact h' h
  · exact firstOf_standard hl h

/-- The standard chain makes of an operation what the table of its lowering says. -/
lemma lowerAll_ofTable {α : Type} {name : String} {domains : List Domain} {accepts : Expr → Bool}
    {table : List (String × α)} {lower : α → Operation → List Expr → Lowered} {r : Registry} {a : α}
    (hl : ofTable name domains accepts table lower ∈ standard r) (hname : name = o.loweringName)
    (hdomain : o.domain ∈ domains) (hget : Entries.get? o.name table = some a)
    (hfirst : ∃ first ∈ args.head?, accepts first = true) (harity : args.length = o.arity) :
    lowerAll (standard r) o args = lower a o args := by
  rw [lowerAll, if_pos harity, firstOf_of_name hl hname, lower_ofTable_of_get? hdomain hget hfirst]

lemma firstOf_of_error {r : Registry} {l : Lowering} {f : Fault} (hl : l ∈ standard r)
    (h : l.lower o args = .error f) : firstOf o args (standard r) = .error f := by
  have hne : l.lower o args ≠ .declined := by
    rw [h]
    nofun
  rw [firstOf_standard hl hne, h]

/-- The standard lowerings make the same of an operation in whatever order they are asked: the same
expression, nothing, or the same failure. -/
theorem lowerAll_perm (r : Registry) {chain : List Lowering} (hperm : chain.Perm (standard r))
    (o : Operation) (args : List Expr) :
    lowerAll chain o args = lowerAll (standard r) o args := by
  rw [lowerAll, lowerAll]
  by_cases harity : args.length = o.arity
  · rw [if_pos harity, if_pos harity]
    exact firstOf_perm hperm fun l hl l' hl' h h' => eq_of_lower hl' hl h' h
  · rw [if_neg harity, if_neg harity]

/-- The two lowerings of aggregates, asked the other way round. -/
theorem lowerAll_perm_of_reverse :
    lowerAll (standard (.builtin {})).reverse (.method .aggregate "JsonObjectAgg" 1)
        [.constantOf (.builtin {}) (.tuple [.string "k", .int32 7])]
      = lowerAll (standard (.builtin {})) (.method .aggregate "JsonObjectAgg" 1)
          [.constantOf (.builtin {}) (.tuple [.string "k", .int32 7])]
      ∧ (lowerAll (standard (.builtin {})) (.method .aggregate "JsonObjectAgg" 1)
          [.constantOf (.builtin {}) (.tuple [.string "k", .int32 7])]).map (·.map Expr.text)
        = .ok (some "json_object_agg('k', 7)") :=
  ⟨lowerAll_perm (.builtin {}) (List.reverse_perm _) _ _, by decide +kernel⟩

end Lowering

end SqlBridge
