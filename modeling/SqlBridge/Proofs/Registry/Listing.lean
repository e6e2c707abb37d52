import SqlBridge.Command.Basic
import SqlBridge.Proofs.Registry.Answers
import SqlBridge.Proofs.Registry.Defaults
import SqlBridge.Proofs.Registry.Stores

/-!
# The list of store types

Every name that a catalog lists has descriptors, all of them under that name, and a row that tells a wire
type and host types. The names of the user's own ranges are listed as well, but have neither.
-/

namespace SqlBridge

namespace Registry

/-- The name is that of a range of the user's own and of no other store type. -/
def IsRangeOnly (r : Registry) (name : String) : Prop :=
  r.isUserRange name = true ∧ r.isNamed name = false

variable {admits : String → Prop} {r : Registry} {name : String}

lemma isNamed_iff : r.isNamed name = true ↔ name ∈ r.stores.map (·.1) := by
  rw [isNamed, Entries.isSome_get?_iff]

lemma isUserRange_iff : r.isUserRange name = true ↔ name ∈ r.userRanges.map (·.storeType) := by
  simp [isUserRange]

lemma mem_names_iff : name ∈ r.names ↔ r.isNamed name = true ∨ r.isUserRange name = true := by
  rw [names, List.mem_append, isNamed_iff, isUserRange_iff]

lemma isRangeOnly_iff (h : name ∈ r.names) : r.IsRangeOnly name ↔ r.isNamed name = false := by
  constructor
  · exact And.right
  · intro hname
    rcases mem_names_iff.1 h with hnamed | hrange
    · rw [hname] at hnamed
      cases hnamed
    · exact ⟨hrange, hname⟩

/-- No name stands among the store types without a descriptor. -/
lemma ReachableBy.named_eq_nil_iff (h : r.ReachableBy admits) :
    r.named name = [] ↔ r.isNamed name = false := by
  rw [isNamed, named, Entries.all]
  cases hget : Entries.get? name r.stores with
  | none => simp
  | some ds =>
    have hne : ds ≠ [] := by
      rcases h.hasOwnNames.cases (Entries.mem_of_get? hget) with ⟨f, hf, -, rfl⟩ | ⟨d, rfl⟩
      · exact mt List.map_eq_nil_iff.1 (hosts_ne_nil _ f hf)
      · exact List.cons_ne_nil d []
    simp [hne]

lemma ReachableBy.named_ne_nil (h : r.ReachableBy admits) (hname : r.isNamed name = true) :
    r.named name ≠ [] := by
  rw [Ne, h.named_eq_nil_iff, hname]
  exact Bool.noConfusion

end Registry

lemma DbType.text_ne_empty (t : DbType) : t.text ≠ "" := by
  cases t with
  | plain tag => cases tag <;> decide
  | array e => simp [text]
  | range t => simp [text]
  | multirange t => simp [text]

namespace Command

variable {r : Registry} {name : String}

/-- The row tells a wire type and at least one host type for the name. -/
def IsFilled (name : String) (row : Json) : Prop :=
  ∃ (tag : DbType) (hosts : List HostType), hosts ≠ [] ∧ row = .object
    [("store_type", .string name),
      ("db_type", .string tag.text),
      ("host_types", .string (", ".intercalate (hosts.map HostType.text)))]

lemma mem_sortedNames : name ∈ sortedNames r ↔ name ∈ r.names := by
  rw [sortedNames, List.mem_eraseDups, List.mem_mergeSort]

lemma isFilled_typeRow_iff : IsFilled name (typeRow r name) ↔ r.named name ≠ [] := by
  constructor
  · rintro ⟨tag, hosts, -, hrow⟩ hnil
    simp only [typeRow, hnil, List.head?_nil, Option.map_none, Option.getD_none] at hrow
    have hfields := Json.object.inj hrow
    simp only [List.cons.injEq, Prod.mk.injEq, Json.string.injEq, true_and] at hfields
    exact tag.text_ne_empty hfields.1.symm
  · intro hne
    obtain ⟨d, ds, hnamed⟩ := List.exists_cons_of_ne_nil hne
    refine ⟨d.dbType, (d :: ds).map (·.hostType), List.cons_ne_nil _ _, ?_⟩
    rw [typeRow, hnamed, List.map_map]
    rfl

end Command

namespace Catalog

/-- Every listed name has a row, and the rows are those of the listed names. The descriptors of a name go
by that name; there are some, and the row is filled, exactly if the name is not only that of a range of
the user's own. -/
theorem rows_of_names {c : Catalog} (hc : c.Reachable) :
    ∃ rows, Command.typeList c.registry = .array rows ∧
      (∀ row ∈ rows, ∃ name ∈ c.registry.names, row = Command.typeRow c.registry name) ∧
      ∀ name ∈ c.registry.names,
        (∀ d ∈ c.registry.named name, d.storeType = name) ∧
        (c.registry.named name ≠ [] ↔ ¬ c.registry.IsRangeOnly name) ∧
        Command.typeRow c.registry name ∈ rows ∧
        (Command.IsFilled name (Command.typeRow c.registry name) ↔ ¬ c.registry.IsRangeOnly name) := by
  have hr := hc.spec.2
  refine ⟨_, rfl, ?_, ?_⟩
  · intro row hrow
    obtain ⟨name, hname, rfl⟩ := List.mem_map.1 hrow
    exact ⟨name, Command.mem_sortedNames.1 hname, rfl⟩
  · intro name hname
    have hfilled : c.registry.named name ≠ [] ↔ ¬ c.registry.IsRangeOnly name := by
      rw [Registry.isRangeOnly_iff hname, ← hr.named_eq_nil_iff]
    refine ⟨fun d hd => hr.linked.stores hd, hfilled, ?_, ?_⟩
    · exact List.mem_map_of_mem (Command.mem_sortedNames.2 hname)
    · rw [Command.isFilled_typeRow_iff]
      exact hfilled

/-- An enumeration's row tells its wire type and its host type, beside a range of the user's own. -/
theorem rows_of_names_of_mood :
    ∃ c : Catalog, c.Reachable ∧ "span" ∈ c.registry.names ∧ "mood" ∈ c.registry.names ∧
      c.registry.named "mood" ≠ [] ∧ (∀ d ∈ c.registry.named "mood", d.storeType = "mood") ∧
      ∃ rows, Command.typeList c.registry = .array rows ∧
        ∃ row ∈ rows, Command.IsFilled "mood" row := by
  let span : RangeDefinition := { name := "span", subtype := .scalar .string }
  let mood : EnumDefinition := { name := "mood", labels := [("Sad", "sad")] }
  let c : Catalog := (registerEnum (registerRange { registry := .builtin {} } span).2 mood).2
  have hc : c.Reachable := .enumeration (.range reachableBy_builtin trivial) trivial
  have hnames : ("span" ∈ c.registry.names ∧ "mood" ∈ c.registry.names) ∧
      c.registry.isNamed "mood" = true := by
    decide +kernel
  obtain ⟨⟨hspan, hmood⟩, hnamed⟩ := hnames
  obtain ⟨rows, hlist, -, hrows⟩ := rows_of_names hc
  obtain ⟨hstore, hne, hrow, hfilled⟩ := hrows "mood" hmood
  have hnot : ¬ c.registry.IsRangeOnly "mood" := by
    rw [Registry.isRangeOnly_iff hmood, hnamed]
    exact Bool.noConfusion
  exact ⟨c, hc, hspan, hmood, hne.2 hnot, hstore, rows, hlist, _, hrow, hfilled.2 hnot⟩

/-- A range of the user's own is listed without descriptors, and its row is blank. -/
theorem row_blank :
    ∃ c : Catalog, c.Reachable ∧ ∃ name ∈ c.registry.names, c.registry.named name = [] ∧
      ∃ rows, Command.typeList c.registry = .array rows ∧
        Command.typeRow c.registry name ∈ rows ∧
        Command.typeRow c.registry name = .object
          [("store_type", .string name), ("db_type", .string ""), ("host_types", .string "")] := by
  let c : Catalog := (registerRange { registry := .builtin {} }
    { name := "floatrange", subtype := .scalar .float64 }).2
  have hc : c.Reachable := .range reachableBy_builtin trivial
  have hruns : "floatrange" ∈ c.registry.names ∧ c.registry.named "floatrange" = [] := by
    decide +kernel
  obtain ⟨hname, hnil⟩ := hruns
  refine ⟨c, hc, "floatrange", hname, hnil, _, rfl, ?_, ?_⟩
  · exact List.mem_map_of_mem (Command.mem_sortedNames.2 hname)
  · rw [Command.typeRow, hnil]
    rfl

end Catalog

end SqlBridge
