import SqlBridge.Proofs.Registry.Reachable
import SqlBridge.Proofs.StoreType.Naming

/-!
# What stands under a name

The built-in names of scalars keep the descriptors of their families, and every other name has a single
descriptor. So the descriptors of a name are told apart by their host types.
-/

namespace SqlBridge.Registry

variable {admits : String → Prop} {r : Registry} {d e : Descriptor} {name : String}

/-- The stores are those of the built-in scalars with further descriptors, no two under one name. -/
def HasOwnNames (r : Registry) : Prop :=
  (r.stores.map (·.1)).Nodup ∧
    ∃ ds : List Descriptor, r.stores = Builtin.entries r.options ++ ds.map fun d => (d.storeType, [d])

lemma hasOwnNames_leaves (o : MappingOptions) : (leaves o).HasOwnNames :=
  ⟨(nodup_names o).sublist (List.sublist_append_left _ _), [], (List.append_nil _).symm⟩

lemma Adds.hasOwnNames {r' : Registry} (h : Adds d r r') (hr : r.HasOwnNames) : r'.HasOwnNames := by
  obtain ⟨hnodup, ds, hstores⟩ := hr
  constructor
  · rw [h.keys_eq]
    refine List.nodup_append.2 ⟨hnodup, List.nodup_cons.2 ⟨nofun, List.nodup_nil⟩, ?_⟩
    rintro name hname _ hd rfl
    rw [List.mem_singleton.1 hd] at hname
    exact isNamed_eq_false_iff.1 h.isNew hname
  · refine ⟨ds ++ [d], ?_⟩
    rw [h.stores_eq, hstores, h.options, List.map_append, List.append_assoc]
    rfl

theorem ReachableBy.hasOwnNames (h : r.ReachableBy admits) : r.HasOwnNames := by
  induction h with
  | builtin o =>
    apply builtin_induction (motive := HasOwnNames)
    · exact hasOwnNames_leaves o
    · intro r entry _ hr
      obtain ⟨hosts, e⟩ := addDefault_eq r entry
      rw [e]
      exact hr
    · exact fun r r' subtype d hr _ _ h => h.hasOwnNames hr
  | enumeration _ _ hd ih => exact (registerEnum_ok hd).2.hasOwnNames ih
  | range _ _ hd ih =>
    obtain ⟨s, -, -, rfl⟩ := registerRange_ok hd
    exact ih

/-- The descriptors of a name are those of its family, or there is a single one. -/
lemma HasOwnNames.cases (h : r.HasOwnNames) {ds : List Descriptor} (hds : (name, ds) ∈ r.stores) :
    (∃ f ∈ Builtin.families r.options.legacyTimestamps, name ∈ f.names ∧
      ds = f.hosts.map (f.descriptor r.literals name)) ∨ ∃ d, ds = [d] := by
  obtain ⟨-, others, hstores⟩ := h
  rw [hstores, List.mem_append] at hds
  rcases hds with hds | hds
  · obtain ⟨f, hf, hentry⟩ := List.mem_flatMap.1 hds
    obtain ⟨name', hname, e⟩ := List.mem_map.1 hentry
    cases e
    exact .inl ⟨f, hf, hname, rfl⟩
  · obtain ⟨d, -, e⟩ := List.mem_map.1 hds
    cases e
    exact .inr ⟨d, rfl⟩

/-- A name of a built-in family has the descriptors of the family, and no others. -/
theorem ReachableBy.named_of_family (h : r.ReachableBy admits) {f : Builtin.Family}
    (hf : f ∈ Builtin.families r.options.legacyTimestamps) (hname : name ∈ f.names) :
    r.named name = f.hosts.map (f.descriptor r.literals name) := by
  obtain ⟨hnodup, others, hstores⟩ := h.hasOwnNames
  have hentry : (name, f.hosts.map (f.descriptor r.literals name)) ∈ r.stores := by
    rw [hstores, List.mem_append]
    exact .inl (List.mem_flatMap.2 ⟨f, hf, List.mem_map.2 ⟨name, hname, rfl⟩⟩)
  rw [named, Entries.all, Entries.get?_of_mem hnodup hentry]
  rfl

/-- The descriptors of a name are the same but for their host types. -/
theorem ReachableBy.eq_withHostType (h : r.ReachableBy admits) (hd : d ∈ r.named name)
    (he : e ∈ r.named name) : d = e.withHostType d.hostType := by
  cases hget : Entries.get? name r.stores with
  | none =>
    rw [named, Entries.all, hget] at hd
    cases hd
  | some ds =>
    rw [named, Entries.all, hget] at hd he
    rcases h.hasOwnNames.cases (Entries.mem_of_get? hget) with ⟨f, -, -, rfl⟩ | ⟨c, rfl⟩
    · obtain ⟨s, -, rfl⟩ := List.mem_map.1 hd
      obtain ⟨s', -, rfl⟩ := List.mem_map.1 he
      rfl
    · rw [List.mem_singleton.1 hd, List.mem_singleton.1 he, Descriptor.withHostType_hostType]

/-- A name has at most one descriptor for a host type. -/
lemma ReachableBy.eq_of_hostType (h : r.ReachableBy admits) (hd : d ∈ r.named name)
    (he : e ∈ r.named name) (hhost : d.hostType = e.hostType) : d = e := by
  rw [h.eq_withHostType hd he, hhost, Descriptor.withHostType_hostType]

end SqlBridge.Registry
