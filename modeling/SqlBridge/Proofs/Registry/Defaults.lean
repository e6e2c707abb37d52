import SqlBridge.Proofs.Registry.Reachable
import SqlBridge.Proofs.Registry.Resolution

/-!
# Answers that every registry has

Built-in store types and scalar host types have answers in every reachable registry: registrations take
no name and no default away.
-/

namespace SqlBridge.Registry

variable {admits : String → Prop} {r r' : Registry} {d : Descriptor} {host : HostType}

/-! ## Built-in names -/

lemma hosts_ne_nil (legacy : Bool) : ∀ f ∈ Builtin.families legacy, f.hosts ≠ [] := by
  cases legacy <;> decide

/-- Every built-in name has a first descriptor. -/
lemma exists_first?_leaves {o : MappingOptions} {name : String}
    (h : name ∈ (Builtin.families false).flatMap (·.names)) :
    ∃ d, (leaves o).first? name = some d := by
  have hname : name ∈ (leaves o).names := mem_names_leaves.2 h
  rw [names, leaves, List.map_nil, List.append_nil] at hname
  obtain ⟨ds, hget⟩ := Entries.exists_get?_of_mem hname
  obtain ⟨f, hf, hentry⟩ := List.mem_flatMap.1 (Entries.mem_of_get? hget)
  obtain ⟨_, _, e⟩ := List.mem_map.1 hentry
  cases e
  obtain ⟨host, hosts, hhosts⟩ := List.exists_cons_of_ne_nil (hosts_ne_nil _ f hf)
  rw [hhosts] at hget
  exact ⟨_, by rw [first?, named, Entries.all, leaves, hget]; rfl⟩

lemma isNamed_of_mem_named {name : String} (h : d ∈ r.named name) : r.isNamed name = true := by
  obtain ⟨ds, hmem, -⟩ := Entries.mem_of_mem_all h
  rw [isNamed, Entries.isSome_get?_iff]
  exact List.mem_map_of_mem (f := (·.1)) hmem

/-- A name stands for its first descriptor when no host type is asked for. -/
lemma byName_of_first? {name : String} (h : r.first? name = some d) : r.byName name none = .found d := by
  rw [byName, candidates, if_pos (isNamed_of_mem_named (List.mem_of_head? h))]
  exact choose_none_eq_found_iff.2 h

/-- A name answers with its first descriptor when nothing else is asked for. -/
lemma findStore_of_first? {name : String} (h : r.first? name = some d) : r.findStore name = some d := by
  have hdecide : r.decide (.forStore name) = .found d :=
    decideByStore_of_byName (asksForCharacter_forStore name name) (byName_of_first? h)
  exact find_of_found (congrArg Decision.found? hdecide)

/-- Every built-in store type has an answer. -/
theorem ReachableBy.exists_findStore (h : r.ReachableBy admits) {name : String}
    (hname : name ∈ (Builtin.families false).flatMap (·.names)) :
    ∃ d, r.findStore name = some d := by
  obtain ⟨d, hd⟩ := exists_first?_leaves (o := r.options) hname
  exact ⟨d, findStore_of_first? (h.first?_of_leaves hd)⟩

/-! ## Defaults of scalars -/

lemma isSome_get?_set {key : HostType} {table : List (HostType × Descriptor)} (d : Descriptor)
    (h : host = key ∨ (Entries.get? host table).isSome = true) :
    (Entries.get? host (Entries.set key d table)).isSome = true := by
  rw [Entries.get?_set]
  by_cases hkey : key = host
  · rw [if_pos hkey]
    rfl
  · rw [if_neg hkey]
    exact h.resolve_left (Ne.symm hkey)

lemma isHosted_addStore (d : Descriptor) (r : Registry) :
    (addStore d r).isHosted host = r.isHosted host :=
  rfl

/-- Offering a default takes none away; the other tables do not matter. -/
lemma isHosted_addHost (hhosts : r'.hosts = r.hosts) (h : r.isHosted host = true) (d : Descriptor) :
    (addHost d r').isHosted host = true := by
  have h' : r'.isHosted host = true := by rwa [isHosted, hhosts]
  rw [addHost]
  by_cases hd : r'.isHosted d.hostType = true
  · rw [if_pos hd]
    exact h'
  · rw [if_neg hd]
    exact isSome_get?_set d (.inr h')

lemma isHosted_addRangeType (h : r.isHosted host = true) (names : Builtin.RangeNames) :
    (r.addRangeType names).isHosted host = true := by
  rw [addRangeType]
  cases r.first? names.subtype with
  | none => exact h
  | some subtype =>
    have hrange : (addRange names.range subtype r).isHosted host = true := by
      simp only [addRange, isHosted_addStore]
      exact isHosted_addHost (by rfl) h _
    simp only [addMultirange]
    split
    · simp only [isHosted_addStore]
      exact isHosted_addHost (by rfl) hrange _
    · exact hrange

lemma isHosted_addDefault (h : r.isHosted host = true) (entry : Scalar × String) :
    (r.addDefault entry).isHosted host = true := by
  rw [addDefault]
  split
  · exact isSome_get?_set _ (.inr h)
  · exact h

/-- A default that is set is there afterwards, when its store type has a descriptor of the host type. -/
lemma isHosted_addDefault_self {entry : Scalar × String}
    (h : ∃ d ∈ r.named entry.2, d.hostType = .scalar entry.1) :
    (r.addDefault entry).isHosted (.scalar entry.1) = true := by
  obtain ⟨d, hmem, hhost⟩ := h
  rw [addDefault]
  split
  · exact isSome_get?_set _ (.inl rfl)
  · rename_i hnone
    have hne := List.find?_eq_none.1 hnone d hmem
    exact absurd (beq_iff_eq.2 hhost) hne

lemma isHosted_foldl_addDefault {entries : List (Scalar × String)}
    (h : ∀ entry ∈ entries, ∃ d ∈ r.named entry.2, d.hostType = .scalar entry.1) :
    ∀ entry ∈ entries, (entries.foldl addDefault r).isHosted (.scalar entry.1) = true := by
  induction entries generalizing r with
  | nil => nofun
  | cons entry rest ih =>
    rw [List.forall_mem_cons] at h ⊢
    rw [List.foldl_cons]
    constructor
    · apply List.foldlRecOn (motive := fun r : Registry => r.isHosted (.scalar entry.1) = true)
      · exact isHosted_addDefault_self h.1
      · intro r hr entry' _
        exact isHosted_addDefault hr entry'
    · obtain ⟨hosts, e⟩ := addDefault_eq r entry
      apply ih
      rw [e]
      exact h.2

/-- The store type that a scalar goes to by default has a descriptor of the scalar. -/
lemma named_defaultStores (o : MappingOptions) :
    ∀ entry ∈ Builtin.defaultStores o.legacyTimestamps,
      ∃ d ∈ (leaves o).named entry.2, d.hostType = .scalar entry.1 := by
  have hall : (Builtin.defaultStores o.legacyTimestamps).all (fun entry =>
      ((leaves o).named entry.2).any (·.hostType == .scalar entry.1)) = true := by
    obtain ⟨legacy, writesExtremes, keySize, ranges, enums⟩ := o
    cases legacy <;> rfl
  intro entry hentry
  obtain ⟨d, hmem, hhost⟩ := List.any_eq_true.1 (List.all_eq_true.1 hall entry hentry)
  exact ⟨d, hmem, beq_iff_eq.1 hhost⟩

lemma exists_defaultStore (legacy : Bool) {s : Scalar} (hs : s ≠ .char) :
    ∃ store, (s, store) ∈ Builtin.defaultStores legacy := by
  have hmem : s ∈ (Builtin.defaultStores legacy).map (·.1) := by
    cases s with
    | char => exact absurd rfl hs
    | _ => cases legacy <;> decide
  obtain ⟨⟨_, store⟩, hentry, rfl⟩ := List.mem_map.1 hmem
  exact ⟨store, hentry⟩

lemma isHosted_builtin (o : MappingOptions) {s : Scalar} (hs : s ≠ .char) :
    (builtin o).isHosted (.scalar s) = true := by
  obtain ⟨store, hentry⟩ := exists_defaultStore o.legacyTimestamps hs
  have hdefaults := isHosted_foldl_addDefault (named_defaultStores o) _ hentry
  apply List.foldlRecOn (motive := fun r : Registry => r.isHosted (.scalar s) = true)
  · exact hdefaults
  · intro r hr names _
    exact isHosted_addRangeType hr names

lemma ReachableBy.isHosted (h : r.ReachableBy admits) {s : Scalar} (hs : s ≠ .char) :
    r.isHosted (.scalar s) = true := by
  induction h with
  | builtin o => exact isHosted_builtin o hs
  | enumeration _ _ hd ih =>
    obtain ⟨-, -, -, rfl⟩ := registerEnum_eq_ok hd
    exact isSome_get?_set _ (.inr ih)
  | range _ _ hd ih =>
    obtain ⟨_, -, -, rfl⟩ := registerRange_ok hd
    exact ih

/-- A host type answers with its default when nothing else is asked for. -/
lemma findHost_of_get? (hchar : host ≠ .scalar .char) (h : Entries.get? host r.hosts = some d) :
    r.findHost host = some d := by
  have hdecide : r.decide (.forHost host) = .found d := by
    simp only [decide, Request.forHost, decideByHost, if_neg hchar, h]
    cases sizedStores? host false with
    | none => rfl
    | some stores => rfl
  exact find_of_found (congrArg Decision.found? hdecide)

/-- Every scalar host type has an answer. -/
theorem ReachableBy.exists_findHost (h : r.ReachableBy admits) (s : Scalar) :
    ∃ d, r.findHost (.scalar s) = some d := by
  by_cases hs : s = .char
  · subst hs
    exact ⟨_, find_of_found rfl⟩
  · obtain ⟨d, hget⟩ := Option.isSome_iff_exists.1 (h.isHosted hs)
    exact ⟨d, findHost_of_get? (fun e => hs (HostType.scalar.inj e)) hget⟩

end SqlBridge.Registry
