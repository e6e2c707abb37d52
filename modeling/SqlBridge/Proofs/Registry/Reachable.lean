import SqlBridge.Proofs.Outcome
import SqlBridge.Proofs.Registry.Tables

/-!
# Reachable registries

The registries that programs can hold: the built-in one for any options, and what successful
registrations make of it. Their tables are linked, and a property of descriptors that holds of the
built-in ones and that each registration gives to what it adds holds of all that is registered.
-/

namespace SqlBridge.Registry

/-- A registry that registrations lead to, all names of which are admitted. -/
inductive ReachableBy (admits : String → Prop) : Registry → Prop
  | builtin (o : MappingOptions) : ReachableBy admits (builtin o)
  | enumeration {r r' : Registry} {d : EnumDefinition} {e : Descriptor} :
    ReachableBy admits r → admits d.qualifiedName → r.registerEnum d = .ok (e, r') →
    ReachableBy admits r'
  | range {r r' : Registry} {d : RangeDefinition} {e : Descriptor} :
    ReachableBy admits r → admits d.qualifiedName → r.registerRange d = .ok (e, r') →
    ReachableBy admits r'

/-! ## The built-in registry -/

/-- The tables of the built-in scalars only. -/
def leaves (o : MappingOptions) : Registry :=
  { options := o, stores := Builtin.entries o }

lemma exists_family_of_mem_leaves {o : MappingOptions} {name : String} {d : Descriptor}
    (h : d ∈ (leaves o).named name) :
    ∃ f ∈ Builtin.families o.legacyTimestamps, name ∈ f.names ∧
      ∃ host ∈ f.hosts, d = f.descriptor o.literals name host := by
  obtain ⟨ds, hmem, hd⟩ := Entries.mem_of_mem_all h
  obtain ⟨f, hf, hentry⟩ := List.mem_flatMap.1 hmem
  obtain ⟨name', hname, e⟩ := List.mem_map.1 hentry
  cases e
  obtain ⟨host, hhost, rfl⟩ := List.mem_map.1 hd
  exact ⟨f, hf, hname, host, hhost, rfl⟩

lemma linked_leaves (o : MappingOptions) : (leaves o).Linked where
  stores h := by
    obtain ⟨f, -, -, host, -, rfl⟩ := exists_family_of_mem_leaves h
    rfl
  hosts h := by cases h
  ranges h := by cases h
  multiranges h := by cases h

/-- A range or multirange over a subtype under the names of a built-in range type. -/
def IsBuiltinContainer (subtype d : Descriptor) : Prop :=
  ∃ names ∈ Builtin.rangeTypes, d = .rangeOver names.range subtype ∨
    Descriptor.multirangeOver names.multirange (.rangeOver names.range subtype) = .ok d

/-- The registry with the range and the multirange over a subtype under the names of a range type. -/
abbrev addContainers (names : Builtin.RangeNames) (subtype : Descriptor) (r : Registry) : Registry :=
  addMultirange names.multirange names.range subtype (addRange names.range subtype r)

/-- Of some range types of new names the range of the first is new, its multirange is new beside that, and the other
names stay new. -/
lemma new_of_rangeTypes {names : Builtin.RangeNames} {types : List Builtin.RangeNames} {r : Registry}
    (subtype : Descriptor)
    (hnew : (r.stores.map (·.1) ++
      (names :: types).flatMap fun names => [names.range, names.multirange]).Nodup) :
    r.isNamed names.range = false ∧ (addRange names.range subtype r).isNamed names.multirange = false ∧
      ((addContainers names subtype r).stores.map (·.1) ++
        types.flatMap fun names => [names.range, names.multirange]).Nodup := by
  rw [List.flatMap_cons, ← List.append_assoc] at hnew
  -- the range is new because of all names, the multirange also because it is not the range
  obtain ⟨hrangeNew, hmultiNew, hne⟩ : names.range ∉ r.stores.map (·.1) ∧
      names.multirange ∉ r.stores.map (·.1) ∧ names.range ≠ names.multirange := by
    have hkeys := List.nodup_append.1 (hnew.sublist (List.sublist_append_left _ _))
    grind
  have hrangeNew' : r.isNamed names.range = false := isNamed_eq_false_iff.2 hrangeNew
  have hrangeKeys : (addRange names.range subtype r).stores.map (·.1) =
      r.stores.map (·.1) ++ [names.range] := (adds_addRange hrangeNew' subtype).keys_eq
  have hmultiNew' : (addRange names.range subtype r).isNamed names.multirange = false := by
    rw [isNamed_eq_false_iff, hrangeKeys, List.mem_append, List.mem_singleton, not_or]
    exact ⟨hmultiNew, hne.symm⟩
  have hmulti : Adds _ _ (addContainers names subtype r) := adds_addMultirange rfl hmultiNew'
  have hmultiKeys : (addContainers names subtype r).stores.map (·.1) =
      r.stores.map (·.1) ++ [names.range, names.multirange] := by
    rw [hmulti.keys_eq, hrangeKeys, List.append_assoc]
    rfl
  refine ⟨hrangeNew', hmultiNew', ?_⟩
  rw [hmultiKeys]
  exact hnew

/-- Range types of new names add a range and the multirange over it, one after the other. -/
lemma foldl_addRangeType {motive : Registry → Prop} {types : List Builtin.RangeNames} {r : Registry}
    (step : ∀ r, ∀ names ∈ Builtin.rangeTypes, ∀ subtype, motive r → r.first? names.subtype = some subtype →
      r.isNamed names.range = false → (addRange names.range subtype r).isNamed names.multirange = false →
      motive (addContainers names subtype r))
    (htypes : types ⊆ Builtin.rangeTypes)
    (hnew : (r.stores.map (·.1) ++ types.flatMap fun names => [names.range, names.multirange]).Nodup)
    (hr : motive r) : motive (types.foldl addRangeType r) := by
  induction types generalizing r with
  | nil => exact hr
  | cons names types ih =>
    have htypes' : types ⊆ Builtin.rangeTypes := fun _ h => htypes (List.mem_cons_of_mem _ h)
    rw [List.foldl_cons, addRangeType]
    cases hfirst : r.first? names.subtype with
    | none =>
      rw [List.flatMap_cons, ← List.append_assoc] at hnew
      exact ih htypes' (hnew.sublist ((List.sublist_append_left _ _).append_right _)) hr
    | some subtype =>
      obtain ⟨hrange, hmulti, hrest⟩ := new_of_rangeTypes subtype hnew
      exact ih htypes' hrest (step r names (htypes List.mem_cons_self) subtype hr hfirst hrange hmulti)

/-- The built-in names are all different. -/
lemma nodup_names (o : MappingOptions) : ((Builtin.entries o).map (·.1) ++
    Builtin.rangeTypes.flatMap fun names => [names.range, names.multirange]).Nodup := by
  have hall : ∀ legacy, ((Builtin.families legacy).flatMap (·.names) ++
      Builtin.rangeTypes.flatMap fun names => [names.range, names.multirange]).Nodup := by
    decide +kernel
  have hnames : (Builtin.entries o).map (·.1)
      = (Builtin.families o.legacyTimestamps).flatMap (·.names) := by
    simp [Builtin.entries, Builtin.Family.entries, List.map_flatMap, Function.comp_def]
  rw [hnames]
  exact hall _

/-- Setting a default leaves the registered descriptors as they are. -/
lemma addDefault_eq (r : Registry) (entry : Scalar × String) :
    ∃ hosts, r.addDefault entry = { r with hosts } := by
  rw [addDefault]
  cases (r.named entry.2).find? fun d => d.hostType == .scalar entry.1 with
  | none => exact ⟨r.hosts, rfl⟩
  | some d => exact ⟨_, rfl⟩

/-- The built-in registry is made of the scalars by setting defaults and adding, under new names, a range and the
multirange over it. -/
theorem builtin_steps {o : MappingOptions} {motive : Registry → Prop}
    (scalars : motive (leaves o))
    (default : ∀ r, ∀ entry ∈ Builtin.defaultStores o.legacyTimestamps, motive r →
      motive (r.addDefault entry))
    (rangeType : ∀ r, ∀ names ∈ Builtin.rangeTypes, ∀ subtype, motive r →
      r.first? names.subtype = some subtype → r.isNamed names.range = false →
      (addRange names.range subtype r).isNamed names.multirange = false →
      motive (addContainers names subtype r)) :
    motive (builtin o) := by
  obtain ⟨hstores, hdefaults⟩ : ((Builtin.defaultStores o.legacyTimestamps).foldl addDefault
      (leaves o)).stores = Builtin.entries o ∧
        motive ((Builtin.defaultStores o.legacyTimestamps).foldl addDefault (leaves o)) := by
    apply List.foldlRecOn (motive := fun r => r.stores = Builtin.entries o ∧ motive r)
    · exact ⟨rfl, scalars⟩
    · intro r hr entry hentry
      refine ⟨?_, default r entry hentry hr.2⟩
      obtain ⟨hosts, e⟩ := addDefault_eq r entry
      rw [e, hr.1]
  have hnew := nodup_names o
  rw [← hstores] at hnew
  exact foldl_addRangeType rangeType (List.Subset.refl _) hnew hdefaults

/-- The same for what does not hang on how the tables of containers are made. -/
theorem builtin_induction {o : MappingOptions} {motive : Registry → Prop}
    (scalars : motive (leaves o))
    (default : ∀ r, ∀ entry ∈ Builtin.defaultStores o.legacyTimestamps, motive r →
      motive (r.addDefault entry))
    (container : ∀ r r' subtype d, motive r → (∃ name, subtype ∈ r.named name) →
      IsBuiltinContainer subtype d → Adds d r r' → motive r') :
    motive (builtin o) := by
  apply builtin_steps scalars default
  intro r names hnames subtype hr hfirst hrange hmulti
  have hmem : subtype ∈ r.named names.subtype := List.mem_of_head? hfirst
  have hadds := adds_addRange hrange subtype
  have hr' := container r _ subtype _ hr ⟨_, hmem⟩ ⟨names, hnames, .inl rfl⟩ hadds
  exact container _ _ subtype _ hr' ⟨_, hadds.mem_named hmem⟩ ⟨names, hnames, .inr rfl⟩
    (adds_addMultirange rfl hmulti)

lemma linked_builtin (o : MappingOptions) : (builtin o).Linked := by
  apply builtin_induction (motive := Linked)
  · exact linked_leaves o
  · exact fun r entry _ hr => linked_addDefault hr entry
  · exact fun r r' subtype d hr _ _ h => h.linked hr

lemma options_builtin (o : MappingOptions) : (builtin o).options = o := by
  apply builtin_induction (motive := fun r => r.options = o)
  · rfl
  · intro r entry _ hr
    obtain ⟨hosts, e⟩ := addDefault_eq r entry
    rw [e]
    exact hr
  · exact fun r r' subtype d hr _ _ h => h.options.trans hr

/-- The built-in scalars come first under their names. -/
lemma first?_builtin {o : MappingOptions} {name : String} {d : Descriptor}
    (h : (leaves o).first? name = some d) : (builtin o).first? name = some d := by
  apply builtin_induction (motive := fun r => r.first? name = some d)
  · exact h
  · intro r entry _ hr
    obtain ⟨hosts, e⟩ := addDefault_eq r entry
    rw [e]
    exact hr
  · exact fun r r' subtype d hr _ _ hadds => hadds.first? hr

/-- The names of the built-in store types. -/
def builtinNames : List String :=
  (Builtin.families false).flatMap (·.names)
    ++ Builtin.rangeTypes.flatMap fun names => [names.range, names.multirange]

lemma IsBuiltinContainer.storeType_mem {subtype d : Descriptor} (h : IsBuiltinContainer subtype d) :
    d.storeType ∈ builtinNames := by
  obtain ⟨names, hnames, hd⟩ := h
  apply List.mem_append_right
  apply List.mem_flatMap.2
  refine ⟨names, hnames, ?_⟩
  rcases hd with rfl | hm
  · exact List.mem_cons_self
  · rw [storeType_of_multirangeOver hm]
    exact List.mem_cons_of_mem _ List.mem_cons_self

lemma mem_families_names (legacy : Bool) (name : String) :
    name ∈ (Builtin.families legacy).flatMap (·.names)
      ↔ name ∈ (Builtin.families false).flatMap (·.names) := by
  cases legacy <;> rfl

lemma mem_names_leaves {o : MappingOptions} {name : String} :
    name ∈ (leaves o).names ↔ name ∈ (Builtin.families false).flatMap (·.names) := by
  rw [← mem_families_names o.legacyTimestamps]
  simp only [names, leaves, Builtin.entries, List.map_flatMap, List.map_nil, List.append_nil,
    Builtin.Family.entries, List.map_map, List.mem_flatMap]
  simp [Function.comp_def]

/-- The built-in registry has the names of the built-in store types, and no others. -/
lemma names_builtin (o : MappingOptions) :
    (∀ name ∈ (Builtin.families false).flatMap (·.names), name ∈ (builtin o).names) ∧
      ∀ name ∈ (builtin o).names, name ∈ builtinNames := by
  apply builtin_induction (motive := fun r =>
    (∀ name ∈ (Builtin.families false).flatMap (·.names), name ∈ r.names) ∧
      ∀ name ∈ r.names, name ∈ builtinNames)
  · exact ⟨fun name h => mem_names_leaves.2 h,
      fun name h => List.mem_append_left _ (mem_names_leaves.1 h)⟩
  · intro r entry _ hr
    obtain ⟨hosts, e⟩ := addDefault_eq r entry
    rw [e]
    exact hr
  · intro r r' subtype d hr _ hd h
    refine ⟨fun name hname => h.mem_names (hr.1 name hname), fun name hname => ?_⟩
    rcases h.of_mem_names hname with rfl | hname
    · exact hd.storeType_mem
    · exact hr.2 name hname

/-! ## Registrations -/

/-- A registered enumeration is new under its name and for its host type. -/
lemma registerEnum_eq_ok {r r' : Registry} {d : EnumDefinition} {e : Descriptor}
    (h : r.registerEnum d = .ok (e, r')) : e = r.enumDescriptor d ∧ r.isNamed e.storeType = false ∧
      r.isHosted e.hostType = false ∧ r' = addEnum e r := by
  rw [registerEnum] at h
  by_cases htaken : (r.isNamed d.qualifiedName || r.isHosted (.enumeration d.hostTypeName)) = true
  · rw [if_pos htaken] at h
    cases h
  · rw [if_neg htaken] at h
    cases h
    rw [Bool.or_eq_true, not_or, Bool.not_eq_true, Bool.not_eq_true] at htaken
    exact ⟨rfl, htaken.1, htaken.2, rfl⟩

lemma registerEnum_ok {r r' : Registry} {d : EnumDefinition} {e : Descriptor}
    (h : r.registerEnum d = .ok (e, r')) : e = r.enumDescriptor d ∧ Adds e r r' := by
  obtain ⟨he, hnamed, -, rfl⟩ := registerEnum_eq_ok h
  exact ⟨he, adds_addEnum hnamed⟩

/-- A registered range is over the answer for its subtype. -/
lemma registerRange_ok {r r' : Registry} {d : RangeDefinition} {e : Descriptor}
    (h : r.registerRange d = .ok (e, r')) :
    ∃ s, r.find (subtypeRequest d) = some s ∧ e = .rangeOver d.qualifiedName s ∧
      r' = addUserRange d.subtype e r := by
  rw [registerRange] at h
  by_cases htaken : r.isTaken d.qualifiedName = true
  · rw [if_pos htaken] at h
    cases h
  · rw [if_neg htaken] at h
    cases hfind : r.find (subtypeRequest d) with
    | none =>
      rw [hfind] at h
      cases h
    | some s =>
      rw [hfind] at h
      cases h
      exact ⟨s, rfl, rfl, rfl⟩

/-- What each of some registrations keeps, they keep when they are made one after the other. -/
lemma registrations_induction {δ : Type} {register : Registry → δ → Except Fault (Descriptor × Registry)}
    {motive : Registry → Prop} {ds : List δ} {r r' : Registry}
    (step : ∀ r r' d e, d ∈ ds → motive r → register r d = .ok (e, r') → motive r') (hr : motive r)
    (h : ds.foldlM (fun r d => (register r d).map (·.2)) r = .ok r') : motive r' := by
  induction ds generalizing r with
  | nil => cases h; exact hr
  | cons d ds ih =>
    rw [List.foldlM_cons] at h
    obtain ⟨r₁, hstep, h⟩ := ok_of_bind h
    obtain ⟨⟨e, r₂⟩, hd, rfl⟩ := ok_of_map hstep
    have hr₂ := step r r₂ d e List.mem_cons_self hr hd
    exact ih (fun r r' d e hmem => step r r' d e (List.mem_cons_of_mem _ hmem)) hr₂ h

/-- What the registrations of enumerations and ranges keep holds of the registry for options. -/
lemma ofOptions_induction {o : MappingOptions} {motive : Registry → Prop} {r : Registry}
    (builtin : motive (builtin o))
    (enumeration : ∀ r r' d e, d ∈ o.enums → motive r → r.registerEnum d = .ok (e, r') → motive r')
    (range : ∀ r r' d e, d ∈ o.ranges → motive r → r.registerRange d = .ok (e, r') → motive r')
    (h : ofOptions o = .ok r) : motive r := by
  rw [ofOptions] at h
  obtain ⟨-, -, h⟩ := ok_of_bind h
  obtain ⟨r', henums, hranges⟩ := ok_of_bind h
  exact registrations_induction range (registrations_induction enumeration builtin henums) hranges

namespace ReachableBy

variable {admits : String → Prop} {r : Registry}

/-- The tables of a reachable registry are linked. -/
theorem linked (h : r.ReachableBy admits) : r.Linked := by
  induction h with
  | builtin o => exact linked_builtin o
  | enumeration _ _ hd ih => exact (registerEnum_ok hd).2.linked ih
  | range _ _ hd ih =>
    obtain ⟨s, -, -, rfl⟩ := registerRange_ok hd
    exact linked_addUserRange ih _ _

/-- Built-in names stay listed, and the other listed names are admitted. -/
theorem names_spec (h : r.ReachableBy admits) :
    (∀ name ∈ (Builtin.families false).flatMap (·.names), name ∈ r.names) ∧
      ∀ name ∈ r.names, name ∈ builtinNames ∨ admits name := by
  induction h with
  | builtin o =>
    obtain ⟨hlisted, hbuiltin⟩ := names_builtin o
    exact ⟨hlisted, fun name h => .inl (hbuiltin name h)⟩
  | enumeration _ hname hd ih =>
    obtain ⟨rfl, hadds⟩ := registerEnum_ok hd
    refine ⟨fun name h => hadds.mem_names (ih.1 name h), fun name h => ?_⟩
    rcases hadds.of_mem_names h with rfl | h
    · exact .inr hname
    · exact ih.2 name h
  | range _ hname hd ih =>
    obtain ⟨s, -, rfl, rfl⟩ := registerRange_ok hd
    refine ⟨fun name h => mem_names_addUserRange.2 (.inl (ih.1 name h)), fun name h => ?_⟩
    rcases mem_names_addUserRange.1 h with h | rfl
    · exact ih.2 name h
    · exact .inr hname

/-- The built-in scalars stay first under their names. -/
theorem first?_of_leaves (h : r.ReachableBy admits) {name : String} {d : Descriptor}
    (hd : (leaves r.options).first? name = some d) : r.first? name = some d := by
  induction h with
  | builtin o =>
    rw [options_builtin] at hd
    exact first?_builtin hd
  | enumeration _ _ henum ih =>
    obtain ⟨-, hadds⟩ := registerEnum_ok henum
    rw [hadds.options] at hd
    exact hadds.first? (ih hd)
  | range _ _ hrange ih =>
    obtain ⟨s, -, -, rfl⟩ := registerRange_ok hrange
    exact ih hd

/-- What holds of the built-in scalars and is given to every enumeration and range that is added holds
of all registered descriptors. A range is over an answer of the registry that it is added to. -/
theorem registered {o : MappingOptions} {P : Descriptor → Prop}
    (scalar : ∀ f ∈ Builtin.families o.legacyTimestamps, ∀ name ∈ f.names, ∀ host ∈ f.hosts,
      P (f.descriptor o.literals name host))
    (container : ∀ subtype d, P subtype → IsBuiltinContainer subtype d → P d)
    (enumeration : ∀ (r : Registry) (d : EnumDefinition), r.options = o → P (r.enumDescriptor d))
    (range : ∀ (r : Registry) (q : Request) (name : String) (s : Descriptor), r.ReachableBy admits →
      r.options = o → (∀ e, r.IsRegistered e → P e) → r.find q = some s → P (.rangeOver name s))
    (h : r.ReachableBy admits) (ho : r.options = o) {d : Descriptor} (hd : r.IsRegistered d) : P d := by
  induction h generalizing d with
  | builtin o' =>
    rw [options_builtin] at ho
    subst ho
    -- the subtype of a container is only known to be registered in linked tables
    suffices hall : (Registry.builtin o').Linked ∧ ∀ d, (Registry.builtin o').IsRegistered d → P d from
      hall.2 d hd
    apply builtin_induction (motive := fun r => r.Linked ∧ ∀ d, r.IsRegistered d → P d)
    · refine ⟨linked_leaves o', fun d hd => ?_⟩
      rcases hd with hd | hd
      · obtain ⟨f, hf, hname, host, hhost, e⟩ := exists_family_of_mem_leaves hd
        rw [e]
        exact scalar f hf _ hname host hhost
      · cases hd
    · intro r entry _ hr
      refine ⟨linked_addDefault hr.1 entry, ?_⟩
      obtain ⟨hosts, e⟩ := addDefault_eq r entry
      rw [e]
      exact hr.2
    · intro r r' subtype d hr hsub hcontainer hadds
      obtain ⟨name, hmem⟩ := hsub
      refine ⟨hadds.linked hr.1, fun e he => ?_⟩
      rcases hadds.isRegistered_iff.1 he with rfl | he
      · exact container _ _ (hr.2 _ (hr.1.isRegistered hmem)) hcontainer
      · exact hr.2 e he
  | enumeration _ _ hd' ih =>
    obtain ⟨rfl, hadds⟩ := registerEnum_ok hd'
    rw [hadds.options] at ho
    rcases hadds.isRegistered_iff.1 hd with rfl | hd
    · exact enumeration _ _ ho
    · exact ih ho hd
  | range hr _ hd' ih =>
    obtain ⟨s, hs, rfl, rfl⟩ := registerRange_ok hd'
    rcases isRegistered_addUserRange.1 hd with rfl | hd
    · exact range _ _ _ _ hr ho (fun e he => ih ho he) hs
    · exact ih ho hd

end ReachableBy

end SqlBridge.Registry
