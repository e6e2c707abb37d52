import SqlBridge.Proofs.Registry.Consistent
import SqlBridge.Proofs.Registry.Uniqueness

/-!
# Containers over a descriptor

A registry has the built-in ranges and after them the user's own, in the order of their registration, and the
built-in multiranges. The tables by host types list them in this order, whichever way they came in. So the range
or multirange over a descriptor is the first one whose boundary values are of the same host type and store type.
-/

namespace SqlBridge

/-- The boundary values of the range or multirange are stored like the values of the other descriptor. -/
def Descriptor.IsBoundedBy (d s : Descriptor) : Prop :=
  ∃ t, d.subtype? = some t ∧ t.hostType = s.hostType ∧ t.storeType = s.storeType

/-- The answer is the first of the containers that is over the descriptor, and there is one if any of them is. -/
structure IsInferred (s : Descriptor) (containers : List Descriptor) (answer : Option Descriptor) : Prop where
  complete : (∃ d, answer = some d) ↔ ∃ d ∈ containers, d.IsBoundedBy s
  earliest (d : Descriptor) : answer = some d ↔ ∃ before after, containers = before ++ d :: after ∧
    d.IsBoundedBy s ∧ ∀ e ∈ before, ¬ e.IsBoundedBy s

lemma isInferred_find? {p : Descriptor → Bool} {s : Descriptor} (hp : ∀ d, p d = true ↔ d.IsBoundedBy s)
    (containers : List Descriptor) : IsInferred s containers (containers.find? p) where
  complete := by
    rw [← Option.isSome_iff_exists, List.find?_isSome]
    simp only [hp]
  earliest d := by
    rw [List.find?_eq_some_iff_append, hp]
    simp only [Bool.not_eq_true', ← Bool.not_eq_true, hp]
    tauto

namespace Registry

variable {admits : String → Prop} {r r' : Registry} {d s : Descriptor}

/-- All registered descriptors, those of each name together and the user's ranges last. -/
def descriptors (r : Registry) : List Descriptor :=
  r.stores.flatMap (·.2) ++ r.userRanges

/-- The registered ranges. -/
def allRanges (r : Registry) : List Descriptor :=
  r.descriptors.filter (·.isRange)

/-- The registered multiranges. -/
def allMultiranges (r : Registry) : List Descriptor :=
  r.descriptors.filter (·.isMultirange)

/-! ## Registered descriptors -/

/-- A new name comes after the other names, and so last of all as long as there are no ranges of the user's own. -/
lemma Adds.filter_descriptors (h : Adds d r r') {p : Descriptor → Bool} (hp : p d = true → r.userRanges = []) :
    r'.descriptors.filter p = r.descriptors.filter p ++ [d].filter p := by
  have hstores : r'.stores.flatMap (·.2) = r.stores.flatMap (·.2) ++ [d] := by
    rw [h.stores_eq, List.flatMap_append]
    rfl
  rw [descriptors, descriptors, hstores, h.userRanges]
  simp only [List.filter_append]
  cases hd : p d with
  | true => rw [hp hd, List.filter_nil, List.append_nil, List.append_nil]
  | false => rw [List.filter_singleton, hd]; simp

lemma filter_descriptors_addUserRange (host : HostType) (d : Descriptor) (r : Registry) (p : Descriptor → Bool) :
    (addUserRange host d r).descriptors.filter p = r.descriptors.filter p ++ [d].filter p := by
  rw [descriptors, descriptors, addUserRange, ← List.filter_append, List.append_assoc]

/-- A range type adds its range and its multirange to the registered ones and to the tables by host types. -/
lemma containers_of_rangeType {names : Builtin.RangeNames} (subtype : Descriptor) (huser : r.userRanges = [])
    (hrange : r.isNamed names.range = false)
    (hmulti : (addRange names.range subtype r).isNamed names.multirange = false) :
    (addContainers names subtype r).userRanges = [] ∧
      (addContainers names subtype r).allRanges = r.allRanges ++ [.rangeOver names.range subtype] ∧
      ∃ m, Descriptor.multirangeOver names.multirange (.rangeOver names.range subtype) = .ok m ∧
        (addContainers names subtype r).allMultiranges = r.allMultiranges ++ [m] ∧
        (addContainers names subtype r).ranges =
          Entries.push subtype.hostType (.rangeOver names.range subtype) r.ranges ∧
        (addContainers names subtype r).multiranges = Entries.push subtype.hostType m r.multiranges := by
  have hadds := adds_addRange hrange subtype
  obtain ⟨stores, hosts, erange⟩ := addRange_eq names.range subtype r
  obtain ⟨stores', hosts', m, hm, emulti⟩ :=
    addMultirange_eq names.multirange names.range subtype (addRange names.range subtype r)
  have hadds' := adds_addMultirange hm hmulti
  have huser' := hadds.userRanges.trans huser
  cases hm
  refine ⟨hadds'.userRanges.trans huser', ?_, _, rfl, ?_, ?_, ?_⟩
  · rw [allRanges, hadds'.filter_descriptors fun _ => huser', hadds.filter_descriptors fun _ => huser]
    exact List.append_nil _
  · rw [allMultiranges, hadds'.filter_descriptors fun _ => huser', hadds.filter_descriptors fun _ => huser]
    exact congrArg (· ++ _) (List.append_nil r.allMultiranges)
  · rw [addContainers, emulti, erange]
  · rw [addContainers, emulti, erange]

lemma scalar_of_leaves {o : MappingOptions} (hd : d ∈ (leaves o).descriptors) : ∃ s, d = .scalar s := by
  rw [descriptors, leaves, List.append_nil, List.mem_flatMap] at hd
  obtain ⟨entry, hentry, hd⟩ := hd
  obtain ⟨f, -, hentry⟩ := List.mem_flatMap.1 hentry
  obtain ⟨name, -, rfl⟩ := List.mem_map.1 hentry
  obtain ⟨host, -, rfl⟩ := List.mem_map.1 hd
  exact ⟨_, rfl⟩

/-- The built-in scalars are no containers. -/
lemma containers_leaves (o : MappingOptions) : (leaves o).allRanges = [] ∧ (leaves o).allMultiranges = [] := by
  have hscalars : ∀ p : Descriptor → Bool, (∀ s, p (.scalar s) = false) →
      (leaves o).descriptors.filter p = [] := by
    intro p hp
    rw [List.filter_eq_nil_iff]
    intro d hd
    obtain ⟨s, rfl⟩ := scalar_of_leaves hd
    rw [hp s]
    exact Bool.false_ne_true
  exact ⟨hscalars _ fun _ => rfl, hscalars _ fun _ => rfl⟩

/-! ## Tables by host type -/

/-- The table has under a host type those containers of the list whose boundary values are of it, in order. -/
def Indexes (table : List (HostType × List Descriptor)) (containers : List Descriptor) : Prop :=
  ∀ host, Entries.all host table = containers.filter fun d => d.subtype?.any (·.hostType == host)

lemma Indexes.push {table : List (HostType × List Descriptor)} {containers : List Descriptor}
    (h : Indexes table containers) (hd : d.subtype? = some s) :
    Indexes (Entries.push s.hostType d table) (containers ++ [d]) := by
  intro host
  rw [Entries.all_push, List.filter_append, ← h host]
  by_cases hhost : s.hostType = host <;> simp [hd, hhost]

/-- The tables of containers list all registered ones. -/
structure IsIndexed (r : Registry) : Prop where
  ranges : Indexes r.ranges r.allRanges
  multiranges : Indexes r.multiranges r.allMultiranges

lemma isIndexed_builtin (o : MappingOptions) : (builtin o).IsIndexed := by
  suffices hall : (builtin o).userRanges = [] ∧ (builtin o).IsIndexed from hall.2
  apply builtin_steps (motive := fun r => r.userRanges = [] ∧ r.IsIndexed)
  · obtain ⟨hranges, hmultiranges⟩ := containers_leaves o
    refine ⟨rfl, fun host => ?_, fun host => ?_⟩
    · rw [hranges]
      rfl
    · rw [hmultiranges]
      rfl
  · intro r entry _ hr
    obtain ⟨hosts, e⟩ := addDefault_eq r entry
    rw [e]
    exact ⟨hr.1, hr.2.ranges, hr.2.multiranges⟩
  · intro r names _ subtype hr _ hrange hmulti
    obtain ⟨huser, hranges, m, hm, hmultiranges, hrangeTable, hmultirangeTable⟩ :=
      containers_of_rangeType subtype hr.1 hrange hmulti
    cases hm
    refine ⟨huser, ?_, ?_⟩
    · rw [hranges, hrangeTable]
      exact hr.2.ranges.push rfl
    · rw [hmultiranges, hmultirangeTable]
      exact hr.2.multiranges.push rfl

/-- An enumeration is no container. -/
lemma filter_descriptors_registerEnum {e : Descriptor} {definition : EnumDefinition}
    (h : r.registerEnum definition = .ok (e, r')) {p : Descriptor → Bool}
    (hp : ∀ s labels, p (.enumeration s labels) = false) :
    r'.descriptors.filter p = r.descriptors.filter p := by
  obtain ⟨rfl, hadds⟩ := registerEnum_ok h
  have he : p (r.enumDescriptor definition) = false := hp _ _
  rw [hadds.filter_descriptors (by simp [he]), List.filter_singleton, he]
  exact List.append_nil _

/-- In a reachable registry the tables of containers list all registered ones. -/
theorem ReachableBy.isIndexed (h : r.ReachableBy admits) : r.IsIndexed := by
  induction h with
  | builtin o => exact isIndexed_builtin o
  | enumeration _ _ hd ih =>
    have hranges := filter_descriptors_registerEnum hd (p := (·.isRange)) fun _ _ => rfl
    have hmultiranges := filter_descriptors_registerEnum hd (p := (·.isMultirange)) fun _ _ => rfl
    obtain ⟨-, -, -, rfl⟩ := registerEnum_eq_ok hd
    constructor
    · rw [allRanges, hranges]
      exact ih.ranges
    · rw [allMultiranges, hmultiranges]
      exact ih.multiranges
  | @range r _ _ _ hr _ hd ih =>
    obtain ⟨s, hs, rfl, rfl⟩ := registerRange_ok hd
    -- the range stands under the declared host type, which is that of the subtype that was found
    obtain ⟨hhost, -⟩ := hostType_of_find hr hs rfl
    rw [← hhost]
    constructor
    · rw [allRanges, filter_descriptors_addUserRange]
      exact ih.ranges.push rfl
    · rw [allMultiranges, filter_descriptors_addUserRange]
      exact (List.append_nil r.allMultiranges).symm ▸ ih.multiranges

/-- The ranges are the built-in ones and then the user's own, and all multiranges are built in. -/
theorem ReachableBy.containers_eq (h : r.ReachableBy admits) :
    r.allRanges = (Registry.builtin r.options).allRanges ++ r.userRanges ∧
      r.allMultiranges = (Registry.builtin r.options).allMultiranges := by
  induction h with
  | builtin o =>
    rw [options_builtin, userRanges_builtin]
    exact ⟨(List.append_nil _).symm, rfl⟩
  | enumeration _ _ hd ih =>
    have hadds := (registerEnum_ok hd).2
    rw [hadds.options, hadds.userRanges, ← ih.1, ← ih.2]
    exact ⟨filter_descriptors_registerEnum hd fun _ _ => rfl, filter_descriptors_registerEnum hd fun _ _ => rfl⟩
  | range _ _ hd ih =>
    obtain ⟨s, -, rfl, rfl⟩ := registerRange_ok hd
    rw [allRanges, allMultiranges, filter_descriptors_addUserRange, filter_descriptors_addUserRange]
    refine ⟨?_, (List.append_nil _).trans ih.2⟩
    exact (congrArg (· ++ _) ih.1).trans (List.append_assoc _ _ _)

/-! ## Inferred containers -/

/-- What a table of containers answers is the first of those that it lists. -/
lemma Indexes.isInferred {table : List (HostType × List Descriptor)} {containers : List Descriptor}
    (h : Indexes table containers) (s : Descriptor) :
    IsInferred s containers ((Entries.all s.hostType table).find? (isOver s)) := by
  rw [h, List.find?_filter]
  apply isInferred_find?
  intro d
  rw [isOver, Descriptor.IsBoundedBy]
  cases d.subtype? with
  | none => simp
  | some t => simp

end Registry

namespace Catalog

open Registry

/-- A range is inferred for a descriptor exactly if one was registered whose boundary values are of its host type
and store type, and it is the earliest of these: of the built-in ranges and the user's own after them. The same
holds of the multiranges, which are the built-in ones. -/
theorem inferred_containers {c : Catalog} (hc : c.Reachable) (s : Descriptor) :
    IsInferred s c.registry.allRanges (c.registry.findRange s) ∧
      c.registry.allRanges = (builtin c.registry.options).allRanges ++ c.registry.userRanges ∧
      IsInferred s c.registry.allMultiranges (c.registry.findMultirange s) ∧
      c.registry.allMultiranges = (builtin c.registry.options).allMultiranges := by
  have hr := hc.spec.2
  obtain ⟨hranges, hmultiranges⟩ := hr.containers_eq
  exact ⟨hr.isIndexed.ranges.isInferred s, hranges, hr.isIndexed.multiranges.isInferred s, hmultiranges⟩

/-- Two ranges over texts of one length, which the definitions spell differently. -/
theorem inferred_containers_of_codes :
    let codes : RangeDefinition :=
      { name := "codes", subtype := .scalar .string, subtypeStore := some "VARCHAR( 12 )" }
    let others : RangeDefinition :=
      { name := "others", subtype := .scalar .string, subtypeStore := some "varchar(12)" }
    ∃ c : Catalog, c.Reachable ∧ ∃ s d, (c.find (.forStore "varchar(12)")).1 = some s ∧
      c.registry.findRange s = some d ∧ d.storeType = codes.qualifiedName ∧ d.IsBoundedBy s ∧
      (c.registry.userRanges.map (·.storeType)) = [codes.qualifiedName, others.qualifiedName] ∧
      c.registry.findMultirange s = none ∧ ∀ e ∈ c.registry.allMultiranges, ¬ e.IsBoundedBy s := by
  intro codes others
  let c : Catalog := (registerRange (registerRange { registry := .builtin {} } codes).2 others).2
  have hc : c.Reachable := .range (.range reachableBy_builtin trivial) trivial
  have hruns : ((c.find (.forStore "varchar(12)")).1.bind c.registry.findRange).map (·.storeType) =
      some codes.qualifiedName ∧
      (c.registry.userRanges.map (·.storeType)) = [codes.qualifiedName, others.qualifiedName] ∧
      ((c.find (.forStore "varchar(12)")).1.bind c.registry.findMultirange) = none := by
    decide +kernel
  obtain ⟨hrange, hnames, hmulti⟩ := hruns
  obtain ⟨d, hd, hstore⟩ := Option.map_eq_some_iff.1 hrange
  obtain ⟨s, hs, hd⟩ := Option.bind_eq_some_iff.1 hd
  rw [hs, Option.bind_some] at hmulti
  obtain ⟨hranges, -, hmultiranges, -⟩ := inferred_containers hc s
  obtain ⟨-, -, -, hover, -⟩ := (hranges.earliest d).1 hd
  refine ⟨c, hc, s, d, hs, hd, hstore, hover, hnames, hmulti, fun e he hover => ?_⟩
  obtain ⟨m, hm⟩ := hmultiranges.complete.2 ⟨e, he, hover⟩
  rw [hmulti] at hm
  cases hm

end Catalog

end SqlBridge
