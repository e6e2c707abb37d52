import SqlBridge.Proofs.Registry.Containers
import SqlBridge.Proofs.Registry.HostType

/-!
# Built-in range types

Every built-in range has a multirange over it, and every multirange is over a built-in range. The ranges differ in
the store types of their boundary values, so that the multirange that is inferred for the boundary values of a
built-in range is the one over that range. The ranges of the user's own have no multiranges.
-/

namespace SqlBridge.Registry

variable {admits : String → Prop} {r : Registry} {R R' M s s' d : Descriptor} {t : HostType}

/-- Every range is that of a range type, over the first descriptor of the name that the range type gives, and has a
multirange over it; and every multirange is over such a range. -/
structure IsPaired (r : Registry) : Prop where
  ranges {R : Descriptor} : R ∈ r.allRanges → ∃ names ∈ Builtin.rangeTypes, ∃ s,
    r.first? names.subtype = some s ∧ R = .rangeOver names.range s
  covered {R : Descriptor} : R ∈ r.allRanges → ∃ M ∈ r.allMultiranges, M.range? = some R
  multiranges {M : Descriptor} : M ∈ r.allMultiranges → ∃ R ∈ r.allRanges, M.range? = some R

lemma isPaired_builtin (o : MappingOptions) : (builtin o).IsPaired := by
  suffices hall : (builtin o).userRanges = [] ∧ (builtin o).IsPaired from hall.2
  apply builtin_steps (motive := fun r => r.userRanges = [] ∧ r.IsPaired)
  · obtain ⟨hranges, hmultiranges⟩ := containers_leaves o
    refine ⟨rfl, ?_, ?_, ?_⟩
    · rw [hranges]
      exact nofun
    · rw [hranges]
      exact nofun
    · rw [hmultiranges]
      exact nofun
  · intro r entry _ hr
    obtain ⟨hosts, e⟩ := addDefault_eq r entry
    rw [e]
    exact ⟨hr.1, hr.2.ranges, hr.2.covered, hr.2.multiranges⟩
  · intro r names hnames s hr hfirst hrange hmulti
    have hadds := adds_addRange hrange s
    obtain ⟨huser, hranges, M, hM, hmultiranges, -, -⟩ := containers_of_rangeType s hr.1 hrange hmulti
    have hfirsts : ∀ {name d}, r.first? name = some d → (addContainers names s r).first? name = some d :=
      fun h => (adds_addMultirange hM hmulti).first? (hadds.first? h)
    cases hM
    refine ⟨huser, ?_, ?_, ?_⟩
    · intro R hR
      rw [hranges, List.mem_append, List.mem_singleton] at hR
      rcases hR with hR | rfl
      · obtain ⟨names', hnames', s', hs', e⟩ := hr.2.ranges hR
        exact ⟨names', hnames', s', hfirsts hs', e⟩
      · exact ⟨names, hnames, s, hfirsts hfirst, rfl⟩
    · intro R hR
      rw [hranges, List.mem_append, List.mem_singleton] at hR
      rw [hmultiranges]
      rcases hR with hR | rfl
      · obtain ⟨M, hM, hover⟩ := hr.2.covered hR
        exact ⟨M, List.mem_append_left _ hM, hover⟩
      · exact ⟨_, List.mem_append_right _ (List.mem_singleton_self _), rfl⟩
    · intro M hM
      rw [hmultiranges, List.mem_append, List.mem_singleton] at hM
      rw [hranges]
      rcases hM with hM | rfl
      · obtain ⟨R, hR, hover⟩ := hr.2.multiranges hM
        exact ⟨R, List.mem_append_left _ hR, hover⟩
      · exact ⟨_, List.mem_append_right _ (List.mem_singleton_self _), rfl⟩

/-- The store type of the boundary values tells a range among those of range types. -/
lemma IsPaired.eq_of_storeType (h : r.IsPaired) (hlinked : r.Linked) (hR : R ∈ r.allRanges)
    (hR' : R' ∈ r.allRanges) (hs : R.subtype? = some s) (hs' : R'.subtype? = some s')
    (hstore : s.storeType = s'.storeType) : R = R' := by
  have hnames : ∀ a ∈ Builtin.rangeTypes, ∀ b ∈ Builtin.rangeTypes, a.subtype = b.subtype → a = b := by decide
  obtain ⟨a, ha, _, hfirst, rfl⟩ := h.ranges hR
  obtain ⟨b, hb, _, hfirst', rfl⟩ := h.ranges hR'
  cases hs
  cases hs'
  have hsubtype := hlinked.stores (List.mem_of_head? hfirst)
  rw [hstore, hlinked.stores (List.mem_of_head? hfirst')] at hsubtype
  obtain rfl := hnames a ha b hb hsubtype.symm
  rw [hfirst] at hfirst'
  cases hfirst'
  rfl

lemma subtype?_of_range? (h : M.range? = some R) : M.subtype? = R.subtype? := by
  cases M with
  | multirange _ _ =>
    cases h
    rfl
  | _ => cases h

namespace ReachableBy

/-- Every multirange is over a built-in range. -/
lemma range?_of_mem (h : r.ReachableBy admits) (hM : M ∈ r.allMultiranges) :
    ∃ R ∈ (Registry.builtin r.options).allRanges, M.range? = some R := by
  rw [h.containers_eq.2] at hM
  exact (isPaired_builtin r.options).multiranges hM

/-- For the boundary values of a built-in range the multirange over that range is inferred. -/
theorem findMultirange_of_builtin (h : r.ReachableBy admits) (hR : R ∈ (Registry.builtin r.options).allRanges)
    (hs : R.subtype? = some s) : ∃ M, r.findMultirange s = some M ∧ M.range? = some R := by
  have hpaired := isPaired_builtin r.options
  have hinferred := h.isIndexed.multiranges.isInferred s
  obtain ⟨M, hM, hover⟩ := hpaired.covered hR
  rw [← h.containers_eq.2] at hM
  obtain ⟨M', hfind⟩ := hinferred.complete.2 ⟨M, hM, s, (subtype?_of_range? hover).trans hs, rfl, rfl⟩
  obtain ⟨before, after, hall, ⟨s', hs', -, hstore⟩, -⟩ := (hinferred.earliest M').1 hfind
  obtain ⟨R', hR', hover'⟩ := h.range?_of_mem (hall ▸ List.mem_append_right _ List.mem_cons_self)
  rw [subtype?_of_range? hover'] at hs'
  obtain rfl := hpaired.eq_of_storeType (linked_builtin _) hR' hR hs' hs hstore
  exact ⟨M', hfind, hover'⟩

lemma mem_of_findMultirange (h : r.ReachableBy admits) (hM : r.findMultirange s = some M) :
    M ∈ r.allMultiranges := by
  obtain ⟨before, after, hall, -⟩ := ((h.isIndexed.multiranges.isInferred s).earliest M).1 hM
  rw [hall]
  exact List.mem_append_right _ List.mem_cons_self

/-- What is registered for a host type of multiranges is a multirange. -/
lemma isMultirange_of_hostType (h : r.ReachableBy admits) (hd : r.IsRegistered d)
    (ht : d.hostType = .multirange t) : d.isMultirange = true := by
  refine registered (P := fun d => ∀ t, d.hostType = .multirange t → d.isMultirange = true) ?_ ?_ ?_ ?_ h rfl hd t ht
  · intro f _ name _ host _ t ht
    cases ht
  · rintro s d _ ⟨names, -, rfl | hd⟩ t ht
    · cases ht
    · cases hd
      rfl
  · intro r d _ t ht
    cases ht
  · intro r q name s _ _ _ _ t ht
    cases ht

/-- The default of a host type of multiranges is a registered multirange. -/
lemma mem_of_findHost (h : r.ReachableBy admits) (hM : r.findHost (.multirange t) = some M) :
    M ∈ r.allMultiranges := by
  have hregistered : r.IsRegistered M ∧ M.hostType = .multirange t := by
    rcases of_find hM with hdecided | ⟨q', e, hq', -⟩ | hrange
    · cases hdecided with
      | character hq => cases hq
      | named hq => cases hq
      | parsed hq => cases hq
      | default _ hq hget =>
        cases hq
        obtain ⟨hhost, hmem⟩ := h.linked.hosts hget
        exact ⟨.inl hmem, hhost⟩
      | sized _ hq _ hsized =>
        cases hq
        cases hsized
    · cases hq'
    · exact ⟨.inr (List.mem_of_find?_eq_some hrange), hostType_of_isAnswer (List.find?_some hrange) rfl⟩
  obtain ⟨hregistered, hhost⟩ := hregistered
  refine List.mem_filter.2 ⟨?_, h.isMultirange_of_hostType hregistered hhost⟩
  rcases hregistered with hmem | hmem
  · obtain ⟨ds, hentry, hM⟩ := Entries.mem_of_mem_all hmem
    exact List.mem_append_left _ (List.mem_flatMap.2 ⟨_, hentry, hM⟩)
  · exact List.mem_append_right _ hmem

end ReachableBy

end SqlBridge.Registry
