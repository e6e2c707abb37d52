import Mathlib.Data.List.Basic
import SqlBridge.Proofs.Entries
import SqlBridge.Registry.Register

/-!
# The tables of a registry

What each table says about the others. A descriptor is registered under its own store type or among the
user's ranges; the defaults of host types and the tables of containers hold registered descriptors only.
Every operation on the tables adds at most one descriptor and keeps these links.
-/

namespace SqlBridge.Registry

/-- The descriptor stands under its own store type or among the user's ranges. -/
def IsRegistered (r : Registry) (d : Descriptor) : Prop :=
  d ∈ r.named d.storeType ∨ d ∈ r.userRanges

/-- Descriptors stand under their own names, and the other tables hold registered ones. -/
structure Linked (r : Registry) : Prop where
  stores {name : String} {d : Descriptor} : d ∈ r.named name → d.storeType = name
  hosts {host : HostType} {d : Descriptor} :
    Entries.get? host r.hosts = some d → d.hostType = host ∧ d ∈ r.named d.storeType
  ranges {host : HostType} {d : Descriptor} : d ∈ Entries.all host r.ranges → r.IsRegistered d
  multiranges {host : HostType} {d : Descriptor} :
    d ∈ Entries.all host r.multiranges → r.IsRegistered d

/-- The registry with a further descriptor under a name that it did not have: the other tables may have
it as well, and nothing else is new in them. -/
structure Adds (d : Descriptor) (r r' : Registry) : Prop where
  options : r'.options = r.options
  isNew : r.isNamed d.storeType = false
  stores : r'.stores = Entries.push d.storeType d r.stores
  userRanges : r'.userRanges = r.userRanges
  hosts {host : HostType} {e : Descriptor} : Entries.get? host r'.hosts = some e →
    (host = d.hostType ∧ e = d) ∨ Entries.get? host r.hosts = some e
  ranges {host : HostType} {e : Descriptor} :
    e ∈ Entries.all host r'.ranges → e = d ∨ e ∈ Entries.all host r.ranges
  multiranges {host : HostType} {e : Descriptor} :
    e ∈ Entries.all host r'.multiranges → e = d ∨ e ∈ Entries.all host r.multiranges

variable {r r' : Registry} {d e : Descriptor}

lemma mem_names_of_mem_named {name : String} (h : d ∈ r.named name) : name ∈ r.names := by
  obtain ⟨ds, hmem, -⟩ := Entries.mem_of_mem_all h
  exact List.mem_append_left _ (List.mem_map_of_mem hmem)

lemma IsRegistered.mem_names (h : r.IsRegistered d) : d.storeType ∈ r.names := by
  rcases h with h | h
  · exact mem_names_of_mem_named h
  · exact List.mem_append_right _ (List.mem_map_of_mem h)

lemma Linked.isRegistered (hr : r.Linked) {name : String} (h : d ∈ r.named name) :
    r.IsRegistered d := by
  have e := hr.stores h
  subst e
  exact .inl h

lemma Linked.isRegistered_of_first? (hr : r.Linked) {name : String} (h : r.first? name = some d) :
    r.IsRegistered d :=
  hr.isRegistered (List.mem_of_head? h)

lemma Linked.isRegistered_of_hosts (hr : r.Linked) {host : HostType}
    (h : Entries.get? host r.hosts = some d) : r.IsRegistered d :=
  hr.isRegistered (hr.hosts h).2

lemma isNamed_eq_false_iff {name : String} : r.isNamed name = false ↔ name ∉ r.stores.map (·.1) := by
  rw [isNamed, Bool.eq_false_iff, Ne, Entries.isSome_get?_iff]

lemma named_of_isNamed_eq_false {name : String} (h : r.isNamed name = false) : r.named name = [] := by
  rw [isNamed, Option.isSome_eq_false_iff, Option.isNone_iff_eq_none] at h
  rw [named, Entries.all, h]
  rfl

namespace Adds

/-- The new name has an entry of its own, after the others. -/
lemma stores_eq (h : Adds d r r') : r'.stores = r.stores ++ [(d.storeType, [d])] := by
  rw [h.stores, Entries.push_of_not_mem (isNamed_eq_false_iff.1 h.isNew)]

lemma keys_eq (h : Adds d r r') :
    r'.stores.map (·.1) = r.stores.map (·.1) ++ [d.storeType] := by
  rw [h.stores_eq, List.map_append]
  rfl

lemma named (h : Adds d r r') (name : String) :
    r'.named name = if d.storeType = name then r.named name ++ [d] else r.named name := by
  rw [Registry.named, h.stores, Entries.all_push]
  rfl

lemma mem_named (h : Adds d r r') {name : String} (he : e ∈ r.named name) : e ∈ r'.named name := by
  rw [h.named]
  by_cases hn : d.storeType = name
  · rw [if_pos hn]
    exact List.mem_append_left _ he
  · rw [if_neg hn]
    exact he

lemma mem_named_self (h : Adds d r r') : d ∈ r'.named d.storeType := by
  rw [h.named, if_pos rfl]
  exact List.mem_append_right _ List.mem_cons_self

lemma of_mem_named (h : Adds d r r') {name : String} (he : e ∈ r'.named name) :
    e ∈ r.named name ∨ (e = d ∧ name = d.storeType) := by
  rw [h.named] at he
  by_cases hn : d.storeType = name
  · rw [if_pos hn, List.mem_append, List.mem_singleton] at he
    exact he.imp_right fun e => ⟨e, hn.symm⟩
  · rw [if_neg hn] at he
    exact .inl he

/-- The first descriptor of a name stays the first one. -/
lemma first? (h : Adds d r r') {name : String} (he : r.first? name = some e) :
    r'.first? name = some e := by
  rw [Registry.first?] at he ⊢
  rw [h.named]
  by_cases hn : d.storeType = name
  · rw [if_pos hn, List.head?_append, he]
    rfl
  · rw [if_neg hn]
    exact he

lemma isRegistered_iff (h : Adds d r r') : r'.IsRegistered e ↔ e = d ∨ r.IsRegistered e := by
  rw [IsRegistered, IsRegistered, h.userRanges]
  constructor
  · rintro (he | he)
    · rcases h.of_mem_named he with he | ⟨he, -⟩
      · exact .inr (.inl he)
      · exact .inl he
    · exact .inr (.inr he)
  · rintro (rfl | he | he)
    · exact .inl h.mem_named_self
    · exact .inl (h.mem_named he)
    · exact .inr he

lemma names_perm (h : Adds d r r') : r'.names.Perm (d.storeType :: r.names) := by
  rw [names, names, h.keys_eq, h.userRanges, List.append_assoc]
  exact List.perm_middle

lemma mem_names (h : Adds d r r') {name : String} (hn : name ∈ r.names) : name ∈ r'.names :=
  h.names_perm.mem_iff.2 (List.mem_cons_of_mem _ hn)

lemma of_mem_names (h : Adds d r r') {name : String} (hn : name ∈ r'.names) :
    name = d.storeType ∨ name ∈ r.names :=
  List.mem_cons.1 (h.names_perm.mem_iff.1 hn)

lemma linked (h : Adds d r r') (hr : r.Linked) : r'.Linked where
  stores he := by
    rcases h.of_mem_named he with he | ⟨rfl, rfl⟩
    · exact hr.stores he
    · rfl
  hosts he := by
    rcases h.hosts he with ⟨rfl, rfl⟩ | he
    · exact ⟨rfl, h.mem_named_self⟩
    · obtain ⟨hhost, hmem⟩ := hr.hosts he
      exact ⟨hhost, h.mem_named hmem⟩
  ranges he := by
    rw [h.isRegistered_iff]
    exact (h.ranges he).imp_right hr.ranges
  multiranges he := by
    rw [h.isRegistered_iff]
    exact (h.multiranges he).imp_right hr.multiranges

end Adds

lemma of_mem_push {key host : HostType} {table : List (HostType × List Descriptor)}
    (h : e ∈ Entries.all host (Entries.push key d table)) : e = d ∨ e ∈ Entries.all host table :=
  (Entries.mem_all_push.1 h).symm.imp_left And.right

lemma of_get?_set {host : HostType} {table : List (HostType × Descriptor)}
    (h : Entries.get? host (Entries.set d.hostType d table) = some e) :
    (host = d.hostType ∧ e = d) ∨ Entries.get? host table = some e := by
  rw [Entries.get?_set] at h
  by_cases hk : d.hostType = host
  · rw [if_pos hk] at h
    exact .inl ⟨hk.symm, (Option.some.inj h).symm⟩
  · rw [if_neg hk] at h
    exact .inr h

/-- Offering a default changes no other table, and the default of a host type is the one that was
offered or was there. -/
lemma addHost_eq (d : Descriptor) (r : Registry) :
    ∃ hosts, addHost d r = { r with hosts } ∧ ∀ {host : HostType} {e : Descriptor},
      Entries.get? host hosts = some e →
        (host = d.hostType ∧ e = d) ∨ Entries.get? host r.hosts = some e := by
  rw [addHost]
  by_cases hd : r.isHosted d.hostType = true
  · exact ⟨r.hosts, if_pos hd, .inr⟩
  · exact ⟨_, if_neg hd, of_get?_set⟩

lemma adds_addEnum (hd : r.isNamed d.storeType = false) : Adds d r (addEnum d r) where
  options := rfl
  isNew := hd
  stores := rfl
  userRanges := rfl
  hosts := of_get?_set
  ranges := .inr
  multiranges := .inr

lemma adds_addRange {name : String} (hname : r.isNamed name = false) (subtype : Descriptor) :
    Adds (.rangeOver name subtype) r (addRange name subtype r) := by
  obtain ⟨hosts, e, hhosts⟩ := addHost_eq (.rangeOver name subtype)
    { r with ranges := Entries.push subtype.hostType (.rangeOver name subtype) r.ranges }
  rw [addRange, e]
  exact ⟨rfl, hname, rfl, rfl, hhosts, of_mem_push, .inr⟩

lemma storeType_of_multirangeOver {name : String} {inner m : Descriptor}
    (h : Descriptor.multirangeOver name inner = .ok m) : m.storeType = name := by
  cases inner with
  | range s subtype =>
    cases h
    rfl
  | _ => cases h

lemma adds_addMultirange {name rangeName : String} {subtype m : Descriptor}
    (h : Descriptor.multirangeOver name (.rangeOver rangeName subtype) = .ok m)
    (hname : r.isNamed name = false) : Adds m r (addMultirange name rangeName subtype r) := by
  have hnew : r.isNamed m.storeType = false := by rw [storeType_of_multirangeOver h, hname]
  obtain ⟨hosts, e, hhosts⟩ := addHost_eq m
    { r with multiranges := Entries.push subtype.hostType m r.multiranges }
  rw [addMultirange, h]
  simp only
  rw [e]
  exact ⟨rfl, hnew, rfl, rfl, hhosts, .inr, of_mem_push⟩

lemma isRegistered_addUserRange {host : HostType} :
    (addUserRange host d r).IsRegistered e ↔ e = d ∨ r.IsRegistered e := by
  have hnamed : (addUserRange host d r).named e.storeType = r.named e.storeType := rfl
  rw [IsRegistered, IsRegistered, hnamed, addUserRange, List.mem_append, List.mem_singleton]
  exact ⟨fun h => h.elim (.inr ∘ .inl) fun h => h.elim (.inr ∘ .inr) .inl,
    fun h => h.elim (.inr ∘ .inr) fun h => h.elim .inl (.inr ∘ .inl)⟩

lemma names_addUserRange (host : HostType) (d : Descriptor) (r : Registry) :
    (addUserRange host d r).names = r.names ++ [d.storeType] := by
  rw [names, names, addUserRange, List.map_append, ← List.append_assoc]
  rfl

lemma mem_names_addUserRange {host : HostType} {name : String} :
    name ∈ (addUserRange host d r).names ↔ name ∈ r.names ∨ name = d.storeType := by
  rw [names_addUserRange, List.mem_append, List.mem_singleton]

lemma linked_addUserRange (hr : r.Linked) (host : HostType) (d : Descriptor) :
    (addUserRange host d r).Linked where
  stores := hr.stores
  hosts := hr.hosts
  ranges he := isRegistered_addUserRange.2 ((of_mem_push he).imp_right hr.ranges)
  multiranges he := isRegistered_addUserRange.2 (.inr (hr.multiranges he))

lemma linked_addDefault (hr : r.Linked) (entry : Scalar × String) : (r.addDefault entry).Linked := by
  rw [addDefault]
  cases hfind : (r.named entry.2).find? fun d => d.hostType == .scalar entry.1 with
  | none => exact hr
  | some d =>
    have hhost : d.hostType = .scalar entry.1 := by simpa using List.find?_some hfind
    have hmem := List.mem_of_find?_eq_some hfind
    refine ⟨hr.stores, ?_, hr.ranges, hr.multiranges⟩
    intro host e he
    have he' : Entries.get? host (Entries.set (.scalar entry.1) d r.hosts) = some e := he
    rw [← hhost] at he'
    rcases of_get?_set he' with ⟨rfl, rfl⟩ | hold
    · exact ⟨rfl, hr.stores hmem ▸ hmem⟩
    · exact hr.hosts hold

end SqlBridge.Registry
