import SqlBridge.Proofs.Registry.SameTables

/-!
# Enumerations in either order

Two enumerations are let in when their names and host types are free and differ, in whichever order they
come. The tables have them in that order then, but under keys of their own, so that only lists of names
show it.
-/

namespace SqlBridge

/-- The enumerations have neither their name nor their host type in common. -/
structure EnumDefinition.AreApart (d d' : EnumDefinition) : Prop where
  name : d.qualifiedName ≠ d'.qualifiedName
  host : d.hostTypeName ≠ d'.hostTypeName

lemma EnumDefinition.AreApart.symm {d d' : EnumDefinition} (h : AreApart d d') : AreApart d' d :=
  ⟨h.name.symm, h.host.symm⟩

namespace Registry

/-- The name and the host type of the enumeration are free. -/
structure IsFree (r : Registry) (d : EnumDefinition) : Prop where
  name : r.isNamed d.qualifiedName = false
  host : r.isHosted (.enumeration d.hostTypeName) = false

variable {r : Registry} {d d' : EnumDefinition} {e e' m m' : Descriptor}

/-! ## One enumeration -/

lemma registerEnum_of_isFree (h : r.IsFree d) :
    r.registerEnum d = .ok (r.enumDescriptor d, addEnum (r.enumDescriptor d) r) := by
  rw [registerEnum, h.name, h.host]
  rfl

lemma step_of_isFree (h : r.IsFree d) : r.step (.enumeration d) =
    (.outcome (.ok (r.enumDescriptor d)), addEnum (r.enumDescriptor d) r) := by
  rw [step, registerEnum_of_isFree h]
  rfl

/-- An enumeration is let in exactly if it is free. -/
lemma isFree_of_step (h : (r.step (.enumeration d)).1 = .outcome (.ok m)) : r.IsFree d := by
  have hd := ok_of_commit (Reply.outcome.inj h)
  obtain ⟨rfl, hname, hhost, -⟩ := registerEnum_eq_ok hd
  exact ⟨hname, hhost⟩

/-- What is free beside a registered enumeration is free without it, and apart from it. -/
lemma isFree_addEnum_iff :
    (addEnum (r.enumDescriptor d) r).IsFree d' ↔ r.IsFree d' ∧ d.AreApart d' := by
  have hname : (addEnum (r.enumDescriptor d) r).isNamed d'.qualifiedName = false ↔
      r.isNamed d'.qualifiedName = false ∧ d.qualifiedName ≠ d'.qualifiedName := by
    show (Entries.get? d'.qualifiedName
      (Entries.push d.qualifiedName (r.enumDescriptor d) r.stores)).isSome = false ↔ _
    rw [Entries.get?_push]
    by_cases hn : d.qualifiedName = d'.qualifiedName <;> simp [hn, isNamed]
  have hhost : (addEnum (r.enumDescriptor d) r).isHosted (.enumeration d'.hostTypeName) = false ↔
      r.isHosted (.enumeration d'.hostTypeName) = false ∧ d.hostTypeName ≠ d'.hostTypeName := by
    show (Entries.get? (.enumeration d'.hostTypeName)
      (Entries.set (.enumeration d.hostTypeName) (r.enumDescriptor d) r.hosts)).isSome = false ↔ _
    rw [Entries.get?_set]
    by_cases hn : d.hostTypeName = d'.hostTypeName <;> simp [hn, isHosted]
  constructor
  · intro h
    obtain ⟨hfree, hne⟩ := hname.1 h.name
    obtain ⟨hfree', hne'⟩ := hhost.1 h.host
    exact ⟨⟨hfree, hfree'⟩, hne, hne'⟩
  · rintro ⟨hfree, hapart⟩
    exact ⟨hname.2 ⟨hfree.name, hapart.name⟩, hhost.2 ⟨hfree.host, hapart.host⟩⟩

/-! ## Two enumerations -/

lemma session_of_isFree (h : r.IsFree d) (h' : r.IsFree d') (hapart : d.AreApart d') :
    session step [.enumeration d, .enumeration d'] r =
      ([.outcome (.ok (r.enumDescriptor d)), .outcome (.ok (r.enumDescriptor d'))],
        addEnum (r.enumDescriptor d') (addEnum (r.enumDescriptor d) r)) := by
  have hnext : (addEnum (r.enumDescriptor d) r).IsFree d' := isFree_addEnum_iff.2 ⟨h', hapart⟩
  simp only [session, step_of_isFree h, step_of_isFree hnext]
  rfl

/-- Two enumerations are let in exactly if they are free and apart. -/
lemma isFree_of_session
    (h : (session step [.enumeration d, .enumeration d'] r).1 = [.outcome (.ok m), .outcome (.ok m')]) :
    r.IsFree d ∧ r.IsFree d' ∧ d.AreApart d' := by
  have hfirst : (r.step (.enumeration d)).1 = .outcome (.ok m) := List.head_eq_of_cons_eq h
  have hd := isFree_of_step hfirst
  have hsecond : ((r.step (.enumeration d)).2.step (.enumeration d')).1 = .outcome (.ok m') :=
    List.head_eq_of_cons_eq (List.tail_eq_of_cons_eq h)
  rw [step_of_isFree hd] at hsecond
  exact ⟨hd, isFree_addEnum_iff.1 (isFree_of_step hsecond)⟩

/-- Enumerations of different names and host types are found alike in both orders. -/
lemma holdsSame_addEnum (hname : e.storeType ≠ e'.storeType) (hhost : e.hostType ≠ e'.hostType) :
    (addEnum e' (addEnum e r)).HoldsSame (addEnum e (addEnum e' r)) where
  literals := rfl
  keySize := rfl
  stores name := Entries.get?_push_comm hname.symm name e' e r.stores
  hosts host := Entries.get?_set_comm hhost.symm host e' e r.hosts
  ranges _ := rfl
  multiranges _ := rfl
  userRanges := rfl

lemma names_perm_of_isFree (h : r.IsFree d) (h' : r.IsFree d') (hapart : d.AreApart d') :
    (addEnum (r.enumDescriptor d') (addEnum (r.enumDescriptor d) r)).names.Perm
      (d'.qualifiedName :: d.qualifiedName :: r.names) := by
  have hfirst : Adds (r.enumDescriptor d) r (addEnum (r.enumDescriptor d) r) := adds_addEnum h.name
  have hsecond : Adds (r.enumDescriptor d') (addEnum (r.enumDescriptor d) r)
      (addEnum (r.enumDescriptor d') (addEnum (r.enumDescriptor d) r)) :=
    adds_addEnum (isFree_addEnum_iff.2 ⟨h', hapart⟩).name
  exact hsecond.names_perm.trans (hfirst.names_perm.cons d'.qualifiedName)

/-- Enumerations that are let in one after the other are let in in the other order as well, and the
registries in the end hold the same. -/
theorem session_swap
    (h : (session step [.enumeration d, .enumeration d'] r).1 = [.outcome (.ok m), .outcome (.ok m')]) :
    (session step [.enumeration d', .enumeration d] r).1 = [.outcome (.ok m'), .outcome (.ok m)] ∧
      (session step [.enumeration d, .enumeration d'] r).2.HoldsSame
        (session step [.enumeration d', .enumeration d] r).2 ∧
      (session step [.enumeration d, .enumeration d'] r).2.names.Perm
        (session step [.enumeration d', .enumeration d] r).2.names := by
  obtain ⟨hd, hd', hapart⟩ := isFree_of_session h
  rw [session_of_isFree hd hd' hapart] at h ⊢
  rw [session_of_isFree hd' hd hapart.symm]
  cases h
  refine ⟨rfl, holdsSame_addEnum hapart.name fun e => hapart.host (HostType.enumeration.inj e), ?_⟩
  calc (addEnum (r.enumDescriptor d') (addEnum (r.enumDescriptor d) r)).names
    _ |>.Perm (d'.qualifiedName :: d.qualifiedName :: r.names) := names_perm_of_isFree hd hd' hapart
    _ |>.Perm (d.qualifiedName :: d'.qualifiedName :: r.names) := .swap _ _ _
    _ |>.Perm _ := (names_perm_of_isFree hd' hd hapart.symm).symm

end Registry

namespace Catalog

/-- Two enumerations are both let in in the one order exactly if they are in the other, and then they have
the same descriptors in both orders. Afterwards every session gets the same replies, and every name stands
for the same descriptors; the names that are listed are the same but for their order. -/
theorem registerEnum_comm {c : Catalog} (hc : c.Reachable) (d d' : EnumDefinition) :
    let forth := session step [.enumeration d, .enumeration d'] c
    let back := session step [.enumeration d', .enumeration d] c
    ((∃ m m', forth.1 = [.outcome (.ok m), .outcome (.ok m')]) ↔
        ∃ m m', back.1 = [.outcome (.ok m'), .outcome (.ok m)]) ∧
      ∀ m m', forth.1 = [.outcome (.ok m), .outcome (.ok m')] →
        back.1 = [.outcome (.ok m'), .outcome (.ok m)] ∧
        (∀ steps, (session step steps forth.2).1 = (session step steps back.2).1) ∧
        (∀ name, forth.2.registry.named name = back.2.registry.named name) ∧
        forth.2.registry.names.Perm back.2.registry.names := by
  intro forth back
  have hsound := hc.spec.1
  obtain ⟨hforth, hforthTables, hforthSound⟩ := agrees_session hsound [.enumeration d, .enumeration d']
  obtain ⟨hback, hbackTables, hbackSound⟩ := agrees_session hsound [.enumeration d', .enumeration d]
  refine ⟨⟨?_, ?_⟩, ?_⟩
  · rintro ⟨m, m', h⟩
    exact ⟨m, m', hback.trans (Registry.session_swap (hforth.symm.trans h)).1⟩
  · rintro ⟨m, m', h⟩
    exact ⟨m, m', hforth.trans (Registry.session_swap (hback.symm.trans h)).1⟩
  · intro m m' h
    obtain ⟨hreplies, hsame, hnames⟩ := Registry.session_swap (hforth.symm.trans h)
    rw [← hforthTables, ← hbackTables] at hsame hnames
    refine ⟨hback.trans hreplies, fun steps => ?_, hsame.named, hnames⟩
    rw [(agrees_session hforthSound steps).answer, (agrees_session hbackSound steps).answer]
    exact hsame.session steps

/-- Enumerations whose names differ in the case of their letters only are let in in both orders, and what
is found by a third way to write the name does not tell the orders apart. -/
theorem registerEnum_comm_of_moods :
    let mood : EnumDefinition := { name := "mood", labels := [("Sad", "sad")] }
    let shouted : EnumDefinition := { name := "MOOD", labels := [("Sad", "SAD")] }
    let c : Catalog := { registry := .builtin {} }
    let forth := session step [.enumeration mood, .enumeration shouted] c
    let back := session step [.enumeration shouted, .enumeration mood] c
    let m := c.registry.enumDescriptor mood
    let m' := c.registry.enumDescriptor shouted
    c.Reachable ∧ forth.1 = [.outcome (.ok m), .outcome (.ok m')] ∧
      back.1 = [.outcome (.ok m'), .outcome (.ok m)] ∧
      (session step [.find (.forStore "Mood")] forth.2).1 = [.answer (some m)] ∧
      (session step [.find (.forStore "Mood")] back.2).1 = [.answer (some m)] ∧
      forth.2.registry.names.Perm back.2.registry.names := by
  intro mood shouted c forth back m m'
  have hc : c.Reachable := reachableBy_builtin
  have hforth : forth.1 = [.outcome (.ok m), .outcome (.ok m')] := by decide +kernel
  have hfind : (session step [.find (.forStore "Mood")] forth.2).1 = [.answer (some m)] := by
    decide +kernel
  obtain ⟨hback, hreplies, -, hnames⟩ := (registerEnum_comm hc mood shouted).2 m m' hforth
  refine ⟨hc, hforth, hback, hfind, ?_, ?_⟩
  · exact (hreplies [.find (.forStore "Mood")]).symm.trans hfind
  · simpa only [forth, back] using hnames

end Catalog

end SqlBridge
