import SqlBridge.Proofs.Registry.Reread

/-!
# Where modifiers are set

Modifiers that a request names beside its store type or host type are only set where the store type takes
them. Those that are written in the text of the store type are set on every scalar and enumeration whose
name stands before them.
-/

namespace SqlBridge

lemma Facets.isEmpty_iff {f : Facets} : f.isEmpty = true ↔ f.values = [] := by
  simp [isEmpty, values, and_assoc]

namespace Descriptor

variable {d e : Descriptor}

lemma acceptsFacets_withFacets (d : Descriptor) (f : Facets) :
    (d.withFacets f).acceptsFacets = d.acceptsFacets := by
  induction d with
  | array s element nullable ih => exact ih
  | _ => rfl

lemma acceptsFacets_of_element? (h : d.element? = some e) : d.acceptsFacets = e.acceptsFacets := by
  cases d with
  | array s element nullable =>
    cases h
    rfl
  | _ => cases h

/-- Scalars and enumerations have the modifiers that they are given. -/
lemma facets_withFacets_eq (harray : d.isArray = false) (hrange : d.isRange = false)
    (hmultirange : d.isMultirange = false) (f : Facets) : (d.withFacets f).facets = f := by
  cases d with
  | scalar s => rfl
  | enumeration s labels => rfl
  | array s element nullable => cases harray
  | range s subtype => cases hrange
  | multirange s inner => cases hmultirange

end Descriptor

lemma ParsedStoreType.hasModifiers_eq (p : ParsedStoreType) :
    p.hasModifiers = !(p.facets false).isEmpty := by
  simp [hasModifiers, facets, Facets.isEmpty]

namespace Request

variable {q q' : Request} {f : Facets}

/-- The modifiers are those that are written in the text of the requested store type, and those beside it
where the text leaves them open. -/
def Writes (q : Request) (f : Facets) : Prop :=
  ∃ store, q.store = some store ∧ (StoreType.parse store).hasModifiers = true ∧
    f = ((StoreType.parse store).facets f.fixedLength).or q.facets

lemma Writes.of_element (hq : q.element? = some q') (h : q'.Writes f) : q.Writes f := by
  obtain ⟨name, hname, hmodifiers, hf⟩ := h
  rcases of_element? hq with ⟨hs, host, rfl⟩ | ⟨store, name', host, hs, helement, rfl⟩
  · rw [hs] at hname
    cases hname
  · -- the brackets that the element's name lacks change no modifier
    cases hname
    have hsame := StoreType.facets_parse_brackets helement
    refine ⟨store, hs, ?_, ?_⟩
    · rw [ParsedStoreType.hasModifiers_eq, hsame, ← ParsedStoreType.hasModifiers_eq]
      exact hmodifiers
    · rw [hsame]
      exact hf

end Request

namespace Registry

variable {admits : String → Prop} {r : Registry} {q : Request} {d e : Descriptor}

/-- Modifiers that are set are taken by the store type, or they are written in the request. -/
def IsAccounted (q : Request) (d : Descriptor) : Prop :=
  d.facets.isEmpty = false → d.acceptsFacets = true ∨ q.Writes d.facets

lemma isAccounted_of_isRegistered (h : r.ReachableBy admits) (hd : r.IsRegistered d) :
    IsAccounted q d := by
  intro hset
  rw [Facets.isEmpty_iff.2 (h.isPlain hd).2.1] at hset
  cases hset

lemma isAccounted_refine (he : e.facets.values = []) : IsAccounted q (refine e q.facets) := by
  intro hset
  rw [refine] at hset ⊢
  by_cases hf : (q.facets.isEmpty || !e.acceptsFacets) = true
  · rw [if_pos hf, Facets.isEmpty_iff.2 he] at hset
    cases hset
  · rw [if_neg hf, Descriptor.acceptsFacets_withFacets]
    rw [Bool.or_eq_true, not_or, Bool.not_eq_true', Bool.not_eq_false] at hf
    exact .inl hf.2

lemma isAccounted_refineParsed {store : String} (hq : q.store = some store)
    (hbase : (StoreType.parse store).baseName ≠ store) (harray : e.isArray = false)
    (he : e.facets.values = []) : IsAccounted q (refineParsed e (StoreType.parse store) q) := by
  intro hset
  right
  refine ⟨store, hq, (StoreType.baseName_ne_iff store).1 hbase, ?_⟩
  rw [refineParsed] at hset ⊢
  rcases Descriptor.withFacets_cases harray with hnone | htaken
  · rw [hnone, Facets.isEmpty_iff.2 he] at hset
    cases hset
  · rw [(htaken _).1]
    simp [Facets.or, ParsedStoreType.facets]

/-- The store types for a size take one. -/
lemma acceptsFacets_of_sizedStores? (o : MappingOptions) {host : HostType} {fixedLength : Bool}
    {bounded unbounded : String} (h : sizedStores? host fixedLength = some (bounded, unbounded)) :
    ((leaves o).first? bounded).map (·.acceptsFacets) = some true := by
  have hall : ∀ name ∈ ["character", "character varying", "bit", "bit varying"],
      ((leaves o).first? name).map (·.acceptsFacets) = some true := by
    obtain ⟨legacy, writesExtremes, keySize, ranges, enums⟩ := o
    cases legacy <;> simp only [List.forall_mem_cons] <;> exact ⟨rfl, rfl, rfl, rfl, nofun⟩
  apply hall
  rw [sizedStores?] at h
  split at h
  · cases fixedLength <;> cases h <;> decide
  · split at h
    · cases fixedLength <;> cases h <;> decide
    · cases h

lemma ReachableBy.isAccounted_of_decideByStore (h : r.ReachableBy admits) {store : String}
    (hq : q.store = some store) (hd : r.decideByStore store q = .found d) : IsAccounted q d := by
  rcases found_of_decideByStore hd with ⟨-, rfl⟩ | ⟨e, he, rfl⟩ | ⟨e, -, hbase, he, rfl⟩
  · exact fun _ => .inl rfl
  · obtain ⟨-, -, -, -, hplain⟩ := (isAdapted_of_byName he).isNamed h
    exact isAccounted_refine hplain
  · obtain ⟨-, -, -, harray, hplain⟩ := (isAdapted_of_byName he).isNamed h
    exact isAccounted_refineParsed hq hbase harray hplain

lemma ReachableBy.isAccounted_of_isDecided (h : r.ReachableBy admits) (hq : q.store = none)
    (hd : r.IsDecided q d) : IsAccounted q d := by
  cases hd with
  | character _ => exact fun _ => .inl rfl
  | named hs _ =>
    rw [hq] at hs
    cases hs
  | parsed hs _ =>
    rw [hq] at hs
    cases hs
  | default _ _ he _ =>
    exact isAccounted_refine (h.isPlain (h.linked.isRegistered_of_hosts he)).2.1
  | sized _ _ he hsized hd =>
    -- only the last of these has a modifier, the size of the bounded store type
    rcases of_sized hd with rfl | hb | hb | ⟨size, b, -, hb, rfl⟩
    · exact isAccounted_of_isRegistered h (h.linked.isRegistered_of_hosts he)
    · exact isAccounted_of_isRegistered h (h.linked.isRegistered_of_first? hb)
    · exact isAccounted_of_isRegistered h (h.linked.isRegistered_of_first? hb)
    · obtain ⟨b', hb', haccepts⟩ :=
        Option.map_eq_some_iff.1 (acceptsFacets_of_sizedStores? r.options hsized)
      rw [h.first?_of_leaves hb'] at hb
      cases hb
      intro _
      rw [Descriptor.acceptsFacets_withFacets]
      exact .inl haccepts

lemma ReachableBy.isAccounted_of_decide (h : r.ReachableBy admits) (hd : r.decide q = .found d) :
    IsAccounted q d := by
  cases hs : q.store with
  | some store =>
    rw [decide, hs] at hd
    exact h.isAccounted_of_decideByStore hs hd
  | none => exact h.isAccounted_of_isDecided hs (isDecided_of_decide hd)

lemma IsAccounted.arrayOver {q' : Request} (hq : q.element? = some q') (he : IsAccounted q' e)
    (hd : arrayOver q.host e = some d) : IsAccounted q d := by
  obtain ⟨-, -, -, -, hfacets⟩ := Descriptor.arrayOf_ok (ok_of_toOption hd)
  obtain ⟨helement, -⟩ := Descriptor.hostType_of_arrayOf (ok_of_toOption hd)
  rw [IsAccounted, hfacets, Descriptor.acceptsFacets_of_element? helement]
  exact fun hset => (he hset).imp_right (Request.Writes.of_element hq)

/-- Every answer is accounted for. -/
theorem ReachableBy.isAccounted_of_find (h : r.ReachableBy admits) (hd : r.find q = some d) :
    IsAccounted q d := by
  apply find_induction_found (motive := IsAccounted) ?_ ?_ ?_ hd
  · exact fun q d hd => h.isAccounted_of_decide hd
  · exact fun q q' e d _ hq _ he hd => he.arrayOver hq hd
  · exact fun q d _ hd => isAccounted_of_isRegistered h (.inr (List.mem_of_find?_eq_some hd))

/-- Modifiers that are written after a name are set, whether the name's store type takes any or not. -/
lemma ReachableBy.find_written (h : r.ReachableBy admits) {name : String} {f : Facets}
    (hfirst : r.first? name = some e) (hrange : e.isRange = false) (hmultirange : e.isMultirange = false)
    (hname : Facets.IsClean name) (hf : f.numbers ≠ []) (hfree : r.isNamed (f.applyTo name) = false) :
    ∃ m, r.find (.forStore (f.applyTo name)) = some m ∧ m.facets.numbers = f.numbers ∧
      m.acceptsFacets = e.acceptsFacets := by
  have harray := (h.isPlain (h.linked.isRegistered_of_first? hfirst)).2.2
  refine ⟨_, find_applyTo hname hf hfree (asksForCharacter_forStore _ _) (byName_of_first? hfirst), ?_,
    Descriptor.acceptsFacets_withFacets _ _⟩
  rw [Descriptor.facets_withFacets_eq harray hrange hmultirange, Facets.numbers_readBack]

end Registry

namespace Catalog

/-- Modifiers that are set on an answer are taken by its store type, or they are written in the requested
text. Those that are written after a name are set on every scalar and enumeration of that name, so that
the answer takes them exactly if the name's store type does. -/
theorem facets_of_find {c : Catalog} (hc : c.Reachable) :
    (∀ q m, (c.find q).1 = some m → m.facets.isEmpty = false →
      m.acceptsFacets = true ∨ q.Writes m.facets) ∧
    ∀ name e, c.registry.first? name = some e → e.isRange = false → e.isMultirange = false →
      Facets.IsClean name → ∀ f : Facets, f.numbers ≠ [] →
        c.registry.isNamed (f.applyTo name) = false →
        ∃ m, (c.find (.forStore (f.applyTo name))).1 = some m ∧ m.facets.numbers = f.numbers ∧
          m.acceptsFacets = e.acceptsFacets := by
  have hr := hc.spec.2
  simp only [hc.find_eq]
  constructor
  · exact fun q m hm => hr.isAccounted_of_find hm
  · exact fun name e he hrange hmultirange hname f hf hfree =>
      hr.find_written he hrange hmultirange hname hf hfree

/-- Texts of variable length take a size beside their name as well as after it. -/
theorem facets_of_find_of_varchar :
    ∃ c : Catalog, c.Reachable ∧
      (∃ m, (c.find { store := some "varchar", size := some 32 }).1 = some m ∧
        m.facets.isEmpty = false ∧ m.acceptsFacets = true) ∧
      ∃ m, (c.find (.forStore "varchar(32)")).1 = some m ∧ m.facets.numbers = [32] ∧
        m.acceptsFacets = true := by
  let c : Catalog := { registry := .builtin {} }
  have hc : c.Reachable := reachableBy_builtin
  have hruns : (c.find { store := some "varchar", size := some 32 }).1.map (·.facets.isEmpty) =
        some false ∧
      (c.registry.first? "varchar").map (fun e => (e.isRange, e.isMultirange, e.acceptsFacets)) =
        some (false, false, true) ∧
      c.registry.isNamed "varchar(32)" = false := by
    decide +kernel
  obtain ⟨hbeside, hfirst, hfree⟩ := hruns
  obtain ⟨hset, hwritten⟩ := facets_of_find hc
  obtain ⟨m, hm, hempty⟩ := Option.map_eq_some_iff.1 hbeside
  obtain ⟨e, he, hfields⟩ := Option.map_eq_some_iff.1 hfirst
  simp only [Prod.mk.injEq] at hfields
  obtain ⟨hrange, hmultirange, haccepts⟩ := hfields
  have hplain : (StoreType.parse "varchar").hasModifiers = false := by
    decide
  have htaken : m.acceptsFacets = true := by
    refine (hset _ m hm hempty).resolve_right ?_
    rintro ⟨store, hstore, hmodifiers, -⟩
    cases hstore
    rw [hplain] at hmodifiers
    cases hmodifiers
  obtain ⟨m', hm', hnumbers, haccepts'⟩ :=
    hwritten "varchar" e he hrange hmultirange (by decide) { size := some 32 } (by decide) hfree
  exact ⟨c, hc, ⟨m, hm, hempty, htaken⟩, m', hm', hnumbers, haccepts'.trans haccepts⟩

/-- Integers, texts, dates and enumerations take no modifiers, but have those that are written after their
names. -/
theorem facets_unaccepted :
    ∃ c : Catalog, c.Reachable ∧ ∀ store ∈ ["integer(5)", "text(5)", "date(3)", "mood(5)"],
      ∃ m, (c.find (.forStore store)).1 = some m ∧ m.storeType = store ∧
        m.facets.isEmpty = false ∧ m.acceptsFacets = false := by
  let c : Catalog := (registerEnum { registry := .builtin {} }
    { name := "mood", labels := [("Sad", "sad")] }).2
  have hc : c.Reachable := .enumeration reachableBy_builtin trivial
  have hruns : ∀ store ∈ ["integer(5)", "text(5)", "date(3)", "mood(5)"],
      (c.find (.forStore store)).1.map (fun m => (m.storeType, m.facets.isEmpty, m.acceptsFacets)) =
        some (store, false, false) := by
    decide +kernel
  refine ⟨c, hc, fun store hstore => ?_⟩
  obtain ⟨m, hm, hfields⟩ := Option.map_eq_some_iff.1 (hruns store hstore)
  simp only [Prod.mk.injEq] at hfields
  exact ⟨m, hm, hfields⟩

end Catalog

end SqlBridge
