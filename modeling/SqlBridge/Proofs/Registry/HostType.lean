import SqlBridge.Proofs.Registry.StoreName

/-!
# Host types of answers

An answer is for the host type that was asked for, by whatever way it was found, and the elements of an array
are for the element type of that host type.
-/

namespace SqlBridge

namespace Descriptor

variable {d : Descriptor}

lemma hostType_withFacets (d : Descriptor) (f : Facets) : (d.withFacets f).hostType = d.hostType := by
  cases d <;> rfl

lemma hostType_withHostType (d : Descriptor) (host : HostType) :
    (d.withHostType host).hostType = host := by
  cases d <;> rfl

lemma element?_of_isArray_eq_false (h : d.isArray = false) : d.element? = none := by
  cases d with
  | array s element nullable => cases h
  | _ => rfl

/-- An array is over its element, for the given host type or else for arrays of the element's. -/
lemma hostType_of_arrayOf {element : Descriptor} {host : Option HostType} {nullable : Bool}
    (h : element.arrayOf host nullable = .ok d) :
    d.element? = some element ∧ d.hostType = host.getD (.array element.hostType) := by
  rw [arrayOf] at h
  by_cases harray : element.isArray = true
  · rw [if_pos harray] at h
    cases h
  · rw [if_neg harray] at h
    cases h
    exact ⟨rfl, rfl⟩

end Descriptor

/-- The element of a host type that is asked for is asked for in turn. -/
lemma Request.host_of_element? {q q' : Request} {host : HostType} (h : q.element? = some q')
    (hq : q.host = some host) : ∃ host', host.element? = some host' ∧ q'.host = some host' := by
  rw [Request.element?] at h
  cases hs : q.store with
  | none =>
    rw [hs, hq] at h
    obtain ⟨host', hhost, rfl⟩ := Option.map_eq_some_iff.1 h
    exact ⟨host', hhost, rfl⟩
  | some store =>
    rw [hs, hq] at h
    simp only at h
    split at h
    · rename_i host' store' hhost _
      cases h
      exact ⟨host', hhost, rfl⟩
    · cases h

namespace Registry

variable {admits : String → Prop} {r : Registry} {q : Request} {d : Descriptor} {host : HostType}

/-! ## Defaults -/

/-- The names that a host type is sized under are built-in and come first with that host type. -/
lemma hostType_of_sizedStores? (o : MappingOptions) {fixed : Bool} {bounded unbounded : String}
    (h : sizedStores? host fixed = some (bounded, unbounded)) :
    ((leaves o).first? bounded).map (·.hostType) = some host ∧
      ((leaves o).first? unbounded).map (·.hostType) = some host := by
  obtain ⟨legacy, writesExtremes, keySize, ranges, enums⟩ := o
  rw [sizedStores?] at h
  by_cases hstring : host = .scalar .string
  · rw [if_pos hstring] at h
    subst hstring
    cases fixed <;> cases h <;> cases legacy <;> exact ⟨rfl, rfl⟩
  · rw [if_neg hstring] at h
    by_cases hbits : host = .scalar .bitString
    · rw [if_pos hbits] at h
      subst hbits
      cases fixed <;> cases h <;> cases legacy <;> exact ⟨rfl, rfl⟩
    · rw [if_neg hbits] at h
      cases h

/-- The first descriptor of a built-in name is adapted to the host type that it has in the built-in tables. -/
lemma ReachableBy.isAdapted_of_first? (h : r.ReachableBy admits) {name : String}
    (hname : ((leaves r.options).first? name).map (·.hostType) = some host)
    (hd : r.first? name = some d) : r.IsAdapted (some host) d := by
  obtain ⟨b, hb, hhost⟩ := Option.map_eq_some_iff.1 hname
  rw [h.first?_of_leaves hb] at hd
  cases hd
  refine .stored (List.mem_of_head? (h.first?_of_leaves hb)) ?_
  intro host' hhost'
  exact hhost.trans (Option.some.inj hhost')

lemma ReachableBy.isAdapted_default (h : r.ReachableBy admits)
    (hd : Entries.get? host r.hosts = some d) : r.IsAdapted (some host) d := by
  obtain ⟨hhost, hmem⟩ := h.linked.hosts hd
  refine .stored hmem ?_
  intro host' hhost'
  exact hhost.trans (Option.some.inj hhost')

lemma refine_cases (d : Descriptor) (f : Facets) :
    refine d f = d ∨ ∃ g, refine d f = d.withFacets g := by
  rw [refine]
  by_cases hf : (f.isEmpty || !d.acceptsFacets) = true
  · exact .inl (if_pos hf)
  · exact .inr ⟨_, if_neg hf⟩

/-- What names and defaults decide is a single character, or it is adapted to the requested host type, as it
is or with modifiers. -/
theorem ReachableBy.adapted_of_isDecided (h : r.ReachableBy admits) (hd : r.IsDecided q d) :
    (q.host = some (.scalar .char) ∧ d = Builtin.singleCharacter r.literals) ∨
      ∃ e, r.IsAdapted q.host e ∧ (d = e ∨ ∃ f, d = e.withFacets f) := by
  cases hd with
  | character hq => exact .inl ⟨hq, rfl⟩
  | @named store e _ he => exact .inr ⟨e, he, refine_cases e _⟩
  | @parsed store e _ he => exact .inr ⟨e, he, .inr ⟨_, rfl⟩⟩
  | @default host e _ hq he _ =>
    rw [hq]
    exact .inr ⟨e, h.isAdapted_default he, refine_cases e _⟩
  | @sized host e d bounded unbounded _ hq he hsized hd =>
    obtain ⟨hbounded, hunbounded⟩ := hostType_of_sizedStores? r.options hsized
    rw [hq]
    right
    rcases of_sized hd with rfl | hb | hb | ⟨size, b, -, hb, rfl⟩
    · exact ⟨d, h.isAdapted_default he, .inl rfl⟩
    · exact ⟨d, h.isAdapted_of_first? hbounded hb, .inl rfl⟩
    · exact ⟨d, h.isAdapted_of_first? hunbounded hb, .inl rfl⟩
    · exact ⟨b, h.isAdapted_of_first? hbounded hb, .inr ⟨_, rfl⟩⟩

/-! ## Host types -/

/-- The descriptor is no array and for the host type, if one is asked for. -/
def IsHosted (host : Option HostType) (d : Descriptor) : Prop :=
  d.isArray = false ∧ ∀ h, host = some h → d.hostType = h

lemma IsHosted.withFacets {host : Option HostType} (h : IsHosted host d) (f : Facets) :
    IsHosted host (d.withFacets f) := by
  rw [IsHosted, Descriptor.isArray_withFacets, Descriptor.hostType_withFacets]
  exact h

lemma IsAdapted.isHosted {host : Option HostType} (h : r.ReachableBy admits)
    (hd : r.IsAdapted host d) : IsHosted host d := by
  cases hd with
  | stored he hhost => exact ⟨(h.isPlain (h.linked.isRegistered he)).2.2, hhost⟩
  | @document name e host' he _ hhost =>
    rw [IsHosted, Descriptor.isArray_withHostType, Descriptor.hostType_withHostType]
    refine ⟨(h.isPlain (h.linked.isRegistered_of_first? he)).2.2, ?_⟩
    intro host'' hhost'
    exact Option.some.inj (hhost.symm.trans hhost')

lemma isHosted_of_isDecided (h : r.ReachableBy admits) (hd : r.IsDecided q d) :
    IsHosted q.host d := by
  rcases h.adapted_of_isDecided hd with ⟨hq, rfl⟩ | ⟨e, he, rfl | ⟨f, rfl⟩⟩
  · rw [hq]
    exact ⟨rfl, fun _ hhost => Option.some.inj hhost⟩
  · exact he.isHosted h
  · exact (he.isHosted h).withFacets f

lemma hostType_of_isAnswer (h : isAnswer q d = true) (hq : q.host = some host) :
    d.hostType = host := by
  rw [isAnswer, hq] at h
  cases hs : q.store with
  | none =>
    rw [hs] at h
    exact (beq_iff_eq.1 h).symm
  | some store =>
    rw [hs, Bool.and_eq_true] at h
    exact (beq_iff_eq.1 h.2).symm

/-- The answer is for the host type that is asked for, and so are the elements of an array. -/
theorem hostType_of_find (h : r.ReachableBy admits) (hd : r.find q = some d)
    (hq : q.host = some host) :
    d.hostType = host ∧ ∀ e, d.element? = some e → host.element? = some e.hostType := by
  refine find_induction (motive := fun q d => ∀ host, q.host = some host →
    d.hostType = host ∧ ∀ e, d.element? = some e → host.element? = some e.hostType) ?_ ?_ ?_ hd host hq
  · intro q d hd host hq
    obtain ⟨harray, hhost⟩ := isHosted_of_isDecided h hd
    rw [Descriptor.element?_of_isArray_eq_false harray]
    exact ⟨hhost host hq, nofun⟩
  · intro q q' e d hq' he ih hd host hq
    obtain ⟨helement, hhost⟩ := Descriptor.hostType_of_arrayOf (ok_of_toOption hd)
    obtain ⟨host', hhost', hq'⟩ := Request.host_of_element? hq' hq
    rw [hq] at hhost
    refine ⟨hhost, ?_⟩
    intro e' he'
    rw [helement] at he'
    cases he'
    rw [hhost', (ih host' hq').1]
  · intro q d hd hans host hq
    rw [Descriptor.element?_of_isArray_eq_false (h.isPlain (.inr hd)).2.2]
    exact ⟨hostType_of_isAnswer hans hq, nofun⟩

end Registry

namespace Catalog

/-- An answer is for the host type that was asked for; where it is an array, that host type is a sequence of
the host type of its element. -/
theorem hostType_of_answer {c : Catalog} (hc : c.Reachable) {q : Request} {host : HostType}
    {m : Descriptor} (hq : q.host = some host) (h : (c.find q).1 = some m) :
    m.hostType = host ∧ (m.isArray = true → host.isSequence = true ∧
      ∃ e, m.element? = some e ∧ host.element? = some e.hostType) := by
  rw [hc.find_eq q] at h
  obtain ⟨hhost, helement⟩ := Registry.hostType_of_find hc.spec.2 h hq
  refine ⟨hhost, ?_⟩
  intro harray
  cases he : m.element? with
  | none =>
    cases m with
    | array s element nullable => cases he
    | _ => cases harray
  | some e =>
    have hsequence := helement e he
    rw [HostType.isSequence, hsequence]
    exact ⟨rfl, e, rfl, rfl⟩

/-- Texts of a bounded length, in a list. -/
theorem hostType_of_answer_of_list :
    ∃ c : Catalog, c.Reachable ∧ ∃ m,
      (c.find { store := some "varchar(32)[]", host := some (.list (.scalar .string)) }).1 = some m
        ∧ m.storeType = "varchar(32)[]" ∧ m.hostType = .list (.scalar .string)
        ∧ ∃ e, m.element? = some e ∧ e.hostType = .scalar .string := by
  have hc : Reachable { registry := .builtin {} } := reachableBy_builtin
  have hfind : (Catalog.find { registry := .builtin {} }
      { store := some "varchar(32)[]", host := some (.list (.scalar .string)) }).1.map
        (fun m => (m.storeType, m.isArray)) = some ("varchar(32)[]", true) := by
    decide +kernel
  obtain ⟨m, hm, hpair⟩ := Option.map_eq_some_iff.1 hfind
  obtain ⟨hstore, harray⟩ := Prod.mk.inj hpair
  obtain ⟨hhost, helement⟩ := hostType_of_answer hc rfl hm
  obtain ⟨-, e, he, hehost⟩ := helement harray
  exact ⟨_, hc, m, hm, hstore, hhost, e, he, (Option.some.inj hehost).symm⟩

end Catalog

end SqlBridge
