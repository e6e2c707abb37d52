import SqlBridge.Proofs.Descriptor.Cast
import SqlBridge.Proofs.Registry.Answers
import SqlBridge.Proofs.StoreType.Naming

/-!
# Store types of answers

The store type of every answer is made of a listed name and of numbers: the modifiers that were asked for are
folded into the name, and brackets end it for an array. No other part of the requested text gets into
it, nor into the casts of literals.
-/

namespace SqlBridge

/-- The request for an element is that for the array, but for its host type and the brackets. -/
lemma Request.of_element? {q q' : Request} (h : q.element? = some q') :
    (q.store = none ∧ ∃ host, q' = { q with host }) ∨
      ∃ store name host, q.store = some store ∧ Request.elementName? store = some name ∧
        q' = { q with store := some name, host } := by
  rw [Request.element?] at h
  cases hs : q.store with
  | none =>
    cases hh : q.host with
    | none =>
      rw [hs, hh] at h
      cases h
    | some host =>
      rw [hs, hh] at h
      obtain ⟨host', -, rfl⟩ := Option.map_eq_some_iff.1 h
      exact .inl ⟨rfl, some host', by rw [← hs]⟩
  | some store =>
    cases hh : q.host with
    | none =>
      rw [hs, hh] at h
      obtain ⟨name, hname, rfl⟩ := Option.map_eq_some_iff.1 h
      exact .inr ⟨store, name, none, rfl, hname, rfl⟩
    | some host =>
      rw [hs, hh] at h
      simp only at h
      split at h
      · rename_i host' name hhost hname
        cases h
        exact .inr ⟨store, name, some host', rfl, hname, rfl⟩
      · cases h

namespace Registry

variable {admits : String → Prop} {r : Registry} {q : Request} {d e : Descriptor}

/-- Registered descriptors are plain: they go by a single name without modifiers. -/
lemma ReachableBy.isPlain (h : r.ReachableBy admits) (hd : r.IsRegistered d) : d.IsPlain := by
  refine h.registered (o := r.options) (P := Descriptor.IsPlain) ?_ ?_ ?_ ?_ rfl hd
  · exact fun f _ name _ host _ => ⟨rfl, rfl, rfl⟩
  · rintro subtype d - ⟨names, -, rfl | hd⟩
    · exact ⟨rfl, rfl, rfl⟩
    · cases hd
      exact ⟨rfl, rfl, rfl⟩
  · exact fun r d _ => ⟨rfl, rfl, rfl⟩
  · exact fun r q name s _ _ _ _ => ⟨rfl, rfl, rfl⟩

/-- Where a modifier of an answer comes from: the modifiers of the request, those written in its store
type, the size of its host type without a store type, or the one character of a fixed-length name. -/
def IsSource (r : Registry) (q : Request) (name : String) (k : UInt32) : Prop :=
  k ∈ q.facets.values ∨ (∃ store, q.store = some store ∧ k ∈ (StoreType.parse store).values) ∨
    (q.store = none ∧ r.sizeFor q = some k) ∨ (name = "character" ∧ k = 1)

/-- The descriptor goes by a listed name, into which only modifiers of the request are folded. -/
def Names (r : Registry) (q : Request) (d : Descriptor) : Prop :=
  ∃ name ∈ r.names, d.storeType = d.facets.applyTo name ++ d.brackets ∧
    d.baseStoreType = name ++ d.brackets ∧ ∀ k ∈ d.facets.values, r.IsSource q name k

/-- A named descriptor that is no array, with modifiers from the request, is named for it. -/
lemma names_of_isNamed {name : String} (hmem : name ∈ r.names) (hd : d.IsNamed name)
    (harr : d.isArray = false) (hk : ∀ k ∈ d.facets.values, r.IsSource q name k) : r.Names q d := by
  have hb : d.brackets = "" := by rw [Descriptor.brackets, harr]; rfl
  refine ⟨name, hmem, ?_, ?_, hk⟩
  · rw [hb, String.append_empty]
    exact hd.1
  · rw [hb, String.append_empty]
    exact hd.2

lemma names_withFacets {name : String} {f : Facets} (hmem : name ∈ r.names) (hd : d.IsNamed name)
    (harr : d.isArray = false) (hplain : d.facets.values = [])
    (hf : ∀ k ∈ f.values, r.IsSource q name k) : r.Names q (d.withFacets f) := by
  refine names_of_isNamed hmem (hd.withFacets harr f) ?_ ?_
  · rw [Descriptor.isArray_withFacets, harr]
  · intro k hk
    rcases Descriptor.facets_withFacets harr f with e | e
    · rw [e] at hk
      exact hf k hk
    · rw [e, hplain] at hk
      cases hk

lemma names_refine {name : String} (hmem : name ∈ r.names) (hd : d.IsNamed name)
    (harr : d.isArray = false) (hplain : d.facets.values = []) : r.Names q (refine d q.facets) := by
  rw [refine]
  by_cases h : (q.facets.isEmpty || !d.acceptsFacets) = true
  · rw [if_pos h]
    refine names_of_isNamed hmem hd harr fun k hk => ?_
    rw [hplain] at hk
    cases hk
  · rw [if_neg h]
    refine names_withFacets hmem hd harr hplain fun k hk => ?_
    rcases Facets.mem_values_or hk with hk | hk
    · exact .inl hk
    · cases hk

lemma names_refineParsed {name store : String} (hq : q.store = some store) (hmem : name ∈ r.names)
    (hd : d.IsNamed name) (harr : d.isArray = false) (hplain : d.facets.values = []) :
    r.Names q (refineParsed d (StoreType.parse store) q) := by
  refine names_withFacets hmem hd harr hplain fun k hk => ?_
  rcases Facets.mem_values_or hk with hk | hk
  · exact .inr (.inl ⟨store, hq, hk⟩)
  · exact .inl hk

/-- A descriptor that is adapted to a host type goes by a listed name, without modifiers. -/
lemma IsAdapted.isNamed {host : Option HostType} (h : r.ReachableBy admits)
    (hd : r.IsAdapted host d) :
    ∃ name ∈ r.names, d.IsNamed name ∧ d.isArray = false ∧ d.facets.values = [] := by
  cases hd with
  | stored he _ =>
    have hreg := h.linked.isRegistered he
    have hplain := h.isPlain hreg
    exact ⟨_, hreg.mem_names, hplain.isNamed, hplain.2.2, hplain.2.1⟩
  | @document name e host' he _ _ =>
    have hreg := h.linked.isRegistered_of_first? he
    have hplain := h.isPlain hreg
    refine ⟨_, hreg.mem_names, hplain.isNamed.withHostType host', ?_, ?_⟩
    · rw [Descriptor.isArray_withHostType, hplain.2.2]
    · rw [Descriptor.facets_withHostType, hplain.2.1]

lemma names_of_isRegistered (h : r.ReachableBy admits) (hd : r.IsRegistered d) : r.Names q d := by
  have hplain := h.isPlain hd
  refine names_of_isNamed hd.mem_names hplain.isNamed hplain.2.2 fun k hk => ?_
  rw [hplain.2.1] at hk
  cases hk

lemma isNamed_singleCharacter (o : LiteralOptions) :
    (Builtin.singleCharacter o).IsNamed "character" := by
  have hplain : (Descriptor.scalar { Signature.plain "character" (.scalar .char) (.plain .char) with
      literals := o }).IsPlain := ⟨rfl, rfl, rfl⟩
  exact hplain.isNamed.withFacets rfl _

lemma names_of_isDecided (h : r.ReachableBy admits) (hd : r.IsDecided q d) : r.Names q d := by
  cases hd with
  | character _ =>
    have hmem : "character" ∈ r.names := h.names_spec.1 _ (by decide)
    refine names_of_isNamed hmem (isNamed_singleCharacter _) rfl fun k hk => ?_
    have hone : k ∈ [(1 : UInt32)] := hk
    exact .inr (.inr (.inr ⟨rfl, List.mem_singleton.1 hone⟩))
  | named hq he =>
    obtain ⟨name, hmem, hn, harr, hplain⟩ := he.isNamed h
    exact names_refine hmem hn harr hplain
  | parsed hq he =>
    obtain ⟨name, hmem, hn, harr, hplain⟩ := he.isNamed h
    exact names_refineParsed hq hmem hn harr hplain
  | default hs hq he _ =>
    have hreg := h.linked.isRegistered_of_hosts he
    have hplain := h.isPlain hreg
    exact names_refine hreg.mem_names hplain.isNamed hplain.2.2 hplain.2.1
  | sized hs hq he _ hd =>
    -- the default itself, the first of a name, or that of the bounded name with the size
    rcases of_sized hd with rfl | hb | hb | ⟨size, b, hsize, hb, rfl⟩
    · exact names_of_isRegistered h (h.linked.isRegistered_of_hosts he)
    · exact names_of_isRegistered h (h.linked.isRegistered_of_first? hb)
    · exact names_of_isRegistered h (h.linked.isRegistered_of_first? hb)
    · have hreg := h.linked.isRegistered_of_first? hb
      have hplain := h.isPlain hreg
      refine names_withFacets hreg.mem_names hplain.isNamed hplain.2.2 hplain.2.1
        fun k hk => ?_
      have hone : k ∈ [size] := hk
      rw [List.mem_singleton.1 hone]
      exact .inr (.inr (.inl ⟨hs, hsize⟩))

/-- The sources of modifiers for an element are those for the array. -/
lemma isSource_of_element {q' : Request} (hq : q.element? = some q') {name : String} {k : UInt32}
    (h : r.IsSource q' name k) : r.IsSource q name k := by
  rcases Request.of_element? hq with ⟨hs, host, rfl⟩ | ⟨store, store', host, hs, hname, rfl⟩
  · rcases h with hk | ⟨_, hst, -⟩ | ⟨-, hk⟩ | hk
    · exact .inl hk
    · rw [hs] at hst
      cases hst
    · exact .inr (.inr (.inl ⟨hs, hk⟩))
    · exact .inr (.inr (.inr hk))
  · -- brackets are all that the element's name lacks, so that the same modifiers are read from it
    rcases h with hk | ⟨_, hst, hk⟩ | ⟨hst, -⟩ | hk
    · exact .inl hk
    · cases hst
      exact .inr (.inl ⟨store, hs, (StoreType.values_parse_brackets hname).symm ▸ hk⟩)
    · cases hst
    · exact .inr (.inr (.inr hk))

/-- Every answer is named for its request. -/
theorem names_of_find (h : r.ReachableBy admits) (hd : r.find q = some d) : r.Names q d := by
  refine find_induction (motive := r.Names) ?_ ?_ ?_ hd
  · exact fun q d hd => names_of_isDecided h hd
  · rintro q q' e d hq he ⟨name, hmem, hstore, hbase, hk⟩ hd
    -- the element is no array, so that the brackets of the array are the only ones
    obtain ⟨harr, harr', hstore', hbase', hfacets⟩ := Descriptor.arrayOf_ok (ok_of_toOption hd)
    have hb : e.brackets = "" := by rw [Descriptor.brackets, harr]; rfl
    have hb' : d.brackets = "[]" := by rw [Descriptor.brackets, harr']; rfl
    refine ⟨name, hmem, ?_, ?_, fun k hk' => ?_⟩
    · rw [hstore', hstore, hb, hb', hfacets, String.append_empty]
    · rw [hbase', hbase, hb, hb', String.append_empty]
    · exact isSource_of_element hq (hk k (hfacets ▸ hk'))
  · exact fun q d hd _ => names_of_isRegistered h (.inr hd)

end Registry

namespace Catalog

/-- An answer goes by a listed name: its store type is that name with numbers folded into it, and one pair of
brackets for an array. A requested store type gives at most the values of its modifiers, and literals
have the store type in the cast at their end only. -/
theorem storeType_of_find {c : Catalog} (hc : c.Reachable) {q : Request} {m : Descriptor}
    (h : (c.find q).1 = some m) :
    ∃ name ∈ c.registry.names, ∃ suffix ∈ ["", "[]"],
      m.storeType = m.facets.applyTo name ++ suffix ∧ m.baseStoreType = name ++ suffix ∧
      (∀ store, q.store = some store → ∀ k ∈ m.facets.values,
        k ∈ q.facets.values ∨ k ∈ (StoreType.parse store).values ∨ name = "character" ∧ k = 1) ∧
      ∀ v t, m.toplevel v = .ok t → ∃ body,
        (t = body ∧ ∀ f, (m.renamed f).toplevel v = .ok body) ∨
          (t = body ++ "::" ++ m.storeType ∧
            ∀ f, (m.renamed f).toplevel v = .ok (body ++ "::" ++ f m.storeType)) := by
  rw [hc.find_eq q] at h
  obtain ⟨name, hmem, hstore, hbase, hk⟩ := Registry.names_of_find hc.spec.2 h
  refine ⟨name, hmem, m.brackets, m.brackets_mem, hstore, hbase, ?_, fun v t ht => ?_⟩
  · intro store hq k hmemk
    rcases hk k hmemk with hk | ⟨store', hq', hk⟩ | ⟨hq', -⟩ | hk
    · exact .inl hk
    · rw [hq] at hq'
      cases hq'
      exact .inr (.inl hk)
    · rw [hq] at hq'
      cases hq'
    · exact .inr (.inr hk)
  · exact Descriptor.toplevel_renamed ht

/-- A name in capitals, with blanks and zeros around its modifiers, leaves the name in small letters and the
values of the modifiers. -/
theorem storeType_of_find_of_capitals :
    ∃ c : Catalog, c.Reachable ∧ ∃ m, (c.find (.forStore "NUMERIC( 08, 002 )")).1 = some m ∧
      m.storeType = "numeric(8,2)" ∧
      ∃ name ∈ c.registry.names, ∃ suffix ∈ ["", "[]"],
        m.storeType = m.facets.applyTo name ++ suffix ∧ m.baseStoreType = name ++ suffix := by
  have hc : Reachable { registry := .builtin {} } := reachableBy_builtin
  have h : (Catalog.find { registry := .builtin {} } (.forStore "NUMERIC( 08, 002 )")).1
      = some (.scalar { storeType := "numeric(8,2)", baseStoreType := "numeric",
                        hostType := .scalar .decimal, dbType := .plain .numeric,
                        facets := { precision := some 8, scale := some 2 } }) := by
    rw [hc.find_eq]
    exact Registry.find_of_found (by decide +kernel)
  obtain ⟨name, hname, suffix, hsuffix, hstore, hbase, -⟩ := storeType_of_find hc h
  exact ⟨_, hc, _, h, rfl, name, hname, suffix, hsuffix, hstore, hbase⟩

end Catalog

end SqlBridge
