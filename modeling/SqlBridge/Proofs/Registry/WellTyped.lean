import SqlBridge.Proofs.Descriptor.WellTyped
import SqlBridge.Proofs.Registry.Closure

/-!
# Literals of well-typed values

Every descriptor of a registry is made for its host type. So the descriptor that a host type goes to by
default writes every value of that host type in all three ways, up to instants with an offset.
-/

namespace SqlBridge

namespace Descriptor

variable {d : Descriptor} {o : LiteralOptions}

lemma IsTyped.withFacets (h : d.IsTyped o) (f : Facets) : (d.withFacets f).IsTyped o := by
  induction h with
  | scalar hliterals hdb hhost hwrites => exact .scalar hliterals hdb hhost hwrites
  | document hdoc => exact .document hdoc
  | enumeration hhost => exact .enumeration hhost
  | @array s element nullable hhost _ ih =>
    refine .array ?_ ih
    rw [hostType_withFacets]
    exact hhost
  | range hhost hsubtype _ => exact .range hhost hsubtype
  | multirange hhost hsubtype _ => exact .multirange hhost hsubtype

lemma isTyped_rangeOver (h : d.IsTyped o) (name : String) : (rangeOver name d).IsTyped o :=
  .range rfl h

lemma isTyped_singleCharacter (o : LiteralOptions) : (Builtin.singleCharacter o).IsTyped o :=
  .scalar rfl rfl (rfl : _ = HostType.scalar .char) ⟨rfl, nofun, nofun⟩

/-- The store types of a family hold documents, or they write the values of each of its host types. -/
lemma writesAll_of_families {o : MappingOptions} {f : Builtin.Family}
    (hf : f ∈ Builtin.families o.legacyTimestamps) {host : Scalar} (hhost : host ∈ f.hosts) :
    f.tag.isDocument = true ∨ f.tag.WritesAll o.literals host := by
  have hall : ∀ legacy, ∀ f ∈ Builtin.families legacy, ∀ host ∈ f.hosts,
      f.tag.isDocument = true ∨ (f.tag.writes.contains host = true ∧
        (host = .dateTime → f.tag = .timestamp ∨ legacy = true) ∧
        (host = .dateTimeUtc → f.tag = .timestampTz ∨ legacy = true)) := by
    decide
  rcases hall _ f hf host hhost with hdoc | ⟨hwrites, hunzoned, hzoned⟩
  · exact .inl hdoc
  · exact .inr ⟨hwrites, hunzoned, hzoned⟩

lemma isTyped_builtin {o : MappingOptions} {f : Builtin.Family}
    (hf : f ∈ Builtin.families o.legacyTimestamps) (name : String) {host : Scalar}
    (hhost : host ∈ f.hosts) : (f.descriptor o.literals name host).IsTyped o.literals := by
  rcases writesAll_of_families hf hhost with hdoc | hwrites
  · exact .document hdoc
  · exact .scalar rfl rfl rfl hwrites

end Descriptor

namespace Registry

variable {admits : String → Prop} {r : Registry} {q : Request} {d e : Descriptor}

lemma isTyped_of_isDecided (h : r.ReachableBy admits)
    (hr : ∀ e, r.IsRegistered e → e.IsTyped r.literals) (hd : r.IsDecided q d) :
    d.IsTyped r.literals := by
  have hadapted : ∀ e, r.IsAdapted q.host e → e.IsTyped r.literals := by
    intro e he
    cases he with
    | stored he _ => exact hr e (h.linked.isRegistered he)
    | document hfirst hdoc _ =>
      obtain ⟨s, tag, rfl, hs, htag⟩ := h.scalar_of_document hfirst hdoc
      refine .document ?_
      rw [Descriptor.isDocument, hs]
      exact htag
  rcases h.adapted_of_isDecided hd with ⟨-, rfl⟩ | ⟨e, he, rfl | ⟨f, rfl⟩⟩
  · exact Descriptor.isTyped_singleCharacter _
  · exact hadapted _ he
  · exact (hadapted e he).withFacets f

/-- The array that answers a request is for a sequence of the element's host type. -/
lemma hostType_of_arrayOver (h : r.ReachableBy admits) {q' : Request} (hq : q.element? = some q')
    (he : r.find q' = some e) (hd : arrayOver q.host e = some d) :
    d.hostType.element? = some e.hostType := by
  obtain ⟨-, hhost⟩ := Descriptor.hostType_of_arrayOf (ok_of_toOption hd)
  rw [hhost]
  cases hqhost : q.host with
  | none => rfl
  | some host =>
    obtain ⟨host', hhost', hq'⟩ := Request.host_of_element? hq hqhost
    rw [(hostType_of_find h he hq').1]
    exact hhost'

/-- Answers are made for their host types when all registered descriptors are. -/
lemma isTyped_of_find (h : r.ReachableBy admits)
    (hr : ∀ e, r.IsRegistered e → e.IsTyped r.literals) (hd : r.find q = some d) :
    d.IsTyped r.literals := by
  refine find_induction (motive := fun _ d => d.IsTyped r.literals) ?_ ?_ ?_ hd
  · exact fun q d hd => isTyped_of_isDecided h hr hd
  · intro q q' e d hq he htyped hd
    have hhost := hostType_of_arrayOver h hq he hd
    obtain ⟨helement, -⟩ := Descriptor.hostType_of_arrayOf (ok_of_toOption hd)
    cases d with
    | array s element nullable =>
      cases helement
      exact .array hhost htyped
    | _ => cases helement
  · exact fun q d hd _ => hr d (.inr hd)

/-- Every registered descriptor is made for its host type. -/
theorem ReachableBy.isTyped (h : r.ReachableBy admits) (hd : r.IsRegistered d) :
    d.IsTyped r.literals := by
  refine h.registered (o := r.options) (P := fun d => d.IsTyped r.literals) ?_ ?_ ?_ ?_ rfl hd
  · exact fun f hf name _ host hhost => Descriptor.isTyped_builtin hf name hhost
  · rintro subtype d hsubtype ⟨names, -, rfl | hd⟩
    · exact Descriptor.isTyped_rangeOver hsubtype _
    · cases hd
      exact .multirange rfl hsubtype
  · exact fun r' d _ => .enumeration rfl
  · intro r' q name s hr' ho hall hs
    have hliterals : r'.literals = r.literals := congrArg MappingOptions.literals ho
    rw [← hliterals] at hall ⊢
    exact Descriptor.isTyped_rangeOver (isTyped_of_find hr' hall hs) name

end Registry

namespace Catalog

/-- The descriptor that a host type goes to by default has all three literals of every value of the host
type. Outside legacy mode some may be missing, with the code for offsets, when an instant with an offset
from UTC stands in the value. -/
theorem literals_of_hasType {c : Catalog} (hc : c.Reachable) {host : HostType} {m : Descriptor}
    (hm : (c.find (.forHost host)).1 = some m) {v : HostValue} (hv : v.HasType host) :
    ∀ text ∈ [m.toplevel v, m.embedded v, m.uncast v], (∃ t, text = .ok t) ∨
      (c.registry.options.legacyTimestamps = false ∧
        (∃ t, v.Contains (.scalar (.dateTimeUtc t)) ∧ t.offset ≠ 0) ∧
        ∃ fault, text = .error fault ∧ fault.report.code = ⟨201⟩) := by
  rw [hc.find_eq] at hm
  have hr := hc.spec.2
  have htyped := Registry.isTyped_of_find hr (fun e he => hr.isTyped he) hm
  obtain ⟨hhost, -⟩ := Registry.hostType_of_find hr hm rfl
  rw [← hhost] at hv
  have hwritten : ∀ text ∈ [m.toplevel v, m.embedded v, m.uncast v],
      IsWritten c.registry.literals v text := by
    simp only [List.forall_mem_cons, List.not_mem_nil, false_implies, implies_true, and_true]
    exact ⟨htyped.isWritten_toplevel hv,
      Descriptor.isWritten_embedded (htyped.isWritten_content hv), htyped.isWritten_uncast hv⟩
  intro text htext
  have hmeets := hwritten text htext
  cases text with
  | ok t => exact .inl ⟨t, rfl⟩
  | error fault => exact .inr ⟨hmeets.legacy, hmeets.offset, fault, rfl, hmeets.code⟩

/-- A list of multiranges of instants, with a null in it and an instant that is given with an offset. -/
theorem literals_of_hasType_of_offset :
    ∃ c : Catalog, c.Reachable ∧ ∃ m v,
      (c.find (.forHost (.list (.multirange (.scalar .dateTimeUtc))))).1 = some m ∧
        m.storeType = "tstzmultirange[]" ∧ v.HasType (.list (.multirange (.scalar .dateTimeUtc))) ∧
        (m.toplevel v).isOk = false ∧ c.registry.options.legacyTimestamps = false ∧ v.HasOffset ∧
        ∃ fault, m.toplevel v = .error fault ∧ fault.report.code = ⟨201⟩ := by
  have hc : Reachable { registry := .builtin {} } := reachableBy_builtin
  let t : Instant := ⟨⟨⟨2024, 1, 31⟩, ⟨0, 0⟩⟩, 3600⟩
  let v : HostValue :=
    .array [.null, .multirange [.bounds .infinite (.exclusive (.scalar (.dateTimeUtc t)))]]
  have hv : v.HasType (.list (.multirange (.scalar .dateTimeUtc))) := by
    refine .list ?_
    rintro w (_ | ⟨_, _ | ⟨_, ⟨⟩⟩⟩)
    · exact .null
    · refine .multirange ?_
      rintro r (_ | ⟨_, ⟨⟩⟩) x (_ | ⟨_, ⟨⟩⟩)
      exact .scalar rfl
  have hfind : (Catalog.find { registry := .builtin {} }
      (.forHost (.list (.multirange (.scalar .dateTimeUtc))))).1.map
        (fun m => (m.storeType, (m.toplevel v).isOk)) = some ("tstzmultirange[]", false) := by
    decide +kernel
  obtain ⟨m, hm, hpair⟩ := Option.map_eq_some_iff.1 hfind
  obtain ⟨hstore, hok⟩ := Prod.mk.inj hpair
  rcases literals_of_hasType hc hm hv (m.toplevel v) List.mem_cons_self with
    ⟨text, htext⟩ | ⟨hlegacy, hoffset, hfault⟩
  · rw [htext] at hok
    cases hok
  · exact ⟨_, hc, m, v, hm, hstore, hv, hok, hlegacy, hoffset, hfault⟩

end Catalog

end SqlBridge
