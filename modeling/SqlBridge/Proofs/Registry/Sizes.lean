import SqlBridge.Proofs.Registry.Modifiers

/-!
# Sizes of texts and bit strings

Without a store type, texts and bit strings go to a store type by the size that is asked for, or by that of
the options when they are part of a key. Up to the largest size it is a bound, and above it there is none,
for a fixed length as well. The elements of sequences are sized in the same way, and a precision or scale
makes no difference.
-/

namespace SqlBridge

/-- The store types of a host type that is stored by size. -/
structure SizedStores where
  host : Scalar
  /-- The store type without a bound. -/
  unbounded : String
  /-- The store type with a bound. -/
  varying : String
  /-- The store type of a fixed length. -/
  fixed : String

namespace SizedStores

/-- The store types of texts. -/
def texts : SizedStores :=
  ⟨.string, "text", "character varying", "character"⟩

/-- The store types of bit strings. -/
def bitStrings : SizedStores :=
  ⟨.bitString, "bit varying", "bit varying", "bit"⟩

/-- The store type that takes a size. -/
def bounded (stores : SizedStores) (fixedLength : Bool) : String :=
  if fixedLength then stores.fixed else stores.varying

/-- The store type when there is no size. -/
def unsized (stores : SizedStores) (fixedLength : Bool) : String :=
  if fixedLength then stores.fixed else stores.unbounded

/-- The names of the store types, and whether they are of a fixed length. -/
def names (stores : SizedStores) : List (String × Bool) :=
  [(stores.unbounded, false), (stores.varying, false), (stores.fixed, true)]

end SizedStores

/-- What the descriptor tells of its store type: the values' host type, the name, the name with its
modifiers, and the modifiers. -/
structure Descriptor.Tells (d : Descriptor) (host : Scalar) (base store : String) (f : Facets) : Prop where
  hostType : d.hostType = .scalar host
  baseStoreType : d.baseStoreType = base
  storeType : d.storeType = store
  facets : d.facets = f

/-- The descriptor is that of the store type for a size. -/
inductive IsSized (stores : SizedStores) (fixedLength : Bool) : Option UInt32 → Descriptor → Prop
  | unsized {d : Descriptor} :
    d.Tells stores.host (stores.unsized fixedLength) (stores.unsized fixedLength) { fixedLength } →
    IsSized stores fixedLength none d
  | bounded {size : UInt32} {d : Descriptor} : size ≤ Registry.maxBoundedSize →
    d.Tells stores.host (stores.bounded fixedLength)
      (stores.bounded fixedLength ++ "(" ++ toString size.toNat ++ ")")
      { size := some size, fixedLength } →
    IsSized stores fixedLength (some size) d
  | unbounded {size : UInt32} {d : Descriptor} : Registry.maxBoundedSize < size →
    d.Tells stores.host stores.unbounded stores.unbounded {} →
    IsSized stores fixedLength (some size) d

namespace Registry

variable {admits : String → Prop} {r : Registry} {q : Request} {stores : SizedStores} {d e : Descriptor}

/-! ## The store types for sizes -/

lemma sizedStores?_eq (hstores : stores = .texts ∨ stores = .bitStrings) (fixedLength : Bool) :
    sizedStores? (.scalar stores.host) fixedLength =
      some (stores.bounded fixedLength, stores.unbounded) := by
  rcases hstores with rfl | rfl <;> cases fixedLength <;> rfl

/-- The names of these store types stand for them in the built-in tables. -/
lemma first?_leaves_of_sizes (hstores : stores = .texts ∨ stores = .bitStrings) (o : MappingOptions)
    {name : String} {fixedLength : Bool} (hname : (name, fixedLength) ∈ stores.names) :
    ∃ s, (leaves o).first? name = some (.scalar s) ∧
      (Descriptor.scalar s).Tells stores.host name name { fixedLength } := by
  obtain ⟨legacy, writesExtremes, keySize, ranges, enums⟩ := o
  simp only [SizedStores.names, List.mem_cons, List.not_mem_nil, or_false, Prod.mk.injEq] at hname
  rcases hstores with rfl | rfl <;> rcases hname with ⟨rfl, rfl⟩ | ⟨rfl, rfl⟩ | ⟨rfl, rfl⟩ <;>
    cases legacy <;> exact ⟨_, rfl, rfl, rfl, rfl, rfl⟩

lemma ReachableBy.first?_of_sizes (h : r.ReachableBy admits)
    (hstores : stores = .texts ∨ stores = .bitStrings) {name : String} {fixedLength : Bool}
    (hname : (name, fixedLength) ∈ stores.names) : ∃ s, r.first? name = some (.scalar s) ∧
      (Descriptor.scalar s).Tells stores.host name name { fixedLength } := by
  obtain ⟨s, hs, htells⟩ := first?_leaves_of_sizes hstores r.options hname
  exact ⟨s, h.first?_of_leaves hs, htells⟩

/-- Values of these host types go to the store type without a bound by default. -/
lemma ReachableBy.default_of_sizes (h : r.ReachableBy admits)
    (hstores : stores = .texts ∨ stores = .bitStrings) :
    ∃ s, Entries.get? (.scalar stores.host) r.hosts = some (.scalar s) ∧
      (Descriptor.scalar s).Tells stores.host stores.unbounded stores.unbounded {} := by
  have hdefault : ∀ legacy, (stores.host, stores.unbounded) ∈ Builtin.defaultStores legacy := by
    rcases hstores with rfl | rfl <;> decide
  obtain ⟨s, hs, htells⟩ := h.first?_of_sizes hstores List.mem_cons_self
  exact ⟨s, h.get?_hosts (hdefault _) (List.mem_of_head? hs) htells.hostType, htells⟩

/-- A size is written behind the name. -/
lemma tells_withFacets {s : Signature} {host : Scalar} {name : String} {f : Facets} (size : UInt32)
    (fixedLength : Bool) (hname : Facets.isZoned name = false)
    (h : (Descriptor.scalar s).Tells host name name f) :
    ((Descriptor.scalar s).withFacets { size := some size, fixedLength }).Tells host name
      (name ++ "(" ++ toString size.toNat ++ ")") { size := some size, fixedLength } := by
  refine ⟨h.hostType, h.baseStoreType, ?_, rfl⟩
  have hbase : s.baseStoreType = name := h.baseStoreType
  show Facets.applyTo { size := some size, fixedLength } s.baseStoreType = _
  rw [hbase, Facets.applyTo, hname, if_neg Bool.false_ne_true]
  simp [Facets.modifier, Facets.numbers, String.append_assoc]

/-! ## Answers -/

lemma bounded_mem_names (fixedLength : Bool) : (stores.bounded fixedLength, fixedLength) ∈ stores.names := by
  cases fixedLength <;> simp [SizedStores.bounded, SizedStores.names]

lemma isZoned_of_sizes (hstores : stores = .texts ∨ stores = .bitStrings) (fixedLength : Bool) :
    Facets.isZoned (stores.bounded fixedLength) = false := by
  rcases hstores with rfl | rfl <;> cases fixedLength <;> decide

/-- What a default is replaced by for a size is the descriptor of the store type for this size. -/
lemma ReachableBy.sized_of_sizes (h : r.ReachableBy admits)
    (hstores : stores = .texts ∨ stores = .bitStrings) {s : Signature}
    (hs : (Descriptor.scalar s).Tells stores.host stores.unbounded stores.unbounded {}) :
    ∃ s', r.sized q (.scalar s) (stores.bounded q.fixedLength) stores.unbounded = some (.scalar s') ∧
      IsSized stores q.fixedLength (r.sizeFor q) (.scalar s') := by
  rw [sized]
  cases hsize : r.sizeFor q with
  | none =>
    cases hfixed : q.fixedLength with
    | false => exact ⟨s, rfl, .unsized hs⟩
    | true =>
      obtain ⟨s', hs', htells⟩ := h.first?_of_sizes hstores (bounded_mem_names true)
      exact ⟨s', hs', .unsized htells⟩
  | some size =>
    by_cases hlarge : size > maxBoundedSize
    · obtain ⟨s', hs', htells⟩ := h.first?_of_sizes hstores List.mem_cons_self
      exact ⟨s', (if_pos hlarge).trans hs', .unbounded hlarge htells⟩
    · obtain ⟨s', hs', htells⟩ := h.first?_of_sizes hstores (bounded_mem_names q.fixedLength)
      have hwith := tells_withFacets size q.fixedLength (isZoned_of_sizes hstores q.fixedLength) htells
      refine ⟨s'.withFacets { size := some size, fixedLength := q.fixedLength }, ?_,
        .bounded (UInt32.not_lt.1 hlarge) hwith⟩
      simp only [if_neg hlarge, hs', Option.map_some]
      rfl

/-- A request for the host type alone is answered by the descriptor for the size. -/
lemma ReachableBy.find_of_sizes (h : r.ReachableBy admits)
    (hstores : stores = .texts ∨ stores = .bitStrings) (hstore : q.store = none)
    (hhost : q.host = some (.scalar stores.host)) :
    ∃ s, r.find q = some (.scalar s) ∧ IsSized stores q.fixedLength (r.sizeFor q) (.scalar s) := by
  obtain ⟨s, hget, htells⟩ := h.default_of_sizes hstores
  obtain ⟨s', hsized, hs'⟩ := h.sized_of_sizes (q := q) hstores htells
  have hchar : HostType.scalar stores.host ≠ .scalar .char := by
    rcases hstores with rfl | rfl <;> decide
  have hdecide : r.decide q = .found (.scalar s') := by
    simp only [decide, hstore, hhost, decideByHost, if_neg hchar, hget, sizedStores?_eq hstores, hsized]
  exact ⟨s', find_of_found (congrArg Decision.found? hdecide), hs'⟩

/-- A request for sequences alone is answered by the array over the answer for what they hold. -/
lemma ReachableBy.find_of_sequence (h : r.ReachableBy admits) {host inner : HostType}
    (hstore : q.store = none) (hhost : q.host = some host) (hinner : host.element? = some inner)
    (he : r.find { q with host := some inner } = some e) (harray : e.isArray = false) :
    ∃ m, r.find q = some m ∧ arrayOver (some host) e = some m := by
  have hopen : r.decide q = .unsettled := by
    have hchar : host ≠ .scalar .char := by
      rintro rfl
      cases hinner
    rw [decide, hstore, hhost]
    simp only
    rw [decideByHost, if_neg hchar]
    cases hget : Entries.get? host r.hosts with
    | none => rfl
    | some d =>
      obtain ⟨rfl, hmem⟩ := h.linked.hosts hget
      rw [(h.host_of_isRegistered (.inl hmem)).1] at hinner
      cases hinner
  have helement : q.element? = some { q with host := some inner } := by
    rw [Request.element?, hstore, hhost]
    simp only [hinner, Option.map_some]
  obtain ⟨m, hm⟩ : ∃ m, arrayOver (some host) e = some m := exists_arrayOver harray
  refine ⟨m, ?_, hm⟩
  rw [find_of_unsettled hopen, helement, Option.bind_some, he, settle, Option.bind_some, hhost, hm]
  rfl

end Registry

namespace Catalog

/-- Texts and bit strings that are asked for without a store type are answered by the descriptor for the
size that is asked for, or else, as parts of keys, for the size of the options. Sequences of them are
answered by the array over this descriptor, which has its modifiers. -/
theorem find_sized {c : Catalog} (hc : c.Reachable) {stores : SizedStores}
    (hstores : stores = .texts ∨ stores = .bitStrings) {q : Request} (hstore : q.store = none) :
    let size := q.size.or (if q.isKey then c.registry.options.keySize else none)
    (q.host = some (.scalar stores.host) →
      ∃ m, (c.find q).1 = some m ∧ IsSized stores q.fixedLength size m) ∧
    ∀ host, q.host = some host → host.element? = some (.scalar stores.host) →
      ∃ m e, (c.find q).1 = some m ∧ m.element? = some e ∧ IsSized stores q.fixedLength size e ∧
        m.hostType = host ∧ m.storeType = e.storeType ++ "[]" ∧ m.facets = e.facets := by
  have hr := hc.spec.2
  have hsize (q : Request) : c.registry.sizeFor q =
      q.size.or (if q.isKey then c.registry.options.keySize else none) :=
    Option.orElse_eq_or
  simp only [hc.find_eq, ← hsize]
  constructor
  · intro hhost
    obtain ⟨s, hs, hsized⟩ := hr.find_of_sizes hstores hstore hhost
    exact ⟨_, hs, hsized⟩
  · intro host hhost hinner
    obtain ⟨s, hs, hsized⟩ :=
      hr.find_of_sizes (q := { q with host := some (.scalar stores.host) }) hstores hstore rfl
    obtain ⟨m, hm, hover⟩ := hr.find_of_sequence hstore hhost hinner hs rfl
    obtain ⟨-, -, hname, -, hfacets⟩ := Descriptor.arrayOf_ok (ok_of_toOption hover)
    obtain ⟨helement, hhostType⟩ := Descriptor.hostType_of_arrayOf (ok_of_toOption hover)
    exact ⟨m, _, hm, helement, hsized, hhostType, hname, hfacets⟩

/-- A size wins over that of the options, which is too large here to be a bound, and a precision is passed
over. -/
theorem find_sized_of_keys :
    let bits : Request :=
      { host := some (.scalar .bitString), size := some 8, precision := some 3, fixedLength := true,
        isKey := true }
    let words : Request :=
      { host := some (.list (.scalar .string)), scale := some 2, fixedLength := true, isKey := true }
    ∃ c : Catalog, c.Reachable ∧ c.registry.options.keySize = some 20000000 ∧
      (∃ m, (c.find bits).1 = some m ∧ m.storeType = "bit(8)" ∧
        m.facets = { size := some 8, fixedLength := true }) ∧
      ∃ m e, (c.find words).1 = some m ∧ m.element? = some e ∧ e.storeType = "text" ∧ e.facets = {} ∧
        m.storeType = "text[]" ∧ m.hostType = .list (.scalar .string) := by
  intro bits words
  let o : MappingOptions := { keySize := some 20000000 }
  let c : Catalog := { registry := .builtin o }
  have hc : c.Reachable := .start (o := o) nofun nofun rfl
  have hkey : c.registry.options.keySize = some 20000000 := by
    rw [Registry.options_builtin]
  obtain ⟨hbits, -⟩ := find_sized hc (.inr rfl : SizedStores.bitStrings = _ ∨ _) (q := bits) rfl
  obtain ⟨-, hwords⟩ := find_sized hc (.inl rfl : SizedStores.texts = _ ∨ _) (q := words) rfl
  obtain ⟨m, hm, hsized⟩ := hbits rfl
  obtain ⟨m', e, hm', he, hsized', hhost, hstore, -⟩ := hwords _ rfl rfl
  refine ⟨c, hc, hkey, ⟨m, hm, ?_⟩, m', e, hm', he, ?_⟩
  · cases hsized with
    | bounded _ htells => exact ⟨htells.storeType, htells.facets⟩
    | unbounded hlarge _ => exact absurd hlarge (by decide)
  · have hsize : words.size.or (if words.isKey then c.registry.options.keySize else none) =
        some 20000000 := hkey
    rw [hsize] at hsized'
    cases hsized' with
    | bounded hsmall _ => exact absurd hsmall (by decide)
    | unbounded _ htells =>
      refine ⟨htells.storeType, htells.facets, ?_, hhost⟩
      rw [hstore, htells.storeType]
      rfl

end Catalog

end SqlBridge
