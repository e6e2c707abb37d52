import SqlBridge.Proofs.Descriptor.DateTimes
import SqlBridge.Proofs.Registry.Closure

/-!
# Date-times in what a catalog renders

The switches of a registry reach every descriptor that is made from it, down to the innermost one. So
outside legacy mode no date-time is taken for one of the other kind, wherever it stands in a value.
-/

namespace SqlBridge

namespace Signature

variable {s s' : Signature} {o : LiteralOptions}

/-- Names with modifiers, modifiers and host types make no difference. -/
lemma IsTimed.congr (h : s.IsTimed o) (hliterals : s'.literals = s.literals)
    (hdb : s'.dbType = s.dbType) (hstore : s'.baseStoreType = s.baseStoreType) : s'.IsTimed o where
  literals := hliterals.trans h.literals
  zoned hzoned := hstore ▸ h.zoned (hdb.symm.trans hzoned)
  unzoned hunzoned := hstore ▸ h.unzoned (hdb.symm.trans hunzoned)

/-- Containers go by names of their own. -/
lemma isTimed_of_container (hliterals : s.literals = o) (hdb : s.dbType.isContainer = true) :
    s.IsTimed o where
  literals := hliterals
  zoned h := by
    rw [h] at hdb
    cases hdb
  unzoned h := by
    rw [h] at hdb
    cases hdb

lemma isTimed_builtin {legacy : Bool} {f : Builtin.Family} (hf : f ∈ Builtin.families legacy)
    {name : String} (hname : name ∈ f.names) (host : Scalar) :
    (f.descriptor o name host).signature.IsTimed o := by
  have hall : ∀ f ∈ Builtin.families legacy, ∀ name ∈ f.names,
      (f.tag = .timestampTz → name ∈ ["timestamp with time zone", "timestamptz"]) ∧
        (f.tag = .timestamp → name ∈ ["timestamp without time zone", "timestamp"]) := by
    cases legacy <;> decide +kernel
  obtain ⟨hzoned, hunzoned⟩ := hall f hf name hname
  exact ⟨rfl, fun h => hzoned (DbType.plain.inj h), fun h => hunzoned (DbType.plain.inj h)⟩

end Signature

namespace Descriptor

variable {d : Descriptor} {o : LiteralOptions}

lemma Each.withFacets (h : d.Each (Signature.IsTimed o)) (f : Facets) :
    (d.withFacets f).Each (Signature.IsTimed o) := by
  induction h with
  | scalar hs => exact .scalar (hs.congr rfl rfl rfl)
  | enumeration hs => exact .enumeration (hs.congr rfl rfl rfl)
  | array hs _ ih => exact .array (hs.congr rfl rfl rfl) ih
  | range hs hsubtype _ => exact .range hs hsubtype
  | multirange hs hinner _ => exact .multirange hs hinner

/-- The switches of a registry are handed down to whatever is made of its descriptors. -/
lemma closed_isTimed (o : MappingOptions) :
    Closed o fun d => d.Each (Signature.IsTimed o.literals) where
  scalar f name host hf hname _ := .scalar (Signature.isTimed_builtin hf hname host)
  character := .scalar ⟨rfl, nofun, nofun⟩
  enumeration d := .enumeration ⟨rfl, nofun, nofun⟩
  withFacets f h := h.withFacets f
  withHostType host h := .scalar (h.signature.congr rfl rfl rfl)
  withElementNullable nullable h := by
    cases h with
    | array hs helement => exact .array hs helement
    | scalar hs => exact .scalar hs
    | enumeration hs => exact .enumeration hs
    | range hs hsubtype => exact .range hs hsubtype
    | multirange hs hinner => exact .multirange hs hinner
  arrayOf {d a host nullable} h ha := by
    rw [arrayOf] at ha
    by_cases harray : d.isArray = true
    · rw [if_pos harray] at ha
      cases ha
    · rw [if_neg harray] at ha
      cases ha
      exact .array (Signature.isTimed_of_container h.signature.literals rfl) h
  rangeOver name h := .range (Signature.isTimed_of_container h.signature.literals rfl) h
  multirangeOver h hm := by
    cases h with
    | range hs hsubtype =>
      cases hm
      exact .multirange (Signature.isTimed_of_container hs.literals rfl) (.range hs hsubtype)
    | _ => cases hm

end Descriptor

namespace Catalog

/-- Outside legacy mode, a value that has a literal by what a catalog gives out has instants in UTC only,
and those at store types with time zone; and date-times without zone stand at store types without. Documents
alone take them as they come. -/
theorem Offers.dateTimes_of_rendered {c : Catalog} {d d' : Descriptor} {v w : HostValue}
    (hd : c.Offers d) (hc : c.Reachable) (hlegacy : c.registry.options.legacyTimestamps = false)
    (h : d.IsRendered v) (hw : d.Within v d' w) (hdoc : d'.isDocument = false) :
    (∀ t, w = .scalar (.dateTimeUtc t) → t.offset = 0 ∧ d'.IsZoned) ∧
      ∀ t, w = .scalar (.dateTime t) → d'.IsUnzoned := by
  have htimed : d.Each (Signature.IsTimed c.registry.options.literals) :=
    hd.of_closed (Descriptor.closed_isTimed _) hc
  exact hw.dateTimes htimed hlegacy h hdoc

/-- An instant at one side of a range in an array. -/
theorem Offers.dateTimes_of_rendered_of_spans :
    ∃ c : Catalog, c.Reachable ∧ c.registry.options.legacyTimestamps = false ∧ ∃ d, c.Offers d ∧
      d.toplevel (.array [.range (.bounds
          (.inclusive (.scalar (.dateTimeUtc ⟨⟨⟨2024, 1, 31⟩, ⟨0, 0⟩⟩, 0⟩))) .infinite)])
        = .ok "ARRAY['[2024-01-31T00:00:00Z,)']::tstzrange[]" ∧ d.forParts.forParts.IsZoned := by
  have hc : Reachable { registry := .builtin {} } := reachableBy_builtin
  have hfind : (Catalog.find { registry := .builtin {} } (.forStore "tstzrange[]")).1.map
      (fun d => (d.toplevel (.array [.range (.bounds
        (.inclusive (.scalar (.dateTimeUtc ⟨⟨⟨2024, 1, 31⟩, ⟨0, 0⟩⟩, 0⟩))) .infinite)]),
        d.forParts.forParts.isDocument))
      = some (.ok "ARRAY['[2024-01-31T00:00:00Z,)']::tstzrange[]", false) := by
    decide +kernel
  obtain ⟨d, hd, hpair⟩ := Option.map_eq_some_iff.1 hfind
  obtain ⟨htext, hdoc⟩ := Prod.mk.inj hpair
  have hoffers : Offers _ d := .found hd
  have hlegacy : ({ registry := .builtin {} } : Catalog).registry.options.legacyTimestamps = false := by
    rw [Registry.options_builtin]
  -- the instant is a part of the range, which is the part of the array
  have hinside : d.Within (.array [.range (.bounds
      (.inclusive (.scalar (.dateTimeUtc ⟨⟨⟨2024, 1, 31⟩, ⟨0, 0⟩⟩, 0⟩))) .infinite)])
      d.forParts.forParts (.scalar (.dateTimeUtc ⟨⟨⟨2024, 1, 31⟩, ⟨0, 0⟩⟩, 0⟩)) :=
    .part (.part .whole List.mem_cons_self) List.mem_cons_self
  have hrendered : d.IsRendered _ := ⟨_, .inl htext⟩
  have hzoned := (hoffers.dateTimes_of_rendered hc hlegacy hrendered hinside hdoc).1 _ rfl
  exact ⟨_, hc, hlegacy, d, hoffers, htext, hzoned.2⟩

end Catalog

end SqlBridge
