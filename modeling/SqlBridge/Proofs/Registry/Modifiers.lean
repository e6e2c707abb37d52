import SqlBridge.Proofs.Registry.Arrays
import SqlBridge.Proofs.Registry.Defaults
import SqlBridge.Proofs.Registry.Stores
import SqlBridge.Proofs.StoreType.Modifiers

/-!
# Asking for modifiers

Modifiers can be asked for in the text of a store type, beside its name, and beside a host type that
goes to the store type by default or for its size. The answers are the same, unless an enumeration has
the text as its name.
-/

namespace SqlBridge

/-- The request with modifiers. -/
def Request.modified (q : Request) (f : Facets) : Request :=
  { q with size := f.size, precision := f.precision, scale := f.scale, fixedLength := f.fixedLength }

/-- The descriptor of a name of a family for a host type, with modifiers and of the length that the
family has. -/
def Builtin.Family.modified (family : Family) (o : LiteralOptions) (name : String) (s : Scalar)
    (f : Facets) : Descriptor :=
  (family.descriptor o name s).withFacets { f with fixedLength := family.fixedLength }

/-- The modifiers that built-in store types are written with, by the tag of the store type. -/
inductive Facets.Suits : DbTag → Facets → Prop
  | size {tag : DbTag} (n : UInt32) : tag ∈ [.varchar, .char, .bit, .varbit] →
    Suits tag { size := some n }
  | precision {tag : DbTag} (n : UInt32) :
    tag ∈ [.timestamp, .timestampTz, .time, .timeTz, .interval] → Suits tag { precision := some n }
  | decimal (n : UInt32) (scale : Option UInt32) : Suits .numeric { precision := some n, scale }

namespace Facets

variable {f : Facets} {tag : DbTag}

lemma or_empty (f : Facets) : f.or {} = f := by
  simp [Facets.or]

lemma Suits.numbers_ne_nil (h : f.Suits tag) : f.numbers ≠ [] := by
  cases h <;> exact List.cons_ne_nil _ _

lemma Suits.takesModifiers (h : f.Suits tag) : Descriptor.takesModifiers (.plain tag) = true := by
  have hall : ∀ tag ∈ [DbTag.varchar, .char, .bit, .varbit, .timestamp, .timestampTz, .time, .timeTz,
      .interval, .numeric], Descriptor.takesModifiers (.plain tag) = true := by
    decide
  cases h with
  | size n htag => exact hall _ (by grind)
  | precision n htag => exact hall _ (by grind)
  | decimal n scale => rfl

lemma Suits.or_eq (h : f.Suits tag) (fixedLength : Bool) :
    f.or { fixedLength } = { f with fixedLength } := by
  cases h <;> simp [Facets.or]

lemma Suits.fixedLength_eq (h : f.Suits tag) : f.fixedLength = false := by
  cases h <;> rfl

lemma Suits.eq_of_fixedLength (h : f.Suits tag) : { f with fixedLength := false } = f := by
  cases h <;> rfl

lemma Suits.isEmpty_eq_false (h : f.Suits tag) : f.isEmpty = false := by
  cases h <;> rfl

/-- Modifiers that suit a built-in name are read back as they are. -/
lemma Suits.readBack_eq {legacy : Bool} {family : Builtin.Family}
    (hfamily : family ∈ Builtin.families legacy) {name : String} (hname : name ∈ family.names)
    (h : f.Suits family.tag) (fixedLength : Bool) :
    f.readBack name fixedLength = { f with fixedLength } := by
  have hall : ∀ legacy, ∀ family ∈ Builtin.families legacy, ∀ name ∈ family.names,
      StoreType.takesPrecision (stem name) =
        [DbTag.numeric, .timestamp, .timestampTz, .time, .timeTz, .interval].contains family.tag := by
    decide
  have htakes := hall legacy family hfamily name hname
  generalize family.tag = tag at h htakes
  cases h with
  | size n htag =>
    have hno : StoreType.takesPrecision (stem name) = false := by rw [htakes]; grind
    simp [readBack, numbers, hno]
  | precision n htag =>
    have hyes : StoreType.takesPrecision (stem name) = true := by rw [htakes]; grind
    simp [readBack, numbers, hyes]
  | decimal n scale =>
    have hyes : StoreType.takesPrecision (stem name) = true := by rw [htakes]; rfl
    cases scale <;> simp [readBack, numbers, hyes]

end Facets

namespace Registry

variable {admits : String → Prop} {r : Registry} {q : Request} {d e : Descriptor} {name : String}
  {f : Facets} {host : Option HostType} {s : Scalar}

/-! ## Names -/

/-- A name stands for its descriptor of the host type that is asked for. -/
lemma ReachableBy.byName_of_mem (h : r.ReachableBy admits) (hd : d ∈ r.named name) :
    r.byName name (some d.hostType) = .found d := by
  obtain ⟨c, hfind⟩ : ∃ c, (r.named name).find? (fun c => c.hostType == d.hostType) = some c := by
    rw [← Option.isSome_iff_exists, List.find?_isSome]
    exact ⟨d, hd, beq_self_eq_true _⟩
  have hhost : c.hostType = d.hostType := by simpa using List.find?_some hfind
  have hc : c = d := h.eq_of_hostType (List.mem_of_find?_eq_some hfind) hd hhost
  subst hc
  rw [byName, candidates, if_pos (isNamed_of_mem_named hd)]
  cases hnamed : r.named name with
  | nil =>
    rw [hnamed] at hd
    cases hd
  | cons b bs =>
    rw [hnamed] at hfind
    rw [choose, hfind]

lemma isClean_of_mem_builtinNames (h : name ∈ builtinNames) : Facets.IsClean name := by
  have hall : ∀ name ∈ builtinNames, Facets.IsClean name := by
    decide
  exact hall name h

/-- A name with modifiers in it stands for what the name stands for, with the modifiers as they are read
back. -/
lemma find_applyTo (hname : Facets.IsClean name) (hf : f.numbers ≠ [])
    (hfree : r.isNamed (f.applyTo name) = false)
    (hc : asksForCharacter (f.applyTo name) { store := some (f.applyTo name), host } = false)
    (hd : r.byName name host = .found d) :
    r.find { store := some (f.applyTo name), host }
      = some (d.withFacets (f.readBack name d.facets.fixedLength)) := by
  obtain ⟨hbase, hfacets⟩ := StoreType.parse_applyTo hname hf
  have hne : name ≠ f.applyTo name := by
    intro e
    exact hname.1 (e ▸ Facets.mem_applyTo hf name)
  have hdecide : r.decide { store := some (f.applyTo name), host } = .found
      (refineParsed d (StoreType.parse (f.applyTo name)) { store := some (f.applyTo name), host }) := by
    have hlower : r.isNamed (Text.lower (f.applyTo name)) = false := by rw [hname.lower_applyTo, hfree]
    apply decideByStore_of_base hc (byName_of_isNamed_eq_false hfree hlower host)
    · rwa [hbase]
    · rwa [hbase]
  rw [find_of_found (congrArg Decision.found? hdecide), refineParsed, hfacets]
  exact congrArg (fun f => some (d.withFacets f)) (Facets.or_empty _)

/-- A name with modifiers beside it stands for what the name stands for, with these modifiers. -/
lemma find_modified (hf : f.isEmpty = false) (hd : d.acceptsFacets = true)
    (hhost : host ≠ some (.scalar .char)) (hname : r.byName name host = .found d) :
    r.find (Request.modified { store := some name, host } f)
      = some (d.withFacets (f.or { fixedLength := d.facets.fixedLength })) := by
  have hdecide : r.decide (Request.modified { store := some name, host } f) = .found (refine d f) :=
    decideByStore_of_byName (asksForCharacter_eq_false hhost) hname
  rw [find_of_found (congrArg Decision.found? hdecide), refine, hf, hd]
  rfl

/-! ## Host types -/

lemma IsBuiltinContainer.hostType_ne_scalar {subtype : Descriptor} (h : IsBuiltinContainer subtype d) :
    d.hostType ≠ .scalar s := by
  obtain ⟨names, -, rfl | hd⟩ := h
  · nofun
  · cases hd
    nofun

lemma mem_defaultStores_builtin {o : MappingOptions}
    (hd : Entries.get? (.scalar s) (builtin o).hosts = some d) :
    (s, d.storeType) ∈ Builtin.defaultStores o.legacyTimestamps := by
  suffices hall : (builtin o).Linked ∧ ∀ s d, Entries.get? (.scalar s) (builtin o).hosts = some d →
      (s, d.storeType) ∈ Builtin.defaultStores o.legacyTimestamps from hall.2 s d hd
  apply builtin_induction (motive := fun r => r.Linked ∧ ∀ s d,
    Entries.get? (.scalar s) r.hosts = some d →
      (s, d.storeType) ∈ Builtin.defaultStores o.legacyTimestamps)
  · exact ⟨linked_leaves o, nofun⟩
  · intro r entry hentry hr
    refine ⟨linked_addDefault hr.1 entry, ?_⟩
    intro s d hd
    rw [addDefault] at hd
    cases hfind : (r.named entry.2).find? fun d => d.hostType == .scalar entry.1 with
    | none =>
      rw [hfind] at hd
      exact hr.2 s d hd
    | some c =>
      rw [hfind] at hd
      simp only at hd
      rw [Entries.get?_set] at hd
      by_cases hs : HostType.scalar entry.1 = .scalar s
      · rw [if_pos hs] at hd
        cases hd
        cases hs
        rw [hr.1.stores (List.mem_of_find?_eq_some hfind)]
        exact hentry
      · rw [if_neg hs] at hd
        exact hr.2 s d hd
  · intro r r' subtype d hr _ hd hadds
    refine ⟨hadds.linked hr.1, ?_⟩
    intro s e he
    rcases hadds.hosts he with ⟨hhost, -⟩ | he
    · exact absurd hhost.symm hd.hostType_ne_scalar
    · exact hr.2 s e he

/-- The default of a scalar host type stands under the name that it goes to by default. -/
lemma ReachableBy.mem_defaultStores (h : r.ReachableBy admits)
    (hd : Entries.get? (.scalar s) r.hosts = some d) :
    (s, d.storeType) ∈ Builtin.defaultStores r.options.legacyTimestamps := by
  induction h with
  | builtin o =>
    rw [options_builtin]
    exact mem_defaultStores_builtin hd
  | enumeration _ _ henum ih =>
    obtain ⟨rfl, hadds⟩ := registerEnum_ok henum
    rw [hadds.options]
    rcases hadds.hosts hd with ⟨hhost, -⟩ | hd
    · cases hhost
    · exact ih hd
  | range _ _ hrange ih =>
    obtain ⟨_, -, -, rfl⟩ := registerRange_ok hrange
    exact ih hd

/-- The descriptor that a host type has under the name that it goes to by default is its default. -/
lemma ReachableBy.get?_hosts (h : r.ReachableBy admits)
    (hdefault : (s, name) ∈ Builtin.defaultStores r.options.legacyTimestamps) (hd : d ∈ r.named name)
    (hhost : d.hostType = .scalar s) : Entries.get? (.scalar s) r.hosts = some d := by
  have hchar : s ≠ .char := by
    rintro rfl
    exact (h.host_of_isRegistered (h.linked.isRegistered hd)).2 hhost
  obtain ⟨e, he⟩ := Option.isSome_iff_exists.1 (h.isHosted hchar)
  obtain ⟨hehost, hmem⟩ := h.linked.hosts he
  have hkeys : ∀ legacy, ((Builtin.defaultStores legacy).map (·.1)).Nodup := by
    decide
  have hstore : e.storeType = name := by
    have hget := Entries.get?_of_mem (hkeys _) (h.mem_defaultStores he)
    rw [Entries.get?_of_mem (hkeys _) hdefault] at hget
    exact (Option.some.inj hget).symm
  rw [hstore] at hmem
  rw [he, h.eq_of_hostType hmem hd (hehost.trans hhost.symm)]

/-- Values of the host type go to the name: by default, or, strings and bit strings, for a size. -/
def GoesTo (legacy : Bool) (s : Scalar) (fixedLength : Bool) (name : String) : Prop :=
  ((s, name) ∈ Builtin.defaultStores legacy ∧ fixedLength = false) ∨
    ∃ unbounded, sizedStores? (.scalar s) fixedLength = some (name, unbounded)

/-- Where values of the host type are stored by size, the name of a modified store type that they go to
is the one for a size. It is for this host type only, and of a fixed length or not as asked for. -/
lemma GoesTo.sized {legacy fixedLength : Bool} (h : GoesTo legacy s fixedLength name)
    {family : Builtin.Family} (hfamily : family ∈ Builtin.families legacy) (hname : name ∈ family.names)
    (hf : f.Suits family.tag) {bounded unbounded : String}
    (hsized : sizedStores? (.scalar s) fixedLength = some (bounded, unbounded)) :
    bounded = name ∧ family.hosts = [s] ∧ family.fixedLength = fixedLength ∧
      ∃ n, f = { size := some n } := by
  have hs : s ∈ [Scalar.string, .bitString] := by
    cases s with
    | string => decide
    | bitString => decide
    | _ => cases hsized
  have hbounded : bounded = name := by
    rcases h with ⟨hdefault, rfl⟩ | ⟨_, hsized'⟩
    · have hall : ∀ legacy, ∀ entry ∈ Builtin.defaultStores legacy,
          ∀ p ∈ sizedStores? (.scalar entry.1) false, p.1 = entry.2 ∨ entry.2 = "text" := by
        decide
      have htext : ∀ legacy, ∀ family ∈ Builtin.families legacy, "text" ∈ family.names →
          family.tag = .text := by
        decide
      rcases hall _ _ hdefault _ hsized with e | e
      · exact e
      · cases e
        rw [htext _ _ hfamily hname] at hf
        cases hf <;> contradiction
    · rw [hsized] at hsized'
      cases hsized'
      rfl
  subst hbounded
  have hall : ∀ legacy, ∀ family ∈ Builtin.families legacy, ∀ s ∈ [Scalar.string, .bitString],
      ∀ fixedLength, ∀ name ∈ family.names,
        (sizedStores? (.scalar s) fixedLength).map (·.1) = some name →
          (family.hosts, family.fixedLength) = ([s], fixedLength) ∧
            [DbTag.varchar, .char, .bit, .varbit].contains family.tag := by
    decide
  obtain ⟨hfields, htag⟩ := hall _ _ hfamily s hs _ _ hname (congrArg (·.map (·.1)) hsized)
  obtain ⟨hhosts, hfixed⟩ := Prod.mk.inj hfields
  refine ⟨rfl, hhosts, hfixed, ?_⟩
  generalize family.tag = tag at hf htag
  cases hf with
  | size n _ => exact ⟨n, rfl⟩
  | precision n htag' => grind
  | decimal n scale => grind

/-- A host type with modifiers beside it stands for the name that its values go to, with these
modifiers. -/
lemma find_host_modified (h : r.ReachableBy admits) {family : Builtin.Family}
    (hfamily : family ∈ Builtin.families r.options.legacyTimestamps) (hname : name ∈ family.names)
    (hf : f.Suits family.tag) (hs : s ∈ family.hosts) {fixedLength : Bool}
    (hgoes : GoesTo r.options.legacyTimestamps s fixedLength name)
    (hsize : ∀ size, f.size = some size → size ≤ maxBoundedSize) :
    r.find (Request.modified { host := some (.scalar s) } { f with fixedLength })
      = some (family.modified r.literals name s f) := by
  have hnamed := h.named_of_family hfamily hname
  have hd : family.descriptor r.literals name s ∈ r.named name := by
    rw [hnamed]
    exact List.mem_map_of_mem hs
  have hchar : HostType.scalar s ≠ .scalar .char :=
    (h.host_of_isRegistered (h.linked.isRegistered hd)).2
  cases hsized : sizedStores? (.scalar s) fixedLength with
  | none =>
    rcases hgoes with ⟨hdefault, rfl⟩ | ⟨_, hsized'⟩
    · have hget := h.get?_hosts hdefault hd rfl
      have haccepts : (family.descriptor r.literals name s).acceptsFacets = true := hf.takesModifiers
      rw [hf.eq_of_fixedLength]
      have hdecide : r.decide (Request.modified { host := some (.scalar s) } f) =
          .found (refine (family.descriptor r.literals name s) f) := by
        simp only [decide, Request.modified, decideByHost, if_neg hchar, hget, hf.fixedLength_eq, hsized]
        exact congrArg (fun f => Decision.found (refine _ f)) hf.eq_of_fixedLength
      rw [find_of_found (congrArg Decision.found? hdecide), refine, hf.isEmpty_eq_false, haccepts]
      exact congrArg (fun f => some (Descriptor.withFacets f _)) (hf.or_eq _)
    · rw [hsized] at hsized'
      cases hsized'
  | some p =>
    obtain ⟨bounded, unbounded⟩ := p
    obtain ⟨rfl, hhosts, rfl, n, rfl⟩ := hgoes.sized hfamily hname hf hsized
    obtain ⟨e, hget⟩ := Option.isSome_iff_exists.1 (h.isHosted fun e => hchar (congrArg _ e))
    have hfirst : r.first? bounded = some (family.descriptor r.literals bounded s) := by
      rw [first?, hnamed, hhosts]
      rfl
    have hlarge : ¬ n > maxBoundedSize := UInt32.not_lt.2 (hsize n rfl)
    have hdecide : r.decide (Request.modified { host := some (.scalar s) }
        { size := some n, fixedLength := family.fixedLength }) =
          .found (family.modified r.literals bounded s { size := some n }) := by
      simp only [decide, Request.modified, decideByHost, if_neg hchar, hget, hsized, sized, sizeFor,
        Option.orElse_eq_orElse, Option.orElse_some, if_neg hlarge, hfirst, Option.map_some]
      rfl
    exact find_of_found (congrArg Decision.found? hdecide)

/-! ## The ways of asking -/

/-- A name with modifiers in it or beside it stands for the name's descriptor with these modifiers. -/
theorem find_modifiers (h : r.ReachableBy admits) {family : Builtin.Family}
    (hfamily : family ∈ Builtin.families r.options.legacyTimestamps) (hname : name ∈ family.names)
    (hf : f.Suits family.tag) (hfree : r.isNamed (f.applyTo name) = false)
    (hhost : ∀ h, host = some h → ∃ d ∈ r.named name, d.hostType = h) :
    ∃ s ∈ family.hosts,
      r.find { store := some (f.applyTo name), host } = some (family.modified r.literals name s f) ∧
      r.find (Request.modified { store := some name, host } f) =
        some (family.modified r.literals name s f) := by
  have hnamed := h.named_of_family hfamily hname
  obtain ⟨s, hs, hbyName⟩ : ∃ s ∈ family.hosts,
      r.byName name host = .found (family.descriptor r.literals name s) := by
    cases host with
    | none =>
      obtain ⟨s, hosts, hhosts⟩ := List.exists_cons_of_ne_nil (hosts_ne_nil _ family hfamily)
      refine ⟨s, hhosts ▸ List.mem_cons_self, byName_of_first? ?_⟩
      rw [first?, hnamed, hhosts]
      rfl
    | some host =>
      obtain ⟨d, hd, rfl⟩ := hhost host rfl
      have hmem := hd
      rw [hnamed] at hmem
      obtain ⟨s, hs, rfl⟩ := List.mem_map.1 hmem
      exact ⟨s, hs, h.byName_of_mem hd⟩
  have hchar : host ≠ some (.scalar .char) := by
    rintro rfl
    obtain ⟨d, hd, hdhost⟩ := hhost _ rfl
    exact (h.host_of_isRegistered (h.linked.isRegistered hd)).2 hdhost
  have hclean : Facets.IsClean name := by
    apply isClean_of_mem_builtinNames
    apply List.mem_append_left
    exact (mem_families_names _ name).1 (List.mem_flatMap.2 ⟨_, hfamily, hname⟩)
  refine ⟨s, hs, ?_, ?_⟩
  · rw [find_applyTo hclean hf.numbers_ne_nil hfree (asksForCharacter_eq_false hchar) hbyName,
      hf.readBack_eq hfamily hname]
    rfl
  · have haccepts : (family.descriptor r.literals name s).acceptsFacets = true := hf.takesModifiers
    rw [find_modified hf.isEmpty_eq_false haccepts hchar hbyName, hf.or_eq]
    rfl

end Registry

namespace Catalog

/-- A built-in name is asked for with modifiers that suit it, for one of its host types or for none.
Modifiers in the name and modifiers beside it get the same answer, unless something is registered under
the text. It is also the answer for its host type alone with these modifiers, if values of that host
type go to the name and no size is too large to be stored. -/
theorem modifiers_agree {c : Catalog} (hc : c.Reachable) {family : Builtin.Family}
    (hfamily : family ∈ Builtin.families c.registry.options.legacyTimestamps) {name : String}
    (hname : name ∈ family.names) {f : Facets} (hf : f.Suits family.tag)
    (hfree : c.registry.isNamed (f.applyTo name) = false) {host : Option HostType}
    (hhost : ∀ h, host = some h → ∃ d ∈ c.registry.named name, d.hostType = h) :
    ∃ m, (c.find { store := some (f.applyTo name), host }).1 = some m ∧
      (c.find (Request.modified { store := some name, host } f)).1 = some m ∧
      ∀ s fixedLength, m.hostType = .scalar s →
        Registry.GoesTo c.registry.options.legacyTimestamps s fixedLength name →
        (∀ size, f.size = some size → size ≤ Registry.maxBoundedSize) →
        (c.find (Request.modified { host := some (.scalar s) } { f with fixedLength })).1 = some m := by
  have hr := hc.spec.2
  simp only [hc.find_eq]
  obtain ⟨s, hs, htext, hbeside⟩ := Registry.find_modifiers hr hfamily hname hf hfree hhost
  refine ⟨_, htext, hbeside, ?_⟩
  intro s' fixedLength hhost' hgoes hsize
  cases hhost'
  exact Registry.find_host_modified hr hfamily hname hf hs hgoes hsize

/-- A precision for points in time, which stands before the words about their time zone. -/
theorem modifiers_agree_of_timestamp :
    ∃ c : Catalog, c.Reachable ∧ ∃ m,
      (c.find { store := some "timestamp(3) with time zone" }).1 = some m ∧
      (c.find { store := some "timestamp with time zone", precision := some 3 }).1 = some m ∧
      (c.find { host := some (.scalar .dateTimeUtc), precision := some 3 }).1 = some m := by
  let c : Catalog := { registry := .builtin {} }
  let family : Builtin.Family :=
    ⟨["timestamp with time zone", "timestamptz"], [.dateTimeUtc], .timestampTz, false⟩
  let f : Facets := { precision := some 3 }
  have hc : c.Reachable := reachableBy_builtin
  have hoptions : c.registry.options = {} := Registry.options_builtin {}
  have hfamily : family ∈ Builtin.families c.registry.options.legacyTimestamps := by
    rw [hoptions]
    decide
  -- one run of the kernel for both, as most of it goes into the registry
  have hruns : c.registry.isNamed (f.applyTo "timestamp with time zone") = false ∧
      (c.find { store := some "timestamp(3) with time zone" }).1.map Descriptor.hostType =
        some (.scalar .dateTimeUtc) := by
    decide +kernel
  obtain ⟨hfree, hhost⟩ := hruns
  have hgoes : Registry.GoesTo c.registry.options.legacyTimestamps .dateTimeUtc false
      "timestamp with time zone" := by
    rw [hoptions]
    exact .inl (by decide)
  have hname : f.applyTo "timestamp with time zone" = "timestamp(3) with time zone" := by
    decide
  obtain ⟨m, htext, hbeside, halone⟩ := @modifiers_agree c hc family hfamily "timestamp with time zone"
    (by decide) f (.precision 3 (by decide)) hfree none nofun
  rw [hname] at htext
  rw [htext] at hhost
  exact ⟨c, hc, m, htext, hbeside, halone _ false (Option.some.inj hhost) hgoes nofun⟩

/-- What does not agree: a text that an enumeration has as its name, and, in legacy mode, a name asked
for without a host type, which stands for plain date-times, and points in time, which go to the name as
well. -/
theorem modifiers_disagree :
    (∃ c : Catalog, c.Reachable ∧
      (∃ family ∈ Builtin.families c.registry.options.legacyTimestamps, "numeric" ∈ family.names ∧
        Facets.Suits family.tag { precision := some 10, scale := some 2 }) ∧
      (c.find { store := some "numeric(10,2)" }).1 ≠
        (c.find { store := some "numeric", precision := some 10, scale := some 2 }).1) ∧
    ∃ c : Catalog, c.Reachable ∧
      (∃ family ∈ Builtin.families c.registry.options.legacyTimestamps,
        "timestamp without time zone" ∈ family.names ∧
        Facets.Suits family.tag { precision := some 3 }) ∧
      Registry.GoesTo c.registry.options.legacyTimestamps .dateTimeUtc false
        "timestamp without time zone" ∧
      (c.find { store := some "timestamp(3) without time zone" }).1 ≠
        (c.find { host := some (.scalar .dateTimeUtc), precision := some 3 }).1 := by
  constructor
  · let d : EnumDefinition := { name := "numeric(10,2)", labels := [("A", "a")] }
    let c : Catalog := (Catalog.registerEnum { registry := .builtin {} } d).2
    have hc : c.Reachable := .enumeration reachableBy_builtin trivial
    have hfamily : ∀ legacy,
        (⟨["numeric", "decimal"], [.decimal], .numeric, false⟩ : Builtin.Family) ∈
          Builtin.families legacy := by
      decide
    refine ⟨c, hc, ⟨_, hfamily _, ?_, ?_⟩, ?_⟩
    · decide
    · exact .decimal 10 (some 2)
    · decide +kernel
  · let c : Catalog := { registry := .builtin { legacyTimestamps := true } }
    have hc : c.Reachable := .start (o := { legacyTimestamps := true }) nofun nofun rfl
    have hoptions : c.registry.options = { legacyTimestamps := true } :=
      Registry.options_builtin { legacyTimestamps := true }
    refine ⟨c, hc, ⟨⟨["timestamp without time zone", "timestamp"], [.dateTime, .dateTimeUtc],
      .timestamp, false⟩, ?_, ?_, ?_⟩, ?_, ?_⟩
    · rw [hoptions]
      decide
    · decide
    · exact .precision 3 (by decide)
    · rw [hoptions]
      exact .inl (by decide)
    · decide +kernel

end Catalog

end SqlBridge
