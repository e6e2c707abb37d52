import SqlBridge.Proofs.Registry.DateTimes
import SqlBridge.Proofs.Registry.Session

/-!
# Switches

The options that a catalog is made with stay its options, and the switches that literals depend on reach
every descriptor that it gives out, down to the innermost one.
-/

namespace SqlBridge

namespace Registry

lemma options_registerEnum {r r' : Registry} {d : EnumDefinition} {e : Descriptor}
    (h : r.registerEnum d = .ok (e, r')) : r'.options = r.options :=
  (registerEnum_ok h).2.options

lemma options_registerRange {r r' : Registry} {d : RangeDefinition} {e : Descriptor}
    (h : r.registerRange d = .ok (e, r')) : r'.options = r.options := by
  obtain ⟨s, -, -, rfl⟩ := registerRange_ok h
  rfl

/-- No step changes the options. -/
lemma options_session (steps : List Step) (r : Registry) :
    (session step steps r).2.options = r.options := by
  apply session_induction (motive := fun r' => r'.options = r.options)
  · exact fun r r' d e hr h => (options_registerEnum h).trans hr
  · exact fun r r' d e hr h => (options_registerRange h).trans hr
  · rfl

lemma options_of_ofOptions {o : MappingOptions} {r : Registry} (h : ofOptions o = .ok r) :
    r.options = o := by
  apply ofOptions_induction (motive := fun r => r.options = o) ?_ ?_ ?_ h
  · exact options_builtin o
  · exact fun r r' d e _ hr h => (options_registerEnum h).trans hr
  · exact fun r r' d e _ hr h => (options_registerRange h).trans hr

end Registry

namespace Catalog

/-- A catalog keeps the options that it was made with through every session. -/
theorem options_of_session {o : MappingOptions} {c : Catalog} (h : ofOptions o = .ok c)
    (steps : List Step) : (session step steps c).2.registry.options = o := by
  rw [ofOptions_eq] at h
  obtain ⟨r, hr, rfl⟩ := ok_of_map h
  rw [(agrees_session (sound_of_registry r) steps).registry, Registry.options_session,
    Registry.options_of_ofOptions hr]

/-- The descriptors that a catalog gives out have the switches of its options for their literals, and so
have all descriptors inside them. -/
theorem Offers.each_literals {c : Catalog} {d : Descriptor} (hd : c.Offers d) (hc : c.Reachable) :
    d.Each fun s => s.literals = c.registry.options.literals :=
  (hd.of_closed (Descriptor.closed_isTimed _) hc).mono fun _ hs => hs.literals

/-- Arrays of multiranges, with both switches as they are not by default. -/
theorem Offers.each_literals_of_multiranges :
    let o : MappingOptions := { legacyTimestamps := true, writesExtremes := true }
    ∃ c : Catalog, ofOptions o = .ok c ∧ c.Reachable ∧ ∃ d, c.Offers d ∧
      d.storeType = "tstzmultirange[]" ∧
      d.Each fun s => s.literals = { legacyTimestamps := true, infinityWords := false } := by
  intro o
  let c : Catalog := { registry := .builtin o }
  have hc : c.Reachable := .start (o := o) nofun nofun rfl
  have hfind : (c.find (.forStore "tstzmultirange[]")).1.map Descriptor.storeType =
      some "tstzmultirange[]" := by
    decide +kernel
  obtain ⟨d, hd, hstore⟩ := Option.map_eq_some_iff.1 hfind
  have hoptions : c.registry.options = o := Registry.options_builtin o
  have heach := Offers.each_literals (.found hd) hc
  rw [hoptions] at heach
  exact ⟨c, rfl, hc, d, .found hd, hstore, heach⟩

end Catalog

end SqlBridge
