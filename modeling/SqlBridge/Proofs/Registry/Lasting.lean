import SqlBridge.Proofs.Registry.Defaults
import SqlBridge.Proofs.Registry.Session

/-!
# Registered enumerations last

From its registration on, an enumeration is the answer for its name and for its host type. Names and host
types that are taken are refused to later enumerations, and ranges of the user's own are only asked after
both tables.
-/

namespace SqlBridge

namespace Registry

variable {r r' : Registry} {d e : Descriptor}

/-- The descriptor comes first under its store type and is the default of its host type. -/
structure Prefers (r : Registry) (d : Descriptor) : Prop where
  store : r.first? d.storeType = some d
  host : Entries.get? d.hostType r.hosts = some d

lemma prefers_registerEnum {en : EnumDefinition} (h : r.registerEnum en = .ok (e, r')) :
    r'.Prefers e := by
  obtain ⟨-, hnamed, -, rfl⟩ := registerEnum_eq_ok h
  constructor
  · have hnone : r.named e.storeType = [] := named_of_isNamed_eq_false hnamed
    rw [first?, (adds_addEnum hnamed).named, if_pos rfl, hnone]
    rfl
  · show Entries.get? e.hostType (Entries.set e.hostType e r.hosts) = some e
    rw [Entries.get?_set, if_pos rfl]

/-- A later enumeration is for another host type, and comes last under its name. -/
lemma Prefers.registerEnum (hd : r.Prefers d) {en : EnumDefinition}
    (h : r.registerEnum en = .ok (e, r')) : r'.Prefers d := by
  obtain ⟨-, hnamed, hhosted, rfl⟩ := registerEnum_eq_ok h
  constructor
  · exact (adds_addEnum hnamed).first? hd.store
  · have hne : e.hostType ≠ d.hostType := by
      intro hhost
      rw [hhost, isHosted, hd.host] at hhosted
      cases hhosted
    show Entries.get? d.hostType (Entries.set e.hostType e r.hosts) = some d
    rw [Entries.get?_set, if_neg hne]
    exact hd.host

lemma Prefers.registerRange (hd : r.Prefers d) {range : RangeDefinition}
    (h : r.registerRange range = .ok (e, r')) : r'.Prefers d := by
  obtain ⟨s, -, -, rfl⟩ := registerRange_ok h
  exact ⟨hd.store, hd.host⟩

/-- What a registry prefers it prefers throughout a session. -/
theorem Prefers.session (hd : r.Prefers d) (steps : List Step) :
    (session step steps r).2.Prefers d := by
  apply session_induction (motive := fun r => r.Prefers d)
  · exact fun r r' en e hd h => hd.registerEnum h
  · exact fun r r' range e hd h => hd.registerRange h
  · exact hd

lemma Prefers.findStore (hd : r.Prefers d) : r.findStore d.storeType = some d :=
  findStore_of_first? hd.store

lemma Prefers.findHost (hd : r.Prefers d) (hchar : d.hostType ≠ .scalar .char) :
    r.findHost d.hostType = some d :=
  findHost_of_get? hchar hd.host

end Registry

namespace Catalog

/-- The descriptor that an enumeration was registered with is the answer for its name and for its host
type, whatever the name, after any further registrations, refused ones and requests. -/
theorem answers_of_registerEnum {c c' : Catalog} {d : EnumDefinition} {m : Descriptor}
    (h : c.registerEnum d = (.ok m, c')) (steps : List Step) :
    ((session step steps c').2.find (.forStore d.qualifiedName)).1 = some m ∧
      ((session step steps c').2.find (.forHost (.enumeration d.hostTypeName))).1 = some m := by
  rw [registerEnum] at h
  cases hd : c.registry.registerEnum d with
  | error fault =>
    rw [hd] at h
    cases h
  | ok p =>
    obtain ⟨e, r⟩ := p
    rw [hd] at h
    cases h
    obtain ⟨-, hregistry, hsound⟩ := agrees_session (sound_of_registry r) steps
    have hprefers := (Registry.prefers_registerEnum hd).session steps
    obtain ⟨rfl, -⟩ := Registry.registerEnum_ok hd
    rw [← hregistry] at hprefers
    constructor
    · rw [(find_spec hsound _).1]
      exact hprefers.findStore
    · rw [(find_spec hsound _).1]
      exact hprefers.findHost nofun

/-- A name like that of an array with modifiers keeps its enumeration, whoever asks for the name in other
letters, for the host type or for a range of the name. -/
theorem answers_of_registerEnum_of_rivals :
    let mood : EnumDefinition := { name := "Mood (3)[]", labels := [("Sad", "sad")] }
    let rivals : List Step :=
      [.find (.forStore "mood (3)[]"),
        .enumeration { name := "mood (3)[]", labels := [("Sad", "SAD")] },
        .enumeration { name := "Mood (3)[]", schema := some "app", labels := [("Sad", "-")] },
        .userRange { name := "Mood (3)[]", subtype := .scalar .string }]
    ∃ c c' : Catalog, c.Reachable ∧ ∃ m, c.registerEnum mood = (.ok m, c') ∧
      m.storeType = "Mood (3)[]" ∧
      ((session step rivals c').2.find (.forStore "Mood (3)[]")).1 = some m ∧
      ((session step rivals c').2.find (.forHost (.enumeration "Mood (3)[]"))).1 = some m := by
  intro mood rivals
  let c : Catalog := { registry := .builtin {} }
  have hrun : (c.registerEnum mood).1.toOption.map Descriptor.storeType = some "Mood (3)[]" := by
    decide +kernel
  obtain ⟨m, hm, hstore⟩ := Option.map_eq_some_iff.1 hrun
  cases hd : c.registerEnum mood with
  | mk result c' =>
    rw [hd] at hm
    obtain rfl := ok_of_toOption hm
    obtain ⟨hname, hhost⟩ := answers_of_registerEnum hd rivals
    exact ⟨c, c', reachableBy_builtin, m, hd, hstore, hname, hhost⟩

end Catalog

end SqlBridge
