import SqlBridge.Proofs.Registry.Listing
import SqlBridge.Proofs.Registry.Modifiers
import SqlBridge.Proofs.StoreType.LetterCase

/-!
# Requests in small letters

Where the user has no ranges and the names of the user's enumerations have no capitals, the letter case of
a requested store type makes no difference: names are looked up in small letters as well, modifiers and
brackets are split off at the same places, and so the elements of arrays are asked for in small letters in
turn.
-/

namespace SqlBridge

/-- The request with its store type in small letters. -/
def Request.lower (q : Request) : Request :=
  { q with store := q.store.map Text.lower }

namespace Request

lemma elementName?_lower (store : String) :
    elementName? (Text.lower store) = (elementName? store).map Text.lower := by
  have hlist : (Text.lower store).toList.reverse = store.toList.reverse.map Char.toLower := by
    rw [Text.toList_lower, List.map_reverse]
  rw [elementName?, elementName?, hlist]
  generalize store.toList.reverse = cs
  split
  · rename_i rest hrest
    obtain ⟨rest', rfl⟩ := StoreType.brackets_of_map_toLower hrest
    obtain rfl : rest'.map Char.toLower = rest := (List.cons.inj (List.cons.inj hrest).2).2
    simp only [Option.map_some, Text.lower, String.toList_ofList, List.map_reverse]
  · rename_i hother
    split
    · exact absurd rfl (hother _)
    · rfl

/-- The element of an array is asked for in small letters when the array is. -/
lemma element?_lower (q : Request) : q.lower.element? = q.element?.map lower := by
  obtain ⟨store, host, unicode, size, precision, scale, fixedLength, isKey⟩ := q
  cases store with
  | none =>
    cases host with
    | none => rfl
    | some host =>
      simp only [element?, lower, Option.map_none, Option.map_map]
      rfl
  | some store =>
    cases host with
    | none =>
      simp only [element?, lower, Option.map_some, elementName?_lower, Option.map_map]
      rfl
    | some host =>
      simp only [element?, lower, Option.map_some, elementName?_lower]
      cases host.element? with
      | none => rfl
      | some element => cases elementName? store <;> rfl

end Request

namespace Registry

/-- Every registered name is in small letters. -/
def IsSmall (r : Registry) : Prop :=
  ∀ name, r.isNamed name = true → Text.lower name = name

variable {admits : String → Prop} {r : Registry} {q : Request} {name store : String}

/-! ## Names -/

/-- A registered name is built-in, or it is that of an enumeration. -/
lemma ReachableBy.builtin_or_enumeration (h : r.ReachableBy admits) (hname : r.isNamed name = true) :
    name ∈ builtinNames ∨
      ∃ s labels, r.IsRegistered (.enumeration s labels) ∧ s.storeType = name := by
  induction h with
  | builtin o => exact .inl ((names_builtin o).2 name (mem_names_iff.2 (.inl hname)))
  | enumeration _ _ hd ih =>
    obtain ⟨rfl, hadds⟩ := registerEnum_ok hd
    rw [isNamed_iff, hadds.keys_eq, List.mem_append, List.mem_singleton, ← isNamed_iff] at hname
    rcases hname with hname | rfl
    · refine (ih hname).imp_right fun ⟨s, labels, hs, hstore⟩ => ?_
      exact ⟨s, labels, hadds.isRegistered_iff.2 (.inr hs), hstore⟩
    · exact .inr ⟨_, _, hadds.isRegistered_iff.2 (.inl rfl), rfl⟩
  | range _ _ hd ih =>
    obtain ⟨s, -, rfl, rfl⟩ := registerRange_ok hd
    refine (ih hname).imp_right fun ⟨s, labels, hs, hstore⟩ => ?_
    exact ⟨s, labels, isRegistered_addUserRange.2 (.inr hs), hstore⟩

lemma ReachableBy.isSmall (h : r.ReachableBy admits)
    (henums : ∀ s labels, r.IsRegistered (.enumeration s labels) →
      ∀ c ∈ s.storeType.toList, c.isUpper = false) : r.IsSmall := by
  intro name hname
  rcases h.builtin_or_enumeration hname with hmem | ⟨s, labels, hs, rfl⟩
  · exact Text.lower_eq (isClean_of_mem_builtinNames hmem).2.2
  · apply Text.lower_eq
    intro c hc
    exact beq_iff_eq.2 (Text.toLower_of_isUpper_eq_false (henums s labels hs c hc))

lemma IsSmall.candidates_lower (hr : r.IsSmall) (name : String) :
    r.candidates (Text.lower name) = r.candidates name := by
  by_cases hname : r.isNamed name = true
  · rw [hr name hname]
  · rw [candidates, candidates, if_neg hname, Text.lower_lower, ite_self]

lemma IsSmall.byName_lower (hr : r.IsSmall) (name : String) (host : Option HostType) :
    r.byName (Text.lower name) host = r.byName name host := by
  rw [byName, byName, hr.candidates_lower]

/-! ## Answers -/

lemma asksForCharacter_lower (store : String) (q : Request) :
    asksForCharacter (Text.lower store) q.lower = asksForCharacter store q := by
  simp only [asksForCharacter, StoreType.baseName_parse_lower, StoreType.size_parse_lower,
    Text.lower_lower, Request.lower]

/-- What a name decides it decides in small letters. -/
lemma IsSmall.decideByStore_lower (hr : r.IsSmall) (store : String) (q : Request) :
    r.decideByStore (Text.lower store) q.lower = r.decideByStore store q := by
  have hbase := StoreType.baseName_parse_lower_eq_iff store
  rw [StoreType.baseName_parse_lower] at hbase
  have hhost : q.lower.host = q.host := rfl
  have hfacets : q.lower.facets = q.facets := rfl
  simp only [decideByStore, refineParsed, asksForCharacter_lower, StoreType.baseName_parse_lower,
    StoreType.facets_parse_lower, hbase, hr.byName_lower, hhost, hfacets]

lemma IsSmall.decide_lower (hr : r.IsSmall) (q : Request) : r.decide q.lower = r.decide q := by
  cases hstore : q.store with
  | none =>
    have hlower : q.lower = q := by rw [Request.lower, hstore, Option.map_none, ← hstore]
    rw [hlower]
  | some store =>
    have hlower : q.lower.store = some (Text.lower store) := by
      rw [Request.lower, hstore, Option.map_some]
    rw [decide, decide, hlower, hstore]
    exact hr.decideByStore_lower store q

/-- Without ranges of the user's own, a request is answered as it is in small letters. -/
theorem IsSmall.find_small (hr : r.IsSmall) (hranges : r.userRanges = []) (q : Request) :
    r.find q.lower = r.find q := by
  have hsettle : ∀ q element, r.settle q element = element.bind (arrayOver q.host) := by
    intro q element
    rw [settle, userRange?, hranges, List.find?_nil, Option.orElse_eq_orElse, Option.orElse_eq_or,
      Option.or_none]
  generalize hm : q.measure = m
  induction m using Nat.strongRecOn generalizing q with
  | ind m ih =>
    by_cases hopen : r.decide q = .unsettled
    · have hopen' : r.decide q.lower = .unsettled := (hr.decide_lower q).trans hopen
      rw [find_of_unsettled hopen, find_of_unsettled hopen', hsettle, hsettle, Request.element?_lower]
      cases helement : q.element? with
      | none => rfl
      | some e =>
        have hlt : e.measure < m := hm ▸ Request.measure_lt_of_element? helement
        rw [Option.map_some, Option.bind_some, Option.bind_some, ih _ hlt e rfl]
        rfl
    · have hsettled : r.decide q.lower ≠ .unsettled := hr.decide_lower q ▸ hopen
      rw [find_eq_found? hopen, find_eq_found? hsettled, hr.decide_lower]

end Registry

namespace Catalog

/-- Without ranges of the user's own and capitals in the names of enumerations, a request is answered the
same whatever the letter case of its store type is: with any host type and modifiers beside it, and with
modifiers, phrases about the zone and brackets in it. -/
theorem find_lower {c : Catalog} (hc : c.Reachable) (hranges : c.registry.userRanges = [])
    (henums : ∀ s labels, c.registry.IsRegistered (.enumeration s labels) →
      ∀ ch ∈ s.storeType.toList, ch.isUpper = false) (q : Request) :
    (c.find q.lower).1 = (c.find q).1 := by
  rw [hc.find_eq, hc.find_eq]
  exact (hc.spec.2.isSmall henums).find_small hranges q

/-- An array with a precision before a phrase about the zone, beside an enumeration of the user's own. -/
theorem find_lower_of_zoned :
    ∃ c : Catalog, c.Reachable ∧ c.registry.userRanges = [] ∧
      (∃ s labels, c.registry.IsRegistered (.enumeration s labels) ∧ s.storeType = "app.mood") ∧
      ∃ m, m.storeType = "timestamp(3) with time zone[]" ∧
        (c.find (.forStore "TimeStamp (03) With Time Zone[]")).1 = some m ∧
        (c.find (.forStore "timestamp (03) with time zone[]")).1 = some m := by
  let c : Catalog := (Catalog.registerEnum { registry := .builtin {} }
    { name := "mood", schema := some "app", labels := [("Sad", "Sad")] }).2
  let mood : Signature := .plain "app.mood" (.enumeration "mood") (.plain .enum)
  let q : Request := .forStore "TimeStamp (03) With Time Zone[]"
  have hc : c.Reachable := .enumeration reachableBy_builtin trivial
  have hruns : (∀ name ∈ c.registry.names, name.toList.all (fun ch => !ch.isUpper) = true) ∧
      c.registry.userRanges = [] ∧
      c.registry.named "app.mood" = [.enumeration mood [("Sad", "Sad")]] ∧
      (c.find q).1.map Descriptor.storeType = some "timestamp(3) with time zone[]" := by
    decide +kernel
  obtain ⟨hnames, hranges, hmood, hfind⟩ := hruns
  obtain ⟨m, hm, hstore⟩ := Option.map_eq_some_iff.1 hfind
  have henums : ∀ s labels, c.registry.IsRegistered (.enumeration s labels) →
      ∀ ch ∈ s.storeType.toList, ch.isUpper = false := by
    intro s labels hs ch hch
    have hsmall := List.all_eq_true.1 (hnames _ hs.mem_names) ch hch
    rwa [Bool.not_eq_true'] at hsmall
  have hlower : q.lower = .forStore "timestamp (03) with time zone[]" := by decide
  have hagain := find_lower hc hranges henums q
  rw [hlower, hm] at hagain
  have hregistered : c.registry.IsRegistered (.enumeration mood [("Sad", "Sad")]) := by
    left
    rw [show (Descriptor.enumeration mood [("Sad", "Sad")]).storeType = "app.mood" from rfl, hmood]
    exact List.mem_cons_self
  exact ⟨c, hc, hranges, ⟨mood, _, hregistered, rfl⟩, m, hstore, hm, hagain⟩

end Catalog

end SqlBridge
