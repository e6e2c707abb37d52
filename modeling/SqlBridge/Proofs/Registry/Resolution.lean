import Mathlib.Data.List.Basic
import Mathlib.Tactic.Lemma
import SqlBridge.Registry.Resolve

/-!
# What resolution answers

The ways in which a request is answered: from the names and defaults (`IsDecided`), by an array over the
answer for the element, or by a range of the user's own. `find_induction` proves a property of all
answers from these.
-/

namespace SqlBridge

/-- The descriptor that was found. -/
def Decision.found? : Decision → Option Descriptor
  | found d => some d
  | refused => none
  | unsettled => none

namespace Registry

variable {r : Registry} {q : Request} {d e : Descriptor}

/-- A descriptor under a name, for the requested host type: it stores that host type, or it is the first one,
stores documents and is adapted. -/
inductive IsAdapted (r : Registry) (host : Option HostType) : Descriptor → Prop
  | stored {name : String} {e : Descriptor} : e ∈ r.named name →
    (∀ h, host = some h → e.hostType = h) → IsAdapted r host e
  | document {name : String} {e : Descriptor} {h : HostType} : r.first? name = some e →
    e.storeType ∈ Builtin.documentStores → host = some h → IsAdapted r host (e.withHostType h)

/-- The descriptors that names and defaults give a request. -/
inductive IsDecided (r : Registry) (q : Request) : Descriptor → Prop
  | character : q.host = some (.scalar .char) → IsDecided r q (Builtin.singleCharacter r.literals)
  | named {store : String} {e : Descriptor} : q.store = some store → r.IsAdapted q.host e →
    IsDecided r q (refine e q.facets)
  | parsed {store : String} {e : Descriptor} : q.store = some store → r.IsAdapted q.host e →
    IsDecided r q (refineParsed e (StoreType.parse store) q)
  | default {host : HostType} {e : Descriptor} : q.store = none → q.host = some host →
    Entries.get? host r.hosts = some e → sizedStores? host q.fixedLength = none →
    IsDecided r q (refine e q.facets)
  | sized {host : HostType} {e d : Descriptor} {bounded unbounded : String} : q.store = none →
    q.host = some host → Entries.get? host r.hosts = some e →
    sizedStores? host q.fixedLength = some (bounded, unbounded) →
    r.sized q e bounded unbounded = some d → IsDecided r q d

/-- The candidates of a name are the descriptors of one spelling of it. -/
lemma candidates_eq (r : Registry) (name : String) :
    ∃ name', r.candidates name = r.named name' := by
  rw [candidates]
  by_cases hn : r.isNamed name = true
  · exact ⟨name, if_pos hn⟩
  · exact ⟨Text.lower name, if_neg hn⟩

/-! ## Candidates -/

/-- Only no candidates at all leave a request open. -/
lemma choose_eq_unsettled_iff {cs : List Descriptor} {host : Option HostType} :
    choose cs host = .unsettled ↔ cs = [] := by
  cases cs with
  | nil => exact ⟨fun _ => rfl, fun _ => by cases host <;> rfl⟩
  | cons c cs =>
    refine iff_of_false ?_ (List.cons_ne_nil c cs)
    cases host with
    | none => exact Decision.noConfusion
    | some host =>
      rw [choose]
      split
      · exact Decision.noConfusion
      · split <;> exact Decision.noConfusion

lemma choose_none_eq_found_iff {cs : List Descriptor} :
    choose cs none = .found d ↔ cs.head? = some d := by
  cases cs <;> simp [choose]

/-- For a host type there is found a candidate that stores it, or the first one, of documents. -/
lemma found_of_choose {cs : List Descriptor} {host : HostType} (h : choose cs (some host) = .found d) :
    (d ∈ cs ∧ d.hostType = host) ∨
      ∃ c, cs.head? = some c ∧ c.storeType ∈ Builtin.documentStores ∧ d = c.withHostType host := by
  cases cs with
  | nil => cases h
  | cons c cs =>
    rw [choose] at h
    cases hfind : (c :: cs).find? fun c => c.hostType == host with
    | some c' =>
      rw [hfind] at h
      cases h
      exact .inl ⟨List.mem_of_find?_eq_some hfind, by simpa using List.find?_some hfind⟩
    | none =>
      rw [hfind] at h
      simp only at h
      by_cases hdoc : Builtin.documentStores.contains c.storeType = true
      · rw [if_pos hdoc] at h
        cases h
        exact .inr ⟨c, rfl, List.contains_iff_mem.1 hdoc, rfl⟩
      · rw [if_neg hdoc] at h
        cases h

lemma isAdapted_of_byName {name : String} {host : Option HostType}
    (h : r.byName name host = .found d) : r.IsAdapted host d := by
  obtain ⟨name', hcandidates⟩ := r.candidates_eq name
  rw [byName, hcandidates] at h
  cases host with
  | none => exact .stored (List.mem_of_head? (choose_none_eq_found_iff.1 h)) nofun
  | some host =>
    rcases found_of_choose h with ⟨hmem, hhost⟩ | ⟨c, hfirst, hdoc, rfl⟩
    · exact .stored hmem fun _ e => Option.some.inj e ▸ hhost
    · exact .document hfirst hdoc rfl

/-! ## What a name decides -/

lemma asksForCharacter_eq_false {store : String} (h : q.host ≠ some (.scalar .char)) :
    asksForCharacter store q = false := by
  have hhost : (q.host == some (.scalar .char)) = false := beq_eq_false_iff_ne.2 h
  rw [asksForCharacter, hhost]
  rfl

lemma asksForCharacter_forStore (store name : String) : asksForCharacter store (.forStore name) = false :=
  asksForCharacter_eq_false nofun

lemma decideByStore_of_byName {store : String} (hc : asksForCharacter store q = false)
    (h : r.byName store q.host = .found d) : r.decideByStore store q = .found (refine d q.facets) := by
  rw [decideByStore, hc, if_neg Bool.false_ne_true, h]

lemma decideByStore_of_base {store : String} (hc : asksForCharacter store q = false)
    (h : r.byName store q.host = .unsettled) (hbase : (StoreType.parse store).baseName ≠ store)
    (hd : r.byName (StoreType.parse store).baseName q.host = .found d) :
    r.decideByStore store q = .found (refineParsed d (StoreType.parse store) q) := by
  rw [decideByStore, hc, if_neg Bool.false_ne_true, h]
  simp only [if_neg hbase, hd]

lemma decideByStore_of_unsettled {store : String} (hc : asksForCharacter store q = false)
    (h : r.byName store q.host = .unsettled)
    (hbase : r.byName (StoreType.parse store).baseName q.host = .unsettled) :
    r.decideByStore store q = .unsettled := by
  rw [decideByStore, hc, if_neg Bool.false_ne_true, h]
  simp only [hbase, ite_self]

/-- A name leaves a request open that asks for no single character and has nothing under the name and
under its base name. -/
lemma decideByStore_eq_unsettled_iff {store : String} :
    r.decideByStore store q = .unsettled ↔ asksForCharacter store q = false ∧
      r.byName store q.host = .unsettled ∧
      r.byName (StoreType.parse store).baseName q.host = .unsettled := by
  refine ⟨fun h => ?_, fun ⟨hc, hname, hbase⟩ => decideByStore_of_unsettled hc hname hbase⟩
  rw [decideByStore] at h
  by_cases hc : asksForCharacter store q = true
  · rw [if_pos hc] at h
    cases h
  · rw [if_neg hc] at h
    refine ⟨Bool.not_eq_true _ ▸ hc, ?_⟩
    cases hname : r.byName store q.host with
    | found e =>
      rw [hname] at h
      cases h
    | refused =>
      rw [hname] at h
      cases h
    | unsettled =>
      rw [hname] at h
      simp only at h
      refine ⟨rfl, ?_⟩
      by_cases hbase : (StoreType.parse store).baseName = store
      · rw [hbase, hname]
      · rw [if_neg hbase] at h
        cases hbyName : r.byName (StoreType.parse store).baseName q.host with
        | unsettled => rfl
        | found e =>
          rw [hbyName] at h
          cases h
        | refused =>
          rw [hbyName] at h
          cases h

/-- What a name decides: a single character, what stands under the name, or, where nothing does, what stands
under the base name of a text with modifiers. -/
lemma found_of_decideByStore {store : String} (h : r.decideByStore store q = .found d) :
    (asksForCharacter store q = true ∧ d = Builtin.singleCharacter r.literals) ∨
      (∃ e, r.byName store q.host = .found e ∧ d = refine e q.facets) ∨
      ∃ e, r.byName store q.host = .unsettled ∧ (StoreType.parse store).baseName ≠ store ∧
        r.byName (StoreType.parse store).baseName q.host = .found e ∧
        d = refineParsed e (StoreType.parse store) q := by
  rw [decideByStore] at h
  by_cases hc : asksForCharacter store q = true
  · rw [if_pos hc] at h
    cases h
    exact .inl ⟨hc, rfl⟩
  · rw [if_neg hc] at h
    cases hname : r.byName store q.host with
    | found e =>
      rw [hname] at h
      cases h
      exact .inr (.inl ⟨e, rfl, rfl⟩)
    | refused =>
      rw [hname] at h
      cases h
    | unsettled =>
      rw [hname] at h
      simp only at h
      by_cases hbase : (StoreType.parse store).baseName = store
      · rw [if_pos hbase] at h
        cases h
      · rw [if_neg hbase] at h
        cases hbyName : r.byName (StoreType.parse store).baseName q.host with
        | found e =>
          rw [hbyName] at h
          cases h
          exact .inr (.inr ⟨e, rfl, hbase, rfl, rfl⟩)
        | refused =>
          rw [hbyName] at h
          cases h
        | unsettled =>
          rw [hbyName] at h
          cases h

/-- What a name decides for a request. -/
lemma isDecided_of_decideByStore {store : String} (hq : q.store = some store)
    (h : r.decideByStore store q = .found d) : r.IsDecided q d := by
  rcases found_of_decideByStore h with ⟨hc, rfl⟩ | ⟨e, he, rfl⟩ | ⟨e, -, -, he, rfl⟩
  · rw [asksForCharacter, Bool.and_eq_true, Bool.and_eq_true, beq_iff_eq] at hc
    exact .character hc.1.1
  · exact .named hq (isAdapted_of_byName he)
  · exact .parsed hq (isAdapted_of_byName he)

lemma isDecided_of_decideByHost {host : HostType} (hs : q.store = none) (hq : q.host = some host)
    (h : r.decideByHost host q = .found d) : r.IsDecided q d := by
  rw [decideByHost] at h
  by_cases hc : host = .scalar .char
  · rw [if_pos hc] at h
    cases h
    exact .character (hc ▸ hq)
  · rw [if_neg hc] at h
    cases hget : Entries.get? host r.hosts with
    | none =>
      rw [hget] at h
      cases h
    | some e =>
      rw [hget] at h
      simp only at h
      cases hsized : sizedStores? host q.fixedLength with
      | none =>
        rw [hsized] at h
        cases h
        exact .default hs hq hget hsized
      | some p =>
        obtain ⟨bounded, unbounded⟩ := p
        rw [hsized] at h
        simp only at h
        cases hd : r.sized q e bounded unbounded with
        | none =>
          rw [hd] at h
          cases h
        | some d' =>
          rw [hd] at h
          cases h
          exact .sized hs hq hget hsized hd

/-- What names and defaults decide. -/
theorem isDecided_of_decide (h : r.decide q = .found d) : r.IsDecided q d := by
  rw [decide] at h
  cases hs : q.store with
  | some store =>
    rw [hs] at h
    exact isDecided_of_decideByStore hs h
  | none =>
    cases hh : q.host with
    | none =>
      rw [hs, hh] at h
      cases h
    | some host =>
      rw [hs, hh] at h
      exact isDecided_of_decideByHost hs hh h

/-- A host type stored by size has its default, the first descriptor of one of its names, or that of the
bounded one with the size. -/
lemma of_sized {bounded unbounded : String} (h : r.sized q e bounded unbounded = some d) :
    d = e ∨ r.first? bounded = some d ∨ r.first? unbounded = some d ∨
      ∃ size b, r.sizeFor q = some size ∧ r.first? bounded = some b ∧
        d = b.withFacets { size := some size, fixedLength := q.fixedLength } := by
  rw [sized] at h
  cases hsize : r.sizeFor q with
  | none =>
    rw [hsize] at h
    simp only at h
    by_cases hfixed : q.fixedLength = true
    · rw [if_pos hfixed] at h
      exact .inr (.inl h)
    · rw [if_neg hfixed] at h
      exact .inl (Option.some.inj h).symm
  | some size =>
    rw [hsize] at h
    simp only at h
    by_cases hlarge : size > maxBoundedSize
    · rw [if_pos hlarge] at h
      exact .inr (.inr (.inl h))
    · rw [if_neg hlarge] at h
      obtain ⟨b, hb, rfl⟩ := Option.map_eq_some_iff.1 h
      exact .inr (.inr (.inr ⟨size, b, rfl, hb, rfl⟩))

/-- What remains open is answered by an array over the element's answer or by a range of the user's. -/
lemma of_settle {element : Option Descriptor} (h : r.settle q element = some d) :
    (∃ e, element = some e ∧ arrayOver q.host e = some d) ∨ r.userRange? q = some d := by
  rw [settle, Option.orElse_eq_orElse, Option.orElse_eq_or, Option.or_eq_some_iff] at h
  rcases h with h | ⟨-, h⟩
  · obtain ⟨e, he, hd⟩ := Option.bind_eq_some_iff.1 h
    exact .inl ⟨e, he, hd⟩
  · exact .inr h

/-- A request that names and defaults leave open is settled by the answer for the element it asks for. -/
lemma find_of_unsettled (h : r.decide q = .unsettled) :
    r.find q = r.settle q (q.element?.bind r.find) := by
  rw [find, h]
  simp only
  split
  · rename_i e he
    rw [he]
    rfl
  · rename_i he
    rw [he]
    rfl

/-- Nothing is added to what names and defaults settle. -/
lemma find_eq_found? (h : r.decide q ≠ .unsettled) : r.find q = (r.decide q).found? := by
  rw [find]
  cases hdecide : r.decide q with
  | found d => rfl
  | refused => rfl
  | unsettled => exact absurd hdecide h

lemma find_of_found (h : (r.decide q).found? = some d) : r.find q = some d := by
  have hsettled : r.decide q ≠ .unsettled := by
    intro hopen
    rw [hopen] at h
    cases h
  rw [find_eq_found? hsettled, h]

/-- How a request is answered: names and defaults say it, or they leave it open. -/
lemma found_of_find (h : r.find q = some d) :
    r.decide q = .found d ∨ r.decide q = .unsettled ∧
      ((∃ q' e, q.element? = some q' ∧ r.find q' = some e ∧ arrayOver q.host e = some d) ∨
        r.userRange? q = some d) := by
  cases hdecide : r.decide q with
  | found d' =>
    rw [find, hdecide] at h
    cases h
    exact .inl rfl
  | refused =>
    rw [find, hdecide] at h
    cases h
  | unsettled =>
    rw [find_of_unsettled hdecide] at h
    refine .inr ⟨rfl, ?_⟩
    rcases of_settle h with ⟨e, he, hd⟩ | hrange
    · obtain ⟨q', hq', he⟩ := Option.bind_eq_some_iff.1 he
      exact .inl ⟨q', e, hq', he, hd⟩
    · exact .inr hrange

/-- How a request is answered. -/
lemma of_find (h : r.find q = some d) :
    r.IsDecided q d ∨
      (∃ q' e, q.element? = some q' ∧ r.find q' = some e ∧ arrayOver q.host e = some d) ∨
      r.userRange? q = some d :=
  (found_of_find h).imp isDecided_of_decide And.right

/-- What holds of all that names and defaults find and of the user's ranges, and passes from the answer for
an element to the array over it, holds of all answers. Arrays and ranges only answer what names and defaults
leave open. -/
theorem find_induction_found {motive : Request → Descriptor → Prop}
    (found : ∀ q d, r.decide q = .found d → motive q d)
    (array : ∀ q q' e d, r.decide q = .unsettled → q.element? = some q' → r.find q' = some e →
      motive q' e → arrayOver q.host e = some d → motive q d)
    (userRange : ∀ q d, r.decide q = .unsettled → r.userRange? q = some d → motive q d)
    (h : r.find q = some d) : motive q d := by
  generalize hm : q.measure = m
  induction m using Nat.strongRecOn generalizing q d with
  | ind m ih =>
    rcases found_of_find h with hd | ⟨hopen, ⟨q', e, hq', he, hd⟩ | hrange⟩
    · exact found q d hd
    · -- the element's request is smaller, so that its answer has the property already
      have hlt : q'.measure < m := hm ▸ Request.measure_lt_of_element? hq'
      exact array q q' e d hopen hq' he (ih _ hlt he rfl) hd
    · exact userRange q d hopen hrange

/-- What holds of all that is decided and of the user's ranges, and passes from the answer for an element
to the array over it, holds of all answers. -/
theorem find_induction {motive : Request → Descriptor → Prop}
    (decided : ∀ q d, r.IsDecided q d → motive q d)
    (array : ∀ q q' e d, q.element? = some q' → r.find q' = some e → motive q' e →
      arrayOver q.host e = some d → motive q d)
    (userRange : ∀ q d, d ∈ r.userRanges → isAnswer q d = true → motive q d)
    (h : r.find q = some d) : motive q d := by
  refine find_induction_found ?_ ?_ ?_ h
  · exact fun q d hd => decided q d (isDecided_of_decide hd)
  · exact fun q q' e d _ => array q q' e d
  · exact fun q d _ hd => userRange q d (List.mem_of_find?_eq_some hd) (List.find?_some hd)

end Registry

end SqlBridge
