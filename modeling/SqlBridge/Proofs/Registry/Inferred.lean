import SqlBridge.Proofs.Registry.Arrays

/-!
# Stating the inferred host type

A store type alone is answered by the first descriptor of its name, by the array over the answer for its
element, or by a range of the user's own. Each of them is the answer again when its host type is asked for
beside the store type.
-/

namespace SqlBridge

/-- The request with a host type. -/
def Request.stating (host : HostType) (q : Request) : Request :=
  { q with host := some host }

/-- The element of an array that is asked for by name is asked for by name; with the array's host type, it is
asked for with the element's. -/
lemma Request.element?_stating {q q' : Request} (hq : q.host = none) (h : q.element? = some q')
    (host : HostType) :
    q'.host = none ∧ (q.stating (.array host)).element? = some (q'.stating host) := by
  obtain ⟨store, host', unicode, size, precision, scale, fixedLength, isKey⟩ := q
  cases hq
  cases store with
  | none => cases h
  | some store =>
    obtain ⟨name, hname, rfl⟩ := Option.map_eq_some_iff.1 h
    refine ⟨rfl, ?_⟩
    simp only [element?, stating, HostType.element?, hname]

namespace Registry

variable {admits : String → Prop} {r : Registry} {q q' : Request} {d e m : Descriptor} {store : String}
  {host : HostType} {cs : List Descriptor}

/-! ## Names -/

/-- The first descriptor of a name is also the first one for its host type. -/
lemma choose_hostType (h : choose cs none = .found d) : choose cs (some d.hostType) = .found d := by
  obtain ⟨rest, rfl⟩ := List.head?_eq_some_iff.1 (choose_none_eq_found_iff.1 h)
  have hfirst : (d :: rest).find? (fun c => c.hostType == d.hostType) = some d :=
    List.find?_cons_of_pos (beq_self_eq_true d.hostType)
  rw [choose, hfirst]

lemma hostType_refine (d : Descriptor) (f : Facets) : (refine d f).hostType = d.hostType := by
  rcases refine_cases d f with e | ⟨g, e⟩
  · rw [e]
  · rw [e, Descriptor.hostType_withFacets]

/-- What a name stands for without a host type it also stands for with the host type of the answer. -/
lemma ReachableBy.decideByStore_stating (h : r.ReachableBy admits) (hq : q.host = none)
    (hd : r.decideByStore store q = .found d) :
    r.decideByStore store (q.stating d.hostType) = .found d := by
  have hchar : ∀ {name e}, r.byName name none = .found e →
      asksForCharacter store (q.stating e.hostType) = false := by
    intro name e he
    apply asksForCharacter_eq_false
    cases isAdapted_of_byName he with
    | stored hmem _ =>
      have hne := (h.host_of_isRegistered (h.linked.isRegistered hmem)).2
      exact fun hhost => hne (Option.some.inj hhost)
    | document _ _ hhost => cases hhost
  rcases found_of_decideByStore hd with ⟨hc, -⟩ | ⟨e, he, rfl⟩ | ⟨e, hopen, hbase, he, rfl⟩
  · rw [asksForCharacter_eq_false (by rw [hq]; exact nofun)] at hc
    cases hc
  · rw [hq] at he
    rw [hostType_refine]
    exact decideByStore_of_byName (hchar he) (choose_hostType he)
  · rw [hq] at he hopen
    have hopen' : r.byName store (some e.hostType) = .unsettled :=
      choose_eq_unsettled_iff.2 (choose_eq_unsettled_iff.1 hopen)
    rw [refineParsed, Descriptor.hostType_withFacets]
    exact decideByStore_of_base (hchar he) hopen' hbase (choose_hostType he)

/-- What a name leaves open without a host type it leaves open for all but single characters. -/
lemma decideByStore_stating_of_unsettled (hhost : host ≠ .scalar .char)
    (h : r.decideByStore store q = .unsettled) :
    r.decideByStore store (q.stating host) = .unsettled := by
  obtain ⟨-, hname, hbase⟩ := decideByStore_eq_unsettled_iff.1 h
  have hopen : ∀ {name}, r.byName name q.host = .unsettled → r.byName name (some host) = .unsettled :=
    fun hname => choose_eq_unsettled_iff.2 (choose_eq_unsettled_iff.1 hname)
  have hc : asksForCharacter store (q.stating host) = false :=
    asksForCharacter_eq_false fun e => hhost (Option.some.inj e)
  exact decideByStore_of_unsettled hc (hopen hname) (hopen hbase)

/-! ## Ranges of the user's own -/

lemma isAnswer_stating (hstore : q.store = some store) (hq : q.host = none) :
    isAnswer (q.stating host) d = true ↔ isAnswer q d = true ∧ host = d.hostType := by
  simp [isAnswer, Request.stating, hstore, hq]

/-- The first range that goes by a name is also the first of these for its host type. -/
lemma userRange?_stating (hstore : q.store = some store) (hq : q.host = none)
    (hd : r.userRange? q = some d) : r.userRange? (q.stating d.hostType) = some d := by
  obtain ⟨hanswer, before, after, hranges, hbefore⟩ := List.find?_eq_some_iff_append.1 hd
  refine List.find?_eq_some_iff_append.2
    ⟨(isAnswer_stating hstore hq).2 ⟨hanswer, rfl⟩, before, after, hranges, fun e he => ?_⟩
  have hno := hbefore e he
  rw [Bool.not_eq_true', Bool.eq_false_iff] at hno ⊢
  exact fun hself => hno ((isAnswer_stating hstore hq).1 hself).1

/-! ## Answers -/

/-- Nothing answers a request that names neither a store type nor a host type. -/
lemma exists_store_of_find (hq : q.host = none) (hm : r.find q = some m) :
    ∃ store, q.store = some store := by
  cases hstore : q.store with
  | some store => exact ⟨store, rfl⟩
  | none =>
    have hopen : r.decide q = .unsettled := by rw [decide, hstore, hq]
    have helement : q.element? = none := by rw [Request.element?, hstore, hq]
    have hrange : r.userRange? q = none := by
      rw [userRange?, List.find?_eq_none]
      intro d _
      rw [isAnswer, hstore, hq]
      exact Bool.false_ne_true
    rw [find_of_unsettled hopen, helement, settle, hrange] at hm
    cases hm

/-- What a request without a host type leaves open it leaves open for all but single characters. -/
lemma decide_stating_of_unsettled (hstore : q.store = some store) (hhost : host ≠ .scalar .char)
    (h : r.decide q = .unsettled) : r.decide (q.stating host) = .unsettled := by
  rw [decide, hstore] at h
  rw [decide, Request.stating, hstore]
  exact decideByStore_stating_of_unsettled hhost h

/-- What answers a store type answers it again for its host type. -/
theorem ReachableBy.find_stating (h : r.ReachableBy admits) (hq : q.host = none)
    (hm : r.find q = some m) : r.find (q.stating m.hostType) = some m := by
  refine find_induction_found (motive := fun q m => q.host = none → r.find q = some m →
    r.find (q.stating m.hostType) = some m) ?_ ?_ ?_ hm hq hm
  · intro q d hd hq hm
    obtain ⟨store, hstore⟩ := exists_store_of_find hq hm
    rw [decide, hstore] at hd
    have hd' : r.decide (q.stating d.hostType) = .found d := by
      rw [decide, Request.stating, hstore]
      exact h.decideByStore_stating hq hd
    exact find_of_found (congrArg Decision.found? hd')
  · intro q q' e d hopen hq' he ih hd hq hm
    obtain ⟨store, hstore⟩ := exists_store_of_find hq hm
    obtain ⟨hq'none, helement⟩ := Request.element?_stating hq hq' e.hostType
    have hhost : d.hostType = .array e.hostType := by
      rw [(Descriptor.hostType_of_arrayOf (ok_of_toOption hd)).2, hq]
      rfl
    -- without a host type the array is for arrays of its element's, with which it is asked for now
    have hover : arrayOver (some (.array e.hostType)) e = some d := by
      rw [hq] at hd
      exact hd
    have hopen' : r.decide (q.stating (.array e.hostType)) = .unsettled :=
      decide_stating_of_unsettled hstore HostType.noConfusion hopen
    rw [hhost, find_of_unsettled hopen', helement, Option.bind_some, ih hq'none he, settle,
      Option.bind_some]
    exact congrArg (· <|> r.userRange? (q.stating (.array e.hostType))) hover
  · intro q d hopen hd hq hm
    obtain ⟨store, hstore⟩ := exists_store_of_find hq hm
    obtain ⟨hsequence, hchar⟩ := h.host_of_isRegistered (.inr (List.mem_of_find?_eq_some hd))
    have helement : (q.stating d.hostType).element? = none := by
      simp only [Request.element?, Request.stating, hstore, hsequence]
    rw [find_of_unsettled (decide_stating_of_unsettled hstore hchar hopen), helement, Option.bind_none,
      settle, Option.bind_none, userRange?_stating hstore hq hd]
    rfl

end Registry

namespace Catalog

/-- Stating the inferred host type changes nothing: the answer for a request without a host type is also
the answer for the request with the host type of the answer. -/
theorem find_hostType {c : Catalog} (hc : c.Reachable) {q : Request} {m : Descriptor}
    (hq : q.host = none) (hm : (c.find q).1 = some m) :
    (c.find (q.stating m.hostType)).1 = some m := by
  rw [hc.find_eq] at hm ⊢
  exact hc.spec.2.find_stating hq hm

/-- An array of a range of the user's own, which is asked for without its schema. -/
theorem find_hostType_of_ranges :
    ∃ c : Catalog, c.Reachable ∧ ∃ m,
      (c.find { store := some "floatrange[]", isKey := true }).1 = some m ∧
      m.storeType = "app.floatrange[]" ∧ m.hostType = .array (.range (.scalar .float64)) ∧
      (c.find { store := some "floatrange[]", host := some (.array (.range (.scalar .float64))),
                isKey := true }).1 = some m := by
  let c : Catalog := (Catalog.registerRange { registry := .builtin {} }
    { name := "floatrange", schema := some "app", subtype := .scalar .float64 }).2
  have hc : c.Reachable := .range reachableBy_builtin trivial
  have hfind : (c.find { store := some "floatrange[]", isKey := true }).1.map
      (fun m => (m.storeType, m.hostType)) =
        some ("app.floatrange[]", .array (.range (.scalar .float64))) := by
    decide +kernel
  obtain ⟨m, hm, hfields⟩ := Option.map_eq_some_iff.1 hfind
  obtain ⟨hstore, hhost⟩ := Prod.mk.inj hfields
  have hagain := find_hostType hc rfl hm
  rw [hhost] at hagain
  exact ⟨c, hc, m, hm, hstore, hhost, hagain⟩

end Catalog

end SqlBridge
