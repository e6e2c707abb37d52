import SqlBridge.Proofs.Registry.Coherent
import SqlBridge.Proofs.Text.LetterCase

/-!
# Arrays

Asking for sequences of what a request asks for gives the array over the answer for the request, and
nothing else answers it: no name, no default and no range of the user's own comes between. Arrays are
flat.
-/

namespace SqlBridge

namespace Request

variable {q : Request} {wrap : HostType → HostType}

/-- The request for sequences of what is asked for: brackets after the store type, and a sequence of the
host type, as far as the request names them. -/
def inSequence (wrap : HostType → HostType) (q : Request) : Request :=
  { q with store := q.store.map (· ++ "[]"), host := q.host.map wrap }

lemma elementName?_brackets (store : String) : elementName? (store ++ "[]") = some store := by
  have hlist : (store ++ "[]").toList.reverse = ']' :: '[' :: store.toList.reverse := by
    rw [String.toList_append, List.reverse_append]
    rfl
  rw [elementName?, hlist]
  simp only [List.reverse_reverse, String.ofList_toList]

lemma element?_inSequence (hwrap : ∀ host, (wrap host).element? = some host)
    (hq : q.store ≠ none ∨ q.host ≠ none) : (q.inSequence wrap).element? = some q := by
  obtain ⟨store, host⟩ := q
  cases store with
  | none =>
    cases host with
    | none => simp at hq
    | some host => simp [inSequence, element?, hwrap]
  | some store =>
    cases host with
    | none => simp [inSequence, element?, elementName?_brackets]
    | some host => simp [inSequence, element?, elementName?_brackets, hwrap]

end Request

namespace Registry

/-- No registered name ends in brackets. -/
def IsUnbracketed (r : Registry) : Prop :=
  ∀ name ∈ r.names, ¬ "[]".toList <:+ name.toList

variable {admits : String → Prop} {r : Registry} {q : Request} {d e : Descriptor}
  {wrap : HostType → HostType}

/-! ## Names with brackets -/

/-- A name that is registered in neither spelling decides nothing. -/
lemma byName_of_isNamed_eq_false {name : String} (hname : r.isNamed name = false)
    (hlower : r.isNamed (Text.lower name) = false) (host : Option HostType) :
    r.byName name host = .unsettled := by
  have hcandidates : r.candidates name = [] := by
    rw [candidates, hname, if_neg Bool.false_ne_true, named_of_isNamed_eq_false hlower]
  exact choose_eq_unsettled_iff.2 hcandidates

/-- Built-in names do not end in brackets, nor do the user's own when they are admitted. -/
lemma ReachableBy.isUnbracketed (h : r.ReachableBy admits)
    (hadmits : ∀ name, admits name → ¬ "[]".toList <:+ name.toList) : r.IsUnbracketed := by
  have hbuiltin : ∀ name ∈ builtinNames, ¬ "[]".toList <:+ name.toList := by
    decide
  intro name hname
  rcases h.names_spec.2 name hname with hmem | hadmitted
  · exact hbuiltin name hmem
  · exact hadmits name hadmitted

lemma IsUnbracketed.isNamed_brackets (hr : r.IsUnbracketed) (name : String) :
    r.isNamed (name ++ "[]") = false := by
  rw [isNamed_eq_false_iff]
  intro hmem
  apply hr _ (List.mem_append_left _ hmem)
  rw [String.toList_append]
  exact List.suffix_append _ _

lemma IsUnbracketed.byName_brackets (hr : r.IsUnbracketed) (name : String) (host : Option HostType) :
    r.byName (name ++ "[]") host = .unsettled := by
  apply byName_of_isNamed_eq_false (hr.isNamed_brackets name)
  rw [Text.lower_append]
  exact hr.isNamed_brackets _

/-! ## Host types of sequences -/

/-- Registered descriptors are for no sequences and no single characters. -/
lemma ReachableBy.host_of_isRegistered (h : r.ReachableBy admits) (hd : r.IsRegistered d) :
    d.hostType.element? = none ∧ d.hostType ≠ .scalar .char := by
  refine h.registered (o := r.options)
    (P := fun d => d.hostType.element? = none ∧ d.hostType ≠ .scalar .char) ?_ ?_ ?_ ?_ rfl hd
  · intro f hf name _ host hhost
    have hall : ∀ legacy, ∀ f ∈ Builtin.families legacy, ∀ host ∈ f.hosts, host ≠ .char := by
      decide
    exact ⟨rfl, fun e => hall _ f hf host hhost (HostType.scalar.inj e)⟩
  · rintro subtype d - ⟨names, -, rfl | hd⟩
    · exact ⟨rfl, nofun⟩
    · cases hd
      exact ⟨rfl, nofun⟩
  · exact fun r d _ => ⟨rfl, nofun⟩
  · exact fun r q name s _ _ _ _ => ⟨rfl, nofun⟩

/-! ## Sequences -/

/-- Neither the names nor the defaults say anything of sequences. -/
lemma decide_inSequence (h : r.ReachableBy admits) (hr : r.IsUnbracketed)
    (hwrap : ∀ host, (wrap host).element? = some host) : r.decide (q.inSequence wrap) = .unsettled := by
  have hchar : ∀ host, wrap host ≠ .scalar .char := by
    intro host e
    have helement := hwrap host
    rw [e] at helement
    cases helement
  have hcharacter : ∀ store, asksForCharacter store (q.inSequence wrap) = false := by
    intro store
    apply asksForCharacter_eq_false
    intro e
    obtain ⟨host, -, e⟩ := Option.map_eq_some_iff.1 e
    exact hchar host e
  rw [decide]
  cases hs : q.store with
  | some store =>
    obtain ⟨unicode, hparse⟩ := StoreType.parse_brackets store
    simp only [Request.inSequence, hs, Option.map_some]
    apply decideByStore_of_unsettled (hcharacter _) (hr.byName_brackets _ _)
    rw [hparse]
    exact hr.byName_brackets _ _
  | none =>
    cases hh : q.host with
    | none => simp only [Request.inSequence, hs, hh, Option.map_none]
    | some host =>
      simp only [Request.inSequence, hs, hh, Option.map_none, Option.map_some]
      rw [decideByHost, if_neg (hchar host)]
      cases hget : Entries.get? (wrap host) r.hosts with
      | none => rfl
      | some d =>
        obtain ⟨hhost, hmem⟩ := h.linked.hosts hget
        have hsequence := (h.host_of_isRegistered (.inl hmem)).1
        rw [hhost, hwrap] at hsequence
        cases hsequence

lemma unqualified_suffix (name : String) : (unqualified name).toList <:+ name.toList := by
  rw [unqualified, String.toList_ofList, ← List.reverse_prefix, List.reverse_reverse]
  exact List.takeWhile_prefix _

/-- No range of the user's own answers a request for arrays or lists, unless its name ends in brackets. -/
lemma userRange?_of_element? (h : r.ReachableBy admits)
    (hranges : ∀ d ∈ r.userRanges, ¬ "[]".toList <:+ d.storeType.toList) {q' : Request}
    (hq : q.element? = some q') : r.userRange? q = none := by
  rw [userRange?, List.find?_eq_none]
  intro d hd hanswer
  rcases Request.of_element? hq with ⟨hstore, -, -⟩ | ⟨store, name, -, hstore, hname, -⟩
  · cases hhost : q.host with
    | none =>
      rw [isAnswer, hstore, hhost] at hanswer
      cases hanswer
    | some host =>
      rw [isAnswer, hstore, hhost] at hanswer
      obtain ⟨element, helement, -⟩ := Request.host_of_element? hq hhost
      rw [beq_iff_eq.1 hanswer, (h.host_of_isRegistered (.inr hd)).1] at helement
      cases helement
  · have hsuffix : "[]".toList <:+ store.toList := by
      rw [StoreType.eq_of_elementName? hname, String.toList_append]
      exact List.suffix_append _ _
    rw [isAnswer, hstore, Bool.and_eq_true, Bool.or_eq_true, beq_iff_eq, beq_iff_eq] at hanswer
    rcases hanswer.1 with e | e
    · exact hranges d hd (e ▸ hsuffix)
    · exact hranges d hd ((e ▸ hsuffix).trans (unqualified_suffix _))

/-- A request for sequences is answered by the array over the answer for the request. -/
theorem find_inSequence_eq (h : r.ReachableBy admits) (hr : r.IsUnbracketed)
    (hwrap : ∀ host, (wrap host).element? = some host) (hq : q.store ≠ none ∨ q.host ≠ none) :
    r.find (q.inSequence wrap) = (r.find q).bind (arrayOver (q.host.map wrap)) := by
  have helement := Request.element?_inSequence hwrap hq
  have hranges : ∀ d ∈ r.userRanges, ¬ "[]".toList <:+ d.storeType.toList :=
    fun d hd => hr _ (IsRegistered.mem_names (.inr hd))
  rw [find_of_unsettled (decide_inSequence h hr hwrap), helement, Option.bind_some, settle,
    userRange?_of_element? h hranges helement, Option.orElse_eq_orElse, Option.orElse_eq_or,
    Option.or_none]
  rfl

lemma exists_arrayOver {host : Option HostType} (he : e.isArray = false) :
    ∃ d, arrayOver host e = some d := by
  rw [arrayOver, Descriptor.arrayOf, he]
  exact ⟨_, rfl⟩

end Registry

namespace Catalog

/-- A request for arrays or lists is answered exactly if what they hold has an answer that is no array
itself. The answer is the array over it: brackets after its store type, its modifiers, and the requested
sequence as host type, or an array of its host type. No answer is an array of arrays. -/
theorem find_inSequence {c : Catalog} (hc : c.Reachable) (hnames : c.registry.IsUnbracketed)
    {q : Request} (hq : q.store ≠ none ∨ q.host ≠ none) {wrap : HostType → HostType}
    (hwrap : wrap = .array ∨ wrap = .list) :
    ((∃ m, (c.find (q.inSequence wrap)).1 = some m) ↔
        ∃ e, (c.find q).1 = some e ∧ e.isArray = false) ∧
      (∀ m, (c.find (q.inSequence wrap)).1 = some m → ∃ e, (c.find q).1 = some e ∧
        m.element? = some e ∧ m.storeType = e.storeType ++ "[]" ∧ m.facets = e.facets ∧
        m.hostType = (q.host.map wrap).getD (.array e.hostType)) ∧
      ∀ q' m e, (c.find q').1 = some m → m.element? = some e → e.isArray = false := by
  have hr := hc.spec.2
  have hwrap' : ∀ host, (wrap host).element? = some host := by
    rcases hwrap with rfl | rfl <;> exact fun _ => rfl
  simp only [hc.find_eq, Registry.find_inSequence_eq hr hnames hwrap' hq]
  refine ⟨⟨?_, ?_⟩, ?_, ?_⟩
  · rintro ⟨m, hm⟩
    obtain ⟨e, he, hm⟩ := Option.bind_eq_some_iff.1 hm
    exact ⟨e, he, (Descriptor.arrayOf_ok (ok_of_toOption hm)).1⟩
  · rintro ⟨e, he, harray⟩
    rw [he]
    exact Registry.exists_arrayOver harray
  · intro m hm
    obtain ⟨e, he, hm⟩ := Option.bind_eq_some_iff.1 hm
    obtain ⟨-, -, hstore, -, hfacets⟩ := Descriptor.arrayOf_ok (ok_of_toOption hm)
    obtain ⟨helement, hhost⟩ := Descriptor.hostType_of_arrayOf (ok_of_toOption hm)
    exact ⟨e, he, helement, hstore, hfacets, hhost⟩
  · intro q' m e hm he
    have hcoherent := Registry.isCoherent_of_find hr hr.isCoherent hm
    cases hcoherent with
    | array hs _ =>
      cases he
      exact hs.flat
    | _ => cases he

/-- Lists of texts of a bounded length. -/
theorem find_inSequence_of_list :
    ∃ c : Catalog, c.Reachable ∧ c.registry.IsUnbracketed ∧ ∃ m,
      (c.find { store := some "VarChar (32)[]", host := some (.list (.scalar .string)) }).1 = some m ∧
        ∃ e, (c.find { store := some "VarChar (32)", host := some (.scalar .string) }).1 = some e ∧
          e.isArray = false ∧ m.element? = some e ∧ m.storeType = e.storeType ++ "[]" ∧
          m.facets = e.facets ∧ m.hostType = .list (.scalar .string) := by
  have hc : Reachable { registry := .builtin {} } := reachableBy_builtin
  have hc' : ReachableBy (fun _ => False) { registry := .builtin {} } := reachableBy_builtin
  have hnames := hc'.spec.2.isUnbracketed nofun
  let q : Request := { store := some "VarChar (32)", host := some (.scalar .string) }
  have hfind : (Catalog.find { registry := .builtin {} } q).1.map Descriptor.isArray = some false := by
    decide +kernel
  obtain ⟨e, he, harray⟩ := Option.map_eq_some_iff.1 hfind
  obtain ⟨hiff, hresult, -⟩ := find_inSequence (q := q) hc hnames (.inl nofun) (.inr rfl)
  obtain ⟨m, hm⟩ := hiff.2 ⟨e, he, harray⟩
  obtain ⟨e', he', helement, hstore, hfacets, hhost⟩ := hresult m hm
  rw [he] at he'
  cases he'
  exact ⟨_, hc, hnames, m, hm, e, he, harray, helement, hstore, hfacets, hhost⟩

end Catalog

end SqlBridge
