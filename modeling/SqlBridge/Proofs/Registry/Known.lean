import SqlBridge.Proofs.Registry.Listing
import SqlBridge.Proofs.Registry.Reread

/-!
# Known names

A registered name settles a request by itself: the descriptors under the name, documents that take any
host type, and single characters are all that an answer can come from. Arrays, defaults of host types and
ranges of the user's own are not looked at.
-/

namespace SqlBridge

namespace Registry

variable {admits : String → Prop} {r r' : Registry} {q : Request} {d : Descriptor} {name : String}
  {host : HostType} {cs : List Descriptor}

/-! ## Candidates -/

/-- Candidates of one name are chosen for the host types that they store, and documents for any. -/
lemma exists_found_of_choose_iff (hcs : cs ≠ []) (hname : ∀ c ∈ cs, c.storeType = name) :
    (∃ d, choose cs (some host) = .found d) ↔
      (∃ c ∈ cs, c.hostType = host) ∨ name ∈ Builtin.documentStores := by
  obtain ⟨c, rest, rfl⟩ := List.exists_cons_of_ne_nil hcs
  rw [choose, hname c List.mem_cons_self]
  cases hfind : (c :: rest).find? fun c => c.hostType == host with
  | some c' =>
    have hhost : c'.hostType = host := by simpa using List.find?_some hfind
    exact iff_of_true ⟨c', rfl⟩ (.inl ⟨c', List.mem_of_find?_eq_some hfind, hhost⟩)
  | none =>
    have hno : ¬ ∃ c' ∈ c :: rest, c'.hostType = host := by
      simpa using hfind
    rw [or_iff_right hno]
    by_cases hdoc : name ∈ Builtin.documentStores
    · exact iff_of_true ⟨_, if_pos (List.contains_iff_mem.2 hdoc)⟩ hdoc
    · refine iff_of_false ?_ hdoc
      simp only [List.contains_iff_mem, if_neg hdoc]
      rintro ⟨d, ⟨⟩⟩

lemma names_of_choose (hname : ∀ c ∈ cs, c.storeType = name)
    (h : choose cs (some host) = .found d) : d.hostType = host ∧ d.storeType = name := by
  rcases found_of_choose h with ⟨hmem, hhost⟩ | ⟨c, hfirst, -, rfl⟩
  · exact ⟨hhost, hname d hmem⟩
  · rw [Descriptor.hostType_withHostType, Descriptor.storeType_withHostType]
    exact ⟨rfl, hname c (List.mem_of_head? hfirst)⟩

lemma byName_of_isNamed (hname : r.isNamed name = true) (host : Option HostType) :
    r.byName name host = choose (r.named name) host := by
  rw [byName, candidates, if_pos hname]

/-! ## What is looked at -/

/-- A registered name leaves nothing open. -/
lemma ReachableBy.decideByStore_ne_unsettled (h : r.ReachableBy admits)
    (hname : r.isNamed name = true) : r.decideByStore name q ≠ .unsettled := by
  rw [Ne, decideByStore_eq_unsettled_iff, byName_of_isNamed hname, choose_eq_unsettled_iff]
  exact fun hopen => h.named_ne_nil hname hopen.2.1

/-- What a name decides hangs on the descriptors under names and on the options only. -/
lemma decideByStore_congr (hstores : r'.stores = r.stores) (hoptions : r'.options = r.options) :
    r'.decideByStore name q = r.decideByStore name q := by
  have hbyName : ∀ name host, r'.byName name host = r.byName name host := by
    intro name host
    have hnamed : ∀ name, r'.named name = r.named name :=
      fun name => congrArg (Entries.all name) hstores
    have hisNamed : r'.isNamed name = r.isNamed name :=
      congrArg (fun stores => (Entries.get? name stores).isSome) hstores
    rw [byName, byName, candidates, candidates, hisNamed, hnamed, hnamed]
  have hliterals : r'.literals = r.literals := congrArg MappingOptions.literals hoptions
  simp only [decideByStore, hbyName, hliterals]

/-! ## Names in small letters -/

/-- A name without modifiers asks for a single character exactly if it is one of those of fixed-length
characters and the host type is that of characters. -/
lemma asksForCharacter_iff (hname : Facets.IsClean name) :
    asksForCharacter name { store := some name, host := some host } = true ↔
      host = .scalar .char ∧ name ∈ Builtin.fixedCharacterStores := by
  have hbase := StoreType.parse_of_not_mem hname.1
  have hsize : (StoreType.parse name).size = none := by
    have hnone := mt (StoreType.baseName_ne_iff name).2 (not_not_intro hbase)
    rw [ParsedStoreType.hasModifiers, Bool.or_eq_true, Bool.or_eq_true, not_or, not_or] at hnone
    exact Option.not_isSome_iff_eq_none.1 hnone.1.1
  simp [asksForCharacter, hbase, hsize, Text.lower_eq hname.2.2]

/-- A registered name answers for a host type from its own descriptors, unless it asks for a single
character. -/
lemma ReachableBy.decide_of_isNamed (h : r.ReachableBy IsLowerName) (hname : r.isNamed name = true) :
    r.decide { store := some name, host := some host } =
      if host = .scalar .char ∧ name ∈ Builtin.fixedCharacterStores then
        .found (Builtin.singleCharacter r.literals)
      else choose (r.named name) (some host) := by
  have hclean := h.isClean_of_mem_names (mem_names_iff.2 (.inl hname))
  have hrefine : ∀ d, refine d {} = d := fun _ => rfl
  have hne : choose (r.named name) (some host) ≠ .unsettled :=
    mt choose_eq_unsettled_iff.1 (h.named_ne_nil hname)
  simp only [decide, decideByStore, asksForCharacter_iff hclean, byName_of_isNamed hname]
  split
  · rfl
  · cases hchoose : choose (r.named name) (some host) with
    | found d => exact congrArg Decision.found (hrefine d)
    | refused => rfl
    | unsettled => exact absurd hchoose hne

lemma find_eq_some_iff (h : r.decide q ≠ .unsettled) : r.find q = some d ↔ r.decide q = .found d := by
  rw [find_eq_found? h]
  cases r.decide q <;> simp [Decision.found?]

end Registry

namespace Catalog

/-- A registered name decides alone. With a host type it is answered exactly if one of its descriptors
is for that host type, or it is one of documents, or it asks for a single character under a name of
fixed-length characters; and the answer is for the host type and goes by the name, or is the single
character. Whatever else is asked for, no other table of the registry makes a difference. -/
theorem find_of_isNamed {c : Catalog} (hc : c.ReachableBy IsLowerName) {name : String}
    (hname : c.registry.isNamed name = true) :
    (∀ host, (∃ m, (c.find { store := some name, host := some host }).1 = some m) ↔
      (∃ d ∈ c.registry.named name, d.hostType = host) ∨ name ∈ Builtin.documentStores ∨
        host = .scalar .char ∧ name ∈ Builtin.fixedCharacterStores) ∧
    (∀ host m, (c.find { store := some name, host := some host }).1 = some m → m.hostType = host ∧
      m.storeType = if host = .scalar .char ∧ name ∈ Builtin.fixedCharacterStores
        then "character(1)" else name) ∧
    ∀ q, q.store = some name → c.registry.decide q ≠ .unsettled ∧
      ∀ r : Registry, r.stores = c.registry.stores → r.options = c.registry.options →
        r.find q = (c.find q).1 := by
  have hr := hc.spec.2
  have hstores : ∀ d ∈ c.registry.named name, d.storeType = name := fun d hd => hr.linked.stores hd
  have hsettled : ∀ q, q.store = some name → c.registry.decide q ≠ .unsettled := by
    intro q hq
    rw [Registry.decide, hq]
    exact hr.decideByStore_ne_unsettled hname
  have hfind : ∀ host d, (c.find { store := some name, host := some host }).1 = some d ↔
      (if host = .scalar .char ∧ name ∈ Builtin.fixedCharacterStores then
        Decision.found (Builtin.singleCharacter c.registry.literals)
      else Registry.choose (c.registry.named name) (some host)) = .found d := by
    intro host d
    rw [hc.find_eq, Registry.find_eq_some_iff (hsettled _ rfl), hr.decide_of_isNamed hname]
  refine ⟨fun host => ?_, fun host m hm => ?_, fun q hq => ⟨hsettled q hq, ?_⟩⟩
  · simp only [hfind]
    by_cases hchar : host = .scalar .char ∧ name ∈ Builtin.fixedCharacterStores
    · simp only [if_pos hchar]
      exact iff_of_true ⟨_, rfl⟩ (.inr (.inr hchar))
    · simp only [if_neg hchar, or_iff_left hchar]
      exact Registry.exists_found_of_choose_iff (hr.named_ne_nil hname) hstores
  · rw [hfind] at hm
    by_cases hchar : host = .scalar .char ∧ name ∈ Builtin.fixedCharacterStores
    · rw [if_pos hchar] at hm ⊢
      cases hm
      exact ⟨hchar.1.symm, Registry.storeType_singleCharacter _⟩
    · rw [if_neg hchar] at hm ⊢
      exact Registry.names_of_choose hstores hm
  · intro r hrstores hoptions
    have hdecide : r.decide q = c.registry.decide q := by
      rw [Registry.decide, Registry.decide, hq]
      exact Registry.decideByStore_congr hrstores hoptions
    have hne : r.decide q ≠ .unsettled := hdecide ▸ hsettled q hq
    rw [hc.find_eq, Registry.find_eq_found? hne, Registry.find_eq_found? (hsettled q hq), hdecide]

/-- A name of padded characters stores texts and single characters, and lists of neither. -/
theorem find_of_isNamed_of_padded :
    ∃ c : Catalog, c.ReachableBy IsLowerName ∧ c.registry.isNamed "bpchar" = true ∧
      (∃ m, (c.find { store := some "bpchar", host := some (.scalar .string) }).1 = some m ∧
        m.hostType = .scalar .string ∧ m.storeType = "bpchar") ∧
      (∃ m, (c.find { store := some "bpchar", host := some (.scalar .char) }).1 = some m ∧
        m.hostType = .scalar .char ∧ m.storeType = "character(1)") ∧
      ¬ ∃ m, (c.find { store := some "bpchar", host := some (.list (.scalar .char)) }).1 = some m := by
  let c : Catalog := { registry := .builtin {} }
  have hc : c.ReachableBy IsLowerName := reachableBy_builtin
  have hruns : c.registry.isNamed "bpchar" = true ∧
      (c.registry.named "bpchar").map (·.hostType) = [.scalar .string] := by
    decide +kernel
  obtain ⟨hname, hhosts⟩ := hruns
  have hstored : ∀ host,
      (∃ d ∈ c.registry.named "bpchar", d.hostType = host) ↔ host = .scalar .string := by
    intro host
    rw [← List.mem_map, hhosts, List.mem_singleton]
  obtain ⟨hiff, hanswer, -⟩ := find_of_isNamed hc hname
  obtain ⟨m, hm⟩ := (hiff (.scalar .string)).2 (.inl ((hstored _).2 rfl))
  obtain ⟨m', hm'⟩ := (hiff (.scalar .char)).2 (.inr (.inr ⟨rfl, by decide⟩))
  refine ⟨c, hc, hname, ⟨m, hm, hanswer _ m hm⟩, ⟨m', hm', hanswer _ m' hm'⟩, ?_⟩
  rw [hiff, hstored]
  decide

end Catalog

end SqlBridge
