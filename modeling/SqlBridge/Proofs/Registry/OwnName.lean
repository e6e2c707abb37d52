import SqlBridge.Proofs.Registry.Listing
import SqlBridge.Proofs.Registry.Reread

/-!
# Asking for a listed name

A listed name is answered by a descriptor of that name. There is one exception: a range of the user's own
goes by its name without the schema as well, and then comes before a range of that very name which was
registered later.
-/

namespace SqlBridge

namespace Registry

variable {r : Registry} {d : Descriptor} {name : String}

/-- The ranges of the user's own that were registered before the one of the name. -/
def rangesBefore (r : Registry) (name : String) : List Descriptor :=
  r.userRanges.takeWhile (·.storeType != name)

/-- The name is that of a range of the user's own, and an earlier one goes by it without its schema. -/
def IsShadowed (r : Registry) (name : String) : Prop :=
  r.IsRangeOnly name ∧ ∃ d ∈ r.rangesBefore name, unqualified d.storeType = name

lemma ne_of_mem_rangesBefore (h : d ∈ r.rangesBefore name) : d.storeType ≠ name := by
  have hne := List.mem_takeWhile_imp h
  exact bne_iff_ne.1 hne

lemma isAnswer_forStore : isAnswer (.forStore name) d = true ↔
    d.storeType = name ∨ unqualified d.storeType = name := by
  simp [isAnswer, Request.forStore]

/-- The name of a range of the user's own splits the ranges at the first one of that name. -/
lemma exists_rangesBefore (h : r.isUserRange name = true) :
    ∃ e after, r.userRanges = r.rangesBefore name ++ e :: after ∧ e.storeType = name := by
  obtain ⟨d, hd, hstore⟩ := List.mem_map.1 (isUserRange_iff.1 h)
  cases hrest : r.userRanges.dropWhile (·.storeType != name) with
  | nil =>
    have hne := List.dropWhile_eq_nil_iff.1 hrest d hd
    exact absurd hstore (bne_iff_ne.1 hne)
  | cons e after =>
    have hsplit := List.takeWhile_append_dropWhile (p := (·.storeType != name)) (l := r.userRanges)
    rw [hrest] at hsplit
    have hhead := List.head?_dropWhile_not (·.storeType != name) r.userRanges
    rw [hrest] at hhead
    exact ⟨e, after, hsplit.symm, by simpa using hhead⟩

/-- Among the ranges of the user's own, a name is answered by the first that goes by it. -/
lemma userRange?_forStore (h : r.IsRangeOnly name) :
    ∃ m, r.userRange? (.forStore name) = some m ∧ (m.storeType = name ↔ ¬ r.IsShadowed name) ∧
      (r.IsShadowed name → m ∈ r.rangesBefore name ∧ unqualified m.storeType = name) := by
  obtain ⟨e, after, hranges, he⟩ := exists_rangesBefore h.1
  have hself : isAnswer (.forStore name) e = true := isAnswer_forStore.2 (.inl he)
  have hfirst : r.userRange? (.forStore name) =
      ((r.rangesBefore name).find? (isAnswer (.forStore name))).or (some e) := by
    rw [userRange?, hranges, List.find?_append, List.find?_cons_of_pos hself]
  -- an earlier range that goes by the name does so without its schema, as its full name is another one
  cases hbefore : (r.rangesBefore name).find? (isAnswer (.forStore name)) with
  | some m =>
    rw [hbefore, Option.some_or] at hfirst
    have hmem := List.mem_of_find?_eq_some hbefore
    have hne := ne_of_mem_rangesBefore hmem
    have hstore := (isAnswer_forStore.1 (List.find?_some hbefore)).resolve_left hne
    exact ⟨m, hfirst, iff_of_false hne (not_not_intro ⟨h, m, hmem, hstore⟩), fun _ => ⟨hmem, hstore⟩⟩
  | none =>
    rw [hbefore, Option.none_or] at hfirst
    have hnot : ¬ r.IsShadowed name := by
      rintro ⟨-, d, hd, hstore⟩
      exact List.find?_eq_none.1 hbefore d hd (isAnswer_forStore.2 (.inr hstore))
    exact ⟨e, hfirst, iff_of_true he hnot, fun hshadowed => absurd hshadowed hnot⟩

lemma ReachableBy.find_forStore_of_isNamed {admits : String → Prop} (h : r.ReachableBy admits)
    (hname : r.isNamed name = true) :
    ∃ m, r.find (.forStore name) = some m ∧ m.storeType = name := by
  obtain ⟨d, ds, hnamed⟩ := List.exists_cons_of_ne_nil (h.named_ne_nil hname)
  have hfirst : r.first? name = some d := by rw [first?, hnamed]; rfl
  exact ⟨d, findStore_of_first? hfirst, h.linked.stores (List.mem_of_head? hfirst)⟩

lemma IsUnbracketed.element?_forStore (hr : r.IsUnbracketed) (hname : name ∈ r.names) :
    Request.element? (.forStore name) = none := by
  simp only [Request.element?, Request.forStore]
  cases helement : Request.elementName? name with
  | none => rfl
  | some element =>
    rw [StoreType.eq_of_elementName? helement] at hname
    refine absurd ?_ (hr _ hname)
    rw [String.toList_append]
    exact List.suffix_append _ _

lemma ReachableBy.find_forStore_of_isRangeOnly (h : r.ReachableBy IsLowerName)
    (hname : r.IsRangeOnly name) : r.find (.forStore name) = r.userRange? (.forStore name) := by
  have hlisted : name ∈ r.names := mem_names_iff.2 (.inr hname.1)
  have hclean := h.isClean_of_mem_names hlisted
  -- the name is its own base name, in small letters and without brackets, so that nothing else applies
  have hbyName : r.byName name none = .unsettled := by
    apply byName_of_isNamed_eq_false hname.2
    rw [Text.lower_eq hclean.2.2, hname.2]
  have hunsettled : r.decide (.forStore name) = .unsettled := by
    apply decideByStore_of_unsettled (asksForCharacter_forStore name name) hbyName
    rw [StoreType.parse_of_not_mem hclean.1]
    exact hbyName
  have hnone := h.isUnbracketed_of_isLowerName.element?_forStore hlisted
  rw [find_of_unsettled hunsettled, hnone, Option.bind_none, settle, Option.bind_none]
  rfl

/-- Every listed name is answered, by a descriptor of that name or by an earlier range that goes by it. -/
theorem ReachableBy.find_forStore (h : r.ReachableBy IsLowerName) (hname : name ∈ r.names) :
    ∃ m, r.find (.forStore name) = some m ∧ (m.storeType = name ↔ ¬ r.IsShadowed name) ∧
      (r.IsShadowed name → m ∈ r.rangesBefore name ∧ unqualified m.storeType = name) := by
  cases hnamed : r.isNamed name with
  | true =>
    have hnot : ¬ r.IsShadowed name := by
      rintro ⟨⟨-, hfree⟩, -⟩
      rw [hnamed] at hfree
      cases hfree
    obtain ⟨m, hm, hstore⟩ := h.find_forStore_of_isNamed hnamed
    exact ⟨m, hm, iff_of_true hstore hnot, fun hshadowed => absurd hshadowed hnot⟩
  | false =>
    have honly : r.IsRangeOnly name := (isRangeOnly_iff hname).2 hnamed
    rw [h.find_forStore_of_isRangeOnly honly]
    exact userRange?_forStore honly

end Registry

namespace Catalog

/-- The user's own types have plain names in small letters. Then every listed name is answered: by a
descriptor of that name, unless the name is that of a range before which another one was registered that
goes by the name without its schema. Such an earlier range is the answer then. -/
theorem find_ownName {c : Catalog} (hc : c.ReachableBy IsLowerName) {name : String}
    (hname : name ∈ c.registry.names) :
    ∃ m, (c.find (.forStore name)).1 = some m ∧
      (m.storeType = name ↔ ¬ c.registry.IsShadowed name) ∧
      (c.registry.IsShadowed name →
        m ∈ c.registry.rangesBefore name ∧ Registry.unqualified m.storeType = name) := by
  rw [hc.find_eq]
  exact hc.spec.2.find_forStore hname

/-- A range comes before one that goes by its name in a schema, and each answers to its own name. -/
theorem find_ownName_of_floatranges :
    ∃ c : Catalog, c.ReachableBy IsLowerName ∧ ∀ name ∈ ["floatrange", "app.floatrange"],
      name ∈ c.registry.names ∧ ∃ m, (c.find (.forStore name)).1 = some m ∧ m.storeType = name := by
  let plain : RangeDefinition := { name := "floatrange", subtype := .scalar .float32 }
  let qualified : RangeDefinition :=
    { name := "floatrange", schema := some "app", subtype := .scalar .float64 }
  let c : Catalog := (registerRange (registerRange { registry := .builtin {} } plain).2 qualified).2
  have hplain : ∀ c ∈ plain.qualifiedName.toList, isLowerNameChar c = true :=
    List.all_eq_true.1 (by decide +kernel)
  have hqualified : ∀ c ∈ qualified.qualifiedName.toList, isLowerNameChar c = true :=
    List.all_eq_true.1 (by decide +kernel)
  have hc : c.ReachableBy IsLowerName := .range (.range reachableBy_builtin hplain) hqualified
  have hruns : ∀ name ∈ ["floatrange", "app.floatrange"], name ∈ c.registry.names ∧
      ∀ d ∈ c.registry.rangesBefore name, Registry.unqualified d.storeType ≠ name := by
    decide +kernel
  refine ⟨c, hc, fun name hname => ?_⟩
  obtain ⟨hlisted, hbefore⟩ := hruns name hname
  obtain ⟨m, hm, hown, -⟩ := find_ownName hc hlisted
  refine ⟨hlisted, m, hm, hown.2 ?_⟩
  rintro ⟨-, d, hd, hstore⟩
  exact hbefore d hd hstore

/-- The other way around, the range in the schema answers to both names. -/
theorem find_otherName :
    ∃ c : Catalog, c.ReachableBy IsLowerName ∧ "floatrange" ∈ c.registry.names ∧
      ∃ m, (c.find (.forStore "floatrange")).1 = some m ∧ m.storeType = "app.floatrange" := by
  let plain : RangeDefinition := { name := "floatrange", subtype := .scalar .float32 }
  let qualified : RangeDefinition :=
    { name := "floatrange", schema := some "app", subtype := .scalar .float64 }
  let c : Catalog := (registerRange (registerRange { registry := .builtin {} } qualified).2 plain).2
  have hplain : ∀ c ∈ plain.qualifiedName.toList, isLowerNameChar c = true :=
    List.all_eq_true.1 (by decide +kernel)
  have hqualified : ∀ c ∈ qualified.qualifiedName.toList, isLowerNameChar c = true :=
    List.all_eq_true.1 (by decide +kernel)
  have hc : c.ReachableBy IsLowerName := .range (.range reachableBy_builtin hqualified) hplain
  have hruns : "floatrange" ∈ c.registry.names ∧
      (c.find (.forStore "floatrange")).1.map Descriptor.storeType = some "app.floatrange" := by
    decide +kernel
  obtain ⟨hlisted, hfind⟩ := hruns
  obtain ⟨m, hm, hstore⟩ := Option.map_eq_some_iff.1 hfind
  exact ⟨c, hc, hlisted, m, hm, hstore⟩

end Catalog

end SqlBridge
