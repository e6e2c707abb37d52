import SqlBridge.Proofs.Registry.Arrays

/-!
# A new range only adds answers

A range of the user's own comes after everything that a registry has: it is asked last, and stands last
among the ranges over its subtype. So what was answered before is answered alike. Ranges whose names end
in brackets are left out, as an array over a later range would come before them.
-/

namespace SqlBridge

namespace Registry

variable {admits : String → Prop} {r : Registry} {q : Request} {s d : Descriptor}

lemma userRange?_addUserRange (host : HostType) (range : Descriptor) (h : r.userRange? q = some d) :
    (addUserRange host range r).userRange? q = some d := by
  show (r.userRanges ++ [range]).find? (isAnswer q) = some d
  rw [userRange?] at h
  rw [List.find?_append, h]
  rfl

/-- Answers stay when a range of the user's own is added. -/
theorem ReachableBy.find_addUserRange (h : r.ReachableBy admits)
    (hranges : ∀ d ∈ r.userRanges, ¬ "[]".toList <:+ d.storeType.toList) (host : HostType)
    (range : Descriptor) (hd : r.find q = some d) : (addUserRange host range r).find q = some d := by
  -- names and defaults do not hang on the ranges of the user's own
  have hsame : ∀ q, (addUserRange host range r).decide q = r.decide q := fun _ => rfl
  induction q using find.induct r generalizing d with
  | case1 q e hdecide =>
    have hfound : (r.decide q).found? = some e := congrArg Decision.found? hdecide
    rw [find_of_found hfound] at hd
    rw [← hd]
    exact find_of_found (r := addUserRange host range r) hfound
  | case2 q hdecide =>
    rw [find, hdecide] at hd
    cases hd
  | case3 q hdecide q' hq' ih =>
    rw [find_of_unsettled hdecide, hq', Option.bind_some] at hd
    rw [find_of_unsettled ((hsame q).trans hdecide), hq', Option.bind_some]
    rcases of_settle hd with ⟨e, he, harray⟩ | hrange
    · rw [settle, ih he, Option.bind_some, harray]
      rfl
    · -- the names of ranges do not end in brackets, so that no range answers beside an array
      rw [userRange?_of_element? h hranges hq'] at hrange
      cases hrange
  | case4 q hdecide hq' =>
    rw [find_of_unsettled hdecide, hq', Option.bind_none] at hd
    rw [find_of_unsettled ((hsame q).trans hdecide), hq', Option.bind_none]
    rcases of_settle hd with ⟨e, he, -⟩ | hrange
    · cases he
    · exact userRange?_addUserRange host range hrange

/-- The first range over a descriptor stays the first one. -/
lemma findRange_addUserRange (host : HostType) (range : Descriptor) (h : r.findRange s = some d) :
    (addUserRange host range r).findRange s = some d := by
  show (Entries.all s.hostType (Entries.push host range r.ranges)).find? (isOver s) = some d
  rw [findRange] at h
  rw [Entries.all_push]
  split
  · rw [List.find?_append, h]
    rfl
  · exact h

end Registry

namespace Catalog

/-- What a catalog answers before a range of the user's own is registered it answers alike afterwards:
requests, and questions for the range or multirange over a descriptor. Of the ranges that are there
already, no name ends in brackets. -/
theorem answers_of_registerRange {c c' : Catalog} (hc : c.Reachable)
    (hranges : ∀ range ∈ c.registry.userRanges, ¬ "[]".toList <:+ range.storeType.toList)
    {d : RangeDefinition} {e : Descriptor} (h : c.registerRange d = (.ok e, c')) :
    (∀ q m, (c.find q).1 = some m → (c'.find q).1 = some m) ∧
      (∀ s m, c.registry.findRange s = some m → c'.registry.findRange s = some m) ∧
      ∀ s m, c.registry.findMultirange s = some m → c'.registry.findMultirange s = some m := by
  obtain ⟨hsound, hr⟩ := hc.spec
  obtain ⟨hanswer, hregistry, hsound'⟩ := agrees_registerRange hsound d
  rw [h] at hanswer hregistry hsound'
  have hd := Registry.ok_of_commit hanswer.symm
  obtain ⟨s, -, -, he⟩ := Registry.registerRange_ok hd
  rw [he] at hregistry
  refine ⟨?_, ?_, ?_⟩
  · intro q m hm
    rw [hc.find_eq] at hm
    rw [(find_spec hsound' q).1, hregistry]
    exact hr.find_addUserRange hranges _ _ hm
  · intro s m hm
    rw [hregistry]
    exact Registry.findRange_addUserRange _ _ hm
  · intro s m hm
    rw [hregistry]
    exact hm

/-- Two ranges over one subtype, of which the earlier one goes by the name of the later one as well. -/
theorem answers_of_registerRange_of_floatranges :
    let floatrange : RangeDefinition := { name := "floatrange", subtype := .scalar .float64 }
    let requests : List Request :=
      [.forStore "floatrange", .forStore "floatrange[]", .forHost (.range (.scalar .float64))]
    ∃ c c' : Catalog, c.Reachable ∧ "app.floatrange" ∈ c.registry.names ∧
      (∀ range ∈ c.registry.userRanges, ¬ "[]".toList <:+ range.storeType.toList) ∧
      (∃ e, c.registerRange floatrange = (.ok e, c')) ∧
      (∀ q ∈ requests, ∃ m, (c.find q).1 = some m ∧ (c'.find q).1 = some m) ∧
      ∃ s m, c.registry.findRange s = some m ∧ c'.registry.findRange s = some m := by
  intro floatrange requests
  let c : Catalog := (registerRange { registry := .builtin {} } { floatrange with schema := "app" }).2
  have hc : c.Reachable := .range reachableBy_builtin trivial
  have hruns : (("app.floatrange" ∈ c.registry.names ∧
      ∀ range ∈ c.registry.userRanges, ¬ "[]".toList <:+ range.storeType.toList) ∧
      (c.registerRange floatrange).1.toOption.isSome = true) ∧
      (∀ q ∈ requests, (c.find q).1.isSome = true) ∧
      ((c.find (.forStore "double precision")).1.bind c.registry.findRange).isSome = true := by
    decide +kernel
  obtain ⟨⟨⟨hname, hranges⟩, hsome⟩, hfound, hover⟩ := hruns
  obtain ⟨e, he⟩ := Option.isSome_iff_exists.1 hsome
  obtain ⟨m, hm⟩ := Option.isSome_iff_exists.1 hover
  obtain ⟨s, -, hm⟩ := Option.bind_eq_some_iff.1 hm
  cases hd : c.registerRange floatrange with
  | mk result c' =>
    rw [hd] at he
    obtain rfl := ok_of_toOption he
    obtain ⟨hfind, hrange, -⟩ := answers_of_registerRange hc hranges hd
    refine ⟨c, c', hc, hname, hranges, ⟨e, hd⟩, ?_, s, m, hm, hrange s m hm⟩
    intro q hq
    obtain ⟨m, hm⟩ := Option.isSome_iff_exists.1 (hfound q hq)
    exact ⟨m, hm, hfind q m hm⟩

/-- A range whose name ends in brackets gives way to the arrays over a later range. -/
example :
    let c : Catalog := (registerRange { registry := .builtin {} }
      { name := "span[]", subtype := .scalar .string }).2
    let c' : Catalog := (c.registerRange { name := "span", subtype := .scalar .string }).2
    (c.find (.forStore "span[]")).1.map Descriptor.isArray = some false ∧
      (c'.find (.forStore "span[]")).1.map Descriptor.isArray = some true := by
  decide +kernel

end Catalog

end SqlBridge
