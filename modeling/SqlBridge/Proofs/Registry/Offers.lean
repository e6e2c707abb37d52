import SqlBridge.Proofs.Registry.StoreName
import SqlBridge.Proofs.Sql.Number

/-!
# Store types in SQL

The descriptors that a catalog gives out. Their store types stand in casts as they are; none of them has a
quote, a semicolon or the start of a comment in it, when the user's own types have plain names.
-/

namespace SqlBridge

open Sql

/-- A character of plain names: letters, digits and the like, and the point behind a schema's name. -/
def isNameChar (c : Char) : Bool :=
  c.isAlphanum || c == '_' || c == '$' || c == '.' || decide (128 ≤ c.toNat)

/-- A plain identifier, or one behind the name of its schema. -/
def IsPlainName (name : String) : Prop :=
  ∀ c ∈ name.toList, isNameChar c = true

/-! ## Quiet texts -/

lemma IsPlainName.isQuiet {name : String} (h : IsPlainName name) : IsQuiet name := by
  intro c hc
  exact isQuietChar_of_class (p := isNameChar) (by decide) (h c hc)

lemma isQuiet_modifier (f : Facets) : IsQuiet f.modifier := by
  rw [Facets.modifier]
  split
  · decide
  · rename_i ns _
    have hopen : IsQuiet "(" := by decide
    have hcomma : IsQuiet "," := by decide
    have hclose : IsQuiet ")" := by decide
    refine IsQuiet.append (hopen.append (hcomma.intercalate fun s hs => ?_)) hclose
    obtain ⟨n, -, rfl⟩ := List.mem_map.1 hs
    exact isQuiet_toString _

lemma Sql.IsQuiet.applyTo {name : String} (h : IsQuiet name) (f : Facets) : IsQuiet (f.applyTo name) := by
  rw [Facets.applyTo]
  by_cases hz : Facets.isZoned name = true
  · rw [if_pos hz]
    refine IsQuiet.append (IsQuiet.append ?_ (isQuiet_modifier f)) ?_
    · intro c hc
      rw [String.toList_ofList] at hc
      exact h c ((List.takeWhile_sublist _).subset hc)
    · intro c hc
      rw [String.toList_ofList] at hc
      exact h c ((List.dropWhile_sublist _).subset hc)
  · rw [if_neg hz]
    exact h.append (isQuiet_modifier f)

lemma isQuiet_of_mem_builtinNames {name : String} (h : name ∈ Registry.builtinNames) :
    IsQuiet name := by
  have hall : ∀ name ∈ Registry.builtinNames, IsQuiet name := by
    decide +kernel
  exact hall name h

/-! ## Registered names -/

namespace Registry

variable {r : Registry} {d : Descriptor}

lemma ReachableBy.isQuiet_of_mem_names (h : r.ReachableBy IsPlainName) {name : String}
    (hmem : name ∈ r.names) : IsQuiet name := by
  rcases h.names_spec.2 name hmem with hbuiltin | hplain
  · exact isQuiet_of_mem_builtinNames hbuiltin
  · exact hplain.isQuiet

lemma ReachableBy.isQuiet_of_isRegistered (h : r.ReachableBy IsPlainName) (hd : r.IsRegistered d) :
    IsQuiet d.storeType :=
  h.isQuiet_of_mem_names hd.mem_names

lemma ReachableBy.isQuiet_of_find (h : r.ReachableBy IsPlainName) {q : Request}
    (hd : r.find q = some d) : IsQuiet d.storeType := by
  obtain ⟨name, hmem, hstore, -, -⟩ := names_of_find h hd
  have hbrackets : IsQuiet d.brackets := by
    rw [Descriptor.brackets]
    cases d.isArray <;> decide
  rw [hstore]
  exact ((h.isQuiet_of_mem_names hmem).applyTo _).append hbrackets

end Registry

/-! ## Descriptors that are given out -/

namespace Catalog

/-- The descriptors that a catalog gives out: those that are registered, the answers for requests and for
properties, the containers over a descriptor, and arrays of any of them. -/
inductive Offers (c : Catalog) : Descriptor → Prop
  | registered {d : Descriptor} : c.registry.IsRegistered d → Offers c d
  | found {q : Request} {d : Descriptor} : (c.find q).1 = some d → Offers c d
  | property {p : Property} {m : PropertyMapping} : (c.findProperty p).1 = some m →
    Offers c m.descriptor
  | range {subtype d : Descriptor} : c.registry.findRange subtype = some d → Offers c d
  | multirange {subtype d : Descriptor} : c.registry.findMultirange subtype = some d → Offers c d
  | array {element d : Descriptor} {host : Option HostType} {nullable : Bool} : Offers c element →
    element.arrayOf host nullable = .ok d → Offers c d

/-- What a catalog gives out goes by quiet store types, when the user's own types have plain names. -/
theorem Offers.isQuiet {c : Catalog} {d : Descriptor} (hd : c.Offers d)
    (hc : c.ReachableBy IsPlainName) : IsQuiet d.storeType := by
  have hr := hc.spec.2
  induction hd with
  | registered hd => exact hr.isQuiet_of_isRegistered hd
  | @found q d hd =>
    rw [hc.find_eq q] at hd
    exact hr.isQuiet_of_find hd
  | @property p m hm =>
    obtain ⟨d, hd, rfl⟩ := Option.map_eq_some_iff.1 hm
    have hquiet := hr.isQuiet_of_find (hc.find_eq p.request ▸ hd)
    rw [Property.mapping]
    cases d <;> exact hquiet
  | range hd => exact hr.isQuiet_of_isRegistered (hr.linked.ranges (List.mem_of_find?_eq_some hd))
  | multirange hd =>
    exact hr.isQuiet_of_isRegistered (hr.linked.multiranges (List.mem_of_find?_eq_some hd))
  | array _ hd ih =>
    obtain ⟨-, -, hstore, -, -⟩ := Descriptor.arrayOf_ok hd
    have hbrackets : IsQuiet "[]" := by decide
    rw [hstore]
    exact ih.append hbrackets

end Catalog

end SqlBridge
