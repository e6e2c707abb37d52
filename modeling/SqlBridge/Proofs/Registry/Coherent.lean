import SqlBridge.Proofs.Descriptor.Coherent
import SqlBridge.Proofs.Registry.Closure

/-!
# Coherence of what a catalog gives out

The built-in scalars are coherent, and every enumeration, range and answer is made of coherent descriptors in a
way that keeps them so.
-/

namespace SqlBridge

namespace Registry

variable {admits : String → Prop} {r : Registry} {q : Request} {d e : Descriptor}

/-- All registered descriptors are coherent. -/
def IsCoherent (r : Registry) : Prop :=
  ∀ d, r.IsRegistered d → d.IsCoherent

lemma closed_isCoherent (o : MappingOptions) : Descriptor.Closed o Descriptor.IsCoherent where
  scalar _ _ _ _ _ _ := .scalar (Signature.isFolded_of_facets rfl rfl)
  character := .scalar rfl
  enumeration _ := .enumeration (Signature.isFolded_of_facets rfl rfl)
  withFacets f h := h.withFacets f
  withHostType host h := h.withHostType host
  withElementNullable nullable h := h.withElementNullable nullable
  arrayOf h ha := h.arrayOf ha
  rangeOver name h := h.rangeOver name
  multirangeOver h hm := h.multirangeOver hm

lemma isCoherent_of_find (h : r.ReachableBy admits) (hr : r.IsCoherent) (hd : r.find q = some d) :
    d.IsCoherent :=
  find_of_closed h (closed_isCoherent _) hr hd

/-- All that is registered is coherent. -/
theorem ReachableBy.isCoherent (h : r.ReachableBy admits) : r.IsCoherent :=
  fun _ hd => h.of_closed (closed_isCoherent _) hd

end Registry

namespace Catalog

/-- What a catalog gives out is coherent, and so is every descriptor inside it. -/
theorem Offers.coherent {c : Catalog} {d : Descriptor} (hd : c.Offers d) (hc : c.Reachable) :
    d.IsCoherent := by
  have hr := hc.spec.2
  induction hd with
  | registered hd => exact hr.isCoherent _ hd
  | @found q d hd =>
    rw [hc.find_eq q] at hd
    exact Registry.isCoherent_of_find hr hr.isCoherent hd
  | @property p m hm =>
    obtain ⟨d, hd, rfl⟩ := Option.map_eq_some_iff.1 hm
    have hcoherent := Registry.isCoherent_of_find hr hr.isCoherent (hc.find_eq p.request ▸ hd)
    rw [Property.mapping]
    cases d with
    | array s element nullable => exact hcoherent.withElementNullable _
    | _ => exact hcoherent
  | range hd => exact hr.isCoherent _ (hr.linked.ranges (List.mem_of_find?_eq_some hd))
  | multirange hd => exact hr.isCoherent _ (hr.linked.multiranges (List.mem_of_find?_eq_some hd))
  | array _ hd ih => exact ih.arrayOf hd

/-- Multiranges in an array, with the ranges and the boundary values inside them. -/
theorem Offers.coherent_of_multiranges :
    ∃ c : Catalog, c.Reachable ∧ ∃ d, c.Offers d ∧ d.storeType = "nummultirange[]" ∧
      (d.element?.bind Descriptor.subtype?).map (·.storeType) = some "numeric" ∧ d.IsCoherent := by
  have hc : Reachable { registry := .builtin {} } := reachableBy_builtin
  have hfind : (Catalog.find { registry := .builtin {} } (.forStore "nummultirange[]")).1.map
      (fun d => (d.storeType, (d.element?.bind Descriptor.subtype?).map (·.storeType)))
        = some ("nummultirange[]", some "numeric") := by
    decide +kernel
  obtain ⟨d, hd, hpair⟩ := Option.map_eq_some_iff.1 hfind
  obtain ⟨hstore, hsubtype⟩ := Prod.mk.inj hpair
  have hoffers : Offers _ d := .found hd
  exact ⟨_, hc, d, hoffers, hstore, hsubtype, hoffers.coherent hc⟩

end Catalog

end SqlBridge
