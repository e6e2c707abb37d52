import SqlBridge.Proofs.Registry.HostType
import SqlBridge.Proofs.Registry.Offers

/-!
# Properties of all descriptors of a catalog

A property that the built-in scalars have, and that is kept by every way of making a descriptor of others
and of changing one, holds of all that a reachable catalog gives out.
-/

namespace SqlBridge

/-- The property holds of the built-in scalars and of enumerations, and what is made of descriptors that
have it has it too. Host types are only changed for scalars. -/
structure Descriptor.Closed (o : MappingOptions) (P : Descriptor → Prop) : Prop where
  scalar (f : Builtin.Family) (name : String) (host : Scalar) :
    f ∈ Builtin.families o.legacyTimestamps → name ∈ f.names → host ∈ f.hosts →
    P (f.descriptor o.literals name host)
  character : P (Builtin.singleCharacter o.literals)
  enumeration (d : EnumDefinition) :
    P ((ofLabels d.qualifiedName d.hostTypeName d.labels).withLiterals o.literals)
  withFacets {d : Descriptor} (f : Facets) : P d → P (d.withFacets f)
  withHostType {s : Signature} (host : HostType) : P (.scalar s) →
    P ((Descriptor.scalar s).withHostType host)
  withElementNullable {d : Descriptor} (nullable : Bool) : P d → P (d.withElementNullable nullable)
  arrayOf {d a : Descriptor} {host : Option HostType} {nullable : Bool} : P d →
    d.arrayOf host nullable = .ok a → P a
  rangeOver {d : Descriptor} (name : String) : P d → P (rangeOver name d)
  multirangeOver {d m : Descriptor} {name : String} : P d → multirangeOver name d = .ok m → P m

namespace Registry

variable {admits : String → Prop} {r : Registry} {q : Request} {d e : Descriptor}
  {P : Descriptor → Prop}

/-- A name of documents has a scalar first, whose tag is one of documents. -/
lemma ReachableBy.scalar_of_document (h : r.ReachableBy admits) {name : String}
    (hfirst : r.first? name = some e) (hdoc : e.storeType ∈ Builtin.documentStores) :
    ∃ s tag, e = .scalar s ∧ s.dbType = .plain tag ∧ tag.isDocument = true := by
  rw [h.linked.stores (List.mem_of_head? hfirst), Builtin.documentStores, List.mem_pair] at hdoc
  have hleaf : ∃ s tag, (leaves r.options).first? name = some (.scalar s) ∧
      s.dbType = .plain tag ∧ tag.isDocument = true := by
    obtain ⟨legacy, writesExtremes, keySize, ranges, enums⟩ := r.options
    rcases hdoc with rfl | rfl <;> cases legacy <;> exact ⟨_, _, rfl, rfl, rfl⟩
  obtain ⟨s, tag, hs, htag⟩ := hleaf
  rw [h.first?_of_leaves hs] at hfirst
  exact ⟨s, tag, (Option.some.inj hfirst).symm, htag⟩

lemma IsAdapted.of_closed {host : Option HostType} (h : r.ReachableBy admits)
    (hP : Descriptor.Closed r.options P) (hr : ∀ e, r.IsRegistered e → P e)
    (hd : r.IsAdapted host d) : P d := by
  cases hd with
  | stored he _ => exact hr _ (h.linked.isRegistered he)
  | document hfirst hdoc _ =>
    have he := hr _ (h.linked.isRegistered_of_first? hfirst)
    obtain ⟨s, -, rfl, -⟩ := h.scalar_of_document hfirst hdoc
    exact hP.withHostType _ he

lemma IsDecided.of_closed (h : r.ReachableBy admits) (hP : Descriptor.Closed r.options P)
    (hr : ∀ e, r.IsRegistered e → P e) (hd : r.IsDecided q d) : P d := by
  rcases h.adapted_of_isDecided hd with ⟨-, rfl⟩ | ⟨e, he, rfl | ⟨f, rfl⟩⟩
  · exact hP.character
  · exact he.of_closed h hP hr
  · exact hP.withFacets f (he.of_closed h hP hr)

/-- Answers have a property that all registered descriptors have. -/
lemma find_of_closed (h : r.ReachableBy admits) (hP : Descriptor.Closed r.options P)
    (hr : ∀ e, r.IsRegistered e → P e) (hd : r.find q = some d) : P d := by
  refine find_induction (motive := fun _ d => P d) ?_ ?_ ?_ hd
  · exact fun q d hd => hd.of_closed h hP hr
  · exact fun q q' e d _ _ he hd => hP.arrayOf he (ok_of_toOption hd)
  · exact fun q d hd _ => hr d (.inr hd)

lemma ReachableBy.of_closed (h : r.ReachableBy admits) (hP : Descriptor.Closed r.options P)
    (hd : r.IsRegistered d) : P d := by
  refine h.registered (o := r.options) (P := P) ?_ ?_ ?_ ?_ rfl hd
  · exact fun f hf name hname host hhost => hP.scalar f name host hf hname hhost
  · rintro subtype d hsubtype ⟨names, -, rfl | hd⟩
    · exact hP.rangeOver _ hsubtype
    · exact hP.multirangeOver (hP.rangeOver _ hsubtype) hd
  · intro r' d ho
    have hd := hP.enumeration d
    rw [← ho] at hd
    exact hd
  · intro r' q name s hr ho hall hs
    rw [← ho] at hP
    exact hP.rangeOver _ (find_of_closed hr hP hall hs)

end Registry

namespace Catalog

/-- What a reachable catalog gives out has every closed property. -/
theorem Offers.of_closed {c : Catalog} {P : Descriptor → Prop}
    (hP : Descriptor.Closed c.registry.options P) (hc : c.Reachable) {d : Descriptor}
    (hd : c.Offers d) : P d := by
  have hr := hc.spec.2
  have hregistered : ∀ e, c.registry.IsRegistered e → P e := fun e he => hr.of_closed hP he
  have hanswer : ∀ q d, (c.find q).1 = some d → P d := by
    intro q d hd
    rw [hc.find_eq q] at hd
    exact Registry.find_of_closed hr hP hregistered hd
  induction hd with
  | registered hd => exact hregistered _ hd
  | found hd => exact hanswer _ _ hd
  | @property p m hm =>
    obtain ⟨d, hd, rfl⟩ := Option.map_eq_some_iff.1 hm
    rw [Property.mapping]
    cases d with
    | array s element nullable => exact hP.withElementNullable _ (hanswer _ _ hd)
    | _ => exact hanswer _ _ hd
  | range hd => exact hregistered _ (hr.linked.ranges (List.mem_of_find?_eq_some hd))
  | multirange hd => exact hregistered _ (hr.linked.multiranges (List.mem_of_find?_eq_some hd))
  | array _ hd ih => exact hP.arrayOf ih hd

end Catalog

end SqlBridge
