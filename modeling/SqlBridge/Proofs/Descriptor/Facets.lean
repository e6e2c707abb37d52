import SqlBridge.Proofs.Descriptor.Content
import SqlBridge.Proofs.Descriptor.Reread
import SqlBridge.Proofs.Registry.Closure

/-!
# Changes of modifiers

Modifiers that a descriptor is given take the place of all that it had before. An array patches what it says
of its element and keeps the rest, and comes out as the array that would be made over the element with the
same modifiers.
-/

namespace SqlBridge

namespace Descriptor

variable {d element : Descriptor}

/-- Of any number of changes only the last one counts. -/
lemma withFacets_foldl (d : Descriptor) (fs : List Facets) (g : Facets) :
    (fs.foldl (fun d f => d.withFacets f) d).withFacets g = d.withFacets g := by
  induction fs generalizing d with
  | nil => rfl
  | cons f fs ih => rw [List.foldl_cons, ih, withFacets_withFacets]

/-! ## Descriptors that are built -/

/-- The descriptor is made by the constructors, and the modifiers may have been changed at any time. The host
type, fixed length and switches are only changed before a leaf is built into a container. -/
inductive Built : Descriptor → Prop
  | scalar (storeType : String) (host : HostType) (dbType : DbType) :
    Built (ofScalar storeType host dbType)
  | enumeration (storeType hostName : String) (labels : List (String × String)) :
    Built (ofLabels storeType hostName labels)
  | array {element d : Descriptor} {host : Option HostType} {nullable : Bool} : Built element →
    element.arrayOf host nullable = .ok d → Built d
  | range (storeType : String) {subtype : Descriptor} : Built subtype →
    Built (rangeOver storeType subtype)
  | multirange {storeType : String} {inner d : Descriptor} : Built inner →
    multirangeOver storeType inner = .ok d → Built d
  | withFacets {d : Descriptor} (f : Facets) : Built d → Built (d.withFacets f)
  | withElementNullable {d : Descriptor} (nullable : Bool) : Built d →
    Built (d.withElementNullable nullable)
  | withHostType {s : Signature} (host : HostType) : Built (.scalar s) →
    Built ((Descriptor.scalar s).withHostType host)
  | withFixedLength {d : Descriptor} : Built d → d.isLeaf = true → Built d.withFixedLength
  | withLiterals {d : Descriptor} (o : LiteralOptions) : Built d → d.isLeaf = true →
    Built (d.withLiterals o)

lemma element?_of_isLeaf (h : d.isLeaf = true) : d.element? = none := by
  cases d with
  | scalar _ | enumeration _ _ => rfl
  | array _ _ _ | range _ _ | multirange _ _ => cases h

lemma element?_mapSignature (f : Signature → Signature) (d : Descriptor) :
    (d.mapSignature f).element? = d.element? := by
  cases d <;> rfl

/-- A leaf stays coherent as long as its modifiers are folded into its name. -/
lemma IsCoherent.mapSignature {f : Signature → Signature} (h : d.IsCoherent) (hleaf : d.isLeaf = true)
    (hf : ∀ s : Signature, s.IsFolded → (f s).IsFolded) : (d.mapSignature f).IsCoherent := by
  cases h with
  | scalar hs => exact .scalar (hf _ hs)
  | enumeration hs => exact .enumeration (hf _ hs)
  | array _ _ | range _ _ | multirange _ _ => cases hleaf

lemma Built.isCoherent (h : d.Built) : d.IsCoherent := by
  induction h with
  | scalar storeType host dbType => exact .scalar (Signature.isFolded_of_facets rfl rfl)
  | enumeration storeType hostName labels => exact .enumeration (Signature.isFolded_of_facets rfl rfl)
  | array _ ha ih => exact ih.arrayOf ha
  | range storeType _ ih => exact ih.rangeOver storeType
  | multirange _ hm ih => exact ih.multirangeOver hm
  | withFacets f _ ih => exact ih.withFacets f
  | withElementNullable nullable _ ih => exact ih.withElementNullable nullable
  | withHostType host _ ih => exact ih.withHostType host
  | withFixedLength _ hleaf ih => exact ih.mapSignature hleaf fun _ hs => hs
  | withLiterals o _ hleaf ih => exact ih.mapSignature hleaf fun _ hs => hs

/-- An array has the switches of its element. -/
lemma Built.literals_eq (h : d.Built) (he : d.element? = some element) : d.literals = element.literals := by
  induction h generalizing element with
  | scalar _ _ _ | enumeration _ _ _ | range _ _ | withHostType _ _ => cases he
  | @array e a host nullable _ ha =>
    rw [(hostType_of_arrayOf ha).1] at he
    cases he
    rw [Descriptor.arrayOf, if_neg (Bool.eq_false_iff.1 (arrayOf_ok ha).1)] at ha
    cases ha
    rfl
  | @multirange storeType inner m _ hm =>
    cases inner with
    | range s subtype =>
      cases hm
      cases he
    | scalar _ | enumeration _ _ | array _ _ _ | multirange _ _ => cases hm
  | @withFacets d f _ ih =>
    cases d with
    | array s e nullable =>
      cases he
      rw [literals_withFacets, literals_withFacets]
      exact ih rfl
    | scalar _ | enumeration _ _ | range _ _ | multirange _ _ => cases he
  | @withElementNullable d nullable _ ih =>
    cases d with
    | array s e nullable' => exact ih he
    | scalar _ | enumeration _ _ | range _ _ | multirange _ _ => cases he
  | withFixedLength _ hleaf =>
    rw [Descriptor.withFixedLength, element?_mapSignature, element?_of_isLeaf hleaf] at he
    cases he
  | withLiterals o _ hleaf =>
    rw [Descriptor.withLiterals, element?_mapSignature, element?_of_isLeaf hleaf] at he
    cases he

/-- A coherent descriptor is as it would be with the modifiers that it has. -/
lemma IsCoherent.withFacets_facets (h : d.IsCoherent) : d.withFacets d.facets = d := by
  induction h with
  | @scalar s hs => exact congrArg (fun text => Descriptor.scalar { s with storeType := text }) hs.symm
  | @enumeration s labels hs =>
    exact congrArg (fun text => Descriptor.enumeration { s with storeType := text } labels) hs.symm
  | @array s e nullable hs _ ih =>
    have he : e.withFacets s.facets = e := by
      rw [hs.facets]
      exact ih
    show (Descriptor.array s e nullable).withFacets s.facets = _
    rw [Descriptor.withFacets, he, ← hs.storeType, ← hs.facets]
  | range _ _ _ => rfl
  | multirange _ _ _ => rfl

/-- The array over an element with other modifiers is the array with these. -/
lemma arrayOf_withFacets {s : Signature} (h : s.IsArrayOf element) (hliterals : s.literals = element.literals)
    (nullable : Bool) (g : Facets) :
    (element.withFacets g).arrayOf (some s.hostType) nullable =
      .ok ((array s element nullable).withFacets g) := by
  have hflat : ¬ (element.withFacets g).isArray = true := by
    rw [isArray_withFacets, h.flat]
    exact Bool.false_ne_true
  rw [Descriptor.arrayOf, if_neg hflat, baseStoreType_withFacets, dbType_withFacets, literals_withFacets,
    ← h.baseStoreType, ← h.dbType, ← hliterals]
  rfl

/-- Modifiers overwrite and never stack: after any changes of modifiers those that come last are the only
ones, and a descriptor is the one with the modifiers that it has. An array with other modifiers is the array
over the element with these, for the same host type and with elements that may be null or not as before. -/
theorem Built.withFacets_overwrites (h : d.Built) (g : Facets) :
    (∀ fs : List Facets, (fs.foldl (fun d f => d.withFacets f) d).withFacets g = d.withFacets g) ∧
      d.withFacets d.facets = d ∧
      ∀ s element nullable, d = .array s element nullable →
        (element.withFacets g).arrayOf (some d.hostType) nullable = .ok (d.withFacets g) := by
  refine ⟨fun fs => withFacets_foldl d fs g, h.isCoherent.withFacets_facets, ?_⟩
  rintro s element nullable rfl
  have hcoherent := h.isCoherent
  cases hcoherent with
  | array hs _ => exact arrayOf_withFacets hs (h.literals_eq rfl) nullable g

/-- An array of texts of ten characters that is given twenty and then as many as there may be. -/
theorem Built.withFacets_overwrites_of_texts :
    let text := ofScalar "varchar" (.scalar .string) (.plain .varchar)
    ∃ a, (text.withFacets { size := some 10 }).arrayOf none true = .ok a ∧ a.Built ∧
      ((a.withFacets { size := some 20 }).withFacets {}).storeType = "varchar[]" ∧
      text.arrayOf (some a.hostType) true = .ok (a.withFacets {}) := by
  intro text
  have hbuilt : ∀ a, (text.withFacets { size := some 10 }).arrayOf none true = .ok a → a.Built :=
    fun a ha => .array ((Built.scalar _ _ _).withFacets _) ha
  refine ⟨_, rfl, hbuilt _ rfl, ?_, ?_⟩
  · have hlast := (withFacets_overwrites (hbuilt _ rfl) {}).1 [{ size := some 20 }]
    exact (congrArg storeType hlast).trans (by decide)
  · exact (withFacets_overwrites (hbuilt _ rfl) {}).2.2 _ _ _ rfl

/-! ## Descriptors of catalogs -/

lemma closed_built (o : MappingOptions) : Closed o Built where
  scalar f name host _ _ _ := by
    have hplain := (Built.scalar name (.scalar host) (.plain f.tag)).withLiterals o.literals rfl
    obtain ⟨names, hosts, tag, fixedLength⟩ := f
    cases fixedLength with
    | false => exact hplain
    | true => exact hplain.withFixedLength rfl
  character :=
    ((Built.scalar "character" (.scalar .char) (.plain .char)).withLiterals o.literals rfl).withFacets _
  enumeration d := (Built.enumeration _ _ _).withLiterals _ rfl
  withFacets f h := h.withFacets f
  withHostType host h := h.withHostType host
  withElementNullable nullable h := h.withElementNullable nullable
  arrayOf h ha := h.array ha
  rangeOver name h := h.range name
  multirangeOver h hm := h.multirange hm

end Descriptor

/-- All that a catalog gives out is built. -/
theorem Catalog.Offers.built {c : Catalog} {d : Descriptor} (hd : c.Offers d) (hc : c.Reachable) : d.Built :=
  hd.of_closed (Descriptor.closed_built _) hc

end SqlBridge
