import SqlBridge.Proofs.Descriptor.Coherent
import SqlBridge.Proofs.Registry.HostType
import SqlBridge.Proofs.StoreType.Modifiers

/-!
# Descriptors with modifiers read again

What becomes of a descriptor when its modifiers are read from its store type: only they can change, and
they do not when their text tells what they are and the length is fixed as that of the store type.
-/

namespace SqlBridge.Descriptor

variable {d d' e e' m m' : Descriptor} {f g : Facets}

/-- The descriptor that the modifiers belong to: the element of an array, else the descriptor itself. -/
def leaf (d : Descriptor) : Descriptor :=
  d.element?.getD d

/-- The store type is of a fixed length by its name. -/
def hasFixedLength (d : Descriptor) : Bool :=
  [DbType.plain .char, .plain .bit].contains d.dbType

/-- The second descriptor is the first one with modifiers as the store type tells them. -/
structure IsReread (d d' : Descriptor) : Prop where
  eq : d' = d.withFacets d'.facets
  storeType : d'.storeType = d.storeType
  sameNumbers_iff : d'.facets.SameNumbers d.facets ↔ d.facets.IsSpelled d.leaf.baseStoreType
  eq_iff : d' = d ↔ d.facets.IsSpelled d.leaf.baseStoreType ∧
    d.facets.fixedLength = d.leaf.hasFixedLength

/-- A descriptor of a single name, without modifiers and of the length that the name has. -/
structure IsOwn (d : Descriptor) : Prop where
  isPlain : d.IsPlain
  facets : d.facets = { fixedLength := d.hasFixedLength }

lemma leaf_of_isArray_eq_false (h : d.isArray = false) : d.leaf = d := by
  rw [leaf, element?_of_isArray_eq_false h]
  rfl

/-! ## Changing modifiers -/

lemma literals_withFacets (d : Descriptor) (f : Facets) : (d.withFacets f).literals = d.literals := by
  cases d <;> rfl

/-- New modifiers take the place of those before. -/
lemma withFacets_withFacets (d : Descriptor) (f g : Facets) :
    (d.withFacets f).withFacets g = d.withFacets g := by
  induction d with
  | array s element nullable ih => simp only [withFacets, ih]
  | scalar _ | enumeration _ _ | range _ _ | multirange _ _ => rfl

/-- A descriptor takes no modifiers, or it has those that it is given and folds them into its name. -/
lemma withFacets_cases (harray : d.isArray = false) : (∀ f, d.withFacets f = d) ∨
    ∀ f, (d.withFacets f).facets = f ∧ (d.withFacets f).storeType = f.applyTo d.baseStoreType := by
  cases d with
  | scalar s => exact .inr fun f => ⟨rfl, rfl⟩
  | enumeration s labels => exact .inr fun f => ⟨rfl, rfl⟩
  | array s element nullable => cases harray
  | range s subtype => exact .inl fun f => rfl
  | multirange s inner => exact .inl fun f => rfl

/-! ## Modifiers of a name -/

lemma IsOwn.withHostType (h : d.IsOwn) (host : HostType) : (d.withHostType host).IsOwn := by
  obtain ⟨hplain, hfacets⟩ := h
  cases d <;> exact ⟨hplain, hfacets⟩

lemma IsOwn.withFacets_facets (h : d.IsOwn) : d.withFacets d.facets = d := by
  obtain ⟨⟨hbase, hvalues, harray⟩, -⟩ := h
  have hstore : d.facets.applyTo d.baseStoreType = d.storeType := by
    rw [Facets.applyTo_of_numbers_nil (Facets.numbers_of_values_nil hvalues), hbase]
  cases d with
  | scalar s => exact congrArg (fun text => scalar { s with storeType := text }) hstore
  | enumeration s labels =>
    exact congrArg (fun text => enumeration { s with storeType := text } labels) hstore
  | array s element nullable => cases harray
  | range s subtype => rfl
  | multirange s inner => rfl

/-- An array is read again as the array over its element read again. -/
lemma IsReread.arrayOf {host : HostType} {nullable : Bool} (h : IsReread e e')
    (hm : e.arrayOf (some host) nullable = .ok m) (hm' : e'.arrayOf (some host) nullable = .ok m') :
    IsReread m m' := by
  obtain ⟨harray, -⟩ := arrayOf_ok hm
  have harray' : ¬ e'.isArray = true := by
    rw [h.eq, isArray_withFacets, harray]
    exact Bool.false_ne_true
  have hleaf : e.leaf = e := leaf_of_isArray_eq_false harray
  have hbase : e'.baseStoreType = e.baseStoreType :=
    (congrArg baseStoreType h.eq).trans (baseStoreType_withFacets e _)
  have hdbType : e'.dbType = e.dbType := (congrArg dbType h.eq).trans (dbType_withFacets e _)
  have hliterals : e'.literals = e.literals :=
    (congrArg literals h.eq).trans (literals_withFacets e _)
  rw [Descriptor.arrayOf, if_neg (Bool.eq_false_iff.1 harray)] at hm
  rw [Descriptor.arrayOf, if_neg harray', hbase, hdbType, hliterals] at hm'
  cases hm
  cases hm'
  obtain ⟨heq, hstore, hsame, heq_iff⟩ := h
  rw [hleaf] at hsame heq_iff
  refine ⟨?_, congrArg (· ++ "[]") hstore, hsame, ?_⟩
  · -- both arrays say of their elements what this one says of a descriptor `d`
    let wrapped (d : Descriptor) : Descriptor := .array
      { storeType := d.storeType ++ "[]", baseStoreType := e.baseStoreType ++ "[]", hostType := host,
        dbType := .array e.dbType, facets := d.facets, literals := e.literals } d nullable
    exact congrArg wrapped heq
  · refine Iff.trans ⟨fun h => (array.inj h).2.1, ?_⟩ heq_iff
    rintro rfl
    rfl

end SqlBridge.Descriptor
