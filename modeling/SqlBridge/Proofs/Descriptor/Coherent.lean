import SqlBridge.Proofs.StoreType.Naming

/-!
# Coherent descriptors

What a descriptor says of its store type more than once, it says alike: in the name with and without
modifiers, in its host and wire types, and in the descriptors inside it. Every way of making a descriptor
of coherent ones and of changing one keeps it coherent.
-/

namespace SqlBridge

namespace Signature

/-- The modifiers are folded into the name. -/
def IsFolded (s : Signature) : Prop :=
  s.storeType = s.facets.applyTo s.baseStoreType

/-- Without modifiers the name is the store type. -/
lemma isFolded_of_facets {s : Signature} (hstore : s.storeType = s.baseStoreType)
    (hfacets : s.facets.values = []) : s.IsFolded := by
  rw [IsFolded, Facets.applyTo_of_numbers_nil (Facets.numbers_of_values_nil hfacets)]
  exact hstore

/-- The signature is that of the array of an element. -/
structure IsArrayOf (s : Signature) (element : Descriptor) : Prop where
  flat : element.isArray = false
  storeType : s.storeType = element.storeType ++ "[]"
  baseStoreType : s.baseStoreType = element.baseStoreType ++ "[]"
  facets : s.facets = element.facets
  dbType : s.dbType = .array element.dbType

/-- The signature is that of a range over a subtype. -/
structure IsRangeOver (s : Signature) (subtype : Descriptor) : Prop where
  storeType : s.storeType = s.baseStoreType
  facets : s.facets = {}
  hostType : s.hostType = .range subtype.hostType
  dbType : s.dbType = .range subtype.dbType

/-- The signature is that of a multirange over a subtype. -/
structure IsMultirangeOver (s : Signature) (subtype : Descriptor) : Prop where
  hostType : s.hostType = .multirange subtype.hostType
  dbType : s.dbType = .multirange subtype.dbType

end Signature

namespace Descriptor

/-- The descriptor and all descriptors inside it agree with themselves. -/
inductive IsCoherent : Descriptor → Prop
  | scalar {s : Signature} : s.IsFolded → IsCoherent (.scalar s)
  | enumeration {s : Signature} {labels : List (String × String)} : s.IsFolded →
    IsCoherent (.enumeration s labels)
  | array {s : Signature} {element : Descriptor} {nullable : Bool} : s.IsArrayOf element →
    IsCoherent element → IsCoherent (.array s element nullable)
  | range {s : Signature} {subtype : Descriptor} : s.IsRangeOver subtype → IsCoherent subtype →
    IsCoherent (.range s subtype)
  | multirange {s s' : Signature} {subtype : Descriptor} : s.IsMultirangeOver subtype →
    IsCoherent (.range s' subtype) → IsCoherent (.multirange s (.range s' subtype))

variable {d : Descriptor}

lemma baseStoreType_withFacets (d : Descriptor) (f : Facets) :
    (d.withFacets f).baseStoreType = d.baseStoreType := by
  cases d <;> rfl

lemma dbType_withFacets (d : Descriptor) (f : Facets) : (d.withFacets f).dbType = d.dbType := by
  cases d <;> rfl

/-- New modifiers are folded into the name again, and those of an array are its element's. -/
lemma IsCoherent.withFacets (h : d.IsCoherent) (f : Facets) : (d.withFacets f).IsCoherent := by
  induction h with
  | scalar _ => exact .scalar rfl
  | enumeration _ => exact .enumeration rfl
  | @array s element nullable hs _ ih =>
    refine .array ⟨?_, rfl, ?_, rfl, ?_⟩ ih
    · rw [isArray_withFacets]
      exact hs.flat
    · rw [baseStoreType_withFacets]
      exact hs.baseStoreType
    · rw [dbType_withFacets]
      exact hs.dbType
  | range hs hsubtype _ => exact .range hs hsubtype
  | multirange hs hrange _ => exact .multirange hs hrange

lemma IsCoherent.withElementNullable (h : d.IsCoherent) (nullable : Bool) :
    (d.withElementNullable nullable).IsCoherent := by
  cases d with
  | array s element nullable' =>
    cases h with
    | array hs helement => exact .array hs helement
  | _ => exact h

/-- Only a scalar's host type stands by itself. -/
lemma IsCoherent.withHostType {s : Signature} (h : (Descriptor.scalar s).IsCoherent)
    (host : HostType) : ((Descriptor.scalar s).withHostType host).IsCoherent := by
  cases h with
  | scalar hs => exact .scalar hs

lemma IsCoherent.arrayOf {host : Option HostType} {nullable : Bool} {a : Descriptor}
    (h : d.IsCoherent) (ha : d.arrayOf host nullable = .ok a) : a.IsCoherent := by
  rw [Descriptor.arrayOf] at ha
  by_cases harray : d.isArray = true
  · rw [if_pos harray] at ha
    cases ha
  · rw [if_neg harray] at ha
    cases ha
    exact .array ⟨Bool.eq_false_iff.2 harray, rfl, rfl, rfl, rfl⟩ h

lemma IsCoherent.rangeOver (h : d.IsCoherent) (name : String) : (rangeOver name d).IsCoherent :=
  .range ⟨rfl, rfl, rfl, rfl⟩ h

lemma IsCoherent.multirangeOver {name : String} {m : Descriptor} (h : d.IsCoherent)
    (hm : Descriptor.multirangeOver name d = .ok m) : m.IsCoherent := by
  cases h with
  | range hs hsubtype =>
    cases hm
    exact .multirange ⟨rfl, rfl⟩ (.range hs hsubtype)
  | _ => cases hm

end Descriptor

end SqlBridge
