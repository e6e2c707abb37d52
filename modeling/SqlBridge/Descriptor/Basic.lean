import SqlBridge.Descriptor.Signature
import SqlBridge.Diagnostic.Fault

/-!
# Type descriptors

A descriptor says how values of one host type are stored as one store type. Descriptors of containers
hold those of what they contain. Arrays are flat: an array of an array type is refused.
-/

namespace SqlBridge

/-- The description of a store type. -/
inductive Descriptor where
  | scalar (signature : Signature)
  /-- An enumeration, with the label of each host variant. -/
  | enumeration (signature : Signature) (labels : List (String × String))
  | array (signature : Signature) (element : Descriptor) (elementNullable : Bool)
  | range (signature : Signature) (subtype : Descriptor)
  | multirange (signature : Signature) (inner : Descriptor)
deriving DecidableEq

namespace Descriptor

/-- What the descriptor says apart from the descriptors inside it. -/
def signature : Descriptor → Signature
  | .scalar s => s
  | .enumeration s _ => s
  | .array s _ _ => s
  | .range s _ => s
  | .multirange s _ => s

/-- The descriptor with a changed signature. -/
def mapSignature (f : Signature → Signature) : Descriptor → Descriptor
  | .scalar s => .scalar (f s)
  | .enumeration s labels => .enumeration (f s) labels
  | .array s element nullable => .array (f s) element nullable
  | .range s subtype => .range (f s) subtype
  | .multirange s inner => .multirange (f s) inner

/-- The store type with its modifiers. -/
def storeType (d : Descriptor) : String := d.signature.storeType

/-- The store type without modifiers. -/
def baseStoreType (d : Descriptor) : String := d.signature.baseStoreType

/-- The host type of the values. -/
def hostType (d : Descriptor) : HostType := d.signature.hostType

/-- The wire type of the values. -/
def dbType (d : Descriptor) : DbType := d.signature.dbType

/-- The modifiers. -/
def facets (d : Descriptor) : Facets := d.signature.facets

/-- The switches that literals depend on. -/
def literals (d : Descriptor) : LiteralOptions := d.signature.literals

/-- A descriptor of an array. -/
def isArray : Descriptor → Bool
  | .array _ _ _ => true
  | _ => false

/-- A descriptor of a range. -/
def isRange : Descriptor → Bool
  | .range _ _ => true
  | _ => false

/-- A descriptor of a multirange. -/
def isMultirange : Descriptor → Bool
  | .multirange _ _ => true
  | _ => false

/-- The descriptor of the elements of an array. -/
def element? : Descriptor → Option Descriptor
  | .array _ element _ => some element
  | _ => none

/-- Whether the elements of an array may be null. -/
def elementNullable? : Descriptor → Option Bool
  | .array _ _ nullable => some nullable
  | _ => none

/-- The descriptor of the boundary values of a range or multirange. -/
def subtype? : Descriptor → Option Descriptor
  | .range _ subtype => some subtype
  | .multirange _ inner => subtype? inner
  | _ => none

/-- The descriptor of the ranges of a multirange. -/
def range? : Descriptor → Option Descriptor
  | .multirange _ inner => some inner
  | _ => none

/-- A scalar store type without modifiers. -/
def ofScalar (storeType : String) (hostType : HostType) (dbType : DbType) : Descriptor :=
  .scalar (.plain storeType hostType dbType)

/-- An enumeration with the label of each host variant. -/
def ofLabels (storeType hostName : String) (labels : List (String × String)) : Descriptor :=
  .enumeration (.plain storeType (.enumeration hostName) (.plain .enum)) labels

/-- The array of an element type, as the host type `host` or else as an array of the element's. -/
def arrayOf (element : Descriptor) (host : Option HostType) (nullable : Bool) :
    Except Fault Descriptor :=
  if element.isArray then .error (.nestedArray element.storeType)
  else
    .ok (.array
      { storeType := element.storeType ++ "[]"
        baseStoreType := element.baseStoreType ++ "[]"
        hostType := host.getD (.array element.hostType)
        dbType := .array element.dbType
        facets := element.facets
        literals := element.literals }
      element nullable)

/-- The range of a subtype under a name. -/
def rangeOver (storeType : String) (subtype : Descriptor) : Descriptor :=
  .range
    { Signature.plain storeType (.range subtype.hostType) (.range subtype.dbType) with
      literals := subtype.literals }
    subtype

/-- The multirange of a range under a name. -/
def multirangeOver (storeType : String) (inner : Descriptor) : Except Fault Descriptor :=
  match inner with
  | .range s subtype =>
    .ok (.multirange
      { Signature.plain storeType (.multirange subtype.hostType) (.multirange subtype.dbType) with
        literals := s.literals }
      inner)
  | _ => .error (.notARange inner.storeType)

/-- The descriptor with other switches for its literals. -/
def withLiterals (o : LiteralOptions) (d : Descriptor) : Descriptor :=
  d.mapSignature fun s => { s with literals := o }

/-- The descriptor marked as of fixed length. -/
def withFixedLength (d : Descriptor) : Descriptor :=
  d.mapSignature fun s => { s with facets := { s.facets with fixedLength := true } }

/-- The descriptor for another host type. -/
def withHostType (host : HostType) (d : Descriptor) : Descriptor :=
  d.mapSignature fun s => { s with hostType := host }

/-- The descriptor with other modifiers. Those of an array are its element's; ranges and multiranges
have none. -/
def withFacets (f : Facets) : Descriptor → Descriptor
  | .scalar s => .scalar (s.withFacets f)
  | .enumeration s labels => .enumeration (s.withFacets f) labels
  | .array s element nullable =>
    let element := withFacets f element
    .array { s with storeType := element.storeType ++ "[]", facets := element.facets } element nullable
  | .range s subtype => .range s subtype
  | .multirange s inner => .multirange s inner

/-- The descriptor of an array whose elements may be null or not. -/
def withElementNullable (nullable : Bool) : Descriptor → Descriptor
  | .array s element _ => .array s element nullable
  | d => d

/-- Store types with the tag take modifiers. -/
def takesModifiers : DbType → Bool
  | .plain tag =>
    [.numeric, .varchar, .char, .bit, .varbit, .timestamp, .timestampTz, .time, .timeTz,
      .interval].contains tag
  | _ => false

/-- The store type takes modifiers; those of an array are its element's. -/
def acceptsFacets : Descriptor → Bool
  | .scalar s => takesModifiers s.dbType
  | .array _ element _ => acceptsFacets element
  | _ => false

/-- The descriptor in one line. -/
def text (d : Descriptor) : String :=
  d.storeType ++ " <-> " ++ d.hostType.text ++ " (" ++ d.dbType.text ++ ")"

end Descriptor

end SqlBridge
