import SqlBridge.Registry.Register

/-!
# Containers over descriptors, and properties

The ranges, multiranges and arrays that a registry has over a descriptor, the descriptor of a property
of a user's model with the nullability of its elements, and the host types that sequences can number.
-/

namespace SqlBridge

/-- What a model says about the elements of a property. -/
inductive ElementNullability where
  | nullable
  | nonNullable
  | unknown
deriving DecidableEq, Repr

/-- A property of a user's model. -/
structure Property where
  name : String
  host : HostType
  store : Option String := none
  facets : Facets := {}
  unicode : Option Bool := none
  isKey : Bool := false
  elements : ElementNullability := .unknown
deriving DecidableEq

/-- The descriptor of a property. -/
structure PropertyMapping where
  descriptor : Descriptor
  /-- Whether elements may be null; absent when there are none. -/
  elementNullable : Option Bool
deriving DecidableEq

namespace ElementNullability

/-- The name of what a model says. -/
def name : ElementNullability → String
  | .nullable => "Nullable"
  | .nonNullable => "NonNullable"
  | .unknown => "Unknown"

/-- What a model says, by its name. -/
def ofName? (name : String) : Option ElementNullability :=
  [nullable, nonNullable, unknown].find? (·.name == name)

/-- Whether elements may be null, given what holds if nothing is said. -/
def decide (default : Bool) : ElementNullability → Bool
  | .nullable => true
  | .nonNullable => false
  | .unknown => default

end ElementNullability

namespace Property

/-- The request for the descriptor of a property. -/
def request (p : Property) : Request where
  store := p.store
  host := some p.host
  unicode := p.unicode
  size := p.facets.size
  precision := p.facets.precision
  scale := p.facets.scale
  fixedLength := p.facets.fixedLength
  isKey := p.isKey

/-- The mapping of a property, from the descriptor that answers its request. -/
def mapping (p : Property) (d : Descriptor) : PropertyMapping :=
  match d.element? with
  | none => ⟨d, none⟩
  | some element =>
    let nullable := p.elements.decide (Registry.elementsNullable element.hostType)
    ⟨d.withElementNullable nullable, some nullable⟩

end Property

namespace Registry

/-- The mapping of a property. -/
def findProperty (r : Registry) (p : Property) : Option PropertyMapping :=
  (r.find p.request).map p.mapping

/-- A range or multirange over values of the same store type. -/
def isOver (subtype d : Descriptor) : Bool :=
  d.subtype?.any (·.storeType == subtype.storeType)

/-- The first range over the store type and host type of a descriptor. -/
def findRange (r : Registry) (subtype : Descriptor) : Option Descriptor :=
  (Entries.all subtype.hostType r.ranges).find? (isOver subtype)

/-- The first multirange over the store type and host type of a descriptor. -/
def findMultirange (r : Registry) (subtype : Descriptor) : Option Descriptor :=
  (Entries.all subtype.hostType r.multiranges).find? (isOver subtype)

end Registry

/-- Sequences number integers and enumerations only. -/
def checkSequence (host : HostType) : Except Fault Unit :=
  if host.isInteger || host.isEnumeration then .ok () else .error (.notSequenceable host)

end SqlBridge
