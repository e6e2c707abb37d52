import SqlBridge.Entries
import SqlBridge.Registry.Builtin

/-!
# Registries

The tables that requests are resolved with: descriptors by store type and by host type, ranges and
multiranges by the host type of their boundary values, and the user's own ranges. A registry starts with
the built-in store types.
-/

namespace SqlBridge

/-- The tables of a registry. -/
structure Registry where
  options : MappingOptions
  /-- The descriptors of each registered name, in the order of registration. -/
  stores : List (String × List Descriptor) := []
  /-- The default descriptor of each host type. -/
  hosts : List (HostType × Descriptor) := []
  /-- The ranges over each host type. -/
  ranges : List (HostType × List Descriptor) := []
  /-- The multiranges over each host type. -/
  multiranges : List (HostType × List Descriptor) := []
  /-- The ranges of the user's own. -/
  userRanges : List Descriptor := []

namespace Registry

/-- The switches that the literals of all descriptors depend on. -/
def literals (r : Registry) : LiteralOptions :=
  r.options.literals

/-- The descriptors that are registered under a name. -/
def named (r : Registry) (store : String) : List Descriptor :=
  Entries.all store r.stores

/-- The first descriptor that is registered under a name. -/
def first? (r : Registry) (store : String) : Option Descriptor :=
  (r.named store).head?

/-- The name is registered. -/
def isNamed (r : Registry) (store : String) : Bool :=
  (Entries.get? store r.stores).isSome

/-- The host type has a default descriptor. -/
def isHosted (r : Registry) (host : HostType) : Bool :=
  (Entries.get? host r.hosts).isSome

/-- All registered names in the order of registration, the user's ranges last. -/
def names (r : Registry) : List String :=
  r.stores.map (·.1) ++ r.userRanges.map (·.storeType)

/-- Registers a descriptor under its store type. -/
def addStore (d : Descriptor) (r : Registry) : Registry :=
  { r with stores := Entries.push d.storeType d r.stores }

/-- Makes a descriptor the default one of its host type, unless there is one. -/
def addHost (d : Descriptor) (r : Registry) : Registry :=
  if r.isHosted d.hostType then r else { r with hosts := Entries.set d.hostType d r.hosts }

/-- Registers a range over a subtype. -/
def addRange (name : String) (subtype : Descriptor) (r : Registry) : Registry :=
  let d := Descriptor.rangeOver name subtype
  addStore d (addHost d { r with ranges := Entries.push subtype.hostType d r.ranges })

/-- Registers a multirange over the range of a subtype. -/
def addMultirange (name rangeName : String) (subtype : Descriptor) (r : Registry) : Registry :=
  match Descriptor.multirangeOver name (Descriptor.rangeOver rangeName subtype) with
  | .ok d =>
    addStore d (addHost d { r with multiranges := Entries.push subtype.hostType d r.multiranges })
  | .error _ => r

/-- Registers a built-in range type and its multirange type. -/
def addRangeType (r : Registry) (names : Builtin.RangeNames) : Registry :=
  match r.first? names.subtype with
  | some subtype =>
    addMultirange names.multirange names.range subtype (addRange names.range subtype r)
  | none => r

/-- Makes the descriptor of the store type for the host type the default one. -/
def addDefault (r : Registry) (entry : Scalar × String) : Registry :=
  match (r.named entry.2).find? fun d => d.hostType == .scalar entry.1 with
  | some d => { r with hosts := Entries.set (.scalar entry.1) d r.hosts }
  | none => r

/-- The registry of the built-in store types. -/
def builtin (o : MappingOptions) : Registry :=
  let leaves : Registry := { options := o, stores := Builtin.entries o }
  let withDefaults := (Builtin.defaultStores o.legacyTimestamps).foldl addDefault leaves
  Builtin.rangeTypes.foldl addRangeType withDefaults

end Registry

end SqlBridge
