import SqlBridge.Registry.Resolve

/-!
# Registration

Adding a user's enumerations and ranges to a registry. A name that is registered already is refused,
and a refused registration leaves the registry as it is.
-/

namespace SqlBridge.Registry

/-- The descriptor that an enumeration is registered with. -/
def enumDescriptor (r : Registry) (d : EnumDefinition) : Descriptor :=
  (Descriptor.ofLabels d.qualifiedName d.hostTypeName d.labels).withLiterals r.literals

/-- The registry with a descriptor of an enumeration. -/
def addEnum (d : Descriptor) (r : Registry) : Registry :=
  addStore d { r with hosts := Entries.set d.hostType d r.hosts }

/-- Registers an enumeration: its descriptor and the registry that has it. -/
def registerEnum (r : Registry) (d : EnumDefinition) : Except Fault (Descriptor × Registry) :=
  if r.isNamed d.qualifiedName || r.isHosted (.enumeration d.hostTypeName) then
    .error (.duplicateEnum d.qualifiedName)
  else
    let e := r.enumDescriptor d
    .ok (e, addEnum e r)

/-- The request for the boundary values of a range. -/
def subtypeRequest (d : RangeDefinition) : Request :=
  { store := d.subtypeStore, host := some d.subtype }

/-- The name belongs to a range of the user's own. -/
def isUserRange (r : Registry) (store : String) : Bool :=
  r.userRanges.any (·.storeType == store)

/-- The registry with a range of the user's own over a host type. -/
def addUserRange (subtype : HostType) (range : Descriptor) (r : Registry) : Registry :=
  { r with
    ranges := Entries.push subtype range r.ranges
    userRanges := r.userRanges ++ [range] }

/-- Registers a range over a resolved subtype. -/
def registerRangeOver (r : Registry) (d : RangeDefinition) (subtype : Option Descriptor) :
    Except Fault (Descriptor × Registry) :=
  match subtype with
  | some s =>
    let range := Descriptor.rangeOver d.qualifiedName s
    .ok (range, addUserRange d.subtype range r)
  | none =>
    .error (.unresolvedSubtype (d.subtypeStore.getD d.subtype.name) d.qualifiedName d.subtype)

/-- The name of a range is taken. -/
def isTaken (r : Registry) (store : String) : Bool :=
  r.isNamed store || r.isUserRange store

/-- Registers a range of the user's own: its descriptor and the registry that has it. The host type of
the boundary values has to be stored. -/
def registerRange (r : Registry) (d : RangeDefinition) : Except Fault (Descriptor × Registry) :=
  if r.isTaken d.qualifiedName then .error (.duplicateRange d.qualifiedName)
  else r.registerRangeOver d (r.find (subtypeRequest d))

/-- Registers enumerations one after the other, up to the first that is refused. -/
def registerEnums (r : Registry) (ds : List EnumDefinition) : Except Fault Registry :=
  ds.foldlM (fun r d => (r.registerEnum d).map (·.2)) r

/-- Registers ranges one after the other, up to the first that is refused. -/
def registerRanges (r : Registry) (ds : List RangeDefinition) : Except Fault Registry :=
  ds.foldlM (fun r d => (r.registerRange d).map (·.2)) r

/-- The registry of the built-in types and of those that the options declare, enumerations first. -/
def ofOptions (o : MappingOptions) : Except Fault Registry := do
  o.validate
  let r ← (builtin o).registerEnums o.enums
  r.registerRanges o.ranges

end SqlBridge.Registry
