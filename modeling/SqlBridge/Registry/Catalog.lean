import SqlBridge.Registry.Containers

/-!
# Catalogs

A registry together with the answers that it has given. An answer is kept until the next registration
and served again for the same request; the elements of arrays are asked for in the same way.
-/

namespace SqlBridge

/-- A registry and the answers it has given since its tables last changed. -/
structure Catalog where
  registry : Registry
  answers : List (Request × Option Descriptor) := []

namespace Catalog

/-- The catalog with an answer kept. -/
def keep (c : Catalog) (q : Request) (answer : Option Descriptor) : Catalog :=
  { c with answers := Entries.set q answer c.answers }

/-- The answer for a request, and the catalog that keeps it. -/
def find (c : Catalog) (q : Request) : Option Descriptor × Catalog :=
  match Entries.get? q c.answers with
  | some answer => (answer, c)
  | none =>
    match c.registry.decide q with
    | .found d => (some d, c.keep q (some d))
    | .refused => (none, c.keep q none)
    | .unsettled =>
      match _h : q.element? with
      | some e =>
        let (element, c) := find c e
        let answer := c.registry.settle q element
        (answer, c.keep q answer)
      | none =>
        let answer := c.registry.settle q none
        (answer, c.keep q answer)
termination_by q.measure
decreasing_by exact Request.measure_lt_of_element? _h

/-- The answer for a request or a failure, and the catalog that keeps the answer. -/
def require (c : Catalog) (q : Request) : Except Fault Descriptor × Catalog :=
  let (answer, c) := c.find q
  (Registry.orFault (.noMapping q.store q.host) answer, c)

/-- The mapping of a property, and the catalog that keeps the answer for its request. -/
def findProperty (c : Catalog) (p : Property) : Option PropertyMapping × Catalog :=
  let (answer, c) := c.find p.request
  (answer.map p.mapping, c)

/-- The result of a registration, and the catalog of the changed registry, which keeps no answers; a
refused registration changes nothing. -/
def commit (c : Catalog) (result : Except Fault (Descriptor × Registry)) :
    Except Fault Descriptor × Catalog :=
  match result with
  | .ok (d, registry) => (.ok d, { registry })
  | .error fault => (.error fault, c)

/-- Registers an enumeration. -/
def registerEnum (c : Catalog) (d : EnumDefinition) : Except Fault Descriptor × Catalog :=
  c.commit (c.registry.registerEnum d)

/-- Registers a range of the user's own; its subtype is resolved with the kept answers. -/
def registerRange (c : Catalog) (d : RangeDefinition) : Except Fault Descriptor × Catalog :=
  if c.registry.isTaken d.qualifiedName then (.error (.duplicateRange d.qualifiedName), c)
  else
    let (subtype, c) := c.find (Registry.subtypeRequest d)
    c.commit (c.registry.registerRangeOver d subtype)

/-- The catalog after a registration, or the failure of one that was refused. -/
def accepted : Except Fault Descriptor × Catalog → Except Fault Catalog
  | (.ok _, c) => .ok c
  | (.error fault, _) => .error fault

/-- The catalog of the built-in types and of those that the options declare, enumerations first. -/
def ofOptions (o : MappingOptions) : Except Fault Catalog := do
  o.validate
  let c ← o.enums.foldlM (fun c d => accepted (c.registerEnum d)) { registry := .builtin o }
  o.ranges.foldlM (fun c d => accepted (c.registerRange d)) c

end Catalog

end SqlBridge
