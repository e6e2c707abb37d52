import SqlBridge.Descriptor.Basic

/-!
# Views of descriptors

A descriptor as a JSON document, with the descriptors inside it.
-/

namespace SqlBridge.Descriptor

/-- The word for the kind of store type. -/
def kind : Descriptor → String
  | .scalar _ => "scalar"
  | .enumeration _ _ => "enum"
  | .array _ _ _ => "array"
  | .range _ _ => "range"
  | .multirange _ _ => "multirange"

/-- A field for a number that is set. -/
def numberField (name : String) : Option UInt32 → List (String × Json)
  | some n => [(name, .uint32 n)]
  | none => []

/-- The fields for the modifiers that are set. -/
def facetFields (f : Facets) : List (String × Json) :=
  numberField "size" f.size ++ numberField "precision" f.precision ++ numberField "scale" f.scale
    ++ (if f.fixedLength then [("fixed_length", .bool true)] else [])

/-- The fields that every kind of descriptor has. -/
def signatureFields (d : Descriptor) : List (String × Json) :=
  [("store_type", .string d.storeType), ("base_store_type", .string d.baseStoreType),
    ("host_type", .string d.hostType.text), ("db_type", .string d.dbType.text),
    ("kind", .string d.kind)] ++ facetFields d.facets

/-- The document of a descriptor. -/
def toJson : Descriptor → Json
  | .scalar s => .object (signatureFields (.scalar s))
  | .enumeration s labels =>
    .object (signatureFields (.enumeration s labels)
      ++ [("labels", .object (labels.map fun e => (e.1, .string e.2)))])
  | .array s element nullable =>
    .object (signatureFields (.array s element nullable)
      ++ [("element", toJson element), ("element_nullable", .bool nullable)])
  | .range s subtype =>
    .object (signatureFields (.range s subtype) ++ [("subtype", toJson subtype)])
  | .multirange s inner =>
    .object (signatureFields (.multirange s inner) ++ [("range", toJson inner)])

end SqlBridge.Descriptor
