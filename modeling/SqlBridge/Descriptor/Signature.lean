import SqlBridge.DbType
import SqlBridge.HostType.Basic
import SqlBridge.Literal.Options
import SqlBridge.StoreType.Facets

/-!
# Signatures of descriptors

What a descriptor says of a store type apart from the descriptors inside it.
-/

namespace SqlBridge

/-- How one store type is named, held by programs and sent. -/
structure Signature where
  /-- The store type with its modifiers. -/
  storeType : String
  /-- The store type without modifiers. -/
  baseStoreType : String
  hostType : HostType
  dbType : DbType
  facets : Facets := {}
  literals : LiteralOptions := {}
deriving DecidableEq

namespace Signature

/-- The signature of a store type without modifiers. -/
def plain (storeType : String) (hostType : HostType) (dbType : DbType) : Signature :=
  { storeType, baseStoreType := storeType, hostType, dbType }

/-- The signature with other modifiers, which take the place of all earlier ones. -/
def withFacets (s : Signature) (f : Facets) : Signature :=
  { s with storeType := f.applyTo s.baseStoreType, facets := f }

/-- A literal with a cast to the store type. -/
def casting (s : Signature) (literal : String) : String :=
  literal ++ "::" ++ s.storeType

end Signature

end SqlBridge
