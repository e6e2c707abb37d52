import SqlBridge.Entries
import SqlBridge.HostType.Basic

/-!
# Definitions of a user's own types

Range types and enumerations that a user's database has beside the built-in types.
-/

namespace SqlBridge

/-- A name behind that of its schema. -/
def qualify (schema : Option String) (name : String) : String :=
  match schema with
  | some schema => schema ++ "." ++ name
  | none => name

/-- A range type of the user's own. -/
structure RangeDefinition where
  name : String
  schema : Option String := none
  /-- The host type of the boundary values. -/
  subtype : HostType
  /-- The store type of the boundary values; without it, the default one of their host type. -/
  subtypeStore : Option String := none
deriving DecidableEq

/-- An enumeration of the user's own. -/
structure EnumDefinition where
  name : String
  schema : Option String := none
  /-- The name of the host type, if it is another one. -/
  hostName : Option String := none
  /-- The label of each host variant, in the order of declaration. -/
  labels : List (String × String)
deriving DecidableEq

/-- The store type's name with its schema. -/
def RangeDefinition.qualifiedName (d : RangeDefinition) : String :=
  qualify d.schema d.name

namespace EnumDefinition

/-- The store type's name with its schema. -/
def qualifiedName (d : EnumDefinition) : String :=
  qualify d.schema d.name

/-- The name of the host type. -/
def hostTypeName (d : EnumDefinition) : String :=
  d.hostName.getD d.name

end EnumDefinition

end SqlBridge
