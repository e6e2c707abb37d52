import SqlBridge.Diagnostic.Fault
import SqlBridge.Literal.Options
import SqlBridge.Options.Definition

/-!
# Mapping options

The switches of a registry and the types that a user declares with it.
-/

namespace SqlBridge

/-- The options that a registry is made with. -/
structure MappingOptions where
  /-- Instants are stored without time zone by default, and literals take any offset. -/
  legacyTimestamps : Bool := false
  /-- The first and last dates and date-times are written out and not as infinities. -/
  writesExtremes : Bool := false
  /-- The size of strings and bit strings that are part of a key, unless another is asked for. -/
  keySize : Option UInt32 := none
  ranges : List RangeDefinition := []
  enums : List EnumDefinition := []
deriving DecidableEq

namespace MappingOptions

/-- The switches that literals depend on. -/
def literals (o : MappingOptions) : LiteralOptions where
  legacyTimestamps := o.legacyTimestamps
  infinityWords := !o.writesExtremes

/-- The first enumeration without labels. -/
def labelless? (o : MappingOptions) : Option EnumDefinition :=
  o.enums.find? (·.labels.isEmpty)

/-- Refuses a size of zero, then enumerations without labels. -/
def validate (o : MappingOptions) : Except Fault Unit :=
  if o.keySize = some 0 then .error .zeroKeySize
  else
    match o.labelless? with
    | some d => .error (.noLabels d.qualifiedName)
    | none => .ok ()

end MappingOptions

end SqlBridge
