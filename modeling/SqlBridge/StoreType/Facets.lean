/-!
# Facets of store types

The modifiers of a store type, and how they are folded into its name: `numeric(10,2)`, or
`timestamp(3) with time zone`.
-/

namespace SqlBridge

/-- The size, precision and scale of a store type, and whether it has a fixed length. -/
structure Facets where
  size : Option UInt32 := none
  precision : Option UInt32 := none
  scale : Option UInt32 := none
  fixedLength : Bool := false
deriving DecidableEq, Repr

namespace Facets

/-- No modifier is set. -/
def isEmpty (f : Facets) : Bool :=
  f.size.isNone && f.precision.isNone && f.scale.isNone

/-- The facets with unset modifiers taken from others. -/
def or (f g : Facets) : Facets where
  size := f.size <|> g.size
  precision := f.precision <|> g.precision
  scale := f.scale <|> g.scale
  fixedLength := f.fixedLength || g.fixedLength

/-- The numbers that are written: a size alone, or a precision with a scale. -/
def numbers (f : Facets) : List UInt32 :=
  match f.size, f.precision with
  | some size, _ => [size]
  | none, some precision => precision :: f.scale.toList
  | none, none => []

/-- The written numbers in parentheses, nothing without any. -/
def modifier (f : Facets) : String :=
  match f.numbers with
  | [] => ""
  | ns => "(" ++ ",".intercalate (ns.map fun n => toString n.toNat) ++ ")"

/-- The endings of names that tell of a time zone. -/
def zoneEndings : List String :=
  [" with time zone", " without time zone"]

/-- The name ends in a phrase about the time zone. -/
def isZoned (base : String) : Bool :=
  zoneEndings.any fun ending => ending.toList.isSuffixOf base.toList

/-- The name with the modifiers after it, or after its first word when a phrase about the time zone
ends it. -/
def applyTo (f : Facets) (base : String) : String :=
  if isZoned base then
    String.ofList (base.toList.takeWhile (· != ' ')) ++ f.modifier
      ++ String.ofList (base.toList.dropWhile (· != ' '))
  else base ++ f.modifier

end Facets

end SqlBridge
