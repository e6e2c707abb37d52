/-!
# Options of literals
-/

namespace SqlBridge

/-- The switches that literals depend on. -/
structure LiteralOptions where
  /-- Instants may have any offset, and date-times with and without zone stand for each other. -/
  legacyTimestamps : Bool := false
  /-- The first and last dates and date-times are written as infinities. -/
  infinityWords : Bool := true
deriving DecidableEq, Repr

end SqlBridge
