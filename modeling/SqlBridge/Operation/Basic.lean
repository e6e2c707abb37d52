/-!
# Operations

The operations that programs apply to values and that databases have counterparts of. They come from
thirteen domains; an operation is a method with any number of operands, its receiver counted among them,
or a member of a single one.
-/

namespace SqlBridge

/-- Where operations come from. -/
inductive Domain where
  | array | list | range | multirange | json | network | fullTextSearch | trigram | fuzzyStringMatch
  | regex | bytes | aggregate | rowValue
deriving DecidableEq, Repr

/-- An operation of a program. -/
structure Operation where
  domain : Domain
  name : String
  /-- The number of operands. -/
  arity : Nat
  /-- The operation reads a member of its only operand. -/
  isMember : Bool := false
deriving DecidableEq, Repr

namespace Domain

/-- Every domain. -/
def all : List Domain :=
  [.array, .list, .range, .multirange, .json, .network, .fullTextSearch, .trigram,
   .fuzzyStringMatch, .regex, .bytes, .aggregate, .rowValue]

/-- The name of a domain. -/
def name : Domain → String
  | .array => "Array"
  | .list => "List"
  | .range => "Range"
  | .multirange => "Multirange"
  | .json => "Json"
  | .network => "Network"
  | .fullTextSearch => "FullTextSearch"
  | .trigram => "Trigram"
  | .fuzzyStringMatch => "FuzzyStringMatch"
  | .regex => "Regex"
  | .bytes => "Bytes"
  | .aggregate => "Aggregate"
  | .rowValue => "RowValue"

/-- The domain with the given name. -/
def ofName? (name : String) : Option Domain :=
  all.find? (·.name == name)

end Domain

namespace Operation

/-- A member of a domain's values. -/
def member (domain : Domain) (name : String) : Operation :=
  { domain, name, arity := 1, isMember := true }

/-- A method with its number of operands. -/
def method (domain : Domain) (name : String) (arity : Nat) : Operation :=
  { domain, name, arity }

/-- The domain and the name, and for a method the number of operands. -/
def text (o : Operation) : String :=
  o.domain.name ++ "." ++ o.name ++ (if o.isMember then "" else "/" ++ toString o.arity)

/-- The word for a method or a member. -/
def kindName (o : Operation) : String :=
  if o.isMember then "Member" else "Method"

end Operation

end SqlBridge
