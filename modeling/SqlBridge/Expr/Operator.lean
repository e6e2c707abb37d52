/-!
# SQL operators

The operators of expressions with their names and symbols. Several families of types share a symbol;
an operator is named for its main meaning.
-/

namespace SqlBridge

/-- An operator between two operands. -/
inductive BinaryOp where
  | equal | notEqual | lessThan | lessThanOrEqual | greaterThan | greaterThanOrEqual | and | or
  | add | subtract | multiply | divide | modulo | concat | contains | containedBy | overlaps
  | strictlyLeftOf | strictlyRightOf | doesNotExtendRightOf | doesNotExtendLeftOf | isAdjacentTo
  | containedByOrEqual | containsOrEqual | bitwiseAnd | bitwiseOr | bitwiseXor | textSearchMatch
  | regexMatch | regexMatchCaseInsensitive | jsonExists | jsonExistsAny | jsonExistsAll | jsonGet
  | jsonGetText | jsonGetPath | jsonGetPathText | trigramsAreSimilar | trigramsAreWordSimilar
  | trigramsAreNotWordSimilar | trigramsAreStrictWordSimilar | trigramsAreNotStrictWordSimilar
  | distance | trigramsWordSimilarityDistance | trigramsWordSimilarityDistanceInverted
  | trigramsStrictWordSimilarityDistance | trigramsStrictWordSimilarityDistanceInverted
deriving DecidableEq, Repr

/-- An operator on one operand. -/
inductive UnaryOp where
  | not | negate
  /-- The complement of the bits of an address. -/
  | bitwiseNot
  /-- The negation of a search query. -/
  | textSearchNegate
  | isNull | isNotNull
deriving DecidableEq, Repr

namespace BinaryOp

/-- Every binary operator. -/
def all : List BinaryOp :=
  [.equal, .notEqual, .lessThan, .lessThanOrEqual, .greaterThan, .greaterThanOrEqual, .and, .or,
   .add, .subtract, .multiply, .divide, .modulo, .concat, .contains, .containedBy, .overlaps,
   .strictlyLeftOf, .strictlyRightOf, .doesNotExtendRightOf, .doesNotExtendLeftOf, .isAdjacentTo,
   .containedByOrEqual, .containsOrEqual, .bitwiseAnd, .bitwiseOr, .bitwiseXor, .textSearchMatch,
   .regexMatch, .regexMatchCaseInsensitive, .jsonExists, .jsonExistsAny, .jsonExistsAll, .jsonGet,
   .jsonGetText, .jsonGetPath, .jsonGetPathText, .trigramsAreSimilar, .trigramsAreWordSimilar,
   .trigramsAreNotWordSimilar, .trigramsAreStrictWordSimilar, .trigramsAreNotStrictWordSimilar,
   .distance, .trigramsWordSimilarityDistance, .trigramsWordSimilarityDistanceInverted,
   .trigramsStrictWordSimilarityDistance, .trigramsStrictWordSimilarityDistanceInverted]

/-- The name of the operator. -/
def name : BinaryOp → String
  | .equal => "Equal"
  | .notEqual => "NotEqual"
  | .lessThan => "LessThan"
  | .lessThanOrEqual => "LessThanOrEqual"
  | .greaterThan => "GreaterThan"
  | .greaterThanOrEqual => "GreaterThanOrEqual"
  | .and => "And"
  | .or => "Or"
  | .add => "Add"
  | .subtract => "Subtract"
  | .multiply => "Multiply"
  | .divide => "Divide"
  | .modulo => "Modulo"
  | .concat => "Concat"
  | .contains => "Contains"
  | .containedBy => "ContainedBy"
  | .overlaps => "Overlaps"
  | .strictlyLeftOf => "StrictlyLeftOf"
  | .strictlyRightOf => "StrictlyRightOf"
  | .doesNotExtendRightOf => "DoesNotExtendRightOf"
  | .doesNotExtendLeftOf => "DoesNotExtendLeftOf"
  | .isAdjacentTo => "IsAdjacentTo"
  | .containedByOrEqual => "ContainedByOrEqual"
  | .containsOrEqual => "ContainsOrEqual"
  | .bitwiseAnd => "BitwiseAnd"
  | .bitwiseOr => "BitwiseOr"
  | .bitwiseXor => "BitwiseXor"
  | .textSearchMatch => "TextSearchMatch"
  | .regexMatch => "RegexMatch"
  | .regexMatchCaseInsensitive => "RegexMatchCaseInsensitive"
  | .jsonExists => "JsonExists"
  | .jsonExistsAny => "JsonExistsAny"
  | .jsonExistsAll => "JsonExistsAll"
  | .jsonGet => "JsonGet"
  | .jsonGetText => "JsonGetText"
  | .jsonGetPath => "JsonGetPath"
  | .jsonGetPathText => "JsonGetPathText"
  | .trigramsAreSimilar => "TrigramsAreSimilar"
  | .trigramsAreWordSimilar => "TrigramsAreWordSimilar"
  | .trigramsAreNotWordSimilar => "TrigramsAreNotWordSimilar"
  | .trigramsAreStrictWordSimilar => "TrigramsAreStrictWordSimilar"
  | .trigramsAreNotStrictWordSimilar => "TrigramsAreNotStrictWordSimilar"
  | .distance => "Distance"
  | .trigramsWordSimilarityDistance => "TrigramsWordSimilarityDistance"
  | .trigramsWordSimilarityDistanceInverted => "TrigramsWordSimilarityDistanceInverted"
  | .trigramsStrictWordSimilarityDistance => "TrigramsStrictWordSimilarityDistance"
  | .trigramsStrictWordSimilarityDistanceInverted => "TrigramsStrictWordSimilarityDistanceInverted"

/-- The symbol of the operator. -/
def symbol : BinaryOp → String
  | .equal => "="
  | .notEqual => "<>"
  | .lessThan => "<"
  | .lessThanOrEqual => "<="
  | .greaterThan => ">"
  | .greaterThanOrEqual => ">="
  | .and => "AND"
  | .or => "OR"
  | .add => "+"
  | .subtract => "-"
  | .multiply => "*"
  | .divide => "/"
  | .modulo => "%"
  | .concat => "||"
  | .contains => "@>"
  | .containedBy => "<@"
  | .overlaps => "&&"
  | .strictlyLeftOf => "<<"
  | .strictlyRightOf => ">>"
  | .doesNotExtendRightOf => "&<"
  | .doesNotExtendLeftOf => "&>"
  | .isAdjacentTo => "-|-"
  | .containedByOrEqual => "<<="
  | .containsOrEqual => ">>="
  | .bitwiseAnd => "&"
  | .bitwiseOr => "|"
  | .bitwiseXor => "#"
  | .textSearchMatch => "@@"
  | .regexMatch => "~"
  | .regexMatchCaseInsensitive => "~*"
  | .jsonExists => "?"
  | .jsonExistsAny => "?|"
  | .jsonExistsAll => "?&"
  | .jsonGet => "->"
  | .jsonGetText => "->>"
  | .jsonGetPath => "#>"
  | .jsonGetPathText => "#>>"
  | .trigramsAreSimilar => "%"
  | .trigramsAreWordSimilar => "<%"
  | .trigramsAreNotWordSimilar => "%>"
  | .trigramsAreStrictWordSimilar => "<<%"
  | .trigramsAreNotStrictWordSimilar => "%>>"
  | .distance => "<->"
  | .trigramsWordSimilarityDistance => "<<->"
  | .trigramsWordSimilarityDistanceInverted => "<->>"
  | .trigramsStrictWordSimilarityDistance => "<<<->"
  | .trigramsStrictWordSimilarityDistanceInverted => "<->>>"

/-- The operator with the given name. -/
def ofName? (name : String) : Option BinaryOp :=
  all.find? (·.name == name)

/-- The operator compares its operands by order or equality. -/
def isComparison : BinaryOp → Bool
  | .equal | .notEqual | .lessThan | .lessThanOrEqual | .greaterThan | .greaterThanOrEqual => true
  | _ => false

end BinaryOp

namespace UnaryOp

/-- Every unary operator. -/
def all : List UnaryOp :=
  [.not, .negate, .bitwiseNot, .textSearchNegate, .isNull, .isNotNull]

/-- The name of the operator. -/
def name : UnaryOp → String
  | .not => "Not"
  | .negate => "Negate"
  | .bitwiseNot => "BitwiseNot"
  | .textSearchNegate => "TextSearchNegate"
  | .isNull => "IsNull"
  | .isNotNull => "IsNotNull"

/-- The symbol of the operator. -/
def symbol : UnaryOp → String
  | .not => "NOT"
  | .negate => "-"
  | .bitwiseNot => "~"
  | .textSearchNegate => "!!"
  | .isNull => "IS NULL"
  | .isNotNull => "IS NOT NULL"

/-- The operator with the given name. -/
def ofName? (name : String) : Option UnaryOp :=
  all.find? (·.name == name)

/-- The operator is written after its operand. -/
def isTrailing : UnaryOp → Bool
  | .isNull | .isNotNull => true
  | _ => false

end UnaryOp

end SqlBridge
