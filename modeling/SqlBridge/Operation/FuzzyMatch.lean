import SqlBridge.Operation.Lowering

/-!
# Operations of fuzzy string matching

Texts compared by sound or by the number of edits between them.
-/

namespace SqlBridge

/-- A function of fuzzy string matching. -/
structure FuzzyOperation where
  function : String
  /-- The numbers of arguments that the function takes. -/
  arities : List Nat
  result : Scalar
deriving DecidableEq, Repr

namespace FuzzyOperation

/-- The operations by name. -/
def table : List (String × FuzzyOperation) :=
  [("FuzzyStringMatchSoundex", ⟨"soundex", [1], .string⟩),
   ("FuzzyStringMatchDifference", ⟨"difference", [2], .int32⟩),
   ("FuzzyStringMatchLevenshtein", ⟨"levenshtein", [2, 5], .int32⟩),
   ("FuzzyStringMatchLevenshteinLessEqual", ⟨"levenshtein_less_equal", [3, 6], .int32⟩),
   ("FuzzyStringMatchMetaphone", ⟨"metaphone", [2], .string⟩),
   ("FuzzyStringMatchDoubleMetaphone", ⟨"dmetaphone", [1], .string⟩),
   ("FuzzyStringMatchDoubleMetaphoneAlt", ⟨"dmetaphone_alt", [1], .string⟩)]

variable (r : Registry)

/-- The SQL of an operation. -/
def build (op : FuzzyOperation) (args : List Expr) : Lowered :=
  if op.arities.contains args.length then
    .built (Expr.strictCall r op.function args (.scalar op.result))
  else .declined

end FuzzyOperation

/-- The lowering of operations of fuzzy string matching. -/
def Lowering.fuzzyMatch (r : Registry) : Lowering :=
  .ofTable "fuzzy-string-match" [.fuzzyStringMatch] (fun _ => true) FuzzyOperation.table
    fun op _ args => FuzzyOperation.build r op args

end SqlBridge
