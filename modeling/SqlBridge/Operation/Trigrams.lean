import SqlBridge.Operation.Lowering

/-!
# Operations on trigrams

The likeness of texts by the groups of three letters that they share.
-/

namespace SqlBridge

/-- An operation on the trigrams of texts. -/
inductive TrigramOperation where
  /-- The trigrams of a text. -/
  | list
  /-- A likeness by a function. -/
  | likeness (name : String)
  | compare (op : BinaryOp)
  | distance (op : BinaryOp)
deriving DecidableEq, Repr

namespace TrigramOperation

/-- The operations by name. -/
def table : List (String × TrigramOperation) :=
  [("TrigramsShow", .list),
   ("TrigramsSimilarity", .likeness "similarity"),
   ("TrigramsWordSimilarity", .likeness "word_similarity"),
   ("TrigramsStrictWordSimilarity", .likeness "strict_word_similarity"),
   ("TrigramsAreSimilar", .compare .trigramsAreSimilar),
   ("TrigramsAreWordSimilar", .compare .trigramsAreWordSimilar),
   ("TrigramsAreNotWordSimilar", .compare .trigramsAreNotWordSimilar),
   ("TrigramsAreStrictWordSimilar", .compare .trigramsAreStrictWordSimilar),
   ("TrigramsAreNotStrictWordSimilar", .compare .trigramsAreNotStrictWordSimilar),
   ("TrigramsSimilarityDistance", .distance .distance),
   ("TrigramsWordSimilarityDistance", .distance .trigramsWordSimilarityDistance),
   ("TrigramsWordSimilarityDistanceInverted", .distance .trigramsWordSimilarityDistanceInverted),
   ("TrigramsStrictWordSimilarityDistance", .distance .trigramsStrictWordSimilarityDistance),
   ("TrigramsStrictWordSimilarityDistanceInverted",
     .distance .trigramsStrictWordSimilarityDistanceInverted)]

variable (r : Registry)

/-- The SQL of an operation. -/
def build (op : TrigramOperation) (args : List Expr) : Lowered :=
  match op, args with
  | .list, [text] => .built (Expr.strictCall r "show_trgm" [text] (.array (.scalar .string)))
  | .likeness name, [left, right] =>
    .built (Expr.strictCall r name [left, right] (.scalar .float32))
  | .compare op, [left, right] => .built (Expr.predicate r op left right)
  | .distance op, [left, right] =>
    .built (Expr.binary r op left right [true, true] (.scalar .float32) none)
  | _, _ => .declined

end TrigramOperation

/-- The lowering of operations on trigrams. -/
def Lowering.trigrams (r : Registry) : Lowering :=
  .ofTable "trigram" [.trigram] (fun _ => true) TrigramOperation.table
    fun op _ args => TrigramOperation.build r op args

end SqlBridge
