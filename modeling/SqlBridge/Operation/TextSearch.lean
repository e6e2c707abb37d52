import SqlBridge.Operation.Lowering

/-!
# Operations of full-text search

Functions and operators on search vectors and search queries. A configuration that is given as a constant
text becomes a constant configuration, and every other one that is no configuration yet is cast.
-/

namespace SqlBridge

/-- An operation on search vectors or queries. -/
inductive SearchOperation where
  /-- A function of a text, with a configuration before it or not. -/
  | configurable (name : String) (result : Scalar)
  /-- A function of its operands as they come. -/
  | function (name : String) (result : Scalar)
  | headline
  | matches
  /-- An operation that gives a value like its left operand. -/
  | combine (op : BinaryOp)
  | compare (op : BinaryOp)
  | negate
deriving DecidableEq, Repr

namespace SearchOperation

open SqlBridge.Expr

/-- The operations by name. -/
def table : List (String × SearchOperation) :=
  [("ToTsVector", .configurable "to_tsvector" .tsVector),
   ("PlainToTsQuery", .configurable "plainto_tsquery" .tsQuery),
   ("PhraseToTsQuery", .configurable "phraseto_tsquery" .tsQuery),
   ("ToTsQuery", .configurable "to_tsquery" .tsQuery),
   ("WebSearchToTsQuery", .configurable "websearch_to_tsquery" .tsQuery),
   ("Unaccent", .configurable "unaccent" .string),
   ("ArrayToTsVector", .function "array_to_tsvector" .tsVector),
   ("SetWeight", .function "setweight" .tsVector),
   ("Rank", .function "ts_rank" .float32),
   ("RankCoverDensity", .function "ts_rank_cd" .float32),
   ("Rewrite", .function "ts_rewrite" .tsQuery),
   ("GetNodeCount", .function "numnode" .int32),
   ("GetQueryTree", .function "querytree" .string),
   ("Strip", .function "strip" .tsVector),
   ("GetLength", .function "length" .int32),
   ("Delete", .function "ts_delete" .tsVector),
   ("Filter", .function "ts_filter" .tsVector),
   ("ToPhrase", .function "tsquery_phrase" .tsQuery),
   ("GetResultHeadline", .headline),
   ("Matches", .matches),
   ("And", .combine .overlaps),
   ("Or", .combine .concat),
   ("Concat", .combine .concat),
   ("ToNegative", .negate),
   ("Contains", .compare .contains),
   ("IsContainedIn", .compare .containedBy)]

variable (r : Registry)

/-- An operand as a configuration. -/
def configuration (e : Expr) : Except Fault Expr :=
  match constantText? e with
  | some name => constantAs r (.scalar (.regConfig name)) "regconfig"
  | none => if e.storeType? = some "regconfig" then .ok e else castTo r e "regconfig"

/-- An operand as a query; a text becomes the query for its words. -/
def query (e : Expr) : Except Fault Expr :=
  if e.hostType = .scalar .string then strictCall r "plainto_tsquery" [e] (.scalar .tsQuery)
  else .ok e

/-- The SQL of an operation. -/
def build (op : SearchOperation) (args : List Expr) : Lowered :=
  match op, args with
  | .configurable name result, [text] => .built (strictCall r name [text] (.scalar result))
  | .configurable name result, [config, text] => .built do
    strictCall r name [← configuration r config, text] (.scalar result)
  | .function name result, args => .built (strictCall r name args (.scalar result))
  | .headline, [query, document] =>
    .built (strictCall r "ts_headline" [document, query] (.scalar .string))
  | .headline, [query, document, options] =>
    .built (strictCall r "ts_headline" [document, query, options] (.scalar .string))
  | .headline, [query, config, document, options] => .built do
    strictCall r "ts_headline" [← configuration r config, document, query, options]
      (.scalar .string)
  | .matches, [left, right] => .built do
    predicate r .textSearchMatch left (← query r right)
  | .combine op, [left, right] => .built (Expr.combine r op left right)
  | .compare op, [left, right] => .built (predicate r op left right)
  | .negate, [query] =>
    .built (unary r .textSearchNegate query [true] (.scalar .tsQuery) query.mapping)
  | _, _ => .declined

end SearchOperation

/-- The lowering of operations of full-text search. -/
def Lowering.textSearch (r : Registry) : Lowering :=
  .ofTable "full-text-search" [.fullTextSearch] (fun _ => true) SearchOperation.table
    fun op _ args => SearchOperation.build r op args

end SqlBridge
