import SqlBridge.Operation.Lowering
import SqlBridge.Operation.RegexOptions

/-!
# Operations of regular expressions

Matching, replacing, counting and splitting. Options have to be a constant that the database has letters
for; they are written into the pattern or as an argument of their own.
-/

namespace SqlBridge

/-- An operation of regular expressions. -/
inductive RegexOperation where
  | isMatch | replace | count | split
deriving DecidableEq, Repr

namespace RegexOperation

open SqlBridge.Expr

/-- The operations by name. -/
def table : List (String × RegexOperation) :=
  [("IsMatch", .isMatch), ("Replace", .replace), ("Count", .count), ("Split", .split)]

variable (r : Registry)

/-- The options that an operand stands for, if it is a constant of supported options. -/
def optionsOf? (e : Expr) : Option RegexOptions :=
  (constantInt? e).bind fun i =>
    if 0 ≤ i ∧ i < UInt32.size then
      let o : RegexOptions := ⟨UInt32.ofNat i.toNat⟩
      if o.isSupported then some o else none
    else none

/-- The options that come after the other operands, none when nothing comes. -/
def trailingOptions? : List Expr → Option RegexOptions
  | [] => some .none
  | [e] => optionsOf? e
  | _ => none

/-- The pattern with the letters of its options in front. -/
def marked (pattern : Expr) (o : RegexOptions) : Except Fault Expr :=
  if o.letters.isEmpty then .ok pattern
  else
    let mark := "(?" ++ o.letters ++ ")"
    match constantText? pattern with
    | some text => .ok (constantOf r (.string (mark ++ text)))
    | none =>
      binary r .concat (constantOf r (.string mark)) pattern [true, true] (.scalar .string) none

/-- The letters of the options as an argument. -/
def letterArgument (leading : String) (o : RegexOptions) : Expr :=
  constantOf r (.string (leading ++ (if o.contains .ignoreCase then "i" else "") ++ o.letters))

/-- Whether a text matches a pattern. -/
def matching (input pattern : Expr) (o : RegexOptions) : Except Fault Expr := do
  let op := if o.contains .ignoreCase then .regexMatchCaseInsensitive else .regexMatch
  predicate r op input (← marked r pattern o)

/-- A text with the matches of a pattern replaced. -/
def replacing (input pattern replacement : Expr) (o : RegexOptions) : Except Fault Expr :=
  strictCall r "regexp_replace" [input, pattern, replacement, letterArgument r "g" o]
    (.scalar .string)

/-- The number of matches from the first character on. -/
def counting (input pattern : Expr) (o : RegexOptions) : Except Fault Expr :=
  strictCall r "regexp_count" [input, pattern, constantOf r (.int32 1), letterArgument r "" o]
    (.scalar .int32)

/-- The parts of a text between the matches of a pattern. -/
def splitting (input pattern : Expr) (o : RegexOptions) : Except Fault Expr :=
  strictCall r "regexp_split_to_array" [input, pattern, letterArgument r "" o]
    (.array (.scalar .string))

/-- The expression for the options that come last, declined without supported ones. -/
def withOptions (rest : List Expr) (expression : RegexOptions → Except Fault Expr) : Lowered :=
  match trailingOptions? rest with
  | some o => .built (expression o)
  | none => .declined

/-- The SQL of an operation. -/
def build (op : RegexOperation) (args : List Expr) : Lowered :=
  match op, args with
  | .isMatch, input :: pattern :: rest => withOptions rest (matching r input pattern)
  | .replace, input :: pattern :: replacement :: rest =>
    withOptions rest (replacing r input pattern replacement)
  | .count, input :: pattern :: rest => withOptions rest (counting r input pattern)
  | .split, input :: pattern :: rest => withOptions rest (splitting r input pattern)
  | _, _ => .declined

end RegexOperation

/-- The lowering of operations of regular expressions. -/
def Lowering.regexes (r : Registry) : Lowering :=
  .ofTable "regex" [.regex] (fun _ => true) RegexOperation.table
    fun op _ args => RegexOperation.build r op args

end SqlBridge
