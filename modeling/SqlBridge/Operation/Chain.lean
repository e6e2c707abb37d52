import SqlBridge.Operation.Arrays
import SqlBridge.Operation.Bytes
import SqlBridge.Operation.Collections
import SqlBridge.Operation.Documents
import SqlBridge.Operation.FuzzyMatch
import SqlBridge.Operation.Networks
import SqlBridge.Operation.Ranges
import SqlBridge.Operation.Regexes
import SqlBridge.Operation.Rows
import SqlBridge.Operation.Statistics
import SqlBridge.Operation.TextSearch
import SqlBridge.Operation.Trigrams

/-!
# Chains of lowerings

Lowerings are asked in order, and the first one that does not decline decides.
-/

namespace SqlBridge

namespace Lowering

/-- The built-in lowerings in their standard order. -/
def standard (r : Registry) : List Lowering :=
  [arrays r, ranges r, documents r, networks r, textSearch r, trigrams r, fuzzyMatch r, regexes r,
   bytes r, statistics r, collections r, rows r]

/-- The built-in lowering with the given name. -/
def ofName? (r : Registry) (name : String) : Option Lowering :=
  (standard r).find? (·.name == name)

/-- What the first lowering that does not decline makes of an operation. -/
def firstOf (o : Operation) (args : List Expr) : List Lowering → Lowered
  | [] => .declined
  | l :: rest =>
    match l.lower o args with
    | .ok none => firstOf o args rest
    | outcome => outcome

/-- What a chain makes of an operation; there have to be as many operands as its arity tells. -/
def lowerAll (chain : List Lowering) (o : Operation) (args : List Expr) : Lowered :=
  if args.length = o.arity then firstOf o args chain
  else .error (.operandCount o.text o.arity args.length)

/-- The expression that a chain makes of an operation, or a failure if all decline. -/
def requireAll (chain : List Lowering) (o : Operation) (args : List Expr) : Except Fault Expr := do
  match ← lowerAll chain o args with
  | some e => .ok e
  | none => .error (.notLowered o.text)

end Lowering

end SqlBridge
