import SqlBridge.Diagnostic.Fault
import SqlBridge.Text.Blank

/-!
# Reading the notation of host types

The notation that `HostType.text` writes, with spaces and tabs allowed inside the angle brackets. The
name of an enumeration or record runs up to the next comma, angle bracket or blank.
-/

namespace SqlBridge.HostType

/-- A character of the name of an enumeration or a record. -/
def isLabelChar (c : Char) : Bool :=
  !(c == ',' || c == '<' || c == '>') && !Text.isBlank c

/-- The container that a name with one argument stands for. -/
def container? (name : String) : Option (HostType → HostType) :=
  if name = "Array" then some .array
  else if name = "List" then some .list
  else if name = "Range" then some .range
  else if name = "Multirange" then some .multirange
  else none

/-- A colon and a name, and the rest. -/
def readLabel? (cs : List Char) : Option (String × List Char) := do
  let rest ← Text.expect? ':' cs
  let label := rest.takeWhile isLabelChar
  if label.isEmpty then none else some (String.ofList label, rest.dropWhile isLabelChar)

mutual

/-- A host type at the start of a text, and the rest; `fuel` bounds the nesting. -/
def readType? : (fuel : Nat) → List Char → Option (HostType × List Char)
  | 0, _ => none
  | fuel + 1, cs =>
    let name := String.ofList (cs.takeWhile Char.isAlphanum)
    let rest := cs.dropWhile Char.isAlphanum
    match container? name with
    | some wrap => do
      let rest ← Text.expect? '<' rest
      let (t, rest) ← readType? fuel (Text.skipSpaces rest)
      let rest ← Text.expect? '>' (Text.skipSpaces rest)
      some (wrap t, rest)
    | none =>
      if name = "Tuple" then do
        let rest ← Text.expect? '<' rest
        let (ts, rest) ← readTypes? fuel (Text.skipSpaces rest)
        let rest ← Text.expect? '>' (Text.skipSpaces rest)
        some (.tuple ts, rest)
      else if name = "Enum" then (readLabel? rest).map fun p => (.enumeration p.1, p.2)
      else if name = "Record" then (readLabel? rest).map fun p => (.record p.1, p.2)
      else (Scalar.ofName? name).map fun s => (.scalar s, rest)

/-- One or more host types with commas between them, and the rest. -/
def readTypes? : (fuel : Nat) → List Char → Option (List HostType × List Char)
  | 0, _ => none
  | fuel + 1, cs => do
    let (t, rest) ← readType? fuel cs
    match Text.expect? ',' (Text.skipSpaces rest) with
    | some more =>
      let (ts, rest) ← readTypes? fuel (Text.skipSpaces more)
      some (t :: ts, rest)
    | none => some ([t], rest)

end

/-- Reads a text that is one host type, without blanks around it. -/
def readAll? (cs : List Char) : Option HostType :=
  match readType? (cs.length + 1) cs with
  | some (t, []) => some t
  | _ => none

/-- Reads a host type with blanks around it left out. -/
def parse (s : String) : Except Fault HostType :=
  let trimmed := Text.trim s.toList
  match readAll? trimmed with
  | some t => .ok t
  | none => .error (.unknownHostType (String.ofList trimmed))

end SqlBridge.HostType
