import SqlBridge.Json.Basic
import SqlBridge.Text.Numeral

/-!
# Reading JSON

A reader for the JSON grammar. Integers of 64 bits are kept; another number is the 64-bit value of its
leading digits, as many as fit 64 bits, scaled once by a rounded power of ten. What keeps to the grammar
but has no value becomes an unreadable part of the document.
-/

namespace SqlBridge.Json

/-- The blanks of the JSON grammar. -/
def isBlank (c : Char) : Bool :=
  c == ' ' || c == '\n' || c == '\t' || c == '\r'

/-- The characters after the leading blanks. -/
def skipBlanks (cs : List Char) : List Char :=
  cs.dropWhile isBlank

/-! ## Strings -/

/-- The four hexadecimal digits that a text starts with, and the rest. -/
def readUnit? : List Char → Option (Nat × List Char)
  | a :: b :: c :: d :: rest => (Text.readHex? [a, b, c, d]).map (·, rest)
  | _ => none

/-- What one character or escape sequence of a string stands for. -/
inductive Piece where
  | char (c : Char)
  /-- Half of a surrogate pair. -/
  | half (unit : Nat)

/-- The piece of a UTF-16 unit. -/
def Piece.ofUnit (unit : Nat) : Piece :=
  if 0xD800 ≤ unit ∧ unit < 0xE000 then .half unit else .char (Char.ofNat unit)

/-- The piece of an escape sequence, after its backslash. -/
def readEscape? : List Char → Option (Piece × List Char)
  | '"' :: rest => some (.char '"', rest)
  | '\\' :: rest => some (.char '\\', rest)
  | '/' :: rest => some (.char '/', rest)
  | 'b' :: rest => some (.char '\x08', rest)
  | 'f' :: rest => some (.char '\x0c', rest)
  | 'n' :: rest => some (.char '\n', rest)
  | 'r' :: rest => some (.char '\r', rest)
  | 't' :: rest => some (.char '\t', rest)
  | 'u' :: rest => (readUnit? rest).map fun p => (.ofUnit p.1, p.2)
  | _ => none

/-- The pieces of a string up to its closing quote, and the rest; `fuel` bounds their number. -/
def readPieces? : (fuel : Nat) → List Char → Option (List Piece × List Char)
  | 0, _ => none
  | _, [] => none
  | _, '"' :: rest => some ([], rest)
  | fuel + 1, '\\' :: rest => do
    let (piece, rest) ← readEscape? rest
    let (pieces, rest) ← readPieces? fuel rest
    some (piece :: pieces, rest)
  | fuel + 1, c :: rest =>
    if c.toNat < 32 then none
    else do
      let (pieces, rest) ← readPieces? fuel rest
      some (.char c :: pieces, rest)

/-- The characters of pieces; the halves of a surrogate pair have to follow each other. -/
def joinPieces? : List Piece → Option (List Char)
  | [] => some []
  | .char c :: rest => (joinPieces? rest).map (c :: ·)
  | .half high :: .half low :: rest =>
    if high < 0xDC00 ∧ 0xDC00 ≤ low then
      (joinPieces? rest).map (Char.ofNat (0x10000 + (high - 0xD800) * 0x400 + (low - 0xDC00)) :: ·)
    else none
  | .half _ :: _ => none

/-- A string, after its opening quote, or nothing for one that is no text; `fuel` bounds its length. -/
def readString? (fuel : Nat) (cs : List Char) : Option (Option String × List Char) :=
  (readPieces? fuel cs).map fun p => ((joinPieces? p.1).map String.ofList, p.2)

/-! ## Numbers -/

/-- Appends decimal digits to a significand while it fits 64 bits; also the count of digits left
out. -/
def absorb : (significand : Nat) → (digits : List Char) → Nat × Nat
  | s, [] => (s, 0)
  | s, c :: rest =>
    let next := s * 10 + (c.toNat - '0'.toNat)
    if next < twoTo 64 then absorb next rest else (s, (c :: rest).length)

/-- The rounded power of ten. -/
def power10 (n : Nat) : FloatValue :=
  FloatFormat.double.round false (tenTo n) 1

/-- Divides by powers of ten, 308 places at a time. -/
def scaleBelow (x : FloatValue) (places : Nat) : FloatValue :=
  if places ≤ 308 then x.dividedBy .double (power10 places)
  else if x.ratio.1 = 0 then x
  else scaleBelow (x.dividedBy .double (power10 308)) (places - 308)
termination_by places

/-- The significand scaled by a power of ten; overflow has no value. -/
def scale? (significand : Nat) (exponent : Int) : Option FloatValue :=
  let x := FloatFormat.double.ofInt significand
  if exponent < 0 then some (scaleBelow x (-exponent).toNat)
  else if 308 < exponent then (if significand = 0 then some x else none)
  else
    let y := x.times .double (power10 exponent.toNat)
    if y.isFinite then some y else none

/-- The digits of an exponent, after its mark, with its sign. -/
def readExponent? (cs : List Char) : Option (Int × List Char) :=
  let (negative, cs) : Bool × List Char := match cs with
    | '-' :: rest => (true, rest)
    | '+' :: rest => (false, rest)
    | _ => (false, cs)
  let digits := cs.takeWhile Char.isDigit
  (Text.readNat? digits).map fun n =>
    (if negative then -(n : Int) else n, cs.dropWhile Char.isDigit)

/-- The fraction that may follow the whole digits: its digits, and whether there was a point. -/
def readFraction? : List Char → Option (List Char × Bool × List Char)
  | '.' :: rest =>
    let digits := rest.takeWhile Char.isDigit
    if digits.isEmpty then none else some (digits, true, rest.dropWhile Char.isDigit)
  | cs => some ([], false, cs)

/-- The exponent that may follow the digits, and whether there was one. -/
def readScale? : List Char → Option (Int × Bool × List Char)
  | c :: rest =>
    if c == 'e' || c == 'E' then (readExponent? rest).map fun p => (p.1, true, p.2)
    else some (0, false, c :: rest)
  | [] => some (0, false, [])

/-- An integer without fraction and exponent: the integers of 64 bits stay, minus zero and the rest
become floating-point values. -/
def integerOrFloat (negative : Bool) (significand : Nat) : Number :=
  if negative then
    if 0 < significand ∧ significand ≤ twoTo 63 then .integer (-(significand : Int))
    else .float (FloatFormat.double.round true significand 1)
  else .integer significand

/-- A number, after its sign; nothing for one that is beyond the 64-bit range. -/
def readUnsigned? (negative : Bool) (cs : List Char) : Option (Option Number × List Char) := do
  let whole := cs.takeWhile Char.isDigit
  if whole.isEmpty || (whole.head? == some '0' && 1 < whole.length) then none
  else
    let (fraction, hasPoint, rest) ← readFraction? (cs.dropWhile Char.isDigit)
    let (exponent, hasMark, rest) ← readScale? rest
    let (s, dropped) := absorb 0 whole
    if !hasPoint && !hasMark && dropped == 0 then some (some (integerOrFloat negative s), rest)
    else
      let (s, droppedAfter) := absorb s fraction
      let places : Int := (dropped : Int) - ((fraction.length - droppedAfter : Nat) : Int)
      let x := scale? s (places + exponent)
      some (x.map fun x => .float (if negative then x.neg else x), rest)

/-- A number. -/
def readNumber? : List Char → Option (Option Number × List Char)
  | '-' :: rest => readUnsigned? true rest
  | cs => readUnsigned? false cs

/-! ## Documents -/

/-- The document of what was read, unreadable when that has no value. -/
def ofRead {α : Type} (f : α → Json) : Option α → Json
  | some a => f a
  | none => .unreadable

/-- An array or object, where `depth` of them may open. -/
def within (depth : Nat) (j : Json) : Json :=
  if depth = 0 then .unreadable else j

mutual

/-- A document at the start of a text; `depth` more arrays and objects may open. -/
def readValue? : (fuel depth : Nat) → List Char → Option (Json × List Char)
  | 0, _, _ => none
  | fuel + 1, depth, cs =>
    match skipBlanks cs with
    | 'n' :: 'u' :: 'l' :: 'l' :: rest => some (.null, rest)
    | 't' :: 'r' :: 'u' :: 'e' :: rest => some (.bool true, rest)
    | 'f' :: 'a' :: 'l' :: 's' :: 'e' :: rest => some (.bool false, rest)
    | '"' :: rest => (readString? fuel rest).map fun p => (ofRead .string p.1, p.2)
    | '[' :: rest =>
      match skipBlanks rest with
      | ']' :: rest => some (within depth (.array []), rest)
      | rest => (readItems? fuel (depth - 1) rest).map fun p => (within depth (.array p.1), p.2)
    | '\x7b' :: rest =>
      match skipBlanks rest with
      | '\x7d' :: rest => some (within depth (.object []), rest)
      | rest =>
        (readFields? fuel (depth - 1) rest).map fun p => (within depth (ofRead .object p.1), p.2)
    | cs => (readNumber? cs).map fun p => (ofRead .number p.1, p.2)

/-- The items of an array up to its closing bracket. -/
def readItems? : (fuel depth : Nat) → List Char → Option (List Json × List Char)
  | 0, _, _ => none
  | fuel + 1, depth, cs => do
    let (item, rest) ← readValue? fuel depth cs
    match skipBlanks rest with
    | ',' :: rest =>
      let (items, rest) ← readItems? fuel depth rest
      some (item :: items, rest)
    | ']' :: rest => some ([item], rest)
    | _ => none

/-- The fields of an object up to its closing brace, nothing when a key is no text. -/
def readFields? :
    (fuel depth : Nat) → List Char → Option (Option (List (String × Json)) × List Char)
  | 0, _, _ => none
  | fuel + 1, depth, cs =>
    match skipBlanks cs with
    | '"' :: rest => do
      let (key, rest) ← readString? fuel rest
      match skipBlanks rest with
      | ':' :: rest =>
        let (v, rest) ← readValue? fuel depth rest
        let field := key.map (·, v)
        match skipBlanks rest with
        | ',' :: rest =>
          let (fields, rest) ← readFields? fuel depth rest
          some (field.bind fun e => fields.map (e :: ·), rest)
        | '\x7d' :: rest => some (field.map fun e => [e], rest)
        | _ => none
      | _ => none
    | _ => none

end

/-- The deepest nesting of arrays and objects that has a value. -/
def maxDepth : Nat := 127

/-- Reads a text that is one document, with keys kept as they stand. -/
def read? (s : String) : Option Json :=
  let cs := s.toList
  match readValue? (2 * cs.length + 2) maxDepth cs with
  | some (j, rest) => if (skipBlanks rest).isEmpty then some j else none
  | none => none

end SqlBridge.Json
