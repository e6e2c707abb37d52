import SqlBridge.Text.Numeral

/-!
# Universally unique identifiers

Identifiers of 128 bits, their hyphenated text, and reading the texts that name one.
-/

namespace SqlBridge

/-- A universally unique identifier. -/
structure Uuid where
  bits : BitVec 128
deriving DecidableEq, Repr

namespace Uuid

/-- The lengths of the groups of digits between hyphens. -/
def groupLengths : List Nat := [8, 4, 4, 4, 12]

/-- Digits in groups of the given lengths, with hyphens between them. -/
def hyphenate : (lengths : List Nat) → List Char → List Char
  | [], digits => digits
  | [_], digits => digits
  | n :: lengths, digits => digits.take n ++ '-' :: hyphenate lengths (digits.drop n)

/-- The text in lower-case digits with hyphens. -/
def text (u : Uuid) : String :=
  String.ofList (hyphenate groupLengths (Text.paddedHexDigits 32 u.bits.toNat))

/-- The digits of a text in groups of the given lengths with hyphens between them. -/
def dehyphenate? : (lengths : List Nat) → List Char → Option (List Char)
  | [], cs => some cs
  | [_], cs => some cs
  | n :: lengths, cs =>
    match cs.drop n with
    | '-' :: rest => (dehyphenate? lengths rest).map (cs.take n ++ ·)
    | _ => none

/-- The digits of a text: bare, hyphenated, in braces, or after the words of a resource name,
which may stand in either case. -/
def digits? (cs : List Char) : Option (List Char) :=
  if cs.length = 32 then some cs
  else if cs.length = 36 then dehyphenate? groupLengths cs
  else if cs.length = 38 then
    if cs.head? = some '\x7b' ∧ cs.getLast? = some '\x7d' then
      dehyphenate? groupLengths ((cs.drop 1).take 36)
    else none
  else if cs.length = 45 then
    if (cs.take 9).map Char.toLower = "urn:uuid:".toList then dehyphenate? groupLengths (cs.drop 9)
    else none
  else none

/-- Reads a text that names an identifier, with digits in either case. -/
def read? (s : String) : Option Uuid :=
  (digits? s.toList).bind fun digits =>
    (Text.readHex? digits).map fun n => ⟨BitVec.ofNat 128 n⟩

end Uuid

end SqlBridge
