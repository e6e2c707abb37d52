import SqlBridge.Text.Blank
import SqlBridge.Text.Numeral

/-!
# Network addresses

IPv4 and IPv6 addresses and networks, their canonical texts, and reading them.
-/

namespace SqlBridge

/-- A host address: four octets, or eight groups of 16 bits. -/
inductive IpAddress where
  | v4 (a b c d : UInt8)
  | v6 (g0 g1 g2 g3 g4 g5 g6 g7 : UInt16)
deriving DecidableEq, Repr

/-- An address with the length of its network part. -/
structure IpNetwork where
  address : IpAddress
  length : UInt8
deriving DecidableEq, Repr

namespace IpAddress

/-- Four octets with points between them. -/
def v4Text (a b c d : Nat) : String :=
  toString a ++ "." ++ toString b ++ "." ++ toString c ++ "." ++ toString d

/-- Groups in hexadecimal without leading zeros, with colons between them. -/
def groupsText (groups : List Nat) : String :=
  ":".intercalate (groups.map (Text.paddedHex 1))

/-- The number of zeros at the start. -/
def zeroRun (groups : List Nat) : Nat :=
  (groups.takeWhile (· == 0)).length

/-- Start and length of the longest run of zeros, the first of the longest ones. -/
def longestZeroRun (groups : List Nat) : Nat × Nat :=
  (List.range groups.length).foldl
    (fun best i => let n := zeroRun (groups.drop i); if best.2 < n then (i, n) else best) (0, 0)

/-- The longest run of two or more zero groups is written as two colons; an IPv4 address inside an
IPv6 one keeps its points. -/
def v6Text (groups : List Nat) : String :=
  match groups with
  | [0, 0, 0, 0, 0, 65535, high, low] =>
    "::ffff:" ++ v4Text (high / 256) (high % 256) (low / 256) (low % 256)
  | _ =>
    let (start, length) := longestZeroRun groups
    if length < 2 then groupsText groups
    else groupsText (groups.take start) ++ "::" ++ groupsText (groups.drop (start + length))

/-- The canonical text. -/
def text : IpAddress → String
  | .v4 a b c d => v4Text a.toNat b.toNat c.toNat d.toNat
  | .v6 g0 g1 g2 g3 g4 g5 g6 g7 =>
    v6Text [g0.toNat, g1.toNat, g2.toNat, g3.toNat, g4.toNat, g5.toNat, g6.toNat, g7.toNat]

/-- One to three digits without a leading zero that spell less than 256, and the rest. -/
def readOctet? (cs : List Char) : Option (Nat × List Char) :=
  let digits := cs.takeWhile Char.isDigit
  if 3 < digits.length || (digits.head? == some '0' && 1 < digits.length) then none
  else (Text.readNat? digits).bind fun n =>
    if n < 256 then some (n, cs.drop digits.length) else none

/-- Four octets at the start of a text, and the rest. -/
def readV4? (cs : List Char) : Option ((Nat × Nat × Nat × Nat) × List Char) := do
  let (a, cs) ← readOctet? cs
  let (b, cs) ← readOctet? (← Text.expect? '.' cs)
  let (c, cs) ← readOctet? (← Text.expect? '.' cs)
  let (d, cs) ← readOctet? (← Text.expect? '.' cs)
  some ((a, b, c, d), cs)

/-- One to four hexadecimal digits, and the rest. -/
def readGroup? (cs : List Char) : Option (Nat × List Char) :=
  let digits := cs.takeWhile fun c => (Text.hexValue? c).isSome
  if digits.isEmpty || 4 < digits.length then none
  else (Text.readHex? digits).map (·, cs.drop digits.length)

/-- Up to `room` groups with colons between them, an IPv4 address counting as the last two; also
whether such an address ended them, and the rest. `first` says that no colon precedes. -/
def readGroups : (room : Nat) → (first : Bool) → List Char → List Nat × Bool × List Char
  | 0, _, cs => ([], false, cs)
  | room + 1, first, cs =>
    match (if first then some cs else Text.expect? ':' cs) with
    | none => ([], false, cs)
    | some after =>
      match (if room = 0 then none else readV4? after) with
      | some ((a, b, c, d), rest) => ([a * 256 + b, c * 256 + d], true, rest)
      | none =>
        match readGroup? after with
        | none => ([], false, cs)
        | some (g, rest) =>
          let (groups, dotted, rest) := readGroups room false rest
          (g :: groups, dotted, rest)

/-- The IPv6 address of eight groups. -/
def ofGroups? : List Nat → Option IpAddress
  | [g0, g1, g2, g3, g4, g5, g6, g7] =>
    some (.v6 (.ofNat g0) (.ofNat g1) (.ofNat g2) (.ofNat g3) (.ofNat g4) (.ofNat g5) (.ofNat g6)
      (.ofNat g7))
  | _ => none

/-- An IPv6 address at the start of a text, and the rest: eight groups, or fewer around two colons
that stand for at least one zero group. -/
def readV6? (cs : List Char) : Option (IpAddress × List Char) :=
  let (head, dotted, rest) := readGroups 8 true cs
  if head.length = 8 then (ofGroups? head).map (·, rest)
  else if dotted then none
  else
    match rest with
    | ':' :: ':' :: rest =>
      let (tail, _, rest) := readGroups (7 - head.length) true rest
      (ofGroups? (head ++ List.replicate (8 - head.length - tail.length) 0 ++ tail)).map (·, rest)
    | _ => none

/-- Reads a text that is one address. -/
def read? (s : String) : Option IpAddress :=
  match readV4? s.toList with
  | some ((a, b, c, d), rest) =>
    if rest.isEmpty then some (.v4 (.ofNat a) (.ofNat b) (.ofNat c) (.ofNat d)) else none
  | none =>
    match readV6? s.toList with
    | some (address, rest) => if rest.isEmpty then some address else none
    | none => none

end IpAddress

/-- The address, a slash and the length of the network part. -/
def IpNetwork.text (n : IpNetwork) : String :=
  n.address.text ++ "/" ++ toString n.length.toNat

end SqlBridge
