/-!
# Blanks and marks

The white space of Unicode, trimming a text by it, and the small steps of readers: skipping blanks and
passing an expected character.
-/

namespace SqlBridge.Text

/-- White space, as the Unicode property White_Space lists it. -/
def isBlank (c : Char) : Bool :=
  let n := c.toNat
  (9 ≤ n && n ≤ 13) || n == 0x20 || n == 0x85 || n == 0xA0 || n == 0x1680
    || (0x2000 ≤ n && n ≤ 0x200A) || n == 0x2028 || n == 0x2029 || n == 0x202F || n == 0x205F
    || n == 0x3000

/-- The characters after the leading white space. -/
def trimStart (cs : List Char) : List Char :=
  cs.dropWhile isBlank

/-- The characters before the trailing white space. -/
def trimEnd (cs : List Char) : List Char :=
  (cs.reverse.dropWhile isBlank).reverse

/-- The characters between the surrounding white space. -/
def trim (cs : List Char) : List Char :=
  trimEnd (trimStart cs)

/-- A space or a tab, the only characters that separate the parts of a type notation. -/
def isSpaceOrTab (c : Char) : Bool :=
  c == ' ' || c == '\t'

/-- The characters after the leading spaces and tabs. -/
def skipSpaces (cs : List Char) : List Char :=
  cs.dropWhile isSpaceOrTab

/-- The rest of a text after a character that has to stand first. -/
def expect? (mark : Char) : List Char → Option (List Char)
  | c :: rest => if c = mark then some rest else none
  | [] => none

/-- ASCII letters in lower case; every other character stays. -/
def lower (s : String) : String :=
  String.ofList (s.toList.map Char.toLower)

end SqlBridge.Text
