import SqlBridge.Text.Width.Classes

/-!
# Widths of texts

The number of columns that a text takes on a terminal. A character takes none, one or two of them, but
some sequences are drawn as one character: emoji with a skin tone, in the style that a selector asks for,
joined to each other or spelling a flag, and letters that make ligatures. So a text is measured from its
end, and each character by what follows it.
-/

namespace SqlBridge.Text

namespace Width

/-- Letters that make one character with those before them, and such letters with a part of what goes
before them. -/
inductive Ligature where
  /-- Arabic alef, which lam takes in. -/
  | alef
  /-- Hebrew lamed, which alef takes in across a joiner. -/
  | lamed
  | joinedLamed
  /-- Buginese ya, which a with the vowel sign i takes in across a joiner. -/
  | ya
  | joinedYa
  /-- Ya after a joiner and the vowel sign i. -/
  | signedYa
  /-- A consonant of Tifinagh, which another one takes in across a joiner of either kind. -/
  | consonant
  | joinedConsonant
  /-- A consonant after the joiner of Tifinagh. -/
  | boundConsonant
  /-- The second tone of a pair of Lisu. -/
  | tone
  /-- Old Turkic i, which another letter takes in across a joiner. -/
  | orkhonI
  | joinedOrkhonI
  /-- A Khmer letter, which goes below the one before it after a coeng. -/
  | khmerLetter
deriving DecidableEq, Repr

/-- The letter after a joiner. -/
def Ligature.join : Ligature → Ligature
  | .lamed => .joinedLamed
  | .ya => .joinedYa
  | .consonant => .joinedConsonant
  | .orkhonI => .joinedOrkhonI
  | l => l

/-- What follows a character, as far as its width depends on it. -/
inductive Following where
  | other
  /-- An emoji, or a sequence that is drawn as one. -/
  | emoji
  | skinTone
  | flagLetter
  /-- Two letters of flags or more. -/
  | flag
  /-- A joiner with an emoji after it. -/
  | joined
  /-- The frame of a key, before a joiner with an emoji after it. -/
  | joinedKey
  /-- A letter of a flag, before a joiner with an emoji after it. -/
  | joinedFlagLetter
  /-- Letters of flags before a joiner with an emoji after it, with no letter or one to spare. -/
  | joinedFlag (spare : Bool)
  /-- The last letters of the tags that name a region, up to the end of the tags and a joiner with an
  emoji after it. -/
  | tagLetters (count : Nat)
  /-- Such tags with digits before the letters. -/
  | tagDigits (count : Nat)
  /-- The selector of the emoji style, possibly before a joiner with an emoji after it. -/
  | emojiStyle (joined : Bool)
  /-- The selector of the text style. -/
  | textStyle
  /-- A letter with the selectors before it. -/
  | ligature (letter : Ligature) (emojiStyle textStyle : Bool)
deriving DecidableEq, Repr

/-- A letter without selectors before it. -/
def Following.bare (letter : Ligature) : Following :=
  .ligature letter false false

/-- The joiner of emoji and of letters. -/
def joiner : Char := '\u200D'

/-- The joiner of the consonants of Tifinagh. -/
def tifinaghJoiner : Char := '\u2D7F'

/-- The Khmer sign that puts the next letter below the one before it. -/
def coeng : Char := '\u17D2'

/-- The width of a character by itself, and what it is for the character before it. -/
def alone (c : Char) : Nat × Following :=
  if c.toNat ≤ 0xA0 then (1, .other)
  else if c == '\uFE0F' then (0, .emojiStyle false)
  else if c == '\uFE0E' then (0, .textStyle)
  else if flagLetter.has c then (1, .flagLetter)
  else if skinTone.has c then (2, .skinTone)
  else if emoji.has c then (2, .emoji)
  else if alef.has c then (1, .bare .alef)
  else if c == '\u05DC' then (1, .bare .lamed)
  else if c == '\u1A10' then (1, .bare .ya)
  else if tifinagh.has c then (1, .bare .consonant)
  else if c == '\uA4FC' || c == '\uA4FD' then (1, .bare .tone)
  else if c.toNat = 0x10C03 then (1, .bare .orkhonI)
  else if khmerLetter.has c then (1, .bare .khmerLetter)
  else if c == '\u17D8' then (3, .other)
  else if zero.has c then (0, .other)
  else if wide.has c then (2, .other)
  else (1, .other)

/-- A character put in front of a text of the given width, measured by itself. -/
def putAlone (c : Char) (width : Nat) : Nat × Following :=
  ((alone c).1 + width, (alone c).2)

/-- The character can be told to be drawn as an emoji. -/
def takesEmojiStyle (c : Char) : Bool :=
  plainEmoji.has c || styledEmoji.has c

/-- A character put in front of a letter that the text of the given width begins with. -/
def putLetter (c : Char) (w : Nat) : Ligature → Nat × Following
  | .alef =>
    if lam.has c then (w, .other)
    else if zero.has c && !nonJoining.has c then (w, .bare .alef)
    else putAlone c w
  | letter =>
    if c == joiner then (w, .bare letter.join)
    else if transparent.has c then (w, .bare letter)
    else
      match letter with
      | .joinedLamed => if c == '\u05D0' then (w, .other) else putAlone c w
      | .joinedYa => if c == '\u1A17' then (w, .bare .signedYa) else putAlone c w
      | .signedYa => if c == '\u1A15' then (w, .other) else putAlone c w
      | .consonant => if c == tifinaghJoiner then (w + 1, .bare .boundConsonant) else putAlone c w
      | .joinedConsonant =>
        if c == tifinaghJoiner then (w + 1, .bare .boundConsonant)
        else if tifinagh.has c then (w, .other)
        else putAlone c w
      | .boundConsonant => if tifinagh.has c then (w - 1, .other) else putAlone c w
      | .tone => if '\uA4F8' ≤ c && c ≤ '\uA4FB' then (w, .other) else putAlone c w
      | .joinedOrkhonI => if c.toNat = 0x10C32 then (w, .other) else putAlone c w
      | .khmerLetter => if c == coeng then (w - 1, .other) else putAlone c w
      | _ => putAlone c w

/-- A character put in front of a joiner with an emoji after it. -/
def putJoined (c : Char) (w : Nat) : Nat × Following :=
  if c == '\uFE0F' then (w, .emojiStyle true)
  else if c == '\u20E3' then (w, .joinedKey)
  else if flagLetter.has c then (w + 1, .joinedFlagLetter)
  else if skinTone.has c then (w, .skinTone)
  else if c.toNat = 0xE007F then (w, .tagLetters 0)
  else if emoji.has c then (w, .emoji)
  else putAlone c w

/-- The character is a letter among the tags that name a region. -/
def isTagLetter (c : Char) : Bool :=
  0xE0061 ≤ c.toNat && c.toNat ≤ 0xE007A

/-- The character is a digit among the tags that name a region. -/
def isTagDigit (c : Char) : Bool :=
  0xE0030 ≤ c.toNat && c.toNat ≤ 0xE0039

/-- The flag that tags go with. -/
def isTagged (c : Char) : Bool :=
  c.toNat = 0x1F3F4

/-- A character put in front of a text of the given width that begins as told. -/
def put (c : Char) : Nat × Following → Nat × Following
  | (w, .other) => putAlone c w
  | (w, .emoji) => if c == joiner then (w, .joined) else putAlone c w
  | (w, .skinTone) =>
    if tonedEmoji.has c then (w, .emoji) else if c == joiner then (w, .joined) else putAlone c w
  | (w, .flagLetter) => if flagLetter.has c then (w + 1, .flag) else putAlone c w
  | (w, .flag) =>
    if flagLetter.has c then (w + 1, .flag) else if c == joiner then (w, .joined) else putAlone c w
  | (w, .joined) => putJoined c w
  | (w, .joinedKey) => if c == '\uFE0F' then (w, .emojiStyle true) else putAlone c w
  | (w, .joinedFlagLetter) => if flagLetter.has c then (w - 1, .joinedFlag false) else putAlone c w
  | (w, .joinedFlag spare) =>
    if flagLetter.has c then
      if spare then (w - 1, .joinedFlag false) else (w + 3, .joinedFlag true)
    else if c == joiner then (w, .joined)
    else putAlone c w
  | (w, .tagLetters count) =>
    if isTagLetter c && count < 6 then (w, .tagLetters (count + 1))
    else if isTagDigit c && count ≤ 4 then (w, .tagDigits 1)
    else if isTagged c && 3 ≤ count then (w, .emoji)
    else putAlone c w
  | (w, .tagDigits count) =>
    if isTagDigit c && count < 3 then (w, .tagDigits (count + 1))
    else if isTagged c && count = 3 then (w, .emoji)
    else putAlone c w
  | (w, .emojiStyle joined) =>
    if takesEmojiStyle c then (if joined then w else w + 2, .emoji) else putAlone c w
  | (w, .textStyle) => if styledEmoji.has c then (w + 1, .other) else putAlone c w
  | (w, .ligature letter emojiStyle textStyle) =>
    if emojiStyle && takesEmojiStyle c then (w + 2, .emoji)
    else if c.toNat ≤ 0xA0 then putAlone c w
    else if c == '\uFE0F' then (w, .ligature letter true textStyle)
    else if c == '\uFE0E' then (w, .ligature letter false true)
    else if textStyle && styledEmoji.has c then (w + 1, .other)
    else putLetter c w letter

end Width

/-- The number of columns that a text takes. -/
def width (s : String) : Nat :=
  (s.toList.foldr Width.put (0, .other)).1

end SqlBridge.Text
