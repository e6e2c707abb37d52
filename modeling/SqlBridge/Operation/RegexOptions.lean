import SqlBridge.HostValue.Basic

/-!
# Options of regular expressions

The options that programs give to regular expressions, as a set of bits, and the letters that databases
have for them.
-/

namespace SqlBridge

/-- A set of options. -/
structure RegexOptions where
  bits : UInt32
deriving DecidableEq, Repr

namespace RegexOptions

/-- No option. -/
def none : RegexOptions := ⟨0⟩

/-- Letters match in either case. -/
def ignoreCase : RegexOptions := ⟨1⟩

/-- Line ends count as ends of the text. -/
def multiline : RegexOptions := ⟨2⟩

/-- Only named groups are captured. -/
def explicitCapture : RegexOptions := ⟨4⟩

/-- The expression is compiled; without effect in a database. -/
def compiled : RegexOptions := ⟨8⟩

/-- A dot matches line ends too. -/
def singleline : RegexOptions := ⟨16⟩

/-- Blanks in the pattern are passed over. -/
def ignorePatternWhitespace : RegexOptions := ⟨32⟩

/-- The search runs from the end. -/
def rightToLeft : RegexOptions := ⟨64⟩

/-- The pattern follows the rules of browsers. -/
def ecmaScript : RegexOptions := ⟨256⟩

/-- Case does not hang on the language; without effect in a database. -/
def cultureInvariant : RegexOptions := ⟨512⟩

/-- The search does not backtrack. -/
def nonBacktracking : RegexOptions := ⟨1024⟩

/-- All options of the other set are in the set. -/
def contains (o other : RegexOptions) : Bool :=
  o.bits &&& other.bits == other.bits

/-- The options of both sets. -/
def union (o other : RegexOptions) : RegexOptions :=
  ⟨o.bits ||| other.bits⟩

/-- The options that databases have nothing for. -/
def unsupported : RegexOptions :=
  explicitCapture.union (rightToLeft.union (ecmaScript.union nonBacktracking))

/-- No option is among those that databases have nothing for. -/
def isSupported (o : RegexOptions) : Bool :=
  o.bits &&& unsupported.bits == 0

/-- The letters for how line ends match and whether blanks count. A dot does not match line ends unless
it is asked to. -/
def letters (o : RegexOptions) : String :=
  (if o.contains multiline then (if o.contains singleline then "w" else "n")
    else if o.contains singleline then "" else "p")
    ++ (if o.contains ignorePatternWhitespace then "x" else "")

/-- The options as a signed number of the same bits. -/
def signed (o : RegexOptions) : Int32 :=
  o.bits.toInt32

/-- The options as a value. -/
def toValue (o : RegexOptions) : HostValue :=
  .int32 o.signed

end RegexOptions

end SqlBridge
