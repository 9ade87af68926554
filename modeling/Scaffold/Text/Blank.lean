/-!
# Blank characters

Two classes of blanks occur in this library. `isBlank` is the class that surrounds type
descriptors, JSON values and numerals; it holds the separators of ASCII (U+001C to U+001F) beside
every character with the property `White_Space`. `isWhiteSpace` is that property alone.

`strip` drops the blanks at both ends of a text and keeps those inside it.
-/

namespace Scaffold.Text

/-- The characters with the property `White_Space`. -/
def isWhiteSpace (c : Char) : Bool :=
  let n := c.toNat
  (9 ≤ n && n ≤ 13) || n == 32 || n == 0x85 || n == 0xA0 || n == 0x1680
    || (0x2000 ≤ n && n ≤ 0x200A) || n == 0x2028 || n == 0x2029 || n == 0x202F || n == 0x205F
    || n == 0x3000

/-- White space and the four information separators of ASCII. -/
def isBlank (c : Char) : Bool :=
  (28 ≤ c.toNat && c.toNat ≤ 31) || isWhiteSpace c

/-- Drops the leading and the trailing characters of a class. -/
def stripChars (p : Char → Bool) (cs : List Char) : List Char :=
  ((cs.dropWhile p).reverse.dropWhile p).reverse

/-- Drops the leading and the trailing characters of a class from a text. -/
def stripWith (p : Char → Bool) (s : String) : String :=
  String.ofList (stripChars p s.toList)

/-- Drops the blanks at both ends. -/
def strip (s : String) : String :=
  stripWith isBlank s

end Scaffold.Text
