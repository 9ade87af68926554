/-!
# Halves of characters

An escape of four hexadecimal digits cannot spell a character beyond `U+FFFF`. Such a character is
spelled by two escapes in a row, each for one of two halves that are no characters by themselves.

A text has only whole characters. A half that stands alone is put in as `replacement` while the text
around it is read, and `halfMessage` is the fault of the text if nothing else is wrong with it.
-/

namespace Scaffold.Text

/-- Whether a code unit is the first half of a pair. -/
def isHighHalf (n : Nat) : Bool := 0xD800 ≤ n && n < 0xDC00

/-- Whether a code unit is the second half of a pair. -/
def isLowHalf (n : Nat) : Bool := 0xDC00 ≤ n && n < 0xE000

/-- Whether a code unit is half a character. -/
def isHalf (n : Nat) : Bool := isHighHalf n || isLowHalf n

/-- What stands in the place of half a character. -/
def replacement : Char := '\uFFFD'

/-- The character of a code unit or a code point. -/
def unitCharacter (n : Nat) : Char := if isHalf n then replacement else Char.ofNat n

/-- The message about a text with half a character in it. -/
def halfMessage : String := "surrogates not allowed"

/-- The character that two halves make. -/
def joinHalves (high low : Nat) : Char :=
  Char.ofNat (0x10000 + (high - 0xD800) * 0x400 + (low - 0xDC00))

end Scaffold.Text
