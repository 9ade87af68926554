import Scaffold.Text.Numeral

/-!
# Text in a documentation comment

The API document stands in comments, and quotes texts there as double-quoted scalars. Control
characters, the quotation mark and the backslash are escaped; a slash behind an asterisk gets a
backslash in front, so that no text closes the comment that holds it.
-/

namespace Scaffold.Text.DocText

/-- One character between double quotation marks. -/
def encodeChar (c : Char) : List Char :=
  if c = '"' then ['\\', '"']
  else if c = '\\' then ['\\', '\\']
  else if c = '\n' then ['\\', 'n']
  else if c = '\r' then ['\\', 'r']
  else if c = '\t' then ['\\', 't']
  else if c.toNat = 8 then ['\\', 'b']
  else if c.toNat = 12 then ['\\', 'f']
  else if c.toNat < 32 then '\\' :: 'u' :: hexChars 4 c.toNat
  else [c]

/-- Puts a backslash between each asterisk and the slash behind it. -/
def guardClose : List Char → List Char
  | '*' :: '/' :: rest => '*' :: '\\' :: '/' :: guardClose rest
  | c :: rest => c :: guardClose rest
  | [] => []

/-- The characters between the quotation marks, not yet guarded. -/
def encode (cs : List Char) : List Char :=
  cs.flatMap encodeChar

end Scaffold.Text.DocText

namespace Scaffold.Text

/-- A text as a double-quoted scalar inside a documentation comment. -/
def docText (s : String) : String :=
  String.ofList (DocText.guardClose ('"' :: DocText.encode s.toList ++ ['"']))

end Scaffold.Text
