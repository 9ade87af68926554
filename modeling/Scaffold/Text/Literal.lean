/-!
# String literals of generated scripts

A generated script carries every text of the document between single quotation marks. `encode`
escapes the backslash, the quotation mark and the line feed.
-/

namespace Scaffold.Text.Literal

/-- One character inside a literal. -/
def encodeChar (c : Char) : List Char :=
  if c = '\\' then ['\\', '\\']
  else if c = '\'' then ['\\', '\'']
  else if c = '\n' then ['\\', 'n']
  else [c]

/-- The characters between the quotation marks. -/
def encode (cs : List Char) : List Char :=
  cs.flatMap encodeChar

end Scaffold.Text.Literal

namespace Scaffold.Text

/-- A text as a single-quoted literal. -/
def literal (s : String) : String :=
  "'" ++ String.ofList (Literal.encode s.toList) ++ "'"

/-- Texts as an array literal. -/
def literalList (items : List String) : String :=
  "[" ++ ", ".intercalate (items.map literal) ++ "]"

end Scaffold.Text
