import Scaffold.Source.Yaml.Error

/-!
# Places in a YAML text

A `Cursor` is the rest of a text with the place at which it starts. Lines and columns matter in
YAML, so every step forward keeps count of them. Line feeds, the next-line character and the two
separators of Unicode end a line; carriage returns have been replaced by line feeds before.
-/

namespace Scaffold.Yaml

/-- Whether a character ends a line. -/
def isBreak (c : Char) : Bool :=
  c == '\n' || c == '\u0085' || c == '\u2028' || c == '\u2029'

/-- Whether a character may occur in a text. -/
def isAllowed (c : Char) : Bool :=
  let n := c.toNat
  n == 9 || n == 10 || n == 13 || (0x20 ≤ n && n ≤ 0x7E) || n == 0x85 || (0xA0 ≤ n && n ≤ 0xD7FF)
    || (0xE000 ≤ n && n ≤ 0xFFFD) || 0x10000 ≤ n

/-- The rest of a text, and where it starts. -/
structure Cursor where
  rest : List Char
  index : Nat := 0
  line : Nat := 0
  column : Nat := 0
  /-- Whether an escape in front of this place spells half a character. -/
  torn : Bool := false
deriving Repr, DecidableEq, Inhabited

/-- What holds of the end of the text, and of a character. -/
def endOr (p : Char → Bool) : Option Char → Bool
  | none => true
  | some c => p c

def isLineEnd : Option Char → Bool := endOr isBreak

/-- Whether a line ends or a space follows. -/
def isSpaceOrEnd : Option Char → Bool := endOr fun c => c == ' ' || isBreak c

/-- Whether a line ends or a space or a tab follows. -/
def isGap : Option Char → Bool := endOr fun c => c == ' ' || c == '\t' || isBreak c

namespace Cursor

/-- The next character. -/
def peek (c : Cursor) : Option Char := c.rest.head?

/-- The character after `n` others. -/
def peekAt (c : Cursor) (n : Nat) : Option Char := c.rest[n]?

/-- Whether a character comes next. -/
def isAt (c : Cursor) (ch : Char) : Bool := c.peek == some ch

/-- Goes past one character. A byte order mark takes no column. -/
def step (c : Cursor) : Cursor :=
  match c.rest with
  | [] => c
  | ch :: rest =>
    let c := { c with rest := rest, index := c.index + 1 }
    if isBreak ch then { c with line := c.line + 1, column := 0 }
    else if ch = '\uFEFF' then c
    else { c with column := c.column + 1 }

/-- Goes past some characters. -/
def skip : Nat → Cursor → Cursor
  | 0, c => c
  | n + 1, c => skip n c.step

/-- The characters of a class that come next, and the cursor behind them. -/
def span (p : Char → Bool) (c : Cursor) : List Char × Cursor :=
  let taken := c.rest.takeWhile p
  (taken, c.skip taken.length)

/-- Goes past the spaces. -/
def skipSpaces (c : Cursor) : Cursor := (c.span (· == ' ')).2

/-- Goes past the spaces and the tabs. -/
def skipSpacesAndTabs (c : Cursor) : Cursor := (c.span fun ch => ch == ' ' || ch == '\t').2

/-- Goes past a comment, up to the end of its line. -/
def skipComment (c : Cursor) : Cursor :=
  if c.isAt '#' then (c.span fun ch => !isBreak ch).2 else c

/-- Goes past the spaces in front of a column. -/
def skipSpacesTo (column : Int) (c : Cursor) : Cursor :=
  c.skip (min (c.rest.takeWhile (· == ' ')).length (column - c.column).toNat)

/-- The end of a line, as it counts in a scalar: the separators of Unicode stay as they are. -/
def lineBreak? (c : Cursor) : Option (Char × Cursor) :=
  match c.peek with
  | some ch =>
    if isBreak ch then some (if ch = '\u2028' || ch = '\u2029' then ch else '\n', c.step) else none
  | none => none

/-- Goes past the end of a line. -/
def skipBreak (c : Cursor) : Cursor :=
  match c.lineBreak? with
  | some (_, c') => c'
  | none => c

/-- Whether three characters of a mark come next, with a gap behind them. -/
def atMark (mark : Char) (c : Cursor) : Bool :=
  c.rest.take 3 == [mark, mark, mark] && isGap (c.peekAt 3)

/-- Whether a line starts with the mark of a document's start or end. -/
def atDocumentMark (c : Cursor) : Bool := c.atMark '-' || c.atMark '.'

end Cursor

end Scaffold.Yaml
