import Scaffold.Source.Yaml.Cursor
import Scaffold.Text.Halves

/-!
# Scalars

The texts of scalars in their five styles: plain, in single or double quotation marks, literal and
folded. Lines are folded alike in the first three: one line end becomes a space, further ones stay.
-/

namespace Scaffold.Yaml

/-- What a fold of lines amounts to: the first line end, and the empty lines behind it. -/
def foldedBreaks (first : Char) (others : List Char) : List Char :=
  (if first ≠ '\n' then [first] else if others.isEmpty then [' '] else []) ++ others

/-! ### Plain scalars -/

/-- Whether a colon in front of the given character ends a plain scalar. -/
def endsAtColon (inFlow : Bool) (next : Option Char) : Bool :=
  isGap next || (inFlow && endOr (fun c => ",[]\x7b\x7d".toList.contains c) next)

/-- The part of a plain scalar up to the next gap. -/
def plainRun (inFlow : Bool) : List Char → List Char
  | [] => []
  | c :: rest =>
    if isGap (some c) || (c == ':' && endsAtColon inFlow rest.head?)
      || (inFlow && ",?[]\x7b\x7d".toList.contains c) then []
    else c :: plainRun inFlow rest

/-- A plain scalar's text, the cursor behind it, and whether a key may come next. -/
structure PlainScan where
  text : List Char
  cursor : Cursor
  keyAllowed : Bool

/-- The empty lines inside a plain scalar, up to a line with text; none when a document ends. -/
def plainBreaks : Nat → List Char → Cursor → Option (List Char) × Cursor
  | 0, found, c => (some found, c)
  | fuel + 1, found, c =>
    if c.isAt ' ' then plainBreaks fuel found c.step
    else match c.lineBreak? with
      | none => (some found, c)
      | some (ch, c') =>
        if c'.atDocumentMark then (none, c') else plainBreaks fuel (found ++ [ch]) c'

/-- What stands between two parts of a plain scalar, none when it ends here. The last part of the
result says whether a line ended. -/
def plainGap (c : Cursor) : List Char × Cursor × Bool :=
  let (spaces, c) := c.span (· == ' ')
  match c.lineBreak? with
  | none => (spaces, c, false)
  | some (first, c) =>
    if c.atDocumentMark then ([], c, true)
    else match plainBreaks c.rest.length [] c with
      | (none, c) => ([], c, true)
      | (some others, c) => (foldedBreaks first others, c, true)

/-- Reads the parts of a plain scalar; `gap` is what stands in front of the next part. -/
def plainParts (inFlow : Bool) (indent : Int) : Nat → List Char → List Char → Bool → Cursor →
    PlainScan
  | 0, text, _, allowed, c => ⟨text, c, allowed⟩
  | fuel + 1, text, gap, allowed, c =>
    let run := if c.isAt '#' then [] else plainRun inFlow c.rest
    if run.isEmpty then ⟨text, c, allowed⟩
    else
      let text := text ++ gap ++ run
      let (gap, c, ended) := plainGap (c.skip run.length)
      if gap.isEmpty || c.isAt '#' || (!inFlow && c.column < indent) then ⟨text, c, ended⟩
      else plainParts inFlow indent fuel text gap ended c

/-- Reads a plain scalar inside a block of the given indentation. -/
def plainScalar (inFlow : Bool) (indent : Int) (c : Cursor) : PlainScan :=
  plainParts inFlow (indent + 1) (c.rest.length + 1) [] [] false c

/-! ### Scalars between quotation marks -/

/-- What was read of a scalar, and the cursor behind it. -/
abbrev Scanned := Except ReadError (List Char × Cursor)

/-- The character that a letter stands for behind a backslash. -/
def escaped? (c : Char) : Option Char :=
  match c with
  | '0' => some '\x00'
  | 'a' => some '\x07'
  | 'b' => some '\x08'
  | 't' => some '\t'
  | '\t' => some '\t'
  | 'n' => some '\n'
  | 'v' => some '\x0B'
  | 'f' => some '\x0C'
  | 'r' => some '\r'
  | 'e' => some '\x1B'
  | ' ' => some ' '
  | '"' => some '"'
  | '\\' => some '\\'
  | '/' => some '/'
  | 'N' => some '\u0085'
  | '_' => some '\u00A0'
  | 'L' => some '\u2028'
  | 'P' => some '\u2029'
  | _ => none

/-- The number of hexadecimal digits behind a letter that stands for a code point. -/
def codeLength? (c : Char) : Option Nat :=
  match c with
  | 'x' => some 2
  | 'u' => some 4
  | 'U' => some 8
  | _ => none

/-- The empty lines inside a quoted scalar. -/
def quotedBreaks : Nat → List Char → Cursor → Scanned
  | 0, found, c => .ok (found, c)
  | fuel + 1, found, c =>
    if c.atDocumentMark then .error .invalid
    else
      let c := c.skipSpacesAndTabs
      match c.lineBreak? with
      | some (ch, c') => quotedBreaks fuel (found ++ [ch]) c'
      | none => .ok (found, c)

/-- The code point that an escape spells by its digits, behind the backslash. -/
def escapedCode? (c : Cursor) : Option (Nat × Cursor) :=
  match c.peek.bind codeLength? with
  | none => none
  | some n =>
    let digits := c.step.rest.take n
    if digits.length < n then none
    else (Text.natural? 16 digits).map fun code => (code, c.step.skip n)

/-- The character at a code point that an escape has spelled. Two halves in a row do not make a
character. -/
def codeCharacter (code : Nat) (c : Cursor) : Scanned :=
  if 0x80000000 ≤ code then .error .hugeCode
  else if 0x110000 ≤ code then .error .noCharacter
  else .ok ([Text.unitCharacter code], { c with torn := c.torn || Text.isHalf code })

/-- The character that an escape spells, behind the backslash. -/
def escape (c : Cursor) : Scanned :=
  match c.peek with
  | none => .error .invalid
  | some ch =>
    match escaped? ch with
    | some e => .ok ([e], c.step)
    | none =>
      if (codeLength? ch).isSome then
        match escapedCode? c with
        | some (code, c) => codeCharacter code c
        | none => .error .invalid
      -- an escaped line end is dropped, and the empty lines behind it are not
      else if isBreak ch then quotedBreaks c.rest.length [] c.skipBreak
      else .error .invalid

/-- Whether a character stands for itself in a quoted scalar. -/
def isQuotedPlain (c : Char) : Bool :=
  !(c == '\'' || c == '"' || c == '\\' || c == ' ' || c == '\t' || isBreak c)

/-- The spaces and line ends inside a quoted scalar. -/
def quotedGap (c : Cursor) : Scanned :=
  let (spaces, c) := c.span fun ch => ch == ' ' || ch == '\t'
  match c.peek with
  | none => .error .invalid
  | some _ =>
    match c.lineBreak? with
    | none => .ok (spaces, c)
    | some (first, c) =>
      (quotedBreaks c.rest.length [] c).map fun r => (foldedBreaks first r.1, r.2)

/-- Reads a quoted scalar up to its closing mark. -/
def quotedParts (quote : Char) : Nat → List Char → Cursor → Scanned
  | 0, _, _ => .error .invalid
  | fuel + 1, text, c =>
    let (run, c) := c.span isQuotedPlain
    let text := text ++ run
    match c.peek with
    | none => .error .invalid
    | some ch =>
      if ch = quote then
        -- a single quotation mark is doubled to stand for itself
        if quote = '\'' && c.peekAt 1 == some '\'' then
          quotedParts quote fuel (text ++ ['\'']) (c.skip 2)
        else .ok (text, c.step)
      else if ch = '\'' || ch = '"' || (ch = '\\' && quote = '\'') then
        quotedParts quote fuel (text ++ [ch]) c.step
      else if ch = '\\' then
        match escape c.step with
        | .error e => .error e
        | .ok (more, c) => quotedParts quote fuel (text ++ more) c
      else
        match quotedGap c with
        | .error e => .error e
        | .ok (more, c) => quotedParts quote fuel (text ++ more) c

/-- Reads a quoted scalar from its opening mark on. -/
def quotedScalar (quote : Char) (c : Cursor) : Scanned :=
  quotedParts quote (c.rest.length + 1) [] c.step

/-! ### Block scalars -/

/-- What is done about the line ends at the end of a block scalar. -/
inductive Chomping where
  | strip
  | clip
  | keep
deriving Repr, DecidableEq

/-- The chomping that a character asks for. -/
def chomping? (c : Option Char) : Option Chomping :=
  match c with
  | some '-' => some .strip
  | some '+' => some .keep
  | _ => none

/-- The indentation that a digit asks for; zero is no indentation. -/
def increment? (c : Option Char) : Except ReadError (Option Nat) :=
  match c with
  | none => .ok none
  | some c =>
    match Text.digitValue? 10 c with
    | some 0 => .error .invalid
    | some n => .ok (some n)
    | none => .ok none

/-- The head of a block scalar: its chomping, and its indentation if that is given. -/
structure BlockHead where
  chomping : Chomping := .clip
  increment : Option Nat := none

/-- Reads the indicators of a block scalar, in either order. -/
def blockIndicators (c : Cursor) : Except ReadError (BlockHead × Cursor) :=
  match chomping? c.peek with
  | some chomping =>
    match increment? c.step.peek with
    | .error e => .error e
    | .ok (some n) => .ok (⟨chomping, some n⟩, c.skip 2)
    | .ok none => .ok (⟨chomping, none⟩, c.step)
  | none =>
    match increment? c.peek with
    | .error e => .error e
    | .ok none => .ok ({}, c)
    | .ok (some n) =>
      match chomping? c.step.peek with
      | some chomping => .ok (⟨chomping, some n⟩, c.skip 2)
      | none => .ok (⟨.clip, some n⟩, c.step)

/-- Goes to the next line; only a comment may stand before it. -/
def ignoredLine (c : Cursor) : Except ReadError Cursor :=
  let c := c.skipSpaces.skipComment
  if isLineEnd c.peek then .ok c.skipBreak else .error .invalid

/-- Goes to the first line of a block scalar with text; the empty lines before it and the greatest
column reached. -/
def blockIndentation : Nat → List Char → Nat → Cursor → List Char × Nat × Cursor
  | 0, found, most, c => (found, most, c)
  | fuel + 1, found, most, c =>
    if c.isAt ' ' then blockIndentation fuel found (max most c.step.column) c.step
    else match c.lineBreak? with
      | some (ch, c') => blockIndentation fuel (found ++ [ch]) most c'
      | none => (found, most, c)

/-- Goes past the empty lines of a block scalar. -/
def blockBreaks (indent : Int) : Nat → List Char → Cursor → List Char × Cursor
  | 0, found, c => (found, c)
  | fuel + 1, found, c =>
    let c := c.skipSpacesTo indent
    match c.lineBreak? with
    | some (ch, c') => blockBreaks indent fuel (found ++ [ch]) c'
    | none => (found, c)

/-- Whether a character makes the lines around it stand as they are. -/
def isSpaced (c : Option Char) : Bool := c == some ' ' || c == some '\t'

/-- What follows the line end behind a line of a block scalar that is not the last one. -/
def blockJoin (folded spaced : Bool) (lineBreak breaks : List Char) (next : Option Char) :
    List Char :=
  if folded && lineBreak == ['\n'] && !spaced && !isSpaced next then
    if breaks.isEmpty then [' '] else []
  else lineBreak

/-- Reads the lines of a block scalar, from the start of its first one. The result has the text
without its last line end, that line end, and the empty lines behind it. -/
def blockLines (folded : Bool) (indent : Int) : Nat → List Char → List Char → List Char → Cursor →
    List Char × List Char × List Char × Cursor
  | 0, text, lineBreak, breaks, c => (text, lineBreak, breaks, c)
  | fuel + 1, text, lineBreak, breaks, c =>
    if (c.column : Int) = indent && c.peek.isSome then
      let spaced := isSpaced c.peek
      let (line, c) := c.span fun ch => !isBreak ch
      let text := text ++ breaks ++ line
      let lineBreak := match c.lineBreak? with
        | some (ch, _) => [ch]
        | none => []
      let (breaks, c) := blockBreaks indent (c.rest.length + 1) [] c.skipBreak
      if (c.column : Int) = indent && c.peek.isSome then
        blockLines folded indent fuel (text ++ blockJoin folded spaced lineBreak breaks c.peek)
          lineBreak breaks c
      else (text, lineBreak, breaks, c)
    else (text, lineBreak, breaks, c)

/-- Reads a block scalar, from its indicator on, inside a block of the given indentation. -/
def blockScalar (folded : Bool) (parent : Int) (c : Cursor) : Scanned := do
  let (head, c) ← blockIndicators c.step
  if !isSpaceOrEnd c.peek then throw .invalid
  let c ← ignoredLine c
  -- even outside all blocks the text is indented
  let least := max (parent + 1) 1
  let (indent, breaks, c) : Int × List Char × Cursor := match head.increment with
    | none =>
      let (breaks, most, c) := blockIndentation (c.rest.length + 1) [] 0 c
      (max least most, breaks, c)
    | some n =>
      let indent := least + n - 1
      let (breaks, c) := blockBreaks indent (c.rest.length + 1) [] c
      (indent, breaks, c)
  let (text, lineBreak, breaks, c) := blockLines folded indent (c.rest.length + 1) [] [] breaks c
  let ending := match head.chomping with
    | .strip => []
    | .clip => lineBreak
    | .keep => lineBreak ++ breaks
  return (text ++ ending, c)

end Scaffold.Yaml
