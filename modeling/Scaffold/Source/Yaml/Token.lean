import Scaffold.Source.Yaml.Scalar
import Scaffold.Text.Utf8

/-!
# Tokens of a YAML text

`Token.ofText` cuts a text into tokens. Blocks have no marks of their own in the text: tokens for
their starts and ends are put in where the column of a line says so, and the token for a key is put
in front of it once the colon behind it is found. A fault does not undo the tokens in front of it:
what they make up may be refused for another reason, which then comes first.
-/

namespace Scaffold.Yaml

/-- A token. -/
inductive Token where
  /-- A directive with the version of the format. -/
  | version (major : Nat)
  /-- A directive that makes a handle stand for the start of tags. -/
  | tagHandle (handle start : String)
  /-- Any other directive. -/
  | directive
  | documentStart
  | documentEnd
  | textEnd
  | flowSequenceStart
  | flowSequenceEnd
  | flowMappingStart
  | flowMappingEnd
  | flowEntry
  | blockSequenceStart
  | blockMappingStart
  | blockEnd
  | blockEntry
  | key
  | value
  | alias (name : String)
  | anchor (name : String)
  /-- A tag; without a handle it is spelled out. -/
  | tag (handle : Option String) (suffix : String)
  | scalar (text : String) (isPlain : Bool)
deriving Repr, DecidableEq, Inhabited

/-- The tokens of a text up to its end, or up to a fault. The fault counts only when what comes in
front of it has been taken in and more is asked for. -/
structure Tokens where
  ahead : List Token
  fault : ReadError := .invalid
  /-- Whether a scalar has half a character in it. -/
  torn : Bool := false
deriving Repr, DecidableEq

/-! ### Directives, anchors and tags -/

/-- Whether a character may stand in the name of a directive or an anchor. -/
def isNameChar (c : Char) : Bool := c.isAlphanum || c == '-' || c == '_'

/-- Whether a character may stand in a tag. -/
def isTagChar (c : Char) : Bool := c.isAlphanum || "-;/?:@&=+$,_.!~*'()[]".toList.contains c

/-- Reads the bytes that percent signs spell, which must be characters. -/
def tagBytes : Nat → List UInt8 → Cursor → Scanned
  | 0, _, _ => .error .invalid
  | fuel + 1, found, c =>
    if c.isAt '%' then
      match c.step.rest.take 2 with
      | [a, b] =>
        match Text.natural? 16 [a, b] with
        | some n => tagBytes fuel (found ++ [n.toUInt8]) (c.skip 3)
        | none => .error .invalid
      | _ => .error .invalid
    else match Text.Utf8.decode ⟨found.toArray⟩ with
      | .ok cs => .ok (cs, c)
      | .error _ => .error .invalid

def tagChars : Nat → List Char → Cursor → Scanned
  | 0, found, c => .ok (found, c)
  | fuel + 1, found, c =>
    let (run, c) := c.span isTagChar
    if c.isAt '%' then
      match tagBytes (c.rest.length + 1) [] c with
      | .error e => .error e
      | .ok (more, c) => tagChars fuel (found ++ run ++ more) c
    else .ok (found ++ run, c)

/-- Reads a tag or a part of one, which must not be empty. -/
def tagText (c : Cursor) : Except ReadError (String × Cursor) :=
  match tagChars (c.rest.length + 1) [] c with
  | .error e => .error e
  | .ok (cs, c') => if c'.index = c.index then .error .invalid else .ok (String.ofList cs, c')

/-- Reads a handle: an exclamation mark, or a name between two of them. -/
def handle (c : Cursor) : Except ReadError (String × Cursor) :=
  if !c.isAt '!' then .error .invalid
  else if c.peekAt 1 == some ' ' then .ok ("!", c.step)
  else
    let (name, c) := c.step.span isNameChar
    if c.isAt '!' then .ok ("!" ++ String.ofList name ++ "!", c.step) else .error .invalid

def versionNumber (c : Cursor) : Except ReadError (Nat × Cursor) :=
  let (digits, c) := c.span Char.isDigit
  match Text.natural? 10 digits with
  | some n => .ok (n, c)
  | none => .error .invalid

def versionDirective (c : Cursor) : Except ReadError (Token × Cursor) := do
  let (major, c) ← versionNumber c.skipSpaces
  if !c.isAt '.' then throw .invalid
  let (_, c) ← versionNumber c.step
  if isSpaceOrEnd c.peek then return (.version major, c) else throw .invalid

/-- Reads a handle and what it stands for behind the name of their directive. -/
def tagDirective (c : Cursor) : Except ReadError (Token × Cursor) := do
  let (handle, c) ← handle c.skipSpaces
  if !c.isAt ' ' then throw .invalid
  let (start, c) ← tagText c.skipSpaces
  if isSpaceOrEnd c.peek then return (.tagHandle handle start, c) else throw .invalid

/-- Reads a directive with the rest of its line. -/
def directive (c : Cursor) : Except ReadError (Token × Cursor) := do
  let (name, c) := c.step.span isNameChar
  if name.isEmpty || !isSpaceOrEnd c.peek then throw .invalid
  let (token, c) ←
    if name = "YAML".toList then versionDirective c
    else if name = "TAG".toList then tagDirective c
    else .ok (.directive, (c.span fun ch => !isBreak ch).2)
  return (token, ← ignoredLine c)

/-- Whether a character may follow the name of an anchor. -/
def isAfterName : Option Char → Bool :=
  endOr fun c => isGap (some c) || "?:,]\x7d%@`".toList.contains c

/-- Reads the name of an anchor or an alias behind its mark. -/
def anchorName (c : Cursor) : Except ReadError (String × Cursor) :=
  let (name, c) := c.step.span isNameChar
  if name.isEmpty || !isAfterName c.peek then .error .invalid else .ok (String.ofList name, c)

/-- Reads a tag with or without a handle, behind an exclamation mark that is not a tag by itself. -/
def shortTag (c : Cursor) : Except ReadError (Token × Cursor) := do
  let usesHandle := (c.step.rest.takeWhile fun ch => !isSpaceOrEnd (some ch)).contains '!'
  let (name, c) ← if usesHandle then handle c else .ok ("!", c.step)
  let (suffix, c) ← tagText c
  return (.tag (some name) suffix, c)

/-- Reads a tag that is spelled out between angle brackets. -/
def spelledTag (c : Cursor) : Except ReadError (Token × Cursor) := do
  let (suffix, c) ← tagText (c.skip 2)
  if c.isAt '>' then return (.tag none suffix, c.step) else throw .invalid

def tagToken (c : Cursor) : Except ReadError (Token × Cursor) := do
  let (token, c) ←
    if c.peekAt 1 == some '<' then spelledTag c
    else if isGap (c.peekAt 1) then .ok (.tag none "!", c.step)
    else shortTag c
  if isSpaceOrEnd c.peek then return (token, c) else throw .invalid

/-! ### Cutting a text into tokens -/

/-- A place where a key may start: the number of tokens before it, and where it is. A required key
starts a line of the block that it is in. -/
structure PossibleKey where
  before : Nat
  required : Bool
  index : Nat
  line : Nat
  column : Nat
deriving Repr, DecidableEq

/-- The state between two tokens. -/
structure Lexer where
  cursor : Cursor
  /-- The tokens so far, the last one first. -/
  found : List Token := []
  /-- The columns of the blocks around, the innermost first. -/
  blocks : List Int := []
  /-- The possible key at each level of brackets around, the innermost first. -/
  keys : List (Option PossibleKey) := [none]
  keyAllowed : Bool := true

namespace Lexer

/-- The column of the innermost block. -/
def indent (l : Lexer) : Int := l.blocks.headD (-1)

/-- Whether the place is inside brackets. -/
def inFlow (l : Lexer) : Bool := 1 < l.keys.length

/-- Puts a token behind the others. -/
def push (l : Lexer) (t : Token) : Lexer := { l with found := t :: l.found }

/-- Puts a token in front of those from a number on. -/
def insert (l : Lexer) (before : Nat) (t : Token) : Lexer :=
  -- the tokens are in reverse, so those behind come first
  let later := l.found.length - before
  { l with found := l.found.take later ++ t :: l.found.drop later }

/-- Puts a token behind the others and goes past its characters. -/
def take (l : Lexer) (length : Nat) (t : Token) : Lexer :=
  { l.push t with cursor := l.cursor.skip length }

/-- The possible key of this level. -/
def key? (l : Lexer) : Option PossibleKey := l.keys.head?.join

/-- Changes the possible key of this level. -/
def setKey (l : Lexer) (k : Option PossibleKey) : Lexer := { l with keys := k :: l.keys.drop 1 }

/-- Gives up the possible key of this level; a required one must not be given up. -/
def dropKey (l : Lexer) : Except ReadError Lexer :=
  match l.key? with
  | some k => if k.required then .error .invalid else .ok (l.setKey none)
  | none => .ok l

/-- The most characters that a key may have. -/
def maxKeyLength : Nat := 1024

/-- Whether a possible key is too far back. -/
def isStale (l : Lexer) (k : PossibleKey) : Bool :=
  k.line != l.cursor.line || maxKeyLength < l.cursor.index - k.index

/-- Gives up the possible keys that are too far back. -/
def dropStaleKeys (l : Lexer) : Except ReadError Lexer :=
  if l.keys.any fun k => k.any fun k => l.isStale k && k.required then .error .invalid
  else .ok { l with keys := l.keys.map fun k => k.filter fun k => !l.isStale k }

/-- Notes that a key may start here. -/
def saveKey (l : Lexer) : Except ReadError Lexer :=
  if l.keyAllowed then
    l.dropKey.map fun l => l.setKey (some
      -- a line that starts where its block does can only go on with a key
      { before := l.found.length, required := !l.inFlow && l.indent == l.cursor.column
        index := l.cursor.index, line := l.cursor.line, column := l.cursor.column })
  else .ok l

/-- Allows or forbids a key at the next place. -/
def allowKey (l : Lexer) (allowed : Bool) : Lexer := { l with keyAllowed := allowed }

/-- Ends the blocks that start right of a column, the innermost first. -/
def endBlocks (l : Lexer) (column : Int) : Lexer :=
  if l.inFlow then l
  else
    let ended := l.blocks.takeWhile (column < ·)
    { l with found := ended.map (fun _ => Token.blockEnd) ++ l.found
             blocks := l.blocks.drop ended.length }

/-- Starts a block at a column, unless the innermost one starts there or right of it. The block's
token goes in front of the tokens from the given number on. -/
def startBlock (l : Lexer) (column : Int) (before : Nat) (t : Token) : Lexer :=
  if l.indent < column then { l.insert before t with blocks := column :: l.blocks } else l

/-! #### Goes to the next token -/

/-- Goes past spaces, comments and line ends. Outside brackets a key may start on a new line. -/
def skipGaps : Nat → Lexer → Lexer
  | 0, l => l
  | fuel + 1, l =>
    let c := l.cursor.skipSpaces.skipComment
    match c.lineBreak? with
    | some (_, c') => skipGaps fuel { l with cursor := c', keyAllowed := l.keyAllowed || !l.inFlow }
    | none => { l with cursor := c }

/-- Goes past a byte order mark at the start of the text. -/
def skipMark (l : Lexer) : Lexer :=
  if l.cursor.index = 0 && l.cursor.isAt '\uFEFF' then { l with cursor := l.cursor.step } else l

/-! #### Tokens -/

/-- The end of the text. -/
def textEnd (l : Lexer) : Except ReadError Lexer :=
  (l.endBlocks (-1)).dropKey.map (·.push .textEnd)

def takeDirective (l : Lexer) : Except ReadError Lexer := do
  let l ← (l.endBlocks (-1)).dropKey
  let (token, c) ← directive l.cursor
  return { (l.allowKey false).push token with cursor := c }

/-- The start or the end of a document. -/
def takeMark (l : Lexer) (t : Token) : Except ReadError Lexer :=
  (l.endBlocks (-1)).dropKey.map fun l => (l.allowKey false).take 3 t

/-- An opening bracket. -/
def openFlow (l : Lexer) (t : Token) : Except ReadError Lexer :=
  l.saveKey.map fun l => { (l.allowKey true).take 1 t with keys := none :: l.keys }

/-- A closing bracket. -/
def closeFlow (l : Lexer) (t : Token) : Except ReadError Lexer := do
  let l ← l.dropKey
  if l.inFlow then return { (l.allowKey false).take 1 t with keys := l.keys.drop 1 }
  else throw .invalid

/-- A comma between brackets. -/
def takeComma (l : Lexer) : Except ReadError Lexer :=
  (l.allowKey true).dropKey.map (·.take 1 .flowEntry)

def takeDash (l : Lexer) : Except ReadError Lexer := do
  let l ←
    if l.inFlow then .ok l
    else if !l.keyAllowed then .error .invalid
    else .ok (l.startBlock l.cursor.column l.found.length .blockSequenceStart)
  let l ← (l.allowKey true).dropKey
  return l.take 1 .blockEntry

/-- The question mark in front of a key. -/
def takeQuestion (l : Lexer) : Except ReadError Lexer := do
  let l ←
    if l.inFlow then .ok l
    else if !l.keyAllowed then .error .invalid
    else .ok (l.startBlock l.cursor.column l.found.length .blockMappingStart)
  let l ← (l.allowKey !l.inFlow).dropKey
  return l.take 1 .key

/-- The colon behind a key that was noted, or behind a longer one. -/
def takeColon (l : Lexer) : Except ReadError Lexer :=
  match l.key? with
  | some k =>
    let l := (l.setKey none).insert k.before .key
    -- the mapping starts at its first key, which is behind this place
    let l := if l.inFlow then l else l.startBlock k.column k.before .blockMappingStart
    .ok ((l.allowKey false).take 1 .value)
  | none =>
    if !l.inFlow && !l.keyAllowed then .error .invalid
    else
      let l := if l.inFlow then l
        else l.startBlock l.cursor.column l.found.length .blockMappingStart
      .ok ((l.allowKey !l.inFlow).take 1 .value)

/-- A token that may be a key, read by the given function. -/
def takeKeyLike (l : Lexer) (read : Cursor → Except ReadError (Token × Cursor)) :
    Except ReadError Lexer := do
  let l ← l.saveKey
  let (token, c) ← read l.cursor
  return { (l.allowKey false).push token with cursor := c }

/-- A scalar between quotation marks. -/
def takeQuoted (l : Lexer) (quote : Char) : Except ReadError Lexer :=
  l.takeKeyLike fun c =>
    (quotedScalar quote c).map fun r => (.scalar (String.ofList r.1) false, r.2)

/-- A plain scalar. -/
def takePlain (l : Lexer) : Except ReadError Lexer :=
  l.saveKey.map fun l =>
    let scan := plainScalar l.inFlow l.indent l.cursor
    { (l.allowKey scan.keyAllowed).push (.scalar (String.ofList scan.text) true) with
      cursor := scan.cursor }

def takeBlockScalar (l : Lexer) (folded : Bool) : Except ReadError Lexer := do
  let l ← (l.allowKey true).dropKey
  let (text, c) ← blockScalar folded l.indent l.cursor
  return { l.push (.scalar (String.ofList text) false) with cursor := c }

/-- Whether a plain scalar may start here. -/
def startsPlain (l : Lexer) (ch : Char) : Bool :=
  !(isGap (some ch) || "-?:,[]\x7b\x7d#&*!|>'\"%@`".toList.contains ch)
    || (!isGap (l.cursor.peekAt 1) && (ch == '-' || (!l.inFlow && (ch == '?' || ch == ':'))))

/-- Reads the token that starts with a character. -/
def takeToken (l : Lexer) (ch : Char) : Except ReadError Lexer :=
  let c := l.cursor
  let gapAfter := isGap (c.peekAt 1)
  if ch = '%' && c.column = 0 then l.takeDirective
  -- the marks of documents come before all else that starts with a dash or a dot
  else if c.column = 0 && c.atMark '-' then l.takeMark .documentStart
  else if c.column = 0 && c.atMark '.' then l.takeMark .documentEnd
  else if ch = '[' then l.openFlow .flowSequenceStart
  else if ch = '{' then l.openFlow .flowMappingStart
  else if ch = ']' then l.closeFlow .flowSequenceEnd
  else if ch = '}' then l.closeFlow .flowMappingEnd
  else if ch = ',' then l.takeComma
  else if ch = '-' && gapAfter then l.takeDash
  else if ch = '?' && (l.inFlow || gapAfter) then l.takeQuestion
  else if ch = ':' && (l.inFlow || gapAfter) then l.takeColon
  else if ch = '*' then l.takeKeyLike fun c => (anchorName c).map fun r => (.alias r.1, r.2)
  else if ch = '&' then l.takeKeyLike fun c => (anchorName c).map fun r => (.anchor r.1, r.2)
  else if ch = '!' then l.takeKeyLike tagToken
  else if ch = '|' && !l.inFlow then l.takeBlockScalar false
  else if ch = '>' && !l.inFlow then l.takeBlockScalar true
  else if ch = '\'' then l.takeQuoted '\''
  else if ch = '"' then l.takeQuoted '"'
  else if l.startsPlain ch then l.takePlain
  else .error .invalid

/-- Goes to the next token and reads it, with the ends of blocks in front of it. -/
def readNext (l : Lexer) : Except ReadError Lexer := do
  let l ← (skipGaps (l.cursor.rest.length + 1) l.skipMark).dropStaleKeys
  let l := l.endBlocks l.cursor.column
  match l.cursor.peek with
  | none => l.textEnd
  | some ch => l.takeToken ch

/-- The number of tokens that are settled: a token from a possible key on may still get one for the
key in front of it. -/
def settledLength (l : Lexer) : Nat :=
  (l.keys.filterMap fun k => k.map (·.before)).foldl min l.found.length

/-- The tokens that are settled when a fault ends the reading. -/
def brokenOff (l : Lexer) (fault : ReadError) : Tokens :=
  { ahead := l.found.reverse.take l.settledLength, fault := fault }

/-- Reads tokens to the end of the text, or to a fault. -/
def run : Nat → Lexer → Tokens
  | 0, l => l.brokenOff .invalid
  | fuel + 1, l =>
    match l.readNext with
    | .error fault => l.brokenOff fault
    | .ok next =>
      if next.found.head? = some .textEnd then
        { ahead := next.found.reverse, torn := next.cursor.torn }
      -- a key that has grown too old takes the last token with it
      else match next.dropStaleKeys with
        | .error fault => l.brokenOff fault
        | .ok next => run fuel next

end Lexer

/-- Cuts a text into tokens. -/
def Token.ofText (cs : List Char) : Tokens :=
  if cs.all isAllowed then Lexer.run (cs.length + 1) { cursor := { rest := cs } }
  else { ahead := [] }

end Scaffold.Yaml
