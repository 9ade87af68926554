import Scaffold.Decimal.Read
import Scaffold.Text.Halves
import Scaffold.Text.Numeral
import Scaffold.Value.Basic

/-!
# JSON

`Json.read` reads a JSON text as a value. Beyond the standard it knows the numbers `NaN` and
`Infinity`; a name that occurs twice in an object keeps its first place and gets its last value. The
first fault from the left decides the error, which names its line and column. `spellsHalf` tells a
text that is read, but has half a character in it.
-/

namespace Scaffold.Json

/-- What is wrong at some place of a text. -/
inductive Fault where
  | byteOrderMark
  | noValue
  | noName
  | noColon
  | noComma
  | extraData
  | controlCharacter
  | unterminatedString
  | unknownEscape
  | badCodeUnit
deriving Repr, DecidableEq

def Fault.message : Fault → String
  | byteOrderMark => "Unexpected UTF-8 BOM (decode using utf-8-sig)"
  | noValue => "Expecting value"
  | noName => "Expecting property name enclosed in double quotes"
  | noColon => "Expecting ':' delimiter"
  | noComma => "Expecting ',' delimiter"
  | extraData => "Extra data"
  | controlCharacter => "Invalid control character at"
  | unterminatedString => "Unterminated string starting at"
  | unknownEscape => "Invalid \\escape"
  | badCodeUnit => "Invalid \\uXXXX escape"

/-- The kinds of values that have others in them. -/
inductive Collection where
  | object
  | array
deriving Repr, DecidableEq

/-- The word for a kind of collection. -/
def Collection.word : Collection → String
  | object => "object"
  | array => "array"

/-- Why a text is not read. A place is given by the number of characters from it to the end. -/
inductive Failure where
  | malformed (fault : Fault) (left : Nat)
  | tooManyDigits (count : Nat)
  /-- A collection stands inside of too many others. -/
  | tooDeep (collection : Collection)
deriving Repr, DecidableEq

/-- What was read, and the rest of the text. -/
abbrev Parsed (α : Type) := Except Failure (α × List Char)

def fail {α : Type} (fault : Fault) (rest : List Char) : Parsed α :=
  .error (.malformed fault rest.length)

/-- Whether a character may stand between the parts of a text. -/
def isBlank (c : Char) : Bool := c == ' ' || c == '\t' || c == '\n' || c == '\r'

/-- Drops the blanks at the start. -/
def skipBlanks (cs : List Char) : List Char := cs.dropWhile isBlank

/-! ### Strings -/

/-- The number that four hexadecimal digits spell. -/
def codeUnit? (a b c d : Char) : Option Nat := Text.natural? 16 [a, b, c, d]

/-- The character that a letter stands for behind a backslash. -/
def escaped? (c : Char) : Option Char :=
  match c with
  | '"' => some '"'
  | '\\' => some '\\'
  | '/' => some '/'
  | 'b' => some '\x08'
  | 'f' => some '\x0c'
  | 'n' => some '\n'
  | 'r' => some '\r'
  | 't' => some '\t'
  | _ => none

/-- Puts a character in front of what was read. -/
def push (c : Char) (p : Parsed (List Char)) : Parsed (List Char) :=
  p.map fun r => (c :: r.1, r.2)

/-- Reads up to the closing quotation mark; `opening` is the number of characters from the opening
one to the end. -/
def stringBody (opening : Nat) : List Char → Parsed (List Char)
  | [] => .error (.malformed .unterminatedString opening)
  | '"' :: rest => .ok ([], rest)
  | ['\\'] => .error (.malformed .unterminatedString opening)
  | '\\' :: 'u' :: a :: b :: c :: d :: rest =>
    match rest, codeUnit? a b c d with
    -- an escape must not end the text, even if its digits are right
    | [], _ => fail .badCodeUnit ('u' :: a :: b :: c :: d :: rest)
    | _ :: _, none => fail .badCodeUnit ('u' :: a :: b :: c :: d :: rest)
    -- a first half is joined with a second half behind it, and with nothing else
    | '\\' :: 'u' :: e :: f :: g :: h :: next :: more, some high =>
      if Text.isHighHalf high then
        match codeUnit? e f g h with
        | none => fail .badCodeUnit ('u' :: e :: f :: g :: h :: next :: more)
        | some low =>
          if Text.isLowHalf low then
            push (Text.joinHalves high low) (stringBody opening (next :: more))
          else push (Text.unitCharacter high)
            (stringBody opening ('\\' :: 'u' :: e :: f :: g :: h :: next :: more))
      else push (Text.unitCharacter high)
        (stringBody opening ('\\' :: 'u' :: e :: f :: g :: h :: next :: more))
    | rest, some n => push (Text.unitCharacter n) (stringBody opening rest)
  | '\\' :: c :: rest =>
    if c = 'u' then fail .badCodeUnit (c :: rest)
    else match escaped? c with
      | some e => push e (stringBody opening rest)
      | none => fail .unknownEscape ('\\' :: c :: rest)
  | c :: rest =>
    if c.toNat ≤ 0x1F then fail .controlCharacter (c :: rest)
    else push c (stringBody opening rest)
termination_by cs => cs.length

/-- Whether an escape in a text that is read spells half a character that stands alone. -/
def spellsHalf : List Char → Bool
  | '\\' :: 'u' :: a :: b :: c :: d :: rest =>
    match codeUnit? a b c d, rest with
    | some n, '\\' :: 'u' :: e :: f :: g :: h :: more =>
      if Text.isHighHalf n && (codeUnit? e f g h).any Text.isLowHalf then spellsHalf more
      else Text.isHalf n || spellsHalf ('\\' :: 'u' :: e :: f :: g :: h :: more)
    | some n, rest => Text.isHalf n || spellsHalf rest
    | none, rest => spellsHalf rest
  | '\\' :: _ :: rest => spellsHalf rest
  | _ :: rest => spellsHalf rest
  | [] => false
termination_by cs => cs.length

/-! ### Numbers -/

/-- A digit. -/
def isDigit (c : Char) : Bool := '0' ≤ c && c ≤ '9'

/-- The digits in front of a number's point, which has no zeros to start with. -/
def wholeDigits? : List Char → Option (List Char × List Char)
  | '0' :: rest => some (['0'], rest)
  | c :: rest =>
    if isDigit c then some (c :: rest.takeWhile isDigit, rest.dropWhile isDigit) else none
  | [] => none

/-- A point with the digits behind it, if there are any. -/
def fractionDigits : List Char → List Char × List Char
  | '.' :: c :: rest =>
    if isDigit c then ('.' :: c :: rest.takeWhile isDigit, rest.dropWhile isDigit)
    else ([], '.' :: c :: rest)
  | cs => ([], cs)

def exponentSign : List Char → List Char × List Char
  | '+' :: rest => (['+'], rest)
  | '-' :: rest => (['-'], rest)
  | cs => ([], cs)

/-- An exponent, if it has digits. -/
def exponentDigits (cs : List Char) : List Char × List Char :=
  match cs with
  | c :: rest =>
    let (sign, digits) := exponentSign rest
    if (c == 'e' || c == 'E') && !(digits.takeWhile isDigit).isEmpty then
      (c :: sign ++ digits.takeWhile isDigit, digits.dropWhile isDigit)
    else ([], cs)
  | [] => ([], [])

/-- The value of a number without fraction and exponent. -/
def wholeNumber (negative : Bool) (digits : List Char) : Except Failure Value :=
  if Text.maxDigits < digits.length then .error (.tooManyDigits digits.length)
  else match Text.natural? 10 digits with
    | some n => .ok (.int (Text.withSign negative n))
    -- digits always spell a number
    | none => .ok .null

def number (cs : List Char) : Parsed Value :=
  let (negative, body) : Bool × List Char := match cs with
    | '-' :: rest => (true, rest)
    | cs => (false, cs)
  match wholeDigits? body with
  | none => fail .noValue cs
  | some (whole, rest) =>
    let (fraction, rest) := fractionDigits rest
    let (exponent, rest) := exponentDigits rest
    if fraction.isEmpty && exponent.isEmpty then
      (wholeNumber negative whole).map fun v => (v, rest)
    else
      let spelled := (if negative then ['-'] else []) ++ whole ++ fraction ++ exponent
      match Decimal.ofText? (String.ofList spelled) with
      | some x => .ok (.float x, rest)
      | none => fail .noValue cs

/-! ### Values -/

/-- The words that stand for values. -/
def words : List (String × Value) :=
  [("null", .null), ("true", .bool true), ("false", .bool false),
    ("NaN", .float Decimal.notANumber), ("Infinity", .float (Decimal.infinity false)),
    ("-Infinity", .float (Decimal.infinity true))]

def word? (cs : List Char) : Option (Value × List Char) :=
  (words.find? fun w => w.1.toList.isPrefixOf cs).map fun w => (w.2, cs.drop w.1.length)

/-- Reads a value that is neither an object, nor an array, nor a string. -/
def scalar (cs : List Char) : Parsed Value :=
  match word? cs with
  | some read => .ok read
  | none => number cs

/-- The most collections that may stand around a collection. -/
def maxDepth : Nat := 986

/-- Whether too many collections stand around a collection. -/
def isTooDeep (depth : Nat) : Bool := maxDepth < depth

mutual

/-- Reads a value that stands inside of `depth` collections; `fuel` bounds the number of values,
names and items still to be read. -/
def value : Nat → Nat → List Char → Parsed Value
  | 0, _, cs => fail .noValue cs
  | fuel + 1, depth, cs =>
    match cs with
    | '"' :: rest => (stringBody cs.length rest).map fun r => (.text (String.ofList r.1), r.2)
    | '{' :: rest =>
      -- the depth is looked at first, so that an empty object can be too deep
      if isTooDeep depth then .error (.tooDeep .object)
      else match skipBlanks rest with
      | '}' :: after => .ok (.map [], after)
      | inside => members fuel (depth + 1) [] inside
    | '[' :: rest =>
      if isTooDeep depth then .error (.tooDeep .array)
      else match skipBlanks rest with
      | ']' :: after => .ok (.list [], after)
      | inside => items fuel (depth + 1) [] inside
    | _ => scalar cs

/-- Reads the members of an object behind those that were read; what is in them stands inside of
`depth` collections. -/
def members : Nat → Nat → Entries → List Char → Parsed Value
  | 0, _, _, cs => fail .noName cs
  | fuel + 1, depth, before, cs =>
    match cs with
    | '"' :: rest =>
      match stringBody cs.length rest with
      | .error e => .error e
      | .ok (name, rest) =>
        match skipBlanks rest with
        | ':' :: rest =>
          match value fuel depth (skipBlanks rest) with
          | .error e => .error e
          | .ok (v, rest) =>
            let entries := before.put (.text (String.ofList name)) v
            match skipBlanks rest with
            | '}' :: after => .ok (.map entries, after)
            | ',' :: rest => members fuel depth entries (skipBlanks rest)
            | rest => fail .noComma rest
        | rest => fail .noColon rest
    | _ => fail .noName cs

/-- Reads the items of an array behind those that were read, which are given in reverse. -/
def items : Nat → Nat → List Value → List Char → Parsed Value
  | 0, _, _, cs => fail .noValue cs
  | fuel + 1, depth, before, cs =>
    match value fuel depth cs with
    | .error e => .error e
    | .ok (v, rest) =>
      match skipBlanks rest with
      | ']' :: after => .ok (.list (v :: before).reverse, after)
      | ',' :: rest => items fuel depth (v :: before) (skipBlanks rest)
      | rest => fail .noComma rest

end

def readChars (cs : List Char) : Except Failure Value :=
  match cs with
  | '\uFEFF' :: _ => .error (.malformed .byteOrderMark cs.length)
  | _ =>
    -- a value and a name or an item each take a step, and each has a character
    match value (2 * cs.length + 2) 0 (skipBlanks cs) with
    | .error e => .error e
    | .ok (v, rest) =>
      match skipBlanks rest with
      | [] => .ok v
      | extra => .error (.malformed .extraData extra.length)

/-! ### Messages -/

/-- Why a text is not read, with the place from its start. -/
inductive ReadError where
  | malformed (fault : Fault) (line column position : Nat)
  | tooManyDigits (count : Nat)
  | tooDeep (collection : Collection)
deriving Repr, DecidableEq

/-- The place of a failure in the text that has it. -/
def Failure.locate (cs : List Char) : Failure → ReadError
  | malformed fault left =>
    let before := cs.take (cs.length - left)
    .malformed fault (before.count '\n' + 1) ((before.reverse.takeWhile (· != '\n')).length + 1)
      before.length
  | tooManyDigits count => .tooManyDigits count
  | tooDeep collection => .tooDeep collection

def ReadError.message : ReadError → String
  | malformed fault line column position =>
    fault.message ++ ": line " ++ toString line ++ " column " ++ toString column ++ " (char "
      ++ toString position ++ ")"
  | tooManyDigits count => Text.tooManyDigitsMessage count
  | tooDeep collection =>
    "maximum recursion depth exceeded while decoding a JSON " ++ collection.word
      ++ " from a unicode string"

/-- Whether an error stops whatever the text is read for, and is not a refusal of this text only. -/
def ReadError.isFatal : ReadError → Bool
  | tooDeep _ => true
  | _ => false

def read (cs : List Char) : Except ReadError Value :=
  (readChars cs).mapError (·.locate cs)

end Scaffold.Json
