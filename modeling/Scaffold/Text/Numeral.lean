import Scaffold.Text.Blank

/-!
# Numerals

Writing whole numbers: `decimal?` in decimal digits, unless there are too many of them, `hex` in a
fixed width, `grouped` with a comma between groups of three digits, `padded` with leading zeros.
Reading them: `integer?` takes the numerals a person types, with white space around them, a sign,
single underscores between digits, and the decimal digits of any script.
-/

namespace Scaffold.Text

/-- The most decimal digits that a numeral may have. -/
def maxDigits : Nat := 4300

/-- The message about a number with too many decimal digits; `count` says how many there are. -/
def limitMessage (count : String) : String :=
  "Exceeds the limit (" ++ toString maxDigits ++ " digits) for integer string conversion" ++ count
    ++ "; use sys.set_int_max_str_digits() to increase the limit"

/-! ### Writing -/

/-- Whether a number has no more decimal digits than are written. -/
def isWritable (n : Int) : Bool := (Nat.toDigits 10 n.natAbs).length ≤ maxDigits

/-- A number in decimal digits, unless these are too many. -/
def decimal? (n : Int) : Option String := if isWritable n then some (toString n) else none

/-- The message about a number with more decimal digits than are written. -/
def overlongMessage : String := limitMessage ""

/-- The digit of a value below sixteen, in lower case. -/
def hexDigit (n : Nat) : Char :=
  if n < 10 then Char.ofNat (48 + n) else Char.ofNat (87 + n)

/-- The last `width` hexadecimal digits of a number. -/
def hexChars (width n : Nat) : List Char :=
  (List.range width).reverse.map fun i => hexDigit (n / Nat.pow 16 i % 16)

/-- A number in hexadecimal digits of a fixed width. -/
def hex (width n : Nat) : String :=
  String.ofList (hexChars width n)

/-- A number with zeros in front of it up to a width. -/
def padded (width n : Nat) : String :=
  let digits := (toString n).toList
  String.ofList (List.replicate (width - digits.length) '0' ++ digits)

/-- Puts a comma in front of every third digit, counted from the right, of reversed digits. -/
def groupReversed : List Char → List Char
  | a :: b :: c :: d :: rest => a :: b :: c :: ',' :: groupReversed (d :: rest)
  | short => short

/-- A number with its digits in groups of three. -/
def grouped (n : Nat) : String :=
  String.ofList (groupReversed (toString n).toList.reverse).reverse

/-! ### Reading -/

/-- The value of a character as a digit of a base up to sixteen, in ASCII. -/
def digitValue? (base : Nat) (c : Char) : Option Nat :=
  let v :=
    if '0' ≤ c && c ≤ '9' then some (c.toNat - 48)
    else if 'a' ≤ c && c ≤ 'f' then some (c.toNat - 87)
    else if 'A' ≤ c && c ≤ 'F' then some (c.toNat - 55)
    else none
  v.filter (· < base)

/-- The number that digits of a base spell, most significant first. -/
def ofDigits (base : Nat) (digits : List Nat) : Nat :=
  digits.foldl (fun n d => n * base + d) 0

/-- Reads a non-empty run of ASCII digits. -/
def natural? (base : Nat) (cs : List Char) : Option Nat :=
  if cs.isEmpty then none else (cs.mapM (digitValue? base)).map (ofDigits base)

/-- The zeros of the scripts beyond ASCII; the digits one to nine follow each of them. -/
def scriptZeros : List Nat :=
  [
    0x660, 0x6F0, 0x7C0, 0x966, 0x9E6, 0xA66, 0xAE6, 0xB66, 0xBE6, 0xC66, 0xCE6, 0xD66, 0xDE6,
    0xE50, 0xED0, 0xF20, 0x1040, 0x1090, 0x17E0, 0x1810, 0x1946, 0x19D0, 0x1A80, 0x1A90, 0x1B50,
    0x1BB0, 0x1C40, 0x1C50, 0xA620, 0xA8D0, 0xA900, 0xA9D0, 0xA9F0, 0xAA50, 0xABF0, 0xFF10, 0x104A0,
    0x10D30, 0x11066, 0x110F0, 0x11136, 0x111D0, 0x112F0, 0x11450, 0x114D0, 0x11650, 0x116C0,
    0x11730, 0x118E0, 0x11950, 0x11C50, 0x11D50, 0x11DA0, 0x16A60, 0x16AC0, 0x16B50, 0x1D7CE,
    0x1D7D8, 0x1D7E2, 0x1D7EC, 0x1D7F6, 0x1E140, 0x1E2F0, 0x1E950, 0x1FBF0
  ]

/-- The value of a decimal digit of any script. -/
def decimalValue? (c : Char) : Option Nat :=
  match digitValue? 10 c with
  | some v => some v
  | none => (scriptZeros.find? fun z => z ≤ c.toNat && c.toNat ≤ z + 9).map (c.toNat - ·)

/-- A digit of a base in any script: ASCII letters count beyond nine. -/
def scriptDigit? (base : Nat) (c : Char) : Option Nat :=
  match digitValue? base c with
  | some v => some v
  | none => (decimalValue? c).filter (· < base)

/-- Drops single underscores between digits; `none` when one stands at an end or beside another. -/
def dropSeparators (cs : List Char) : Option (List Char) :=
  let rec go (afterDigit : Bool) : List Char → Option (List Char)
    | [] => if afterDigit then some [] else none
    | '_' :: rest => if afterDigit then go false rest else none
    | c :: rest => (go true rest).map (c :: ·)
  go false cs

/-- The sign in front of a numeral, and what follows it. -/
def splitSign : List Char → Bool × List Char
  | '-' :: rest => (true, rest)
  | '+' :: rest => (false, rest)
  | cs => (false, cs)

/-- A magnitude with its sign. -/
def withSign (negative : Bool) (n : Nat) : Int :=
  if negative then -n else n

/-- Why a text is no whole number. -/
inductive NumeralError where
  /-- It is not spelled as a numeral. -/
  | notANumeral
  /-- It has more decimal digits than are read. -/
  | tooLong (digits : Nat)
deriving Repr, DecidableEq

/-- The message about a numeral with more decimal digits than are read. -/
def tooManyDigitsMessage (count : Nat) : String :=
  limitMessage (": value has " ++ toString count ++ " digits")

/-- The letter that may follow a leading zero to name a base. -/
def baseLetter? (base : Nat) : Option Char :=
  match base with
  | 2 => some 'b'
  | 8 => some 'o'
  | 16 => some 'x'
  | _ => none

/-- Drops a leading zero with the letter of the base, and one underscore behind them. -/
def dropBaseMark (base : Nat) : List Char → List Char
  | '0' :: c :: rest =>
    if baseLetter? base == some c.toLower then
      match rest with
      | '_' :: digits => digits
      | digits => digits
    else '0' :: c :: rest
  | cs => cs

/-- Reads a numeral of a base: white space around it, a sign, the mark of the base, single
underscores between the digits. Only base ten has a bound on the number of digits. -/
def integer (base : Nat) (s : String) : Except NumeralError Int :=
  let (negative, body) := splitSign (stripChars isWhiteSpace s.toList)
  match dropSeparators (dropBaseMark base body) with
  | none => .error .notANumeral
  | some digits =>
    match digits.mapM (scriptDigit? base) with
    | none => .error .notANumeral
    | some values =>
      if base == 10 && maxDigits < values.length then .error (.tooLong values.length)
      else .ok (withSign negative (ofDigits base values))

def integer? (s : String) : Option Int :=
  (integer 10 s).toOption

end Scaffold.Text
