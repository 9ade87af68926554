import Scaffold.Source.Yaml.Error
import Scaffold.Text.Lines

/-!
# Tags

A tag says what kind of data a node stands for. A plain scalar without a tag gets one by the form of
its text: `Tag.ofPlain` knows the forms of truth values, numbers, days, nothing, and the two marks
that have a meaning as keys.
-/

namespace Scaffold.Yaml

/-- What a node stands for. -/
inductive Tag where
  | null
  | bool
  | int
  | float
  | binary
  | timestamp
  /-- Ordered entries; `pairs` may repeat a key. -/
  | omap
  | pairs
  | set
  | text
  | sequence
  | mapping
  /-- A key whose value gives further entries. -/
  | merge
  /-- A key whose value stands for the whole mapping as a scalar. -/
  | value
  | unknown
deriving Repr, DecidableEq, Inhabited

/-- What all tags that are known start with. -/
def tagStart : String := "tag:yaml.org,2002:"

/-- The tags that are known, without their start. -/
def tagNames : List (String × Tag) :=
  [("null", .null), ("bool", .bool), ("int", .int), ("float", .float), ("binary", .binary),
    ("timestamp", .timestamp), ("omap", .omap), ("pairs", .pairs), ("set", .set), ("str", .text),
    ("seq", .sequence), ("map", .mapping), ("merge", .merge), ("value", .value)]

def Tag.ofText (s : String) : Tag :=
  match tagNames.find? fun t => tagStart ++ t.1 == s with
  | some t => t.2
  | none => .unknown

/-! ### Forms of plain scalars -/

/-- A digit. -/
def isDigit (c : Char) : Bool := '0' ≤ c && c ≤ '9'

def isDigitOrMark (c : Char) : Bool := isDigit c || c == '_'

/-- Whether a text is not empty and of one class. -/
def isRun (p : Char → Bool) (cs : List Char) : Bool := !cs.isEmpty && cs.all p

/-- Whether a text starts with a character of one class and goes on in another. -/
def startsRun (first rest : Char → Bool) : List Char → Bool
  | [] => false
  | c :: cs => first c && cs.all rest

def dropSign : List Char → List Char
  | '+' :: rest => rest
  | '-' :: rest => rest
  | cs => cs

/-- The words for truth values. -/
def flagWords : List String :=
  ["yes", "Yes", "YES", "no", "No", "NO", "true", "True", "TRUE", "false", "False", "FALSE", "on",
    "On", "ON", "off", "Off", "OFF"]

/-- Whether a text is one or two digits, below sixty. -/
def isSixtieth : List Char → Bool
  | [c] => isDigit c
  | [c, d] => '0' ≤ c && c ≤ '5' && isDigit d
  | _ => false

/-- Whether parts between colons are a whole number to the base sixty. -/
def isSexagesimal (first : Char → Bool) : List (List Char) → Bool
  | leading :: next :: rest =>
    startsRun first isDigitOrMark leading && (next :: rest).all isSixtieth
  | _ => false

/-- Whether a text has the form of a whole number. -/
def isIntForm (cs : List Char) : Bool :=
  match dropSign cs with
  | '0' :: 'b' :: digits => isRun (fun c => c == '0' || c == '1' || c == '_') digits
  | '0' :: 'x' :: digits => isRun (fun c => (Text.digitValue? 16 c).isSome || c == '_') digits
  | ['0'] => true
  | '0' :: digits => isRun (fun c => ('0' ≤ c && c ≤ '7') || c == '_') digits
  | cs =>
    let positive (c : Char) : Bool := '1' ≤ c && c ≤ '9'
    startsRun positive isDigitOrMark cs || isSexagesimal positive (cs.splitOn ':')

/-- Whether a text is empty or an exponent with a sign. -/
def isExponentForm : List Char → Bool
  | [] => true
  | e :: sign :: digits =>
    (e == 'e' || e == 'E') && (sign == '+' || sign == '-') && isRun isDigit digits
  | _ => false

/-- Whether a text is digits, a point and what may follow it. -/
def isPointForm (cs : List Char) : Bool :=
  let whole := cs.takeWhile (· != '.')
  match cs.drop whole.length with
  | '.' :: rest =>
    startsRun isDigit isDigitOrMark whole && isExponentForm (rest.dropWhile isDigitOrMark)
  | _ => false

/-- Whether a text is a number to the base sixty with a point. -/
def isSexagesimalPointForm (cs : List Char) : Bool :=
  let whole := cs.takeWhile (· != '.')
  match cs.drop whole.length with
  | '.' :: rest => isSexagesimal isDigit (whole.splitOn ':') && rest.all isDigitOrMark
  | _ => false

/-- Whether a text is a point and digits, with or without an exponent. -/
def isFractionForm : List Char → Bool
  | '.' :: c :: rest => isDigit c && isExponentForm (rest.dropWhile isDigitOrMark)
  | _ => false

/-- Whether a text has the form of a number with a point. -/
def isFloatForm (cs : List Char) : Bool :=
  let body := dropSign cs
  isPointForm body || isSexagesimalPointForm body || isFractionForm cs
    || [".inf", ".Inf", ".INF"].contains (String.ofList body)
    || [".nan", ".NaN", ".NAN"].contains (String.ofList cs)

/-! ### Days and moments -/

/-- A time, as digits: hour, minute and second, the digits of the fraction, and the distance from
universal time as a sign with hours and minutes. -/
structure TimeForm where
  hour : List Char
  minute : List Char
  second : List Char
  fraction : List Char
  zone : Option (Char × List Char × List Char)
deriving Repr, DecidableEq

/-- A day, as digits, with a time if there is one. -/
structure TimestampForm where
  year : List Char
  month : List Char
  day : List Char
  time : Option TimeForm
deriving Repr, DecidableEq

/-- One or two digits in front of a text. -/
def oneOrTwoDigits? : List Char → Option (List Char × List Char)
  | a :: b :: rest =>
    if isDigit a && isDigit b then some ([a, b], rest)
    else if isDigit a then some ([a], b :: rest)
    else none
  | [a] => if isDigit a then some ([a], []) else none
  | [] => none

/-- Exactly two digits in front of a text. -/
def twoDigits? : List Char → Option (List Char × List Char)
  | a :: b :: rest => if isDigit a && isDigit b then some ([a, b], rest) else none
  | _ => none

/-- Drops a character in front of a text. -/
def expect? (c : Char) : List Char → Option (List Char)
  | d :: rest => if d = c then some rest else none
  | [] => none

/-- A distance from universal time at the end of a text, if there is any. -/
def zoneForm? (cs : List Char) : Option (Option (Char × List Char × List Char)) :=
  match cs.dropWhile fun c => c == ' ' || c == '\t' with
  | [] => if cs.isEmpty then some none else none
  | ['Z'] => some (some ('Z', [], []))
  | sign :: rest =>
    if sign == '+' || sign == '-' then do
      let (hours, rest) ← oneOrTwoDigits? rest
      if rest.isEmpty then return some (sign, hours, [])
      let (minutes, rest) ← twoDigits? (← expect? ':' rest)
      if rest.isEmpty then return some (sign, hours, minutes) else none
    else none

/-- The gap between a day and a time. -/
def dropTimeGap? : List Char → Option (List Char)
  | 'T' :: rest => some rest
  | 't' :: rest => some rest
  | c :: rest =>
    if c == ' ' || c == '\t' then some (rest.dropWhile fun c => c == ' ' || c == '\t') else none
  | [] => none

/-- A time at the end of a text. -/
def timeForm? (cs : List Char) : Option TimeForm := do
  let (hour, rest) ← oneOrTwoDigits? cs
  let (minute, rest) ← twoDigits? (← expect? ':' rest)
  let (second, rest) ← twoDigits? (← expect? ':' rest)
  let (fraction, rest) := match rest with
    | '.' :: digits => (digits.takeWhile isDigit, digits.dropWhile isDigit)
    | _ => ([], rest)
  return ⟨hour, minute, second, fraction, ← zoneForm? rest⟩

/-- A day, and perhaps a time. -/
def timestampForm? (cs : List Char) : Option TimestampForm := do
  let year := cs.take 4
  if year.length < 4 || !year.all isDigit then none
  let (month, rest) ← oneOrTwoDigits? (← expect? '-' (cs.drop 4))
  let (day, rest) ← oneOrTwoDigits? (← expect? '-' rest)
  if rest.isEmpty then return ⟨year, month, day, none⟩
  return ⟨year, month, day, some (← timeForm? (← dropTimeGap? rest))⟩

/-- Whether a text has the form of a day or a moment; a day alone has all its digits. -/
def isTimestampForm (cs : List Char) : Bool :=
  match timestampForm? cs with
  | some t => t.time.isSome || (t.month.length == 2 && t.day.length == 2)
  | none => false

/-! ### The tag of a plain scalar -/

/-- Drops a line end at the end of a text. -/
def dropFinalBreak (cs : List Char) : List Char :=
  match cs.reverse with
  | '\n' :: rest => rest.reverse
  | _ => cs

/-- The tag of a text by its form. One line end behind the form does not count. -/
def Tag.ofForm (cs : List Char) : Tag :=
  let s := String.ofList cs
  -- some texts have several forms, and the first one counts
  if flagWords.contains s then .bool
  else if isFloatForm cs then .float
  else if isIntForm cs then .int
  else if s = "<<" then .merge
  else if ["~", "null", "Null", "NULL"].contains s then .null
  else if isTimestampForm cs then .timestamp
  else if s = "=" then .value
  else .text

def Tag.ofPlain (s : String) : Tag :=
  if s.isEmpty then .null else Tag.ofForm (dropFinalBreak s.toList)

end Scaffold.Yaml
