import Scaffold.Shape.Problem
import Scaffold.Text.Utf8

/-!
# Reading scalars

Each function reads a scalar of one kind and is lenient where the spelling leaves no doubt: a whole
number may be written as a text, a truth value as one of twelve words. What it reads, it reads again
to the same result.
-/

namespace Scaffold.Shape

/-- A text, or the text that bytes spell; `cause` is the complaint about bytes that spell none. -/
def spelled? (cause : Cause) : Value → Except Cause (Option String)
  | .text s => .ok (some s)
  | .bytes b =>
    match Text.Utf8.decode ⟨b.toArray⟩ with
    | .ok cs => .ok (some (String.ofList cs))
    | .error _ => .error cause
  | _ => .ok none

def text (v : Value) : Except Cause String :=
  match spelled? .notUtf8 v with
  | .error cause => .error cause
  | .ok (some s) => .ok s
  | .ok none => .error .notText

/-! ### Whole numbers -/

/-- Drops the zeros in front of a numeral, and underscores among them; one zero stays before a point
and at the end. `none` when the text starts with something else than a digit or a minus sign. -/
def dropLeadingZeros : List Char → Option (List Char)
  | '0' :: rest =>
    let rec go (last : Char) : List Char → Option (List Char)
      -- nothing but zeros: the last one is the numeral
      | [] => some [last]
      | c :: more =>
        if c = '0' || c = '_' then go c more
        else if '1' ≤ c && c ≤ '9' then some (c :: more)
        else if c = '.' then some (last :: c :: more)
        else none
    go '0' rest
  | c :: rest => if c = '-' || ('1' ≤ c && c ≤ '9') then some (c :: rest) else none
  | [] => none

/-- Drops a point with nothing but zeros, at least one, behind it. -/
def dropZeroFraction (cs : List Char) : List Char :=
  match cs.dropWhile (· != '.') with
  | '.' :: zeros =>
    if !zeros.isEmpty && zeros.all (· == '0') then cs.takeWhile (· != '.') else cs
  | _ => cs

/-- Whether an underscore stands at an end or beside another one. -/
def badUnderscore : List Char → Bool
  | [] => false
  | ['_'] => true
  | '_' :: '_' :: _ => true
  | _ :: rest => badUnderscore rest

/-- Drops the underscores inside a numeral, if none of them is out of place. -/
def dropUnderscores (cs : List Char) : List Char :=
  if cs.head? == some '_' || badUnderscore cs then cs else cs.filter (· != '_')

/-- Whether digits are a canonical numeral: at least one, and no zero in front of another. -/
def isCanonical (digits : List Char) : Bool :=
  !digits.isEmpty && (digits.head? != some '0' || digits == ['0'])

/-- How many characters a numeral at the front takes, with its minus sign; none when its digits
start with a zero. -/
def numeralLength (cs : List Char) : Nat :=
  let digits := if cs.head? == some '-' then cs.drop 1 else cs
  if digits.head? == some '0' then 0
  else cs.length - (digits.dropWhile Char.isDigit).length

/-- Reads a canonical numeral with an optional minus sign. -/
def signedDigits? : List Char → Option Int
  | '-' :: digits =>
    if isCanonical digits then (Text.natural? 10 digits).map fun n => -(n : Int) else none
  | digits =>
    if isCanonical digits then (Text.natural? 10 digits).map fun n => (n : Int) else none

/-- Drops one plus sign that no other sign follows. -/
def dropPlus : List Char → Option (List Char)
  | '+' :: rest => if rest.head? == some '+' || rest.head? == some '-' then none else some rest
  | cs => some cs

/-- The canonical spelling of a numeral that is written loosely, if it starts like one. -/
def canonical? (cs : List Char) : Option (List Char) :=
  ((dropPlus (Text.stripChars Text.isWhiteSpace cs)).bind dropLeadingZeros).map fun ds =>
    dropUnderscores (dropZeroFraction ds)

/-- Reads a whole number that is written as a text; a numeral of more than `Text.maxDigits`
characters is refused. -/
def integerOfText (s : String) : Except Cause Int :=
  if Text.maxDigits < numeralLength s.toList then .error .integerSize
  else
    match canonical? s.toList with
    | none => .error .integerSpelling
    | some ds =>
      -- the length counts once more without what does not matter
      if Text.maxDigits < ds.length then .error .integerSpelling
      else
        match signedDigits? ds with
        | some n => .ok n
        | none => .error .integerSpelling

/-- Whether a number fits a signed machine word. -/
def fitsWord (n : Int) : Bool :=
  -0x8000000000000000 ≤ n && n < 0x8000000000000000

/-- Reads a whole number that is written with a point. -/
def integerOfFloat (x : Float) : Except Cause Int :=
  match Decimal.view x with
  | .nan => .error .notFinite
  | .infinite _ => .error .notFinite
  | .finite .. =>
    match (Value.float x).whole? with
    | none => .error .fractional
    | some n => if fitsWord n then .ok n else .error .integerSize

/-- Reads a whole number. -/
def integer (v : Value) : Except Cause Int :=
  match v with
  | .int n => .ok n
  | .bool b => .ok (if b then 1 else 0)
  | .float x => integerOfFloat x
  | v =>
    match spelled? .integerSpelling v with
    | .error cause => .error cause
    | .ok (some s) => integerOfText s
    | .ok none => .error .notInteger

/-- Reads a whole number that is not too small. -/
def integerFrom (least : Int) (v : Value) : Except Cause Int :=
  match integer v with
  | .error cause => .error cause
  | .ok n => if least ≤ n then .ok n else .error (.below least)

/-- Reads a whole number between two bounds. -/
def integerBetween (least greatest : Int) (v : Value) : Except Cause Int :=
  match integerFrom least v with
  | .error cause => .error cause
  | .ok n => if n ≤ greatest then .ok n else .error (.above greatest)

/-! ### Truth values -/

def falseWords : List String := ["0", "off", "f", "false", "n", "no"]

def trueWords : List String := ["1", "on", "t", "true", "y", "yes"]

/-- Reads a truth value that is written as a word. -/
def flagOfText (s : String) : Except Cause Bool :=
  let word := String.ofList (s.toList.map Char.toLower)
  if falseWords.contains word then .ok false
  else if trueWords.contains word then .ok true
  else .error .flagSpelling

/-- Reads a truth value that is written as a number. -/
def flagOfWhole (n : Int) : Except Cause Bool :=
  if n = 0 then .ok false else if n = 1 then .ok true else .error .flagSpelling

def flag (v : Value) : Except Cause Bool :=
  match v with
  | .bool b => .ok b
  -- a number that is too large is no truth value, and not even a bad one
  | .int n => if fitsWord n then flagOfWhole n else .error .notFlag
  | .float x =>
    match integerOfFloat x with
    | .ok n => flagOfWhole n
    | .error _ => .error .notFlag
  | v =>
    match spelled? .flagSpelling v with
    | .error cause => .error cause
    | .ok (some s) => flagOfText s
    | .ok none => .error .notFlag

/-! ### Choices and lists -/

/-- Reads one of several words. -/
def choice {α : Type} (choices : List (String × α)) (v : Value) : Except Cause α :=
  let refusal := Except.error (.notAmong (choices.map (·.1)))
  match v with
  | .text s =>
    match choices.find? (·.1 == s) with
    | some c => .ok c.2
    | none => refusal
  | _ => refusal

/-- The items of a value that can be read as a fixed sequence. -/
def sequence? (v : Value) : Option (List Value) :=
  match v.opened with
  | .list items => some items
  | .tuple items => some items
  | .set items => some items
  | _ => none

def texts (v : Value) : Checked (List String) :=
  match sequence? v with
  | some items => Checked.each (fun item => .ofExcept (text item)) items
  | none => .fault .notTuple

def textOrNull (v : Value) : Except Cause (Option String) :=
  match v with
  | .null => .ok none
  | v => (text v).map some

end Scaffold.Shape
