import Scaffold.Decimal.Read
import Scaffold.Source.Yaml.Tag
import Scaffold.Text.Base64
import Scaffold.Text.LowerCase
import Scaffold.Value.Basic

/-!
# Values of scalars

`scalarValue` reads the text of a scalar as its tag says. The text of a plain scalar without a tag
of its own always has the form that the tag promises; one with a tag may have any form, and is
refused with the reason when it does not spell what the tag promises.
-/

namespace Scaffold.Yaml

/-! ### Numbers -/

/-- The sign of a number, and its text without the sign and without the underscores between digits.
A number without any text is refused. -/
def signedBody (s : String) : Except ReadError (Bool × List Char) :=
  match s.toList.filter (· != '_') with
  | [] => .error .emptyNumber
  | '-' :: rest => .ok (true, rest)
  | '+' :: rest => .ok (false, rest)
  | cs => .ok (false, cs)

def numeral (base : Nat) (cs : List Char) : Except ReadError Int :=
  let s := String.ofList cs
  match Text.integer base s with
  | .ok n => .ok n
  | .error .notANumeral => .error (.notInteger base s)
  | .error (.tooLong count) => .error (.tooManyDigits count)

/-- The number that digits to the base sixty spell, most significant first. -/
def ofSixtieths (digits : List Int) : Int :=
  digits.foldl (fun n d => n * 60 + d) 0

/-- Reads a whole number without its sign. A leading zero tells the base. -/
def wholeBody (body : List Char) : Except ReadError Int :=
  match body with
  | [] => .error .emptyNumber
  | ['0'] => .ok 0
  | '0' :: 'b' :: digits => numeral 2 digits
  | '0' :: 'x' :: digits => numeral 16 digits
  | '0' :: _ => numeral 8 body
  | _ =>
    if body.contains ':' then ((body.splitOn ':').mapM (numeral 10)).map ofSixtieths
    else numeral 10 body

def wholeValue (s : String) : Except ReadError Value := do
  let (negative, body) ← signedBody s
  let n ← wholeBody body
  return .int (if negative then -n else n)

/-- Reads a number with a point. -/
def decimal (cs : List Char) : Except ReadError Float :=
  let s := String.ofList cs
  match Decimal.ofText? s with
  | some x => .ok x
  | none => .error (.notDecimal s)

/-- The sum of digits to the base sixty, the least significant first; `unit` is what the first one
counts for. -/
def sumSixtieths (sum : Float) (unit : Nat) : List Float → Except ReadError Float
  | [] => .ok sum
  | d :: rest =>
    -- the unit is exact, and must not be too large to be multiplied with
    let u := Decimal.ofRatio false unit 1
    if Decimal.view u = .infinite false then .error .hugeUnit
    else sumSixtieths (sum + d * u) (unit * 60) rest

/-- The text of the number that is not a number. -/
def nanText : List Char := ".nan".toList

/-- Reads a number with a point without its sign. -/
def decimalBody (body : List Char) : Except ReadError Float :=
  if body = ".inf".toList then .ok (Decimal.infinity false)
  else if body = nanText then .ok Decimal.notANumber
  else if body.contains ':' then do
    let digits ← (body.splitOn ':').mapM decimal
    sumSixtieths 0 1 digits.reverse
  else decimal body

/-- Reads a number with a point. -/
def decimalValue (s : String) : Except ReadError Value := do
  let (negative, body) ← signedBody s
  let x ← decimalBody (Text.lowerChars body)
  return .float (if negative then -x else x)

/-- Whether a text spells the number that is not a number by its own name. Wherever that name
stands, it is the same number. -/
def isNanText (s : String) : Bool :=
  match signedBody s with
  | .ok (_, body) => Text.lowerChars body = nanText
  | .error _ => false

/-! ### Words, days and bytes -/

def flagValue (s : String) : Except ReadError Value :=
  let word := String.ofList (Text.lowerChars s.toList)
  if ["yes", "true", "on"].contains word then .ok (.bool true)
  else if ["no", "false", "off"].contains word then .ok (.bool false)
  else .error (.notFlag word)

/-- The number that digits spell, nothing being zero. -/
def digitsValue (cs : List Char) : Nat := (Text.natural? 10 cs).getD 0

/-- The millionths that the digits behind a point spell; digits beyond the sixth do not count. -/
def millionths (cs : List Char) : Nat :=
  digitsValue (cs.take 6 ++ List.replicate (6 - cs.length) '0')

/-- The minutes that a zone is ahead of universal time. -/
def zoneMinutes (zone : Char × List Char × List Char) : Int :=
  let minutes : Int := digitsValue zone.2.1 * 60 + digitsValue zone.2.2
  if zone.1 = '-' then -minutes else minutes

/-- A day or a moment from its digits. -/
def TimestampForm.value (t : TimestampForm) : Except Value.CalendarError Value :=
  let year := digitsValue t.year
  let month := digitsValue t.month
  let day := digitsValue t.day
  match t.time with
  | none => (Value.Date.ofParts year month day).map .date
  | some time =>
    (Value.Moment.ofParts year month day (digitsValue time.hour) (digitsValue time.minute)
      (digitsValue time.second) (millionths time.fraction) (time.zone.map zoneMinutes)).map .moment

/-- Reads a day or a moment. -/
def timestampValue (s : String) : Except ReadError Value :=
  match timestampForm? (dropFinalBreak s.toList) with
  | none => .error .notTimestamp
  | some t => t.value.mapError .badDate

/-- Reads bytes in base 64. -/
def binaryValue (s : String) : Except ReadError Value :=
  if s.toList.all fun c => c.toNat < 128 then
    match Text.Base64.decode? s.toList with
    | some content => .ok (.bytes content)
    | none => .error .invalid
  else .error .invalid

/-- Reads the text of a scalar. A tag that no scalar can have is refused. -/
def scalarValue (tag : Tag) (s : String) : Except ReadError Value :=
  match tag with
  | .null => .ok .null
  | .bool => flagValue s
  | .int => wholeValue s
  | .float => decimalValue s
  | .binary => binaryValue s
  | .timestamp => timestampValue s
  | .text => .ok (.text s)
  | _ => .error .invalid

end Scaffold.Yaml
