import Scaffold.Decimal.Binary64
import Scaffold.Text.Numeral

/-!
# Reading decimals

`Decimal.ofText?` reads a decimal with an optional fraction and exponent, or the name of infinity or
of no number, with white space around it and single underscores between digits. The result is the
nearest `Float`.
-/

namespace Scaffold.Decimal

/-- The number nearest to `digits · 10 ^ exponent`. Exponents far outside the range of `Float` are
answered without computing the power. -/
def ofScaled (negative : Bool) (digits : Nat) (exponent : Int) : Float :=
  let size : Int := (toString digits).length + exponent
  if digits = 0 || size < -400 then ofRatio negative 0 1
  else if 400 < size then infinity negative
  else if 0 ≤ exponent then ofRatio negative (digits * Nat.pow 10 exponent.toNat) 1
  else ofRatio negative digits (Nat.pow 10 (-exponent).toNat)

/-- Splits a run of decimal digits, with single underscores between them, off a text. -/
def takeDigits (cs : List Char) : List Char × List Char :=
  (cs.takeWhile fun c => (Text.digitValue? 10 c).isSome || c = '_',
    cs.dropWhile fun c => (Text.digitValue? 10 c).isSome || c = '_')

/-- The digits of a run, which may be empty. -/
def runDigits? (run : List Char) : Option (List Char) :=
  if run.isEmpty then some [] else Text.dropSeparators run

/-- Reads the exponent at the end of a decimal; no text stands for zero. -/
def exponent? : List Char → Option Int
  | [] => some 0
  | c :: rest =>
    if c = 'e' || c = 'E' then
      let (negative, body) := Text.splitSign rest
      (Text.dropSeparators body).bind fun ds =>
        (Text.natural? 10 ds).map (Text.withSign negative)
    else none

/-- Reads an unsigned decimal. -/
def magnitude? (negative : Bool) (cs : List Char) : Option Float := do
  let (whole, rest) := takeDigits cs
  let (fraction, rest) := match rest with
    | '.' :: more => takeDigits more
    | _ => ([], rest)
  let w ← runDigits? whole
  let f ← runDigits? fraction
  let e ← exponent? rest
  -- a text without any digit is refused here
  let n ← Text.natural? 10 (w ++ f)
  return ofScaled negative n (e - f.length)

/-- Reads the names of infinity and of no number, in any case. -/
def named? (negative : Bool) (cs : List Char) : Option Float :=
  let name := String.ofList (cs.map Char.toLower)
  if name = "inf" || name = "infinity" then some (infinity negative)
  else if name = "nan" then some notANumber
  else none

/-- Changes the digits of all scripts into ASCII digits. -/
def asciiDigits (cs : List Char) : List Char :=
  cs.map fun c => match Text.decimalValue? c with
    | some v => Text.hexDigit v
    | none => c

def ofText? (s : String) : Option Float :=
  let (negative, body) :=
    Text.splitSign (asciiDigits (Text.stripChars Text.isWhiteSpace s.toList))
  match named? negative body with
  | some x => some x
  | none => magnitude? negative body

end Scaffold.Decimal
