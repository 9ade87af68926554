import Scaffold.Decimal.Binary64
import Scaffold.Text.Numeral

/-!
# The shortest decimal that reads back

`shortest` finds the fewest decimal digits that a finite number can be read back from, and among
those the digits nearest to it. It tries the decimal grids from coarse to fine; on each grid only
the two neighbours of the number can lie among the numbers that round to it.

`Layout` holds the choices of a format: where positional notation ends and how an exponent is
written.
-/

namespace Scaffold.Decimal

/-- The digits of a decimal and the power of ten of the last one. -/
structure Digits where
  digits : Nat
  exponent : Int
deriving Repr, DecidableEq

/-- The numbers that round to `mantissa · 2 ^ exponent`: everything between `low` and `high` over
`den`, with the ends when `closed`; the number itself is `value` over `den`. -/
structure Interval where
  low : Nat
  value : Nat
  high : Nat
  den : Nat
  closed : Bool

/-- The interval of a mantissa and an exponent. Below a power of two the gap is half as wide. -/
def interval (mantissa : Nat) (exponent : Int) : Interval :=
  let narrow := mantissa = Nat.pow 2 52 && leastExponent < exponent
  let (unit, den) := scaleByTwo 1 1 (exponent - 2)
  { low := (4 * mantissa - if narrow then 1 else 2) * unit
    value := 4 * mantissa * unit
    high := (4 * mantissa + 2) * unit
    den := den
    closed := mantissa % 2 == 0 }

/-- A fraction over a power of ten. -/
def overPowerOfTen (num den : Nat) (k : Int) : Nat × Nat :=
  if 0 ≤ k then (num, den * Nat.pow 10 k.toNat) else (num * Nat.pow 10 (-k).toNat, den)

/-- Whether `n · 10 ^ k` lies in an interval. -/
def Interval.has (i : Interval) (n : Nat) (k : Int) : Bool :=
  let (point, scale) := if 0 ≤ k then (n * Nat.pow 10 k.toNat * i.den, 1)
    else (n * i.den, Nat.pow 10 (-k).toNat)
  if i.closed then i.low * scale ≤ point && point ≤ i.high * scale
  else i.low * scale < point && point < i.high * scale

/-- The neighbour of the number on the grid of `10 ^ k` that lies in its interval; of two the
nearer, of two equally near the even one. -/
def Interval.onGrid? (i : Interval) (k : Int) : Option Digits :=
  let (num, den) := overPowerOfTen i.value i.den k
  let below := num / den
  let nearest := roundQuotient num den
  let other := if nearest = below then below + 1 else below
  if 0 < nearest && i.has nearest k then some ⟨nearest, k⟩
  else if 0 < other && i.has other k then some ⟨other, k⟩
  else none

/-- The number of decimal digits. -/
def digitCount (n : Nat) : Nat :=
  (toString n).length

/-- The power of ten of the first digit of a fraction. -/
def leadingExponent (num den : Nat) : Int :=
  if den ≤ num then (digitCount (num / den) : Int) - 1
  else
    let shift := digitCount den - digitCount num
    if den ≤ num * Nat.pow 10 shift then -(shift : Int) else -(shift : Int) - 1

/-- Drops the zeros at the end, within a number of steps. -/
def Digits.trim : Nat → Digits → Digits
  | 0, d => d
  | steps + 1, d =>
    if d.digits % 10 = 0 then Digits.trim steps ⟨d.digits / 10, d.exponent + 1⟩ else d

/-- The shortest decimal for `mantissa · 2 ^ exponent`, with a positive mantissa. -/
def shortest (mantissa : Nat) (exponent : Int) : Digits :=
  let i := interval mantissa exponent
  let top := leadingExponent i.value i.den
  -- seventeen digits always suffice
  let found := (List.range 18).findSome? fun (n : Nat) => i.onGrid? (top - n)
  ((found.getD ⟨0, 0⟩).trim 20)

/-- The choices of a decimal format. The point stands behind `point` digits in `0.d₁d₂…` form. -/
structure Layout where
  /-- Positional notation is used while the point is above this place. -/
  pointAbove : Int
  /-- Positional notation is used up to this place. -/
  pointUpTo : Int
  /-- What a whole number in positional notation ends with. -/
  wholeEnd : String
  /-- The least number of digits of an exponent. -/
  exponentWidth : Nat
  /-- The text of a number that is not a number. -/
  nan : String
  /-- The text of infinity without its sign. -/
  infinite : String

/-- Digits in positional or exponent notation. -/
def Layout.digits (f : Layout) (d : Digits) : String :=
  let ds := (toString d.digits).toList
  let point := (ds.length : Int) + d.exponent
  if f.pointAbove < point && point ≤ f.pointUpTo then
    if point ≤ 0 then
      "0." ++ String.ofList (List.replicate (-point).toNat '0' ++ ds)
    else if (ds.length : Int) ≤ point then
      String.ofList (ds ++ List.replicate (point - ds.length).toNat '0') ++ f.wholeEnd
    else
      String.ofList (ds.take point.toNat) ++ "." ++ String.ofList (ds.drop point.toNat)
  else
    let e := point - 1
    let fraction := if ds.length = 1 then "" else "." ++ String.ofList (ds.drop 1)
    String.ofList (ds.take 1) ++ fraction ++ "e" ++ (if e < 0 then "-" else "+")
      ++ Text.padded f.exponentWidth e.natAbs

def Layout.render (f : Layout) (x : Float) : String :=
  let signed (negative : Bool) (s : String) := if negative then "-" ++ s else s
  match view x with
  | .nan => f.nan
  | .infinite negative => signed negative f.infinite
  | .finite negative 0 _ => signed negative ("0" ++ f.wholeEnd)
  | .finite negative m e => signed negative (f.digits (shortest m e))

end Scaffold.Decimal
