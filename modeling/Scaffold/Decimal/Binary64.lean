/-!
# Binary floating-point numbers as fractions

A finite `Float` is `mantissa · 2 ^ exponent`. `view` decodes it, and `ofRatio` goes the other way:
the `Float` nearest to a fraction of natural numbers, a tie going to the even mantissa.
-/

namespace Scaffold.Decimal

/-- What a `Float` stands for. -/
inductive View where
  | nan
  | infinite (negative : Bool)
  /-- The number `mantissa · 2 ^ exponent`, with a sign that zero has too. -/
  | finite (negative : Bool) (mantissa : Nat) (exponent : Int)
deriving Repr, DecidableEq

/-- The least exponent of two, that of the subnormal numbers. -/
def leastExponent : Int := -1074

/-- Decodes sign, exponent and fraction bits. -/
def viewBits (bits : Nat) : View :=
  let negative := bits / Nat.pow 2 63 % 2 == 1
  let exponent : Nat := bits / Nat.pow 2 52 % Nat.pow 2 11
  let fraction : Nat := bits % Nat.pow 2 52
  if exponent = Nat.pow 2 11 - 1 then if fraction = 0 then .infinite negative else .nan
  else if exponent = 0 then .finite negative fraction leastExponent
  else .finite negative (Nat.pow 2 52 + fraction) ((exponent : Int) - 1075)

/-- Decodes a number. -/
def view (x : Float) : View :=
  viewBits x.toBits.toNat

/-- The quotient rounded to the nearest whole number, a tie to the even one. -/
def roundQuotient (num den : Nat) : Nat :=
  let q := num / den
  let r := num % den
  if 2 * r < den then q
  else if den < 2 * r then q + 1
  else q + q % 2

/-- The number of binary digits. -/
def bitLength (n : Nat) : Nat :=
  if n = 0 then 0 else n.log2 + 1

/-- A fraction times a power of two, as numerator and denominator. -/
def scaleByTwo (num den : Nat) (e : Int) : Nat × Nat :=
  if 0 ≤ e then (num * Nat.pow 2 e.toNat, den) else (num, den * Nat.pow 2 (-e).toNat)

/-- The exponent for which a fraction has a mantissa of fifty-three binary digits. -/
def mantissaExponent (num den : Nat) : Int :=
  -- the digits of a quotient are known up to one
  let guess : Int := bitLength num - bitLength den - 53
  let (n, d) := scaleByTwo num den (-guess)
  if Nat.pow 2 53 ≤ n / d then guess + 1 else guess

/-- The bits of a number with a mantissa below `2 ^ 53` and an exponent that is not too small. -/
def packBits (negative : Bool) (mantissa : Nat) (exponent : Int) : Nat :=
  let sign := if negative then Nat.pow 2 63 else 0
  if mantissa < Nat.pow 2 52 then sign + mantissa
  else
    let biased := (exponent + 1075).toNat
    if 2046 < biased then sign + (Nat.pow 2 11 - 1) * Nat.pow 2 52
    else sign + biased * Nat.pow 2 52 + (mantissa - Nat.pow 2 52)

/-- The bits of the number nearest to a fraction. -/
def ratioBits (negative : Bool) (num den : Nat) : Nat :=
  if num = 0 then packBits negative 0 leastExponent
  else
    let exponent := max (mantissaExponent num den) leastExponent
    let (n, d) := scaleByTwo num den (-exponent)
    let mantissa := roundQuotient n d
    -- rounding up may give one binary digit more
    if mantissa = Nat.pow 2 53 then packBits negative (Nat.pow 2 52) (exponent + 1)
    else packBits negative mantissa exponent

/-- The number nearest to a fraction; one that is too large becomes infinite. -/
def ofRatio (negative : Bool) (num den : Nat) : Float :=
  Float.ofBits (UInt64.ofNat (ratioBits negative num den))

/-- The infinite number of a sign. -/
def infinity (negative : Bool) : Float :=
  Float.ofBits (UInt64.ofNat (packBits negative (Nat.pow 2 52) 1024))

/-- The number that is not a number. -/
def notANumber : Float :=
  Float.ofBits 0x7FF8000000000000

end Scaffold.Decimal
