/-!
# Base 64

`Base64.decode?` reads bytes that are spelled in base 64, four characters for three bytes.
Characters outside the alphabet are passed over. A sign of padding that completes a group of four
ends the text; a text that ends inside a group is refused.
-/

namespace Scaffold.Text.Base64

/-- The six bits that a character stands for. -/
def value? (c : Char) : Option Nat :=
  if 'A' ≤ c && c ≤ 'Z' then some (c.toNat - 65)
  else if 'a' ≤ c && c ≤ 'z' then some (c.toNat - 71)
  else if '0' ≤ c && c ≤ '9' then some (c.toNat + 4)
  else if c = '+' then some 62
  else if c = '/' then some 63
  else none

/-- A group of four characters being read: how many there are, the bits that make no byte yet, and
the signs of padding behind the last character. -/
structure Group where
  size : Nat := 0
  bits : Nat := 0
  pads : Nat := 0
deriving Repr, DecidableEq

/-- The group after one more character, and the byte that it completes. -/
def Group.push (g : Group) (v : Nat) : Group × List UInt8 :=
  let bits := g.bits * 64 + v
  let unit := Nat.pow 2 (6 - 2 * g.size)
  if g.size = 0 then (⟨1, v, 0⟩, [])
  else (⟨(g.size + 1) % 4, bits % unit, 0⟩, [(bits / unit).toUInt8])

/-- Decodes the rest of a text, inside a group. -/
def decodeFrom (g : Group) : List Char → Option (List UInt8)
  | [] => if g.size = 0 then some [] else none
  | c :: rest =>
    if c = '=' then
      if g.size < 2 then decodeFrom g rest
      else if 4 ≤ g.size + g.pads + 1 then some []
      else decodeFrom { g with pads := g.pads + 1 } rest
    else match value? c with
      | none => decodeFrom g rest
      | some v =>
        let (g, byte) := g.push v
        (decodeFrom g rest).map (byte ++ ·)

def decode? (cs : List Char) : Option (List UInt8) := decodeFrom {} cs

end Scaffold.Text.Base64
