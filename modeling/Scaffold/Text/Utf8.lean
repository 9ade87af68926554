import Scaffold.Text.Numeral

/-!
# UTF-8

`decode` reads bytes as UTF-8. Overlong forms, surrogates and code points past U+10FFFF are
refused at the first byte that shows them, and the error says which bytes are at fault and why.
-/

namespace Scaffold.Text.Utf8

/-- Why bytes are no UTF-8. -/
inductive Fault where
  /-- No character starts with this byte. -/
  | start
  /-- A byte that should continue a character does not. -/
  | continuation
  /-- The input ends inside a character. -/
  | truncated
deriving Repr, DecidableEq

/-- The bytes at fault, from `first` up to, but without, `stop`. -/
structure DecodeError where
  fault : Fault
  first : Nat
  stop : Nat
  byte : UInt8
deriving Repr, DecidableEq

def Fault.message : Fault → String
  | .start => "invalid start byte"
  | .continuation => "invalid continuation byte"
  | .truncated => "unexpected end of data"

def DecodeError.message (e : DecodeError) : String :=
  let place :=
    if e.stop = e.first + 1 then
      "byte 0x" ++ hex 2 e.byte.toNat ++ " in position " ++ toString e.first
    else "bytes in position " ++ toString e.first ++ "-" ++ toString (e.stop - 1)
  "'utf-8' codec can't decode " ++ place ++ ": " ++ e.fault.message

/-- How a character starts: its length, the bits of the first byte, and the least and the greatest
value of the second byte. -/
structure Lead where
  length : Nat
  bits : Nat
  least : Nat
  greatest : Nat

/-- What a first byte says of the character, if one starts with it. -/
def lead? (b : UInt8) : Option Lead :=
  let n := b.toNat
  if n < 0x80 then some ⟨1, n, 0, 0⟩
  else if n < 0xC2 then none
  else if n < 0xE0 then some ⟨2, n - 0xC0, 0x80, 0xBF⟩
  else if n < 0xF0 then
    some ⟨3, n - 0xE0, if n = 0xE0 then 0xA0 else 0x80, if n = 0xED then 0x9F else 0xBF⟩
  else if n < 0xF5 then
    some ⟨4, n - 0xF0, if n = 0xF0 then 0x90 else 0x80, if n = 0xF4 then 0x8F else 0xBF⟩
  else none

/-- Reads the `missing` bytes that continue a character: the value so far is `bits`, the next byte
must lie between `least` and `greatest`, later ones anywhere among the continuation bytes. A failure
tells the number of good bytes and the fault. -/
def continued (missing bits least greatest good : Nat) :
    List UInt8 → Except (Nat × Fault) Nat
  | [] => if missing = 0 then .ok bits else .error (good, .truncated)
  | b :: rest =>
    match missing with
    | 0 => .ok bits
    | left + 1 =>
      if least ≤ b.toNat && b.toNat ≤ greatest then
        continued left (bits * 64 + (b.toNat - 0x80)) 0x80 0xBF (good + 1) rest
      else .error (good, .continuation)

/-- Decodes from a position on; `skip` bytes belong to the character read before. -/
def decodeFrom (position skip : Nat) : List UInt8 → Except DecodeError (List Char)
  | [] => .ok []
  | b :: rest =>
    match skip with
    | left + 1 => decodeFrom (position + 1) left rest
    | 0 =>
      match lead? b with
      | none => .error ⟨.start, position, position + 1, b⟩
      | some l =>
        match continued (l.length - 1) l.bits l.least l.greatest 1 rest with
        | .error (good, fault) => .error ⟨fault, position, position + good, b⟩
        | .ok n => (decodeFrom (position + 1) (l.length - 1) rest).map (Char.ofNat n :: ·)

/-- Reads bytes as UTF-8. -/
def decode (bytes : ByteArray) : Except DecodeError (List Char) :=
  decodeFrom 0 0 bytes.toList

end Scaffold.Text.Utf8
