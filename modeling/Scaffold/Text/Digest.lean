import Scaffold.Text.Numeral

/-!
# SHA-256 digests

The digest of a byte sequence in hexadecimal digits, after FIPS 180-4: the message is padded to
whole blocks, each block is spread over sixty-four words, and sixty-four rounds mix them into the
state.
-/

namespace Scaffold.Text.Digest

/-- The word added in each round: the first bits behind the point of the cube roots of the first
sixty-four primes. -/
def roundWords : Array UInt32 :=
  #[
    0x428A2F98, 0x71374491, 0xB5C0FBCF, 0xE9B5DBA5, 0x3956C25B, 0x59F111F1, 0x923F82A4, 0xAB1C5ED5,
    0xD807AA98, 0x12835B01, 0x243185BE, 0x550C7DC3, 0x72BE5D74, 0x80DEB1FE, 0x9BDC06A7, 0xC19BF174,
    0xE49B69C1, 0xEFBE4786, 0x0FC19DC6, 0x240CA1CC, 0x2DE92C6F, 0x4A7484AA, 0x5CB0A9DC, 0x76F988DA,
    0x983E5152, 0xA831C66D, 0xB00327C8, 0xBF597FC7, 0xC6E00BF3, 0xD5A79147, 0x06CA6351, 0x14292967,
    0x27B70A85, 0x2E1B2138, 0x4D2C6DFC, 0x53380D13, 0x650A7354, 0x766A0ABB, 0x81C2C92E, 0x92722C85,
    0xA2BFE8A1, 0xA81A664B, 0xC24B8B70, 0xC76C51A3, 0xD192E819, 0xD6990624, 0xF40E3585, 0x106AA070,
    0x19A4C116, 0x1E376C08, 0x2748774C, 0x34B0BCB5, 0x391C0CB3, 0x4ED8AA4A, 0x5B9CCA4F, 0x682E6FF3,
    0x748F82EE, 0x78A5636F, 0x84C87814, 0x8CC70208, 0x90BEFFFA, 0xA4506CEB, 0xBEF9A3F7, 0xC67178F2]

/-- The eight words of the state. -/
structure State where
  a : UInt32
  b : UInt32
  c : UInt32
  d : UInt32
  e : UInt32
  f : UInt32
  g : UInt32
  h : UInt32
deriving Repr, DecidableEq

/-- The state before the first block. -/
def State.start : State :=
  ⟨0x6A09E667, 0xBB67AE85, 0x3C6EF372, 0xA54FF53A,
    0x510E527F, 0x9B05688C, 0x1F83D9AB, 0x5BE0CD19⟩

/-- Adds two states word by word. -/
def State.add (s t : State) : State :=
  ⟨s.a + t.a, s.b + t.b, s.c + t.c, s.d + t.d, s.e + t.e, s.f + t.f, s.g + t.g, s.h + t.h⟩

/-- Turns a word to the right. -/
def rotate (x : UInt32) (n : UInt32) : UInt32 :=
  (x >>> n) ||| (x <<< (32 - n))

/-- A message with a one bit, zeros up to a whole number of blocks, and its length in bits. -/
def padded (message : ByteArray) : ByteArray :=
  let length := message.size
  let zeros := (119 - length % 64) % 64
  let withMark := (List.range zeros).foldl (fun bytes _ => bytes.push 0) (message.push 0x80)
  (List.range 8).foldl
    (fun bytes i => bytes.push (UInt8.ofNat (length * 8 / Nat.pow 256 (7 - i)))) withMark

/-- The byte at an index, as a word. -/
def byteAt (bytes : ByteArray) (i : Nat) : UInt32 :=
  if h : i < bytes.size then bytes[i].toUInt32 else 0

/-- The word that starts at an index, most significant byte first. -/
def wordAt (bytes : ByteArray) (i : Nat) : UInt32 :=
  (byteAt bytes i <<< 24) ||| (byteAt bytes (i + 1) <<< 16) ||| (byteAt bytes (i + 2) <<< 8)
    ||| byteAt bytes (i + 3)

/-- The next word of a schedule, from the words two, seven, fifteen and sixteen places back. -/
def nextWord (w : Array UInt32) : UInt32 :=
  let back (n : Nat) := w.getD (w.size - n) 0
  let x := back 15
  let y := back 2
  back 16 + (rotate x 7 ^^^ rotate x 18 ^^^ (x >>> 3)) + back 7
    + (rotate y 17 ^^^ rotate y 19 ^^^ (y >>> 10))

/-- The sixty-four words of the block that starts at an index. -/
def schedule (bytes : ByteArray) (start : Nat) : Array UInt32 :=
  let first := (Array.range 16).map fun i => wordAt bytes (start + 4 * i)
  (List.range 48).foldl (fun w _ => w.push (nextWord w)) first

def round (s : State) (word : UInt32) : State :=
  let big := rotate s.e 6 ^^^ rotate s.e 11 ^^^ rotate s.e 25
  let choice := (s.e &&& s.f) ^^^ (~~~s.e &&& s.g)
  let t := s.h + big + choice + word
  let small := rotate s.a 2 ^^^ rotate s.a 13 ^^^ rotate s.a 22
  let majority := (s.a &&& s.b) ^^^ (s.a &&& s.c) ^^^ (s.b &&& s.c)
  ⟨t + (small + majority), s.a, s.b, s.c, s.d + t, s.e, s.f, s.g⟩

/-- The state after the block that starts at an index. -/
def compress (bytes : ByteArray) (s : State) (start : Nat) : State :=
  let w := schedule bytes start
  s.add ((List.range 64).foldl (fun t i => round t (roundWords.getD i 0 + w.getD i 0)) s)

/-- The state after all blocks of a message. -/
def final (message : ByteArray) : State :=
  let bytes := padded message
  (List.range (bytes.size / 64)).foldl (fun s i => compress bytes s (64 * i)) State.start

/-- The eight hexadecimal digits of a word. -/
def wordHex (w : UInt32) : String :=
  hex 8 w.toNat

end Scaffold.Text.Digest

namespace Scaffold.Text

/-- The SHA-256 digest of bytes in hexadecimal digits. -/
def sha256 (message : ByteArray) : String :=
  let s := Digest.final message
  String.join ([s.a, s.b, s.c, s.d, s.e, s.f, s.g, s.h].map Digest.wordHex)

end Scaffold.Text
