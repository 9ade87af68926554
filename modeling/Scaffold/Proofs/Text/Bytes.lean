import Mathlib.Data.List.Basic

/-!
# Texts by their bytes

What a closed text is made of is quicker to read from its bytes than by decoding it as any UTF-8.
`scan` reads characters of one and two bytes, which is all there is in the texts that are looked
through here (`toList_eq_scan`).
-/

namespace Scaffold.Text

/-- Reads bytes as characters of one or two bytes. -/
def scanBytes : List UInt8 → List Char
  | [] => []
  | [b] => [Char.ofNat b.toNat]
  | b :: next :: rest =>
    if b < 0x80 then Char.ofNat b.toNat :: scanBytes (next :: rest)
    else Char.ofNat (b.toNat % 32 * 64 + next.toNat % 64) :: scanBytes rest

/-- The bytes of a text. -/
def bytes (s : String) : List UInt8 := s.toByteArray.data.toList

/-- The characters of a text, by its bytes. -/
def scan (s : String) : List Char := scanBytes (bytes s)

/-- Whether no character takes more than two bytes. -/
def isNarrow (s : String) : Bool := (bytes s).all (· < 0xE0)

/-- Whether every character is one of ASCII. -/
def isAscii (s : String) : Bool := (bytes s).all (· < 0x80)

theorem bytes_eq (s : String) : bytes s = s.toList.flatMap String.utf8EncodeChar := by
  conv_lhs => rw [← String.ofList_toList (s := s)]
  rw [bytes, String.toByteArray_ofList, List.utf8Encode, List.data_toByteArray,
    List.toList_toArray]

theorem encodeChar_of_lt {c : Char} (h : c.toNat < 0x80) :
    String.utf8EncodeChar c = [UInt8.ofNat c.toNat] := by
  have hle : c.val.toNat ≤ 0x7f := Nat.le_of_lt_succ h
  rw [String.utf8EncodeChar, if_pos hle]
  rfl

theorem encodeChar_of_lt_of_le {c : Char} (hlow : 0x80 ≤ c.toNat) (h : c.toNat < 0x800) :
    String.utf8EncodeChar c
      = [UInt8.ofNat (c.toNat / 64 % 32 + 0xc0), UInt8.ofNat (c.toNat % 64 + 0x80)] := by
  have hnot : ¬ c.val.toNat ≤ 0x7f := Nat.not_le_of_lt hlow
  have hle : c.val.toNat ≤ 0x7ff := Nat.le_of_lt_succ h
  rw [String.utf8EncodeChar, if_neg hnot, if_pos hle]
  rfl

/-- Of a character that takes more bytes, the first byte says so. -/
theorem lt_of_forall_mem_encodeChar {c : Char}
    (h : ∀ b ∈ String.utf8EncodeChar c, b.toNat < 0xE0) : c.toNat < 0x800 := by
  by_contra hle
  have hlow : ¬ c.val.toNat ≤ 0x7f := fun hc => hle (Nat.lt_of_le_of_lt hc (by decide))
  have hmiddle : ¬ c.val.toNat ≤ 0x7ff := fun hc => hle (Nat.lt_succ_of_le hc)
  unfold String.utf8EncodeChar at h
  simp only [hlow, hmiddle, if_false] at h
  split at h
  next => 
    have hfirst := h _ List.mem_cons_self
    rw [UInt8.toNat_ofNat'] at hfirst
    omega
  next =>
    have hfirst := h _ List.mem_cons_self
    rw [UInt8.toNat_ofNat'] at hfirst
    omega

theorem scanBytes_cons_of_lt {b : UInt8} (h : b < 0x80) (rest : List UInt8) :
    scanBytes (b :: rest) = Char.ofNat b.toNat :: scanBytes rest := by
  cases rest with
  | nil => rfl
  | cons next rest => rw [scanBytes, if_pos h]

theorem scanBytes_flatMap {cs : List Char} (h : ∀ c ∈ cs, c.toNat < 0x800) :
    scanBytes (cs.flatMap String.utf8EncodeChar) = cs := by
  induction cs with
  | nil => rfl
  | cons c cs ih =>
    have hrest := ih fun x hx => h x (List.mem_cons_of_mem _ hx)
    have hc := h c List.mem_cons_self
    rw [List.flatMap_cons]
    -- one byte below 0x80, and two bytes below 0x800
    by_cases hlow : c.toNat < 0x80
    · have hbyte : UInt8.ofNat c.toNat < 0x80 := by
        rw [UInt8.lt_iff_toNat_lt, UInt8.toNat_ofNat']
        exact Nat.lt_of_le_of_lt (Nat.mod_le _ _) hlow
      have hcode : (UInt8.ofNat c.toNat).toNat = c.toNat := by
        rw [UInt8.toNat_ofNat']
        omega
      rw [encodeChar_of_lt hlow, List.singleton_append, scanBytes_cons_of_lt hbyte, hrest, hcode,
        Char.ofNat_toNat]
    · have hbyte : ¬ UInt8.ofNat (c.toNat / 64 % 32 + 0xc0) < 0x80 := by
        rw [UInt8.lt_iff_toNat_lt, UInt8.toNat_ofNat']
        show ¬ _ < 128
        omega
      have hcode : (UInt8.ofNat (c.toNat / 64 % 32 + 0xc0)).toNat % 32 * 64
          + (UInt8.ofNat (c.toNat % 64 + 0x80)).toNat % 64 = c.toNat := by
        rw [UInt8.toNat_ofNat', UInt8.toNat_ofNat']
        omega
      rw [encodeChar_of_lt_of_le (Nat.le_of_not_lt hlow) hc, List.cons_append,
        List.singleton_append, scanBytes, if_neg hbyte, hrest, hcode, Char.ofNat_toNat]

/-- A narrow text has the characters that are scanned. -/
theorem toList_eq_scan {s : String} (h : isNarrow s = true) : s.toList = scan s := by
  rw [isNarrow, List.all_eq_true, bytes_eq] at h
  rw [scan, bytes_eq, scanBytes_flatMap]
  intro c hc
  apply lt_of_forall_mem_encodeChar
  intro b hb
  have hlt := h b (List.mem_flatMap.mpr ⟨c, hc, hb⟩)
  exact UInt8.lt_iff_toNat_lt.mp (of_decide_eq_true hlt)

/-- The characters of an ASCII text are those of ASCII. -/
theorem lt_of_isAscii {s : String} (h : isAscii s = true) : ∀ c ∈ s.toList, c.toNat < 0x80 := by
  intro c hc
  rw [isAscii, List.all_eq_true, bytes_eq] at h
  have hlt : ∀ b ∈ String.utf8EncodeChar c, b.toNat < 0x80 := fun b hb =>
    UInt8.lt_iff_toNat_lt.mp (of_decide_eq_true (h b (List.mem_flatMap.mpr ⟨c, hc, hb⟩)))
  have hc := lt_of_forall_mem_encodeChar fun b hb => Nat.lt_trans (hlt b hb) (by decide)
  by_contra hlow
  rw [encodeChar_of_lt_of_le (Nat.le_of_not_lt hlow) hc] at hlt
  have hfirst := hlt _ List.mem_cons_self
  rw [UInt8.toNat_ofNat'] at hfirst
  omega

end Scaffold.Text
