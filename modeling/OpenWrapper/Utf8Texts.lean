import Mathlib.Data.List.Basic

/-! # Texts and their bytes

The bytes of a text in UTF-8, and the text any bytes are read as: what is no
encoding of a character becomes the replacement character, one for each longest
piece that could have begun an encoding. -/

set_option autoImplicit false

namespace OpenWrapper.Utf8Texts

def bytes (s : String) : List UInt8 := s.toUTF8.data.toList

def replacement : Char := '\uFFFD'

/-- What the first byte of a character says: how many bytes follow, the least and
the greatest the next one can be, and its own part of the code point. -/
structure Lead where
  owed : ℕ
  low : ℕ
  high : ℕ
  bits : ℕ

def lead (b : ℕ) : Option Lead :=
  if b < 0x80 then some ⟨0, 0x80, 0xBF, b⟩
  else if b < 0xC2 then none
  else if b < 0xE0 then some ⟨1, 0x80, 0xBF, b - 0xC0⟩
  else if b = 0xE0 then some ⟨2, 0xA0, 0xBF, 0⟩
  else if b = 0xED then some ⟨2, 0x80, 0x9F, 0xD⟩
  else if b < 0xF0 then some ⟨2, 0x80, 0xBF, b - 0xE0⟩
  else if b = 0xF0 then some ⟨3, 0x90, 0xBF, 0⟩
  else if b < 0xF4 then some ⟨3, 0x80, 0xBF, b - 0xF0⟩
  else if b = 0xF4 then some ⟨3, 0x80, 0x8F, 4⟩
  else none

/-- The bytes still owed, and what is left after the character or its beginning. -/
def tails : (owed low high bits : ℕ) → List UInt8 → Char × List UInt8
  | 0, _, _, bits, rest => (Char.ofNat bits, rest)
  | _ + 1, _, _, _, [] => (replacement, [])
  | owed + 1, low, high, bits, b :: rest =>
    if low ≤ b.toNat ∧ b.toNat ≤ high then
      tails owed 0x80 0xBF (bits * 64 + (b.toNat - 0x80)) rest
    else (replacement, b :: rest)

def nextChar (b : UInt8) (rest : List UInt8) : Char × List UInt8 :=
  match lead b.toNat with
  | none => (replacement, rest)
  | some first => tails first.owed first.low first.high first.bits rest

theorem tails_length (owed low high bits : ℕ) (rest : List UInt8) :
    (tails owed low high bits rest).2.length ≤ rest.length := by
  induction rest generalizing owed low high bits with
  | nil =>
    cases owed with
    | zero => exact Nat.le_refl _
    | succ owed => exact Nat.le_refl _
  | cons b rest ih =>
    cases owed with
    | zero => exact Nat.le_refl _
    | succ owed =>
      rw [tails]
      split
      · exact Nat.le_succ_of_le (ih _ _ _ _)
      · exact Nat.le_refl _

theorem nextChar_length (b : UInt8) (rest : List UInt8) :
    (nextChar b rest).2.length ≤ rest.length := by
  unfold nextChar
  split
  · exact Nat.le_refl _
  · exact tails_length _ _ _ _ rest

/-- `from_utf8_lossy`. -/
def readLossy : List UInt8 → List Char
  | [] => []
  | b :: rest => (nextChar b rest).1 :: readLossy (nextChar b rest).2
termination_by bytes => bytes.length
decreasing_by exact Nat.lt_succ_of_le (nextChar_length b rest)

def fromUtf8Lossy (bytes : List UInt8) : String := String.ofList (readLossy bytes)

section Encoded

theorem bytes_eq (s : String) : bytes s = s.toList.flatMap String.utf8EncodeChar := by
  rw [bytes, String.toUTF8_eq_toByteArray, ← String.utf8Encode_toList]
  simp [List.utf8Encode]

theorem byte_toNat {n : ℕ} (small : n < 256) : (UInt8.ofNat n).toNat = n :=
  UInt8.toNat_ofNat_of_lt' small

/-- A byte behind the first one. -/
theorem tails_step {owed low high bits t : ℕ} {rest : List UInt8} (under : t < 0x40)
    (least : low ≤ t + 0x80) (most : t + 0x80 ≤ high) :
    tails (owed + 1) low high bits (UInt8.ofNat (t + 0x80) :: rest) =
      tails owed 0x80 0xBF (bits * 64 + t) rest := by
  rw [tails, byte_toNat (by omega), if_pos ⟨least, most⟩, Nat.add_sub_cancel]

theorem lead_two {n : ℕ} (least : 2 ≤ n) (most : n < 0x20) :
    lead (n + 0xC0) = some ⟨1, 0x80, 0xBF, n⟩ := by
  rw [lead, if_neg (by omega), if_neg (by omega), if_pos (by omega), Nat.add_sub_cancel]

/-- The second byte rules out what two bytes could write, and surrogates. -/
theorem lead_three {v : ℕ} (least : 0x800 ≤ v) (most : v < 0x10000)
    (valid : v < 0xD800 ∨ 0xDFFF < v) :
    ∃ low high, lead (v / 4096 + 0xE0) = some ⟨2, low, high, v / 4096⟩ ∧
      low ≤ v / 64 % 0x40 + 0x80 ∧ v / 64 % 0x40 + 0x80 ≤ high := by
  by_cases first : v / 4096 = 0
  · refine ⟨0xA0, 0xBF, ?_, by omega, by omega⟩
    rw [first]
    rfl
  · by_cases surrogate : v / 4096 = 0xD
    · refine ⟨0x80, 0x9F, ?_, by omega, by omega⟩
      rw [surrogate]
      rfl
    · refine ⟨0x80, 0xBF, ?_, by omega, by omega⟩
      rw [lead, if_neg (by omega), if_neg (by omega), if_neg (by omega), if_neg (by omega),
        if_neg (by omega), if_pos (by omega), Nat.add_sub_cancel]

/-- And what three bytes could, and what is beyond the last code point. -/
theorem lead_four {v : ℕ} (least : 0x10000 ≤ v) (most : v < 0x110000) :
    ∃ low high, lead (v / 262144 + 0xF0) = some ⟨3, low, high, v / 262144⟩ ∧
      low ≤ v / 4096 % 0x40 + 0x80 ∧ v / 4096 % 0x40 + 0x80 ≤ high := by
  by_cases first : v / 262144 = 0
  · refine ⟨0x90, 0xBF, ?_, by omega, by omega⟩
    rw [first]
    rfl
  · by_cases last : v / 262144 = 4
    · refine ⟨0x80, 0x8F, ?_, by omega, by omega⟩
      rw [last]
      rfl
    · refine ⟨0x80, 0xBF, ?_, by omega, by omega⟩
      rw [lead, if_neg (by omega), if_neg (by omega), if_neg (by omega), if_neg (by omega),
        if_neg (by omega), if_neg (by omega), if_neg (by omega), if_pos (by omega),
        Nat.add_sub_cancel]

theorem nextChar_lead {n : ℕ} {first : Lead} (small : n < 256) (is : lead n = some first)
    (rest : List UInt8) :
    nextChar (UInt8.ofNat n) rest = tails first.owed first.low first.high first.bits rest := by
  rw [nextChar, byte_toNat small, is]

/-- The encoding of a character is read as the character, whatever follows. -/
theorem nextChar_encoded (c : Char) (rest : List UInt8) :
    ∃ b owed, String.utf8EncodeChar c = b :: owed ∧ nextChar b (owed ++ rest) = (c, rest) := by
  have back : Char.ofNat c.val.toNat = c := Char.ofNat_toNat c
  have valid : c.val.toNat < 0xD800 ∨ 0xDFFF < c.val.toNat ∧ c.val.toNat < 0x110000 := c.valid
  unfold String.utf8EncodeChar
  generalize c.val.toNat = v at back valid
  by_cases one : v ≤ 0x7F
  · have first : lead v = some ⟨0, 0x80, 0xBF, v⟩ := if_pos (by omega)
    refine ⟨_, _, if_pos one, ?_⟩
    rw [nextChar_lead (by omega) first, tails, back]
    rfl
  · by_cases two : v ≤ 0x7FF
    · refine ⟨_, _, by rw [if_neg one, if_pos two], ?_⟩
      rw [Nat.mod_eq_of_lt (a := v / 64) (by omega), List.singleton_append,
        nextChar_lead (by omega) (lead_two (by omega) (by omega))]
      dsimp only
      rw [tails_step (by omega) (by omega) (by omega), tails, Nat.div_add_mod' v 64, back]
    · by_cases three : v ≤ 0xFFFF
      · obtain ⟨low, high, first, least, most⟩ :=
          lead_three (v := v) (by omega) (by omega) (by omega)
        have whole : (v / 4096 * 64 + v / 64 % 64) * 64 + v % 64 = v := by omega
        refine ⟨_, _, by rw [if_neg one, if_neg two, if_pos three], ?_⟩
        rw [Nat.mod_eq_of_lt (a := v / 4096) (by omega), nextChar_lead (by omega) first]
        dsimp only [List.cons_append, List.nil_append]
        rw [tails_step (by omega) least most, tails_step (by omega) (by omega) (by omega), tails,
          whole, back]
      · obtain ⟨low, high, first, least, most⟩ := lead_four (v := v) (by omega) (by omega)
        have whole : ((v / 262144 * 64 + v / 4096 % 64) * 64 + v / 64 % 64) * 64 + v % 64 = v := by
          omega
        refine ⟨_, _, by rw [if_neg one, if_neg two, if_neg three], ?_⟩
        rw [Nat.mod_eq_of_lt (a := v / 262144) (by omega), nextChar_lead (by omega) first]
        dsimp only [List.cons_append, List.nil_append]
        rw [tails_step (by omega) least most, tails_step (by omega) (by omega) (by omega),
          tails_step (by omega) (by omega) (by omega), tails, whole, back]

theorem readLossy_encoded (cs : List Char) :
    readLossy (cs.flatMap String.utf8EncodeChar) = cs := by
  induction cs with
  | nil =>
    rw [List.flatMap_nil, readLossy]
  | cons c cs ih =>
    obtain ⟨b, owed, is, next⟩ := nextChar_encoded c (cs.flatMap String.utf8EncodeChar)
    rw [List.flatMap_cons, is, List.cons_append, readLossy, next, ih]

/-- What is valid is read as what it encodes. -/
theorem fromUtf8Lossy_bytes (s : String) : fromUtf8Lossy (bytes s) = s := by
  rw [fromUtf8Lossy, bytes_eq, readLossy_encoded, String.ofList_toList]

/-- A byte of ASCII is the encoding of its own character only. -/
theorem toNat_of_mem {c : Char} {b : UInt8} (mem : b ∈ String.utf8EncodeChar c)
    (ascii : b.toNat < 0x80) : c.toNat = b.toNat := by
  have first (n base : ℕ) (above : 0x80 ≤ base) (small : n + base < 256) :
      b ≠ UInt8.ofNat (n + base) := by
    rintro rfl
    rw [byte_toNat small] at ascii
    omega
  unfold String.utf8EncodeChar at mem
  simp only at mem
  split at mem
  next one =>
    rw [List.mem_singleton.mp mem, byte_toNat (by omega)]
    rfl
  · have owed := first (c.val.toNat % 0x40) 0x80 (by omega) (by omega)
    have owed' := first (c.val.toNat / 64 % 0x40) 0x80 (by omega) (by omega)
    have owed'' := first (c.val.toNat / 4096 % 0x40) 0x80 (by omega) (by omega)
    have two := first (c.val.toNat / 64 % 0x20) 0xC0 (by omega) (by omega)
    have three := first (c.val.toNat / 4096 % 0x10) 0xE0 (by omega) (by omega)
    have four := first (c.val.toNat / 262144 % 0x08) 0xF0 (by omega) (by omega)
    split at mem
    · simp only [List.mem_cons, List.not_mem_nil, two, owed, or_false] at mem
    · split at mem
      · simp only [List.mem_cons, List.not_mem_nil, three, owed', owed, or_false] at mem
      · simp only [List.mem_cons, List.not_mem_nil, four, owed'', owed', owed, or_false] at mem

end Encoded

end OpenWrapper.Utf8Texts
