import Mathlib.Data.List.Basic
import Mathlib.Tactic.IntervalCases

/-! # Hexadecimal text

Bytes are printed in lowercase digits. A text is read in either case, and the
bytes it is read as print it in lowercase. -/

set_option autoImplicit false

namespace OpenWrapper.Hexadecimal

def digit (n : ℕ) : Char := "0123456789abcdef".toList.getD n '0'

def digitValue : Char → Option ℕ
  | '0' => some 0
  | '1' => some 1
  | '2' => some 2
  | '3' => some 3
  | '4' => some 4
  | '5' => some 5
  | '6' => some 6
  | '7' => some 7
  | '8' => some 8
  | '9' => some 9
  | 'a' | 'A' => some 10
  | 'b' | 'B' => some 11
  | 'c' | 'C' => some 12
  | 'd' | 'D' => some 13
  | 'e' | 'E' => some 14
  | 'f' | 'F' => some 15
  | _ => none

def lowerChar (c : Char) : Char :=
  if 'A' ≤ c ∧ c ≤ 'Z' then Char.ofNat (c.toNat + 32) else c

/-- `to_ascii_lowercase`. -/
def toAsciiLowercase (s : String) : String := String.ofList (s.toList.map lowerChar)

def encodeChars : List UInt8 → List Char
  | [] => []
  | b :: rest => digit (b.toNat / 16) :: digit (b.toNat % 16) :: encodeChars rest

def encode (bytes : List UInt8) : String := String.ofList (encodeChars bytes)

def decodeChars : List Char → Option (List UInt8)
  | [] => some []
  | [_] => none
  | high :: low :: rest =>
    match digitValue high, digitValue low with
    | some h, some l => (decodeChars rest).map fun bytes => UInt8.ofNat (16 * h + l) :: bytes
    | _, _ => none

def decode (s : String) : Option (List UInt8) := decodeChars s.toList

theorem digitValue_lt {c : Char} {n : ℕ} (value : digitValue c = some n) : n < 16 := by
  unfold digitValue at value
  split at value <;> cases value <;> omega

theorem digit_of_value {c : Char} {n : ℕ} (value : digitValue c = some n) :
    digit n = lowerChar c := by
  unfold digitValue at value
  split at value <;> cases value <;> decide

theorem digitValue_digit : ∀ n < 16, digitValue (digit n) = some n := by decide

theorem decodeChars_encodeChars (bytes : List UInt8) :
    decodeChars (encodeChars bytes) = some bytes := by
  induction bytes with
  | nil => rfl
  | cons b rest ih =>
    have bound := b.toNat_lt
    have high := digitValue_digit (b.toNat / 16) (by omega)
    have low := digitValue_digit (b.toNat % 16) (by omega)
    have whole : UInt8.ofNat (16 * (b.toNat / 16) + b.toNat % 16) = b := by
      rw [Nat.div_add_mod]
      exact UInt8.ofNat_toNat
    simp only [encodeChars, decodeChars, high, low, ih, Option.map_some, whole]

theorem decode_encode (bytes : List UInt8) : decode (encode bytes) = some bytes := by
  rw [decode, encode, String.toList_ofList]
  exact decodeChars_encodeChars bytes

theorem encode_injective {a b : List UInt8} (same : encode a = encode b) : a = b := by
  have read := decode_encode a
  rw [same, decode_encode b] at read
  exact (Option.some.inj read).symm

theorem lower_of_decodeChars : ∀ {s : List Char} {bytes : List UInt8},
    decodeChars s = some bytes → s.map lowerChar = encodeChars bytes
  | [], bytes, read => by
    cases read
    rfl
  | [_], _, read => by cases read
  | high :: low :: rest, bytes, read => by
    rw [decodeChars] at read
    split at read
    next h l highValue lowValue =>
      obtain ⟨tail, inner, rfl⟩ := Option.map_eq_some_iff.mp read
      have highBound := digitValue_lt highValue
      have lowBound := digitValue_lt lowValue
      have whole : (UInt8.ofNat (16 * h + l)).toNat = 16 * h + l := by
        rw [UInt8.toNat_ofNat']
        omega
      have upper : (16 * h + l) / 16 = h := by omega
      have lower : (16 * h + l) % 16 = l := by omega
      simp only [List.map_cons, encodeChars, whole, upper, lower, digit_of_value highValue,
        digit_of_value lowValue, lower_of_decodeChars inner]
    · cases read

/-- A text that is read as these bytes is their print, up to case. -/
theorem lower_of_decode {s : String} {bytes : List UInt8} (read : decode s = some bytes) :
    toAsciiLowercase s = encode bytes := by
  rw [toAsciiLowercase, encode, lower_of_decodeChars read]

/-- Two readable texts are read as the same bytes if they agree up to case. -/
theorem lower_eq_iff {s t : String} {a b : List UInt8} (first : decode s = some a)
    (second : decode t = some b) : toAsciiLowercase s = toAsciiLowercase t ↔ a = b := by
  rw [lower_of_decode first, lower_of_decode second]
  exact ⟨encode_injective, congrArg encode⟩

def lowerDigits : List Char := "0123456789abcdef".toList

theorem encodeChars_lower (bytes : List UInt8) : ∀ c ∈ encodeChars bytes, c ∈ lowerDigits := by
  have digits : ∀ d < 16, digit d ∈ lowerDigits := by decide
  induction bytes with
  | nil => exact nofun
  | cons b rest ih =>
    have bound := b.toNat_lt
    intro c mem
    rcases List.mem_cons.mp mem with rfl | later
    · exact digits _ (by omega)
    · rcases List.mem_cons.mp later with rfl | last
      · exact digits _ (by omega)
      · exact ih c last

theorem digitValue_lowerChar (c : Char) : digitValue (lowerChar c) = digitValue c := by
  by_cases upper : 'A' ≤ c ∧ c ≤ 'Z'
  · have low : 65 ≤ c.toNat := by simpa [Char.le_def, UInt32.le_iff_toNat_le] using upper.1
    have high : c.toNat ≤ 90 := by simpa [Char.le_def, UInt32.le_iff_toNat_le] using upper.2
    have is : c = Char.ofNat c.toNat := (Char.ofNat_toNat c).symm
    rw [lowerChar, if_pos upper]
    generalize c.toNat = n at is low high ⊢
    rw [is]
    interval_cases n <;> rfl
  · rw [lowerChar, if_neg upper]

theorem decodeChars_lowerChar : ∀ cs : List Char,
    decodeChars (cs.map lowerChar) = decodeChars cs
  | [] => rfl
  | [_] => rfl
  | high :: low :: rest => by
    rw [List.map_cons, List.map_cons, decodeChars, decodeChars, digitValue_lowerChar,
      digitValue_lowerChar, decodeChars_lowerChar rest]

end OpenWrapper.Hexadecimal
