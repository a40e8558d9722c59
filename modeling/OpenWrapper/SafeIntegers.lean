import OpenWrapper.Doubles
import Mathlib.Data.Nat.Multiplicity

/-! # Safe integers

An integer below `2 ^ 53` is a double, no other integer is rounded to it, and it
is printed in its own digits. -/

set_option autoImplicit false

namespace OpenWrapper.SafeIntegers
open OpenWrapper.Doubles

section Rounding

variable {n : ℕ}

theorem binaryExponent_integer (n : ℕ) (positive : 0 < n) :
    binaryExponent n 1 = (Nat.log2 n : ℤ) := by
  have low : 2 ^ Nat.log2 n ≤ n := Nat.log2_self_le positive.ne'
  have one : Nat.log2 1 = 0 := by decide
  simp [binaryExponent, unscaled, one, low]

/-- The exponent an integer has as a double. -/
def place (n : ℕ) : ℤ := (Nat.log2 n : ℤ) - 52

theorem toDouble_integer (negative : Bool) (positive : 0 < n) :
    toDouble ⟨negative, n, 0⟩ = normalized negative
      (roundHalfEven (unscaled n 1 2 (place n)).1 (unscaled n 1 2 (place n)).2) (place n) := by
  have least : max (place n) (-1074) = place n := by
    unfold place
    omega
  have whole : scaled n 10 0 = (n, 1) := by simp [scaled]
  unfold place at least
  simp only [toDouble, positive.ne', if_false, whole, binaryExponent_integer n positive, least]
  rfl

theorem log2_lt (small : n < 2 ^ 53) : Nat.log2 n ≤ 52 := by
  by_cases zero : n = 0
  · rw [zero]
    decide
  · exact Nat.lt_succ_iff.mp ((Nat.log2_lt zero).mpr small)

theorem toDouble_safe (negative : Bool) (positive : 0 < n) (small : n < 2 ^ 53) :
    toDouble ⟨negative, n, 0⟩ =
      .finite negative (n * 2 ^ (52 - Nat.log2 n)) (place n) := by
  have top := log2_lt small
  have high : n < 2 ^ (Nat.log2 n + 1) := Nat.lt_log2_self
  have full : 2 ^ (Nat.log2 n + 1) * 2 ^ (52 - Nat.log2 n) = 2 ^ 53 := by
    rw [← Nat.pow_add]
    congr 1
    omega
  have below : n * 2 ^ (52 - Nat.log2 n) < 2 ^ 53 := by
    rw [← full]
    exact Nat.mul_lt_mul_of_pos_right high (by positivity)
  have some_ : n * 2 ^ (52 - Nat.log2 n) ≠ 0 := by positivity
  have exact_ : unscaled n 1 2 (place n) = (n * 2 ^ (52 - Nat.log2 n), 1) := by
    unfold unscaled place
    split
    · have is : Nat.log2 n = 52 := by omega
      simp [is]
    · have is : (-((Nat.log2 n : ℤ) - 52)).toNat = 52 - Nat.log2 n := by omega
      rw [is]
  have kept : roundHalfEven (n * 2 ^ (52 - Nat.log2 n)) 1 = n * 2 ^ (52 - Nat.log2 n) := by
    simp [roundHalfEven, Nat.mod_one]
  have reach : ¬ 971 < place n := by
    unfold place
    omega
  rw [toDouble_integer negative positive, exact_, kept, normalized, if_neg below.ne]
  simp only [some_, reach, if_false]

/-- Above, an integer has an exponent no safe integer has. -/
theorem toDouble_unsafe {m : ℕ} {q : ℤ} (large : 2 ^ 53 ≤ n) (negative : Bool)
    (is : toDouble ⟨negative, n, 0⟩ = .finite negative m q) (some_ : m ≠ 0) : 0 < q := by
  have positive : 0 < n := by omega
  have top : 53 ≤ Nat.log2 n := (Nat.le_log2 positive.ne').mpr large
  have above : 0 < place n := by
    unfold place
    omega
  rw [toDouble_integer negative positive] at is
  generalize roundHalfEven _ _ = mantissa at is
  unfold normalized at is
  by_cases carries : mantissa = 2 ^ 53
  · simp only [carries, if_true] at is
    split at is
    next none_ => cases none_
    · split at is
      · cases is
      · injection is
        omega
  · simp only [carries, if_false] at is
    split at is
    · injection is
      omega
    · split at is
      · cases is
      · injection is
        omega

/-- No other integer is rounded to a safe one. -/
theorem toDouble_injective {a : ℕ} (positive : 0 < n) (small : n < 2 ^ 53)
    (same : toDouble ⟨false, a, 0⟩ = toDouble ⟨false, n, 0⟩) : a = n := by
  have mantissa : n * 2 ^ (52 - Nat.log2 n) ≠ 0 := by positivity
  rw [toDouble_safe false positive small] at same
  by_cases zero : a = 0
  · rw [zero, toDouble, if_pos rfl] at same
    injection same
    omega
  · by_cases within : a < 2 ^ 53
    · rw [toDouble_safe false (Nat.pos_of_ne_zero zero) within] at same
      injection same with _ digits exponent
      have place_eq : Nat.log2 a = Nat.log2 n := by
        unfold place at exponent
        omega
      rw [place_eq] at digits
      exact Nat.eq_of_mul_eq_mul_right (by positivity) digits
    · have above := toDouble_unsafe (not_lt.mp within) false same mantissa
      have top := log2_lt small
      unfold place at above
      omega

theorem toDouble_shifted (negative : Bool) (s p : ℕ) :
    toDouble ⟨negative, s, p⟩ = toDouble ⟨negative, s * 10 ^ p, 0⟩ := by
  have whole : scaled s 10 p = scaled (s * 10 ^ p) 10 0 := by simp [scaled]
  by_cases zero : s = 0
  · simp [toDouble, zero]
  · have zero' : s * 10 ^ p ≠ 0 := by positivity
    simp only [toDouble, zero, zero', if_false, whole]

end Rounding

section Digits

theorem toDigits_shifted {t : ℕ} (positive : 0 < t) (z : ℕ) :
    Nat.toDigits 10 (t * 10 ^ z) = Nat.toDigits 10 t ++ List.replicate z '0' := by
  induction z with
  | zero => simp
  | succ z ih =>
    have shifted : t * 10 ^ (z + 1) = 10 * (t * 10 ^ z) + 0 := by ring
    rw [shifted, ← Nat.toDigits_append_toDigits (by decide) (by positivity) (by decide), ih,
      List.replicate_succ', List.append_assoc]
    rfl

theorem stripZeros_toDigits {t : ℕ} (last : ¬ 10 ∣ t) :
    stripZeros (Nat.toDigits 10 t) = Nat.toDigits 10 t := by
  have digit : ∀ d < 10, ¬ 10 ∣ d → (Nat.digitChar d == '0') = false := by decide
  by_cases small : t < 10
  · rw [Nat.toDigits_of_lt_base small]
    simp [stripZeros, digit t small last]
  · rw [Nat.toDigits_of_base_le (by decide) (by omega)]
    have rest := digit (t % 10) (by omega) (by omega)
    simp [stripZeros, rest]

theorem toDigits_length_le {n k : ℕ} (small : n < 10 ^ k) (some_ : 0 < k) :
    (Nat.toDigits 10 n).length ≤ k := by
  induction k generalizing n with
  | zero => omega
  | succ k ih =>
    by_cases one : n < 10
    · rw [Nat.toDigits_of_lt_base one]
      simp
    · have more : 0 < k := by
        rcases Nat.eq_zero_or_pos k with rfl | positive
        · simp at small
          omega
        · exact positive
      rw [Nat.toDigits_of_base_le (by decide) (by omega), List.length_append, List.length_singleton]
      have rest := @ih (n / 10) (by rw [Nat.pow_succ] at small; omega) more
      omega

end Digits

section Printing

variable {t z : ℕ}

/-- A double near a multiple of a greater power of ten is no safe integer. -/
theorem decimalAt_none (positive : 0 < t) (last : ¬ 10 ∣ t) (small : t * 10 ^ z < 2 ^ 53) {p : ℕ}
    (above : z < p) :
    decimalAt (t * 10 ^ z * 2 ^ (52 - Nat.log2 (t * 10 ^ z))) (place (t * 10 ^ z)) p = none := by
  have bad (s : ℕ) : toDouble ⟨false, s, p⟩ ≠
      .finite false (t * 10 ^ z * 2 ^ (52 - Nat.log2 (t * 10 ^ z))) (place (t * 10 ^ z)) := by
    intro good
    rw [← toDouble_safe false (by positivity) small, toDouble_shifted] at good
    have same := toDouble_injective (by positivity) small good
    have split : s * 10 ^ p = s * 10 ^ (p - z - 1) * 10 * 10 ^ z := by
      rw [mul_assoc s, ← Nat.pow_succ, mul_assoc, ← Nat.pow_add]
      congr 2
      omega
    rw [split] at same
    have factor := Nat.eq_of_mul_eq_mul_right (by positivity) same
    exact last ⟨s * 10 ^ (p - z - 1), by rw [← factor, mul_comm]⟩
  simp [decimalAt, bad]

theorem scaled_safe {n : ℕ} (small : n < 2 ^ 53) :
    scaled (n * 2 ^ (52 - Nat.log2 n)) 2 (place n) =
      (n * 2 ^ (52 - Nat.log2 n), 2 ^ (52 - Nat.log2 n)) := by
  have top := log2_lt small
  unfold scaled place
  split
  · have is : Nat.log2 n = 52 := by omega
    simp [is]
  · have is : (-((Nat.log2 n : ℤ) - 52)).toNat = 52 - Nat.log2 n := by omega
    rw [is]

theorem decimalAt_last (positive : 0 < t) (small : t * 10 ^ z < 2 ^ 53) :
    decimalAt (t * 10 ^ z * 2 ^ (52 - Nat.log2 (t * 10 ^ z))) (place (t * 10 ^ z)) z =
      some (t, (z : ℤ)) := by
  generalize unit : 2 ^ (52 - Nat.log2 (t * 10 ^ z)) = u
  have some_ : 0 < u := by
    rw [← unit]
    positivity
  have reading := scaled_safe small
  rw [unit] at reading
  have split : t * 10 ^ z * u = t * (u * 10 ^ z) := by ring
  have quotient : t * 10 ^ z * u / (u * 10 ^ z) = t := by
    rw [split, Nat.mul_div_cancel _ (by positivity)]
  have rest : t * 10 ^ z * u % (u * 10 ^ z) = 0 := by
    rw [split, Nat.mul_mod_left]
  have good : toDouble ⟨false, t, z⟩ = .finite false (t * 10 ^ z * u) (place (t * 10 ^ z)) := by
    rw [toDouble_shifted, toDouble_safe false (by positivity) small, unit]
  have kept : roundHalfEven (t * 10 ^ z * u) (u * 10 ^ z) = t := by
    have some' : 0 < u * 10 ^ z := by positivity
    simp [roundHalfEven, quotient, rest, some']
  simp [decimalAt, reading, unscaled, quotient, good, kept]

theorem decimalExponent_safe {n : ℕ} (positive : 0 < n) :
    decimalExponent (n * 2 ^ (52 - Nat.log2 n)) (2 ^ (52 - Nat.log2 n)) =
      (Nat.toDigits 10 n).length := by
  generalize unit : 2 ^ (52 - Nat.log2 n) = u
  have some_ : 0 < u := by
    rw [← unit]
    positivity
  have above : u ≤ n * u := Nat.le_mul_of_pos_left u positive
  rw [decimalExponent, if_pos above, Nat.mul_div_cancel _ some_]

theorem shortest_safe (positive : 0 < t) (last : ¬ 10 ∣ t) (small : t * 10 ^ z < 2 ^ 53) :
    shortest (t * 10 ^ z * 2 ^ (52 - Nat.log2 (t * 10 ^ z))) (place (t * 10 ^ z)) =
      (t, (z : ℤ)) := by
  have length := toDigits_shifted positive z
  have short : (Nat.toDigits 10 (t * 10 ^ z)).length ≤ 16 :=
    toDigits_length_le (lt_trans small (by norm_num)) (by decide)
  have some_ : 0 < (Nat.toDigits 10 t).length :=
    List.length_pos_iff.mpr Nat.toDigits_ne_nil
  have total : (Nat.toDigits 10 (t * 10 ^ z)).length = (Nat.toDigits 10 t).length + z := by
    rw [length, List.length_append, List.length_replicate]
  unfold shortest
  simp only [scaled_safe small, decimalExponent_safe (n := t * 10 ^ z) (by positivity), total]
  have found : (List.range 17).findSome? (fun (k : ℕ) =>
      decimalAt (t * 10 ^ z * 2 ^ (52 - Nat.log2 (t * 10 ^ z))) (place (t * 10 ^ z))
        (((Nat.toDigits 10 t).length + z : ℕ) - ((k : ℤ) + 1))) = some (t, (z : ℤ)) := by
    rw [List.findSome?_eq_some_iff]
    refine ⟨List.range ((Nat.toDigits 10 t).length - 1), (Nat.toDigits 10 t).length - 1,
      (List.range (17 - (Nat.toDigits 10 t).length)).map ((Nat.toDigits 10 t).length + ·),
      ?_, ?_, ?_⟩
    · have split : 17 = (Nat.toDigits 10 t).length - 1 + 1 + (17 - (Nat.toDigits 10 t).length) := by
        omega
      nth_rewrite 1 [split]
      rw [List.range_add, List.range_succ, List.append_assoc]
      have back : (Nat.toDigits 10 t).length - 1 + 1 = (Nat.toDigits 10 t).length := by omega
      rw [back]
      rfl
    · have is : (((Nat.toDigits 10 t).length + z : ℕ) : ℤ) -
          ((((Nat.toDigits 10 t).length - 1 : ℕ) : ℤ) + 1) = z := by omega
      rw [is]
      exact decimalAt_last positive small
    · intro k mem
      have early := List.mem_range.mp mem
      have is : (((Nat.toDigits 10 t).length + z : ℕ) : ℤ) - ((k : ℤ) + 1) =
          (((Nat.toDigits 10 t).length + z - k - 1 : ℕ) : ℤ) := by omega
      rw [is]
      exact decimalAt_none positive last small (by omega)
  rw [found]
  rfl

theorem positiveText_safe {n : ℕ} (positive : 0 < n) (small : n < 2 ^ 53) :
    positiveText (n * 2 ^ (52 - Nat.log2 n)) (place n) = Nat.toDigits 10 n := by
  obtain ⟨z, t, last, rfl⟩ := Nat.exists_eq_pow_mul_and_not_dvd positive.ne' 10 (by decide)
  have some_ : 0 < t := Nat.pos_of_ne_zero fun zero => last (by simp [zero])
  rw [mul_comm (10 ^ z) t] at small ⊢
  have short := toDigits_length_le (lt_trans small (by norm_num : 2 ^ 53 < 10 ^ 16)) (by decide)
  rw [toDigits_shifted some_, List.length_append, List.length_replicate] at short
  have fits : ((Nat.toDigits 10 t).length : ℤ) ≤ (Nat.toDigits 10 t).length + (z : ℤ) ∧
      (Nat.toDigits 10 t).length + (z : ℤ) ≤ 21 := by omega
  have zeros : ((Nat.toDigits 10 t).length + (z : ℤ)).toNat - (Nat.toDigits 10 t).length = z := by
    omega
  rw [positiveText, shortest_safe some_ last small]
  simp only [stripZeros_toDigits last]
  rw [layout, if_pos fits, zeros, toDigits_shifted some_]

theorem toList_negSucc (n : ℕ) :
    (toString (Int.negSucc n)).toList = '-' :: Nat.toDigits 10 (n + 1) := by
  have signed : toString (Int.negSucc n) = "-" ++ String.ofList (Nat.toDigits 10 (n + 1)) := rfl
  rw [signed, String.toList_append, String.toList_ofList (l := Nat.toDigits 10 (n + 1))]
  rfl

/-- A safe integer is printed in its own digits. -/
theorem toText_safe {n : ℤ} (some_ : n ≠ 0) (small : n.natAbs < 2 ^ 53) :
    (toDouble ⟨decide (n < 0), n.natAbs, 0⟩).toText = toString n := by
  have positive : 0 < n.natAbs := Int.natAbs_pos.mpr some_
  have mantissa : n.natAbs * 2 ^ (52 - Nat.log2 n.natAbs) ≠ 0 := by positivity
  rw [toDouble_safe _ positive small, Double.toText, if_neg mantissa,
    positiveText_safe positive small]
  cases n with
  | ofNat n =>
    have nonneg : ¬ Int.ofNat n < 0 := by simp
    rw [decide_eq_false nonneg]
    rfl
  | negSucc n =>
    rw [decide_eq_true (Int.negSucc_lt_zero n), ← String.toList_inj, toList_negSucc,
      String.toList_ofList]
    rfl

end Printing

section Numbers

/-- The nearest integer a JavaScript number has. -/
def toNumber (n : ℕ) : ℕ :=
  if n < 2 ^ 53 then n else roundHalfEven n (2 ^ (Nat.log2 n - 52)) * 2 ^ (Nat.log2 n - 52)

theorem toNumber_small {n : ℕ} (small : n ≤ 2 ^ 53) : toNumber n = n := by
  by_cases top : n = 2 ^ 53
  · rw [top]
    decide +kernel
  · exact if_pos (by omega)

theorem toNumber_gap : toNumber (2 ^ 53 + 1) = 2 ^ 53 := by decide +kernel

theorem floor_le_roundHalfEven (n d : ℕ) : n / d ≤ roundHalfEven n d := by
  unfold roundHalfEven
  simp only
  split
  · exact le_refl _
  · split
    · omega
    · split
      · exact le_refl _
      · omega

theorem toNumber_large {n : ℕ} (large : 2 ^ 53 + 2 ≤ n) : 2 ^ 53 < toNumber n := by
  have some_ : n ≠ 0 := by omega
  have top : 53 ≤ Nat.log2 n := (Nat.le_log2 some_).mpr (by omega)
  have low : 2 ^ Nat.log2 n ≤ n := Nat.log2_self_le some_
  unfold toNumber
  rw [if_neg (by omega)]
  have floor := Nat.mul_le_mul_right (2 ^ (Nat.log2 n - 52))
    (floor_le_roundHalfEven n (2 ^ (Nat.log2 n - 52)))
  by_cases first : Nat.log2 n = 53
  · rw [first] at floor ⊢
    omega
  · obtain ⟨e, is⟩ : ∃ e, Nat.log2 n = e + 54 := ⟨Nat.log2 n - 54, by omega⟩
    rw [is] at low floor ⊢
    have unit : e + 54 - 52 = e + 2 := by omega
    rw [unit] at floor ⊢
    have quotient : 2 ^ 52 ≤ n / 2 ^ (e + 2) := by
      rw [Nat.le_div_iff_mul_le (by positivity), ← Nat.pow_add]
      exact le_trans (le_of_eq (by congr 1; omega)) low
    have product := Nat.mul_le_mul quotient (Nat.pow_le_pow_right (n := 2) (by decide)
      (show 2 ≤ e + 2 by omega))
    omega

end Numbers

end OpenWrapper.SafeIntegers
