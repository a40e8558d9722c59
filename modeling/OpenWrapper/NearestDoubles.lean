import OpenWrapper.ScaledDecimals
import Mathlib.Algebra.Order.Field.Power

/-! # Doubles next to a fraction

A fraction below `2 ^ 53` has a double that is next to it. No integer lies
between the two, and where the fraction is made of two safe integers the double
does not reach the next integer. -/

set_option autoImplicit false

namespace OpenWrapper.NearestDoubles
open OpenWrapper.Doubles OpenWrapper.SafeIntegers OpenWrapper.ScaledDecimals

def magnitude : Double → ℚ
  | .finite _ m q => m * 2 ^ q
  | .infinite _ => 0

section Fractions

theorem scaled_div (n b : ℕ) (e : ℤ) :
    ((scaled n b e).1 / (scaled n b e).2 : ℚ) = n * (b : ℚ) ^ e := by
  unfold scaled
  by_cases up : 0 ≤ e
  · rw [if_pos up]
    obtain ⟨k, rfl⟩ := Int.eq_ofNat_of_zero_le up
    simp
  · rw [if_neg up]
    obtain ⟨k, is⟩ := Int.eq_ofNat_of_zero_le (show 0 ≤ -e by omega)
    have minus : e = -(k : ℤ) := by omega
    rw [is, minus]
    simp [div_eq_mul_inv]

theorem unscaled_div (num den b : ℕ) (e : ℤ) :
    ((unscaled num den b e).1 / (unscaled num den b e).2 : ℚ) = num / den / (b : ℚ) ^ e := by
  unfold unscaled
  by_cases up : 0 ≤ e
  · rw [if_pos up]
    obtain ⟨k, rfl⟩ := Int.eq_ofNat_of_zero_le up
    simp [div_div]
  · rw [if_neg up]
    obtain ⟨k, is⟩ := Int.eq_ofNat_of_zero_le (show 0 ≤ -e by omega)
    have minus : e = -(k : ℤ) := by omega
    rw [is, minus]
    simp [div_eq_mul_inv]
    ring

variable {num den : ℕ}

theorem two_log_sub_lt (num' : 0 < num) (den' : 0 < den) :
    (2 : ℚ) ^ ((Nat.log2 num : ℤ) - Nat.log2 den - 1) < num / den := by
  have low : ((2 ^ Nat.log2 num : ℕ) : ℚ) ≤ num := by exact_mod_cast Nat.log2_self_le num'.ne'
  have high : (den : ℚ) < ((2 ^ (Nat.log2 den + 1) : ℕ) : ℚ) := by exact_mod_cast Nat.lt_log2_self
  push_cast at low high
  have positive : (0 : ℚ) < den := by exact_mod_cast den'
  rw [lt_div_iff₀ positive]
  have split : (2 : ℚ) ^ ((Nat.log2 num : ℤ) - Nat.log2 den - 1) * 2 ^ (Nat.log2 den + 1) =
      2 ^ Nat.log2 num := by
    rw [← zpow_natCast, ← zpow_natCast, ← zpow_add₀ (by norm_num)]
    congr 1
    push_cast
    ring
  calc (2 : ℚ) ^ ((Nat.log2 num : ℤ) - Nat.log2 den - 1) * den
      < 2 ^ ((Nat.log2 num : ℤ) - Nat.log2 den - 1) * 2 ^ (Nat.log2 den + 1) := by gcongr
    _ = 2 ^ Nat.log2 num := split
    _ ≤ num := low

theorem two_binaryExponent_le (num' : 0 < num) (den' : 0 < den) :
    (2 : ℚ) ^ binaryExponent num den ≤ num / den := by
  have fraction := unscaled_div num den 2 ((Nat.log2 num : ℤ) - Nat.log2 den)
  have below : 0 < (unscaled num den 2 ((Nat.log2 num : ℤ) - Nat.log2 den)).2 := by
    unfold unscaled
    split
    · positivity
    · exact den'
  unfold binaryExponent
  simp only
  split
  next reaches =>
    have power : (0 : ℚ) < 2 ^ ((Nat.log2 num : ℤ) - Nat.log2 den) := by positivity
    have above : (1 : ℚ) ≤ num / den / 2 ^ ((Nat.log2 num : ℤ) - Nat.log2 den) := by
      rw [← Nat.cast_two, ← fraction, one_le_div (by exact_mod_cast below)]
      exact_mod_cast reaches
    rw [le_div_iff₀ power, one_mul] at above
    exact above
  · exact (two_log_sub_lt num' den').le

end Fractions

section Nearest

/-- The double is the fraction, rounded to one over the unit. -/
structure Next (negative : Bool) (num den : ℕ) (x : Double) (unit : ℕ) : Prop where
  finite : ∃ m q, x = .finite negative m q
  positive : 0 < unit
  value : magnitude x = roundHalfEven (num * unit) den / unit
  fine : num < 2 ^ 53 → den < 2 ^ 64 → den < 2 * unit

theorem normalized_value (negative : Bool) (m : ℕ) {q : ℤ} (low : q ≤ 0) :
    (∃ m' q', normalized negative m q = .finite negative m' q') ∧
      magnitude (normalized negative m q) = m * 2 ^ q := by
  unfold normalized
  by_cases carries : m = 2 ^ 53
  · have reach : ¬ 971 < q + 1 := by omega
    have some_ : (2 : ℕ) ^ 52 ≠ 0 := by norm_num
    have value : ((2 ^ 52 : ℕ) : ℚ) * 2 ^ (q + 1) = (2 ^ 53 : ℕ) * 2 ^ q := by
      rw [zpow_add₀ (by norm_num)]
      push_cast
      ring
    simp only [carries, if_true, some_, reach, if_false]
    exact ⟨⟨_, _, rfl⟩, value⟩
  · have reach : ¬ 971 < q := by omega
    simp only [carries, if_false, reach]
    by_cases zero : m = 0
    · rw [if_pos zero, zero]
      exact ⟨⟨_, _, rfl⟩, by simp [magnitude]⟩
    · rw [if_neg zero]
      exact ⟨⟨_, _, rfl⟩, rfl⟩

theorem scaled_fraction (n k : ℕ) : scaled n 10 (-(k : ℤ)) = (n, 10 ^ k) := by
  unfold scaled
  cases k with
  | zero => simp
  | succ k =>
    have down : ¬ 0 ≤ -((k + 1 : ℕ) : ℤ) := by omega
    have same : (- -((k + 1 : ℕ) : ℤ)).toNat = k + 1 := by omega
    rw [if_neg down, same]

theorem unscaled_down (num den : ℕ) {q : ℤ} (low : q ≤ 0) :
    unscaled num den 2 q = (num * 2 ^ (-q).toNat, den) := by
  unfold unscaled
  split
  · have zero : q = 0 := by omega
    simp [zero]
  · rfl

/-- The unit is fine enough to tell fractions of safe integers apart. -/
theorem den_lt_two_units {num den : ℕ} (num' : 0 < num) (den' : 0 < den) (safe : num < 2 ^ 53)
    (few : den < 2 ^ 64) {e : ℕ}
    (is : max (binaryExponent num den - 52) (-1074) = -(e : ℤ)) : den < 2 * 2 ^ e := by
  have exponent := two_binaryExponent_le num' den'
  have positive : (0 : ℚ) < den := by exact_mod_cast den'
  by_cases least : binaryExponent num den - 52 ≤ -1074
  · have last : 64 ≤ e + 1 := by omega
    calc den < 2 ^ 64 := few
      _ ≤ 2 ^ (e + 1) := Nat.pow_le_pow_right (by decide) last
      _ = 2 * 2 ^ e := Nat.pow_succ'
  · have place : binaryExponent num den = 52 - (e : ℤ) := by omega
    rw [place, le_div_iff₀ positive] at exponent
    have below : (2 : ℚ) ^ (52 - (e : ℤ)) * den < 2 ^ (52 - (e : ℤ)) * (2 * 2 ^ e) := by
      calc (2 : ℚ) ^ (52 - (e : ℤ)) * den ≤ num := exponent
        _ < 2 ^ 53 := by exact_mod_cast safe
        _ = 2 ^ (52 - (e : ℤ)) * (2 * 2 ^ e) := by
          rw [zpow_sub₀ (by norm_num)]
          simp only [zpow_natCast, zpow_ofNat]
          field_simp
    have less := lt_of_mul_lt_mul_left below (by positivity)
    exact_mod_cast less

/-- The double next to `num / den`; of two that are as near the even one. -/
def nearest (negative : Bool) (num den : ℕ) : Double :=
  if num = 0 then .finite negative 0 0
  else
    let q := max (binaryExponent num den - 52) (-1074)
    let (n, d) := unscaled num den 2 q
    normalized negative (roundHalfEven n d) q

theorem toDouble_nearest (negative : Bool) (n k : ℕ) :
    toDouble ⟨negative, n, -(k : ℤ)⟩ = nearest negative n (10 ^ k) := by
  unfold toDouble nearest
  simp only [scaled_fraction]

variable {num den : ℕ}

theorem nearest_next (negative : Bool) (den' : 0 < den) (small : num < 2 ^ 53 * den) :
    ∃ unit, Next negative num den (nearest negative num den) unit := by
  rcases Nat.eq_zero_or_pos num with rfl | positive
  · refine ⟨den, ⟨0, 0, by simp [nearest]⟩, den', ?_, ?_⟩
    · simp [nearest, magnitude, roundHalfEven]
    · intro _ _
      omega
  · have some_ : (0 : ℚ) < den := by exact_mod_cast den'
    have under : (num : ℚ) < 2 ^ 53 * den := by exact_mod_cast small
    have top : binaryExponent num den < 53 := by
      have less : (2 : ℚ) ^ binaryExponent num den < 2 ^ (53 : ℤ) := by
        refine lt_of_le_of_lt (two_binaryExponent_le positive den') ?_
        rw [div_lt_iff₀ some_]
        exact_mod_cast under
      exact (zpow_lt_zpow_iff_right₀ (by norm_num)).mp less
    generalize is : max (binaryExponent num den - 52) (-1074) = q
    have low : q ≤ 0 := by omega
    have double : nearest negative num den =
        normalized negative (roundHalfEven (num * 2 ^ (-q).toNat) den) q := by
      simp only [nearest, positive.ne', if_false, is, unscaled_down _ _ low]
    obtain ⟨finite, value⟩ := normalized_value negative
      (roundHalfEven (num * 2 ^ (-q).toNat) den) low
    have inverse : (2 : ℚ) ^ q = 1 / ((2 ^ (-q).toNat : ℕ) : ℚ) := by
      obtain ⟨e, minus⟩ := Int.eq_ofNat_of_zero_le (show 0 ≤ -q by omega)
      have back : q = -(e : ℤ) := by omega
      rw [minus, back]
      simp
    refine ⟨2 ^ (-q).toNat, double ▸ finite, by positivity, ?_, ?_⟩
    · rw [double, value, inverse]
      ring
    · intro safe few
      have back : q = -((-q).toNat : ℤ) := by omega
      exact den_lt_two_units positive den' safe few (is.trans back)

namespace Next

variable {negative : Bool} {n unit : ℕ} {x : Double}

/-- An integer up to the fraction is up to the double. -/
theorem ge (next : Next negative num den x unit) (den' : 0 < den) (below : n * den ≤ num) :
    (n : ℚ) ≤ magnitude x := by
  have units : n * unit * den ≤ num * unit := by
    calc n * unit * den = n * den * unit := by ring
      _ ≤ num * unit := Nat.mul_le_mul_right unit below
  have positive : (0 : ℚ) < unit := by exact_mod_cast next.positive
  rw [next.value, le_div_iff₀ positive]
  exact_mod_cast le_roundHalfEven den' units

/-- An integer above a fraction of safe integers is above the double. -/
theorem lt (next : Next negative num den x unit) (den' : 0 < den) (safe : num < 2 ^ 53)
    (few : den < 2 ^ 64) (above : num < n * den) : magnitude x < n := by
  have fine := next.fine safe few
  have units : 2 * (num * unit) + den < n * unit * (2 * den) := by
    calc 2 * (num * unit) + den < 2 * (num * unit) + 2 * unit := by omega
      _ = 2 * unit * (num + 1) := by ring
      _ ≤ 2 * unit * (n * den) := Nat.mul_le_mul_left (2 * unit) above
      _ = n * unit * (2 * den) := by ring
  have positive : (0 : ℚ) < unit := by exact_mod_cast next.positive
  rw [next.value, div_lt_iff₀ positive]
  exact_mod_cast roundHalfEven_lt den' units

/-- An integer is its own double. -/
theorem exact_ (next : Next negative num den x unit) (den' : 0 < den) (whole : num = n * den) :
    magnitude x = n := by
  have positive : (unit : ℚ) ≠ 0 := by exact_mod_cast next.positive.ne'
  have units : num * unit = n * unit * den := by
    rw [whole]
    ring
  rw [next.value, units, roundHalfEven_mul den']
  push_cast
  field_simp

end Next

theorem scaled_floor (m : ℕ) (q : ℤ) :
    (scaled m 2 q).1 / (scaled m 2 q).2 = ⌊(m * 2 ^ q : ℚ)⌋₊ := by
  have fraction := scaled_div m 2 q
  push_cast at fraction
  rw [← fraction, Nat.floor_div_eq_div]

end Nearest

end OpenWrapper.NearestDoubles
