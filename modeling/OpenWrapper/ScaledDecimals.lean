import OpenWrapper.SafeIntegers
import Mathlib.Algebra.Order.Field.Rat
import Mathlib.Algebra.Order.Floor.Semifield
import Mathlib.Data.Nat.Find
import Mathlib.Data.Rat.Floor
import Mathlib.Tactic.FieldSimp
import Mathlib.Tactic.Linarith

/-! # Decimals of 96 bits

A decimal has a coefficient of 96 bits and up to 28 places. A result keeps as
many of its places as fit; the others are rounded away, half to even. -/

set_option autoImplicit false

namespace OpenWrapper.ScaledDecimals
open OpenWrapper.Doubles OpenWrapper.SafeIntegers

section Rounding

def roundHalfUp (num den : ℕ) : ℕ := (2 * num + den) / (2 * den)

variable {a b n : ℕ}

theorem le_roundHalfEven (positive : 0 < b) (below : n * b ≤ a) : n ≤ roundHalfEven a b :=
  le_trans ((Nat.le_div_iff_mul_le positive).mpr below) (floor_le_roundHalfEven a b)

theorem roundHalfEven_le_halfUp (positive : 0 < b) (a : ℕ) :
    roundHalfEven a b ≤ roundHalfUp a b := by
  have split : b * (a / b) + a % b = a := Nat.div_add_mod a b
  have down : a / b * (2 * b) = 2 * (b * (a / b)) := by ring
  have up : (a / b + 1) * (2 * b) = 2 * (b * (a / b)) + 2 * b := by ring
  unfold roundHalfUp
  rw [Nat.le_div_iff_mul_le (by omega)]
  unfold roundHalfEven
  simp only
  split
  · omega
  · split
    · omega
    · split
      · omega
      · omega

/-- What is more than half a unit below an integer is not rounded to it. -/
theorem roundHalfEven_lt (positive : 0 < b) (far : 2 * a + b < n * (2 * b)) :
    roundHalfEven a b < n := by
  have under : roundHalfUp a b < n := (Nat.div_lt_iff_lt_mul (by omega)).mpr far
  exact lt_of_le_of_lt (roundHalfEven_le_halfUp positive a) under

theorem roundHalfEven_mul (positive : 0 < b) (n : ℕ) : roundHalfEven (n * b) b = n := by
  simp [roundHalfEven, Nat.mul_div_cancel _ positive, positive]

theorem roundHalfUp_eq_floor (a b : ℕ) (positive : 0 < b) :
    roundHalfUp a b = ⌊(a / b + 1 / 2 : ℚ)⌋₊ := by
  have nonzero : (b : ℚ) ≠ 0 := by positivity
  have joined : (a / b + 1 / 2 : ℚ) = ((2 * a + b : ℕ) : ℚ) / ((2 * b : ℕ) : ℚ) := by
    push_cast
    field_simp
  rw [joined, Nat.floor_div_natCast, Nat.floor_natCast]
  rfl

/-- It is rounded down from less than half a unit above. -/
theorem roundHalfUp_eq_iff (positive : 0 < b) (above : (n : ℚ) ≤ a / b) :
    roundHalfUp a b = n ↔ (a / b : ℚ) < n + 1 / 2 := by
  have nonneg : (0 : ℚ) ≤ a / b + 1 / 2 := by positivity
  rw [roundHalfUp_eq_floor a b positive, Nat.floor_eq_iff nonneg]
  constructor
  · rintro ⟨-, below⟩
    linarith
  · intro below
    constructor
    · linarith
    · linarith

end Rounding

section Decimals

/-- `coefficient / 10 ^ scale` and a sign. -/
structure Decimal where
  negative : Bool
  coefficient : ℕ
  scale : ℕ
  small : coefficient < 2 ^ 96
  places : scale ≤ 28
deriving DecidableEq, Repr

def Decimal.magnitude (x : Decimal) : ℚ := x.coefficient / 10 ^ x.scale

/-- What is left of the digits at this scale. -/
def coefficientAt (digits places scale : ℕ) : ℕ := roundHalfEven digits (10 ^ (places - scale))

/-- The greatest scale at which 96 bits hold the coefficient. -/
def greatestScale (digits places : ℕ) : ℕ :=
  Nat.findGreatest (fun scale => coefficientAt digits places scale < 2 ^ 96) (min places 28)

theorem greatestScale_le (digits places : ℕ) : greatestScale digits places ≤ min places 28 :=
  Nat.findGreatest_le _

/-- The decimal next to `digits / 10 ^ places`; none is an overflow. -/
def fit (negative : Bool) (digits places : ℕ) : Option Decimal :=
  if small : coefficientAt digits places (greatestScale digits places) < 2 ^ 96 then
    some ⟨negative, coefficientAt digits places (greatestScale digits places),
      greatestScale digits places, small,
      le_trans (greatestScale_le digits places) (min_le_right places 28)⟩
  else none

def Decimal.mul (x y : Decimal) : Option Decimal :=
  fit (x.negative != y.negative) (x.coefficient * y.coefficient) (x.scale + y.scale)

/-- Half is rounded away from zero. -/
def Decimal.rounded (x : Decimal) : ℤ :=
  let n : ℤ := roundHalfUp x.coefficient (10 ^ x.scale)
  if x.negative then -n else n

/-- What a fitting scale says of the decimal. -/
structure Fitted (negative : Bool) (digits places scale : ℕ) (x : Decimal) : Prop where
  sign : x.negative = negative
  most : scale ≤ x.scale
  within : x.scale ≤ places
  coefficient : x.coefficient = coefficientAt digits places x.scale

variable {negative : Bool} {digits places scale n : ℕ} {x : Decimal}

theorem fit_some (negative : Bool) (within : scale ≤ min places 28)
    (holds : coefficientAt digits places scale < 2 ^ 96) :
    ∃ x, fit negative digits places = some x ∧ Fitted negative digits places scale x := by
  have kept : coefficientAt digits places (greatestScale digits places) < 2 ^ 96 :=
    Nat.findGreatest_spec (P := fun scale => coefficientAt digits places scale < 2 ^ 96) within
      holds
  have most : scale ≤ greatestScale digits places := Nat.le_findGreatest within holds
  have le := le_trans (greatestScale_le digits places) (min_le_left places 28)
  unfold fit
  rw [dif_pos kept]
  exact ⟨_, rfl, rfl, most, le, rfl⟩

namespace Fitted

/-- A multiple of the places that are given up is kept. -/
theorem exact_ (fitted : Fitted negative digits places scale x)
    (whole : 10 ^ (places - scale) ∣ digits) : x.magnitude = digits / 10 ^ places := by
  have fewer : 10 ^ (places - x.scale) ∣ digits := by
    refine dvd_trans (pow_dvd_pow 10 ?_) whole
    have most := fitted.most
    omega
  obtain ⟨c, is⟩ := fewer
  have all : (10 : ℚ) ^ places = 10 ^ x.scale * 10 ^ (places - x.scale) := by
    rw [← pow_add, Nat.add_sub_cancel' fitted.within]
  have value : x.coefficient = c := by
    rw [fitted.coefficient, coefficientAt, is, mul_comm, roundHalfEven_mul (by positivity)]
  rw [Decimal.magnitude, value, is, all]
  push_cast
  field_simp

/-- The decimal is not below a number with the places of a fitting scale. -/
theorem ge (fitted : Fitted negative digits places scale x)
    (below : n * 10 ^ (places - scale) ≤ digits) : (n / 10 ^ scale : ℚ) ≤ x.magnitude := by
  have most := fitted.most
  have within := fitted.within
  have more : n * 10 ^ (x.scale - scale) * 10 ^ (places - x.scale) ≤ digits := by
    rw [mul_assoc, ← Nat.pow_add]
    have same : x.scale - scale + (places - x.scale) = places - scale := by omega
    rw [same]
    exact below
  have floor : n * 10 ^ (x.scale - scale) ≤ x.coefficient := by
    rw [fitted.coefficient]
    exact le_roundHalfEven (by positivity) more
  have all : (10 : ℚ) ^ x.scale = 10 ^ scale * 10 ^ (x.scale - scale) := by
    rw [← pow_add, Nat.add_sub_cancel' most]
  rw [Decimal.magnitude, div_le_div_iff₀ (by positivity) (by positivity), all]
  have cast : ((n * 10 ^ (x.scale - scale) : ℕ) : ℚ) ≤ (x.coefficient : ℚ) := by
    exact_mod_cast floor
  push_cast at cast
  calc (n : ℚ) * (10 ^ scale * 10 ^ (x.scale - scale))
      = n * 10 ^ (x.scale - scale) * 10 ^ scale := by ring
    _ ≤ x.coefficient * 10 ^ scale := by gcongr

end Fitted

end Decimals

end OpenWrapper.ScaledDecimals
