import Mathlib.Algebra.Order.Group.Unbundled.Int

/-! # Machine integers

A kind of machine integer is an interval of the integers. A step whose result
leaves the interval keeps the low bits only; a computation records whether
every one of its steps was exact. -/

set_option autoImplicit false

namespace OpenWrapper.MachineIntegers

structure Kind where
  least : ℤ
  size : ℕ
  positive : 0 < size

def i64 : Kind := ⟨-9223372036854775808, 18446744073709551616, by decide⟩

def u64 : Kind := ⟨0, 18446744073709551616, by decide⟩

def i128 : Kind := ⟨-170141183460469231731687303715884105728,
  340282366920938463463374607431768211456, by decide⟩

/-- Also the kind of `usize` on the platforms the program is built for. -/
abbrev usize : Kind := u64

namespace Kind

def Fits (k : Kind) (x : ℤ) : Prop := k.least ≤ x ∧ x < k.least + k.size

instance (k : Kind) (x : ℤ) : Decidable (k.Fits x) :=
  inferInstanceAs (Decidable (k.least ≤ x ∧ x < k.least + k.size))

def wrap (k : Kind) (x : ℤ) : ℤ := (x - k.least) % k.size + k.least

theorem wrap_of_fits {k : Kind} {x : ℤ} (fits : k.Fits x) : k.wrap x = x := by
  obtain ⟨low, high⟩ := fits
  rw [wrap, Int.emod_eq_of_lt (by omega) (by omega)]
  omega

end Kind

/-- A computation with the result it has and whether no step lost anything. -/
structure Steps (α : Type) where
  value : α
  exact : Bool

namespace Steps

variable {α β : Type}

def bind (p : Steps α) (f : α → Steps β) : Steps β :=
  ⟨(f p.value).value, p.exact && (f p.value).exact⟩

instance : Monad Steps where
  pure a := ⟨a, true⟩
  bind := bind

instance : LawfulMonad Steps := LawfulMonad.mk' Steps
  (fun p => by
    show (⟨p.value, p.exact && true⟩ : Steps _) = p
    rw [Bool.and_true])
  (fun _ _ => rfl)
  (fun p f g => by
    show (⟨_, (p.exact && (f p.value).exact) && (g (f p.value).value).exact⟩ : Steps _) = _
    rw [Bool.and_assoc]
    rfl)

@[simp] theorem value_pure (a : α) : (pure a : Steps α).value = a := rfl

@[simp] theorem exact_pure (a : α) : (pure a : Steps α).exact = true := rfl

@[simp] theorem value_bind (p : Steps α) (f : α → Steps β) :
    (p >>= f).value = (f p.value).value := rfl

@[simp] theorem exact_bind (p : Steps α) (f : α → Steps β) :
    (p >>= f).exact = (p.exact && (f p.value).exact) := rfl

end Steps

namespace Kind

/-- `as`, and an operator whose result is not checked. -/
def cast (k : Kind) (x : ℤ) : Steps ℤ := ⟨k.wrap x, decide (k.Fits x)⟩

/-- `checked_add` and its kin, of the result the operation would have. -/
def checked (k : Kind) (x : ℤ) : Option ℤ := if k.Fits x then some x else none

@[simp] theorem exact_cast (k : Kind) (x : ℤ) : (k.cast x).exact = decide (k.Fits x) := rfl

theorem value_cast {k : Kind} {x : ℤ} (fits : k.Fits x) : (k.cast x).value = x :=
  wrap_of_fits fits

theorem cast_of_fits {k : Kind} {x : ℤ} (fits : k.Fits x) : k.cast x = pure x := by
  rw [cast, wrap_of_fits fits, decide_eq_true fits]
  rfl

theorem checked_of_fits {k : Kind} {x : ℤ} (fits : k.Fits x) : k.checked x = some x :=
  if_pos fits

theorem checked_of_not_fits {k : Kind} {x : ℤ} (large : ¬ k.Fits x) : k.checked x = none :=
  if_neg large

end Kind

theorem i64_fits {x : ℤ} :
    i64.Fits x ↔ -9223372036854775808 ≤ x ∧ x < 9223372036854775808 := by
  simp [Kind.Fits, i64]

theorem u64_fits {x : ℤ} : u64.Fits x ↔ 0 ≤ x ∧ x < 18446744073709551616 := by
  simp [Kind.Fits, u64]

theorem i128_fits {x : ℤ} : i128.Fits x ↔ -170141183460469231731687303715884105728 ≤ x ∧
    x < 170141183460469231731687303715884105728 := by
  simp [Kind.Fits, i128]

end OpenWrapper.MachineIntegers
