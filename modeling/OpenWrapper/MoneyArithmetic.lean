import OpenWrapper.Amounts
import OpenWrapper.Apportionment
import OpenWrapper.MachineIntegers
import Mathlib.Algebra.BigOperators.Ring.Finset
import Mathlib.Algebra.Order.Ring.Int
import Mathlib.Tactic.Positivity

/-! # Arithmetic on money

The checked operations of `Money` and the split by weights, in the machine
integers they are computed in. -/

set_option autoImplicit false

namespace OpenWrapper.MoneyArithmetic
open OpenWrapper.Amounts OpenWrapper.MachineIntegers

namespace Money

def checkedAdd (m other : Money) : Option Money :=
  if m.currency ≠ other.currency then none
  else do
    let sum ← i64.checked (m.minorUnits + other.minorUnits)
    (Money.fromMinorUnits sum m.currency).toOption

def checkedSub (m other : Money) : Option Money :=
  if m.currency ≠ other.currency then none
  else do
    let diff ← i64.checked (m.minorUnits - other.minorUnits)
    (Money.fromMinorUnits diff m.currency).toOption

def checkedMulScalar (m : Money) (factor : Int64) : Option Money :=
  if factor.toInt ≤ 0 then none
  else do
    let product ← i64.checked (m.minorUnits * factor.toInt)
    (Money.fromMinorUnits product m.currency).toOption

def checkedMulBps (m : Money) (bps : UInt32) : Steps (Option Money) :=
  match i128.checked (m.minorUnits * bps.toNat) with
  | none => pure none
  | some product => do
    let fee ← i64.cast (product.tdiv 10000)
    pure (Money.fromMinorUnits fee m.currency).toOption

def checkedMulRatio (m : Money) (numerator denominator : UInt64) : Steps (Option Money) :=
  if denominator.toNat = 0 ∨ numerator.toNat = 0 then pure none
  else
    match i128.checked (m.minorUnits * numerator.toNat) with
    | none => pure none
    | some product => do
      let result ← i64.cast (product.tdiv denominator.toNat)
      pure (Money.fromMinorUnits result m.currency).toOption

end Money

/-- The operation gives `r` where it may and `r` is an amount, and nothing else. -/
def Gives (result : Option Money) (allowed : Prop) (r : ℤ) (c : Currency) : Prop :=
  ∀ v, result = some v ↔
    (allowed ∧ 1 ≤ r ∧ r ≤ maxMinorUnits) ∧ v.minorUnits = r ∧ v.currency = c

theorem fromMinorUnits_toOption (r : ℤ) (c : Currency) :
    Gives (Money.fromMinorUnits r c).toOption True r c := by
  intro v
  constructor
  · intro given
    have made : Money.fromMinorUnits r c = .ok v := by
      cases result : Money.fromMinorUnits r c with
      | ok m =>
        rw [result] at given
        cases given
        rfl
      | error e =>
        rw [result] at given
        cases given
    obtain ⟨units, currency⟩ := Money.fromMinorUnits_eq_ok made
    have positive := v.positive
    have bounded := v.bounded
    exact ⟨⟨trivial, by omega, by omega⟩, units, currency⟩
  · rintro ⟨-, rfl, rfl⟩
    rw [Money.fromMinorUnits_minorUnits]
    rfl

theorem gives_none {allowed : Prop} {r : ℤ} {c : Currency}
    (refused : ¬ (allowed ∧ 1 ≤ r ∧ r ≤ maxMinorUnits)) : Gives none allowed r c := by
  intro v
  constructor
  · nofun
  · exact fun given => absurd given.1 refused

theorem gives_of_allowed {allowed : Prop} {r : ℤ} {c : Currency} (is : allowed) :
    Gives (Money.fromMinorUnits r c).toOption allowed r c := by
  intro v
  rw [fromMinorUnits_toOption r c v]
  simp [is]

/-- A checked intermediate result that is no amount when it does not fit. -/
theorem gives_checked {allowed : Prop} {k : Kind} {r : ℤ} {c : Currency} (is : allowed)
    (small : 1 ≤ r → r ≤ maxMinorUnits → k.Fits r) :
    Gives ((k.checked r).bind fun x => (Money.fromMinorUnits x c).toOption) allowed r c := by
  by_cases fits : k.Fits r
  · rw [Kind.checked_of_fits fits]
    exact gives_of_allowed is
  · rw [Kind.checked_of_not_fits fits]
    exact gives_none fun given => fits (small given.2.1 given.2.2)

theorem amount_fits {r : ℤ} (low : 1 ≤ r) (high : r ≤ maxMinorUnits) : i64.Fits r := by
  rw [i64_fits]
  unfold maxMinorUnits at high
  omega

theorem checkedAdd_gives (m other : Money) : Gives (Money.checkedAdd m other)
    (m.currency = other.currency) (m.minorUnits + other.minorUnits) m.currency := by
  unfold Money.checkedAdd
  by_cases same : m.currency = other.currency
  · rw [if_neg (not_not_intro same)]
    exact gives_checked same amount_fits
  · rw [if_pos same]
    exact gives_none fun given => same given.1

theorem checkedSub_gives (m other : Money) : Gives (Money.checkedSub m other)
    (m.currency = other.currency) (m.minorUnits - other.minorUnits) m.currency := by
  unfold Money.checkedSub
  by_cases same : m.currency = other.currency
  · rw [if_neg (not_not_intro same)]
    exact gives_checked same amount_fits
  · rw [if_pos same]
    exact gives_none fun given => same given.1

theorem checkedMulScalar_gives (m : Money) (factor : Int64) :
    Gives (Money.checkedMulScalar m factor) True (m.minorUnits * factor.toInt) m.currency := by
  unfold Money.checkedMulScalar
  have positive := m.positive
  by_cases negative : factor.toInt ≤ 0
  · rw [if_pos negative]
    apply gives_none
    have product := mul_nonpos_of_nonneg_of_nonpos positive.le negative
    omega
  · rw [if_neg negative]
    exact gives_checked trivial amount_fits

theorem checkedMulBps_gives (m : Money) (bps : UInt32) :
    (Money.checkedMulBps m bps).exact = true ∧
      Gives (Money.checkedMulBps m bps).value True (m.minorUnits * bps.toNat / 10000)
        m.currency := by
  have positive := m.positive
  have bounded : m.minorUnits ≤ 1000000000 := m.bounded
  have small : (bps.toNat : ℤ) < 4294967296 := by
    have bound := bps.toNat_lt
    omega
  have low : 0 ≤ m.minorUnits * bps.toNat := by positivity
  have high : m.minorUnits * bps.toNat ≤ 1000000000 * 4294967296 := by
    apply mul_le_mul bounded small.le (by omega) (by omega)
  have fits : i128.Fits (m.minorUnits * bps.toNat) := by
    rw [i128_fits]
    omega
  have fee : i64.Fits (m.minorUnits * bps.toNat / 10000) := by
    rw [i64_fits]
    omega
  unfold Money.checkedMulBps
  rw [Kind.checked_of_fits fits]
  dsimp only
  rw [Int.tdiv_eq_ediv_of_nonneg low, Kind.cast_of_fits fee]
  exact ⟨rfl, gives_of_allowed trivial⟩

section Ratio

variable (m : Money) (numerator denominator : UInt64)

/-- The floor of the exact quotient; the quotient by zero counts as zero. -/
def ratio : ℤ := m.minorUnits * numerator.toNat / denominator.toNat

theorem product_fits : i128.Fits (m.minorUnits * numerator.toNat) := by
  have positive := m.positive
  have bounded : m.minorUnits ≤ 1000000000 := m.bounded
  have small : (numerator.toNat : ℤ) < 18446744073709551616 := by
    have bound := numerator.toNat_lt
    omega
  have low : 0 ≤ m.minorUnits * numerator.toNat := by positivity
  have high : m.minorUnits * numerator.toNat ≤ 1000000000 * 18446744073709551616 := by
    apply mul_le_mul bounded small.le (by omega) (by omega)
  rw [i128_fits]
  omega

theorem ratio_nonneg : 0 ≤ ratio m numerator denominator := by
  have positive := m.positive
  unfold ratio
  positivity

theorem checkedMulRatio_eq (defined : ¬ (denominator.toNat = 0 ∨ numerator.toNat = 0)) :
    Money.checkedMulRatio m numerator denominator =
      ⟨(Money.fromMinorUnits (i64.wrap (ratio m numerator denominator)) m.currency).toOption,
        decide (i64.Fits (ratio m numerator denominator))⟩ := by
  have positive := m.positive
  unfold Money.checkedMulRatio
  rw [if_neg defined, Kind.checked_of_fits (product_fits m numerator)]
  dsimp only
  rw [Int.tdiv_eq_ediv_of_nonneg (by positivity)]
  show (⟨_, decide _ && true⟩ : Steps (Option Money)) = _
  rw [Bool.and_true]
  rfl

theorem checkedMulRatio_undefined (undefined : denominator.toNat = 0 ∨ numerator.toNat = 0) :
    Money.checkedMulRatio m numerator denominator = pure none ∧
      ratio m numerator denominator = 0 := by
  constructor
  · unfold Money.checkedMulRatio
    rw [if_pos undefined]
  · rcases undefined with zero | zero <;> simp [ratio, zero]

/-- No step is lossy just where the quotient is an `i64`, and then the result
is right. -/
theorem checkedMulRatio_exact :
    (Money.checkedMulRatio m numerator denominator).exact = true ↔
      ratio m numerator denominator < 9223372036854775808 := by
  have low := ratio_nonneg m numerator denominator
  by_cases undefined : denominator.toNat = 0 ∨ numerator.toNat = 0
  · obtain ⟨is, zero⟩ := checkedMulRatio_undefined m numerator denominator undefined
    rw [is, zero]
    simp
  · rw [checkedMulRatio_eq m numerator denominator undefined, decide_eq_true_iff, i64_fits]
    omega

theorem checkedMulRatio_gives
    (fits : ratio m numerator denominator < 9223372036854775808) :
    Gives (Money.checkedMulRatio m numerator denominator).value (denominator.toNat ≠ 0)
      (ratio m numerator denominator) m.currency := by
  have low := ratio_nonneg m numerator denominator
  by_cases undefined : denominator.toNat = 0 ∨ numerator.toNat = 0
  · obtain ⟨is, zero⟩ := checkedMulRatio_undefined m numerator denominator undefined
    rw [is, zero]
    exact gives_none fun given => absurd given.2.1 (by omega)
  · rw [checkedMulRatio_eq m numerator denominator undefined,
      Kind.wrap_of_fits (i64_fits.mpr (by omega))]
    exact gives_of_allowed fun zero => undefined (.inl zero)

end Ratio

/-- Every operation gives the exact result, without a step that loses any. -/
structure ExactArithmetic (m other : Money) (factor : Int64) (bps : UInt32)
    (numerator denominator : UInt64) : Prop where
  add : Gives (Money.checkedAdd m other) (m.currency = other.currency)
    (m.minorUnits + other.minorUnits) m.currency
  sub : Gives (Money.checkedSub m other) (m.currency = other.currency)
    (m.minorUnits - other.minorUnits) m.currency
  mulScalar : Gives (Money.checkedMulScalar m factor) True (m.minorUnits * factor.toInt)
    m.currency
  mulBps : Gives (Money.checkedMulBps m bps).value True (m.minorUnits * bps.toNat / 10000)
    m.currency
  mulRatio : Gives (Money.checkedMulRatio m numerator denominator).value
    (denominator.toNat ≠ 0) (m.minorUnits * numerator.toNat / denominator.toNat) m.currency
  bpsSteps : (Money.checkedMulBps m bps).exact = true
  ratioSteps : (Money.checkedMulRatio m numerator denominator).exact = true

theorem money_arithmetic_exact (m other : Money) (factor : Int64) (bps : UInt32)
    (numerator denominator : UInt64) :
    ExactArithmetic m other factor bps numerator denominator ↔
      m.minorUnits * numerator.toNat / denominator.toNat < 9223372036854775808 := by
  constructor
  · intro arithmetic
    exact (checkedMulRatio_exact m numerator denominator).mp arithmetic.ratioSteps
  · intro fits
    have bpsGives := checkedMulBps_gives m bps
    constructor
    · exact checkedAdd_gives m other
    · exact checkedSub_gives m other
    · exact checkedMulScalar_gives m factor
    · exact bpsGives.2
    · exact checkedMulRatio_gives m numerator denominator fits
    · exact bpsGives.1
    · exact (checkedMulRatio_exact m numerator denominator).mpr fits

def twoPiasters : Money := ⟨2, .egp, by decide, by decide⟩

/-- Twice 2^63 + 1 is two more than 2^64, and comes out as two. -/
theorem checkedMulRatio_wraps :
    ¬ ∀ m other factor bps numerator denominator,
      ExactArithmetic m other factor bps numerator denominator := by
  intro claimed
  have arithmetic := claimed twoPiasters twoPiasters 1 1 9223372036854775809 1
  have wrapped : (Money.checkedMulRatio twoPiasters 9223372036854775809 1).value =
      some twoPiasters := by decide +kernel
  have given := ((arithmetic.mulRatio twoPiasters).mp wrapped).1.2.2
  exact absurd given (by decide +kernel)

namespace Money

/-- The weights added up. -/
def totalWeight : ℤ → List UInt32 → Steps ℤ
  | sum, [] => pure sum
  | sum, ratio :: rest => do
    let sum ← u64.cast (sum + ratio.toNat)
    totalWeight sum rest

structure Floors where
  allocated : List ℤ
  remainders : List (ℤ × ℕ)
  sumAllocated : ℤ

/-- The first pass, from index `i` on. -/
def floors (amount total : ℤ) : ℕ → List UInt32 → ℤ → Steps Floors
  | _, [], sum => pure ⟨[], [], sum⟩
  | i, ratio :: rest, sum => do
    let product ← i128.cast (amount * ratio.toNat)
    let share ← i64.cast (product.tdiv total)
    let rem ← u64.cast (product.tmod total)
    let sum ← i64.cast (sum + share)
    let later ← floors amount total (i + 1) rest sum
    pure ⟨share :: later.allocated, (rem, i) :: later.remainders, later.sumAllocated⟩

/-- The order of the second pass: the larger remainder, then the lower index. -/
def precedes (a b : ℤ × ℕ) : Prop := b.1 < a.1 ∨ a.1 = b.1 ∧ a.2 ≤ b.2

instance : DecidableRel precedes := fun a b =>
  inferInstanceAs (Decidable (b.1 < a.1 ∨ a.1 = b.1 ∧ a.2 ≤ b.2))

def distribute : List (ℤ × ℕ) → List ℤ → Steps (List ℤ)
  | [], allocated => pure allocated
  | (_, index) :: rest, allocated => do
    let share ← i64.cast (allocated.getD index 0 + 1)
    distribute rest (allocated.set index share)

def collectParts (currency : Currency) : List ℤ → Except MoneyError (List Money)
  | [] => .ok []
  | part :: rest =>
    if part ≤ 0 then .error (.notPositive part)
    else
      match Money.fromMinorUnits part currency with
      | .error e => .error e
      | .ok money =>
        match collectParts currency rest with
        | .error e => .error e
        | .ok parts => .ok (money :: parts)

def splitIntoRatios (m : Money) (ratios : List UInt32) : Steps (Except MoneyError (List Money)) :=
  if ratios.isEmpty then pure (.error (.notPositive 0))
  else do
    let total ← totalWeight 0 ratios
    if total = 0 then pure (.error (.notPositive 0))
    else
      let pass ← floors m.minorUnits total 0 ratios 0
      let difference ← i64.cast (m.minorUnits - pass.sumAllocated)
      let leftover ← usize.cast difference
      if 0 < leftover then
        let allocated ← distribute
          ((pass.remainders.insertionSort precedes).take leftover.toNat) pass.allocated
        pure (collectParts m.currency allocated)
      else pure (collectParts m.currency pass.allocated)

end Money

section Passes

open OpenWrapper.Apportionment

def weightsOf (ratios : List UInt32) : List ℕ := ratios.map UInt32.toNat

theorem totalWeight_eq (ratios : List UInt32) (sum : ℕ)
    (small : sum + (weightsOf ratios).sum < 18446744073709551616) :
    Money.totalWeight sum ratios = pure ((sum + (weightsOf ratios).sum : ℕ) : ℤ) := by
  induction ratios generalizing sum with
  | nil => rfl
  | cons ratio rest ih =>
    have split : (weightsOf (ratio :: rest)).sum = ratio.toNat + (weightsOf rest).sum := by
      simp [weightsOf]
    rw [split] at small ⊢
    have fits : u64.Fits ((sum : ℤ) + ratio.toNat) := by
      rw [u64_fits]
      omega
    have later := ih (sum + ratio.toNat) (by omega)
    rw [Money.totalWeight, Kind.cast_of_fits fits]
    rw [pure_bind, ← Nat.cast_add, later, Nat.add_assoc]

/-- The floors and remainders of the first pass, from index `i` on. -/
theorem floors_eq {amount total : ℕ} (bounded : amount ≤ 1000000000) (positive : 0 < total)
    (small : total < 18446744073709551616) (ratios : List UInt32) (i sum : ℕ)
    (room : sum + ((weightsOf ratios).map fun w => amount * w / total).sum ≤ 1000000000) :
    Money.floors amount total i ratios sum =
      pure ⟨(weightsOf ratios).map fun w => ((amount * w / total : ℕ) : ℤ),
        (weightsOf ratios).mapIdx fun k w => (((amount * w % total : ℕ) : ℤ), i + k),
        ((sum + ((weightsOf ratios).map fun w => amount * w / total).sum : ℕ) : ℤ)⟩ := by
  induction ratios generalizing i sum with
  | nil => rfl
  | cons ratio rest ih =>
    have split : ((weightsOf (ratio :: rest)).map fun w => amount * w / total).sum =
        amount * ratio.toNat / total + ((weightsOf rest).map fun w => amount * w / total).sum := by
      simp [weightsOf]
    rw [split] at room ⊢
    have later := ih (i + 1) (sum + amount * ratio.toNat / total) (by omega)
    have weight := ratio.toNat_lt
    have low : amount * ratio.toNat ≤ 1000000000 * 4294967296 :=
      Nat.mul_le_mul bounded weight.le
    have rest_ := Nat.mod_lt (amount * ratio.toNat) positive
    have product : i128.Fits ((amount * ratio.toNat : ℕ) : ℤ) := by
      rw [i128_fits]
      omega
    rw [Money.floors, ← Nat.cast_mul, Kind.cast_of_fits product, pure_bind, ← Int.ofNat_tdiv,
      ← Int.ofNat_tmod]
    simp only [weightsOf, List.map_cons, List.mapIdx_cons]
    generalize amount * ratio.toNat / total = share at *
    generalize amount * ratio.toNat % total = rem at *
    have shareFits : i64.Fits (share : ℤ) := by
      rw [i64_fits]
      omega
    have remFits : u64.Fits (rem : ℤ) := by
      rw [u64_fits]
      omega
    have sumFits : i64.Fits ((sum : ℤ) + share) := by
      rw [i64_fits]
      omega
    rw [Kind.cast_of_fits shareFits, pure_bind, Kind.cast_of_fits remFits, pure_bind,
      Kind.cast_of_fits sumFits, pure_bind, ← Nat.cast_add, later, pure_bind]
    simp [weightsOf, Function.comp_def, Nat.add_assoc, Nat.add_comm 1]

theorem distribute_eq {tops : List (ℤ × ℕ)} {allocated : List ℤ}
    (once : (tops.map Prod.snd).Nodup)
    (inside : ∀ i ∈ tops.map Prod.snd, ∃ a, allocated[i]? = some a ∧ i64.Fits (a + 1)) :
    Money.distribute tops allocated =
      pure (allocated.mapIdx fun i a => a + if i ∈ tops.map Prod.snd then 1 else 0) := by
  induction tops generalizing allocated with
  | nil =>
    rw [Money.distribute]
    congr 1
    apply List.ext_getElem?
    intro i
    simp
  | cons top rest ih =>
    obtain ⟨outside, once'⟩ := List.nodup_cons.mp once
    obtain ⟨a, found, fits⟩ := inside top.2 (List.mem_cons_self)
    have here : allocated.getD top.2 0 = a := by simp [List.getD, found]
    have reached : top.2 < allocated.length := (List.getElem?_eq_some_iff.mp found).1
    rw [Money.distribute, here, Kind.cast_of_fits fits]
    rw [pure_bind, ih once']
    · congr 1
      apply List.ext_getElem?
      intro i
      simp only [List.getElem?_mapIdx, List.map_cons, List.mem_cons]
      by_cases same : i = top.2
      · subst same
        rw [List.getElem?_set_self reached, found]
        simp [outside]
      · rw [List.getElem?_set_ne (Ne.symm same)]
        congr 1
        ext a
        by_cases later : i ∈ rest.map Prod.snd
        · rw [if_pos later, if_pos (.inr later)]
        · rw [if_neg later, if_neg (not_or_intro same later)]
    · intro i mem
      have apart : top.2 ≠ i := fun same => outside (same ▸ mem)
      rw [List.getElem?_set_ne apart]
      exact inside i (List.mem_cons_of_mem _ mem)

theorem collectParts_ok {c : Currency} {shares : List ℤ} {parts : List Money}
    (collected : Money.collectParts c shares = .ok parts) :
    parts.map Money.minorUnits = shares ∧ ∀ part ∈ parts, part.currency = c := by
  induction shares generalizing parts with
  | nil =>
    cases collected
    exact ⟨rfl, fun part mem => by cases mem⟩
  | cons share rest ih =>
    rw [Money.collectParts] at collected
    split at collected
    · cases collected
    · split at collected
      · cases collected
      next money made =>
        split at collected
        · cases collected
        next parts' collected' =>
          cases collected
          obtain ⟨units, currency⟩ := Money.fromMinorUnits_eq_ok made
          obtain ⟨same, currencies⟩ := ih collected'
          constructor
          · rw [List.map_cons, units, same]
          · intro part mem
            rcases List.mem_cons.mp mem with rfl | later
            · exact currency
            · exact currencies part later

theorem collectParts_error {c : Currency} {shares : List ℤ}
    (bounded : ∀ share ∈ shares, share ≤ maxMinorUnits) :
    (∃ e, Money.collectParts c shares = .error e) ↔ ∃ share ∈ shares, share ≤ 0 := by
  induction shares with
  | nil =>
    constructor
    · rintro ⟨e, failed⟩
      cases failed
    · rintro ⟨share, mem, -⟩
      cases mem
  | cons share rest ih =>
    have later := ih fun share mem => bounded share (List.mem_cons_of_mem _ mem)
    rw [Money.collectParts]
    by_cases negative : share ≤ 0
    · rw [if_pos negative]
      exact ⟨fun _ => ⟨share, List.mem_cons_self, negative⟩, fun _ => ⟨_, rfl⟩⟩
    · have positive : 0 < share := not_le.mp negative
      have made : Money.fromMinorUnits share c =
          .ok ⟨share, c, positive, bounded share List.mem_cons_self⟩ := by
        rw [Money.fromMinorUnits, dif_pos positive, dif_pos (bounded share List.mem_cons_self)]
      rw [if_neg negative, made]
      simp only [List.mem_cons, exists_eq_or_imp, negative, false_or]
      rw [← later]
      cases Money.collectParts c rest with
      | ok parts => simp
      | error e => simp

instance : Std.Total Money.precedes := ⟨fun a b => by
  unfold Money.precedes
  omega⟩

instance : IsTrans (ℤ × ℕ) Money.precedes := ⟨fun a b c first second => by
  unfold Money.precedes at *
  omega⟩

/-- The remainders of the first pass with their indices. -/
def remaindersOf (amount : ℕ) (weights : List ℕ) : List (ℤ × ℕ) :=
  weights.mapIdx fun i w => ((remainder amount weights w : ℤ), i)

def ranked (amount : ℕ) (weights : List ℕ) : List (ℤ × ℕ) :=
  (remaindersOf amount weights).insertionSort Money.precedes

/-- The indices that receive one more unit. -/
def bumpsOf (amount : ℕ) (weights : List ℕ) : List ℕ :=
  ((ranked amount weights).take (leftover amount weights)).map Prod.snd

variable {amount : ℕ} {weights : List ℕ}

theorem mem_ranked {x : ℤ × ℕ} : x ∈ ranked amount weights ↔
    ∃ w, weights[x.2]? = some w ∧ x.1 = remainder amount weights w := by
  rw [ranked, List.mem_insertionSort, remaindersOf, List.mem_mapIdx]
  constructor
  · rintro ⟨i, inside, rfl⟩
    exact ⟨_, List.getElem?_eq_getElem inside, rfl⟩
  · rintro ⟨w, found, is⟩
    obtain ⟨inside, at_⟩ := List.getElem?_eq_some_iff.mp found
    exact ⟨x.2, inside, by rw [at_, ← is]⟩

theorem ranked_indices (amount : ℕ) (weights : List ℕ) :
    ((ranked amount weights).map Prod.snd).Perm (List.range weights.length) := by
  have perm := (List.perm_insertionSort Money.precedes (remaindersOf amount weights)).map Prod.snd
  have indices : (remaindersOf amount weights).map Prod.snd = List.range weights.length := by
    apply List.ext_getElem
    · simp [remaindersOf]
    · intro i inside inside'
      simp [remaindersOf]
  rw [indices] at perm
  exact perm

theorem bumps_once : (bumpsOf amount weights).Nodup :=
  ((List.take_sublist _ _).map _).nodup ((ranked_indices _ _).nodup_iff.mpr List.nodup_range)

theorem bumps_inside {i : ℕ} (mem : i ∈ bumpsOf amount weights) : i < weights.length :=
  List.mem_range.mp ((ranked_indices _ _).mem_iff.mp (((List.take_sublist _ _).map _).subset mem))

theorem bumps_count (positive : 0 < weights.sum) :
    (bumpsOf amount weights).length = leftover amount weights := by
  have enough := leftover_le_length amount positive
  have all := (ranked_indices amount weights).length_eq
  rw [List.length_map, List.length_range] at all
  rw [bumpsOf, List.length_map, List.length_take, all]
  omega

theorem bumps_first {i j : ℕ} (mem : i ∈ bumpsOf amount weights)
    (outside : j ∉ bumpsOf amount weights) : Precedes amount weights i j := by
  intro v w foundI foundJ
  obtain ⟨x, top, rfl⟩ := List.mem_map.mp mem
  obtain ⟨v', foundX, is⟩ := mem_ranked.mp (List.mem_of_mem_take top)
  rw [foundI] at foundX
  cases foundX
  have held : ((remainder amount weights w : ℤ), j) ∈ ranked amount weights :=
    mem_ranked.mpr ⟨w, foundJ, rfl⟩
  have later := mem_drop_of_not_mem_take held fun high =>
    outside (List.mem_map.mpr ⟨_, high, rfl⟩)
  have apart : x.2 ≠ j := fun same => outside (same ▸ mem)
  have order := rel_of_mem_take_drop
    (List.pairwise_insertionSort Money.precedes (remaindersOf amount weights)) top later
  unfold Money.precedes at order
  dsimp only at order
  omega

theorem isAllocation_bumpsOf (amount : ℕ) (positive : 0 < weights.sum) :
    IsAllocation amount weights (bumped amount weights (bumpsOf amount weights)) := by
  apply isAllocation_bumped positive bumps_once
  · exact fun i mem => bumps_inside mem
  · exact bumps_count positive
  · exact fun i mem j outside => bumps_first mem outside

theorem totalWeight_few {ratios : List UInt32} (few : ratios.length ≤ 4294967296) :
    (weightsOf ratios).sum < 18446744073709551616 := by
  have bound : (weightsOf ratios).sum ≤ (weightsOf ratios).length • 4294967295 := by
    apply List.sum_le_card_nsmul
    intro w mem
    obtain ⟨ratio, -, rfl⟩ := List.mem_map.mp mem
    have small := ratio.toNat_lt
    omega
  rw [weightsOf, List.length_map, smul_eq_mul, ← weightsOf] at bound
  omega

/-- The shares as they are before they are made amounts again. -/
def sharesOf (m : Money) (ratios : List UInt32) : List ℕ :=
  bumped m.minorUnits.toNat (weightsOf ratios) (bumpsOf m.minorUnits.toNat (weightsOf ratios))

theorem distribute_ranked (weights : List ℕ) (bounded : amount ≤ 1000000000) :
    Money.distribute ((ranked amount weights).take (leftover amount weights))
      (weights.map fun w => ((floorShare amount weights w : ℕ) : ℤ)) =
        pure ((bumped amount weights (bumpsOf amount weights)).map Nat.cast) := by
  rw [distribute_eq]
  · congr 1
    apply List.ext_getElem?
    intro i
    rw [List.getElem?_mapIdx, List.getElem?_map, List.getElem?_map, bumped, List.getElem?_mapIdx,
      Option.map_map, Option.map_map]
    congr 1
    ext w
    by_cases here : i ∈ bumpsOf amount weights
    · rw [Function.comp_apply, Function.comp_apply, if_pos here, ← bumpsOf, if_pos here]
      norm_cast
    · rw [Function.comp_apply, Function.comp_apply, if_neg here, ← bumpsOf, if_neg here]
      norm_cast
  · exact bumps_once
  · intro i mem
    have inside := bumps_inside mem
    have found := List.getElem?_eq_getElem inside
    have small : floorShare amount weights weights[i] ≤ 1000000000 := by
      apply le_trans _ bounded
      apply Nat.div_le_of_le_mul
      rw [Nat.mul_comm weights.sum]
      apply Nat.mul_le_mul_left
      exact List.single_le_sum (fun _ _ => Nat.zero_le _) _ (List.getElem_mem inside)
    refine ⟨(floorShare amount weights weights[i] : ℕ), ?_, ?_⟩
    · rw [List.getElem?_map, found]
      rfl
    · rw [i64_fits]
      omega

theorem splitIntoRatios_eq (m : Money) {ratios : List UInt32}
    (few : ratios.length ≤ 4294967296) (positive : 0 < (weightsOf ratios).sum) :
    Money.splitIntoRatios m ratios =
      pure (Money.collectParts m.currency ((sharesOf m ratios).map Nat.cast)) := by
  have bounded : m.minorUnits.toNat ≤ 1000000000 := by
    have bound : m.minorUnits ≤ 1000000000 := m.bounded
    omega
  have amount : m.minorUnits = (m.minorUnits.toNat : ℤ) := by
    have low := m.positive
    omega
  have some_ : ratios.isEmpty = false := by
    cases ratios with
    | nil => simp [weightsOf] at positive
    | cons ratio rest => rfl
  have small := totalWeight_few few
  have total := totalWeight_eq ratios 0 (by omega)
  rw [Nat.cast_zero, Nat.zero_add] at total
  have kept := sum_floors_le m.minorUnits.toNat positive
  have pass := floors_eq bounded positive small ratios 0 0 (by
    unfold floorShare at kept
    omega)
  have difference : m.minorUnits - (((weightsOf ratios).map
      (floorShare m.minorUnits.toNat (weightsOf ratios))).sum : ℕ) =
      (leftover m.minorUnits.toNat (weightsOf ratios) : ℕ) := by
    rw [leftover]
    omega
  have less : leftover m.minorUnits.toNat (weightsOf ratios) ≤ 1000000000 := by
    rw [leftover]
    omega
  have fits : i64.Fits (leftover m.minorUnits.toNat (weightsOf ratios) : ℕ) := by
    rw [i64_fits]
    omega
  have fits' : usize.Fits (leftover m.minorUnits.toNat (weightsOf ratios) : ℕ) := by
    rw [u64_fits]
    omega
  have bumps := distribute_ranked (weightsOf ratios) bounded
  rw [Money.splitIntoRatios, if_neg (by simp [some_]), total, pure_bind,
    if_neg (by omega)]
  rw [Nat.cast_zero, ← amount] at pass
  rw [pass, pure_bind]
  simp only [Nat.zero_add]
  rw [show (fun w => m.minorUnits.toNat * w / (weightsOf ratios).sum) =
      floorShare m.minorUnits.toNat (weightsOf ratios) from rfl, difference,
    Kind.cast_of_fits fits, pure_bind, Kind.cast_of_fits fits', pure_bind, Int.toNat_natCast]
  by_cases left : 0 < leftover m.minorUnits.toNat (weightsOf ratios)
  · rw [if_pos (by omega)]
    show (Money.distribute ((ranked _ _).take _)
      (List.map (fun w => ((floorShare _ _ w : ℕ) : ℤ)) _) >>= _) = _
    rw [bumps]
    rfl
  · rw [if_neg (by omega)]
    have none_ : leftover m.minorUnits.toNat (weightsOf ratios) = 0 := by omega
    rw [none_, List.take_zero, Money.distribute] at bumps
    have shares := congrArg Steps.value bumps
    rw [Steps.value_pure, Steps.value_pure] at shares
    rw [sharesOf, ← shares]
    rfl

end Passes

section Split

open OpenWrapper.Apportionment

/-- The split is the largest-remainder allocation, refused just where there is
none or it leaves an index without a unit. -/
structure LargestRemainder (m : Money) (ratios : List UInt32) : Prop where
  steps : (Money.splitIntoRatios m ratios).exact = true
  parts : ∀ parts, (Money.splitIntoRatios m ratios).value = .ok parts →
    IsAllocation m.minorUnits.toNat (weightsOf ratios)
        (parts.map fun part => part.minorUnits.toNat) ∧
      (parts.map Money.minorUnits).sum = m.minorUnits ∧
      ∀ part ∈ parts, part.currency = m.currency
  refused : (∃ e, (Money.splitIntoRatios m ratios).value = .error e) ↔
    ratios = [] ∨ (∀ ratio ∈ ratios, ratio = 0) ∨
      ∃ parts, IsAllocation m.minorUnits.toNat (weightsOf ratios) parts ∧ 0 ∈ parts

theorem weightsOf_sum_eq_zero {ratios : List UInt32} :
    (weightsOf ratios).sum = 0 ↔ ∀ ratio ∈ ratios, ratio = 0 := by
  rw [List.sum_eq_zero_iff, weightsOf]
  simp only [List.mem_map, forall_exists_index, and_imp, forall_apply_eq_imp_iff₂]
  constructor
  · intro zeros ratio mem
    exact UInt32.toNat_inj.mp (zeros ratio mem)
  · intro zeros ratio mem
    rw [zeros ratio mem]
    rfl

/-- Without a weight there is nothing to split by. -/
theorem splitIntoRatios_weightless (m : Money) {ratios : List UInt32}
    (zeros : ∀ ratio ∈ ratios, ratio = 0) :
    Money.splitIntoRatios m ratios = pure (.error (.notPositive 0)) := by
  have none_ := weightsOf_sum_eq_zero.mpr zeros
  have total := totalWeight_eq ratios 0 (by omega)
  rw [none_, Nat.cast_zero] at total
  unfold Money.splitIntoRatios
  by_cases empty : ratios.isEmpty = true
  · rw [if_pos empty]
  · rw [if_neg empty, total, pure_bind]
    rfl

theorem toNat_shares {m : Money} {ratios : List UInt32} {parts : List Money}
    (units : parts.map Money.minorUnits = (sharesOf m ratios).map Nat.cast) :
    (parts.map fun part => part.minorUnits.toNat) = sharesOf m ratios := by
  have mapped := congrArg (List.map Int.toNat) units
  rw [List.map_map, List.map_map] at mapped
  calc (parts.map fun part => part.minorUnits.toNat)
      = (sharesOf m ratios).map (Int.toNat ∘ Nat.cast) := mapped
    _ = (sharesOf m ratios).map id := by
      apply List.map_congr_left
      intro share _
      exact Int.toNat_natCast share
    _ = sharesOf m ratios := List.map_id _

theorem share_le {m : Money} {ratios : List UInt32} (positive : 0 < (weightsOf ratios).sum)
    {share : ℤ} (mem : share ∈ (sharesOf m ratios).map Nat.cast) : share ≤ maxMinorUnits := by
  obtain ⟨n, held, rfl⟩ := List.mem_map.mp mem
  have total := (isAllocation_bumpsOf m.minorUnits.toNat positive).total
  have single := List.single_le_sum (fun _ _ => Nat.zero_le _) n held
  rw [sharesOf, total] at single
  have bounded := m.bounded
  have low := m.positive
  omega

theorem split_into_ratios_largest_remainder (m : Money) (ratios : List UInt32)
    (few : ratios.length ≤ 4294967296) : LargestRemainder m ratios := by
  by_cases zeros : ∀ ratio ∈ ratios, ratio = 0
  · have refused := splitIntoRatios_weightless m zeros
    constructor
    · rw [refused]
      rfl
    · intro parts given
      rw [refused] at given
      cases given
    · rw [refused]
      exact ⟨fun _ => .inr (.inl zeros), fun _ => ⟨_, rfl⟩⟩
  · have positive : 0 < (weightsOf ratios).sum :=
      Nat.pos_of_ne_zero fun none_ => zeros (weightsOf_sum_eq_zero.mp none_)
    have allocation : IsAllocation m.minorUnits.toNat (weightsOf ratios) (sharesOf m ratios) :=
      isAllocation_bumpsOf _ positive
    have result := splitIntoRatios_eq m few positive
    constructor
    · rw [result]
      rfl
    · intro parts given
      rw [result] at given
      obtain ⟨units, currencies⟩ := collectParts_ok given
      refine ⟨?_, ?_, currencies⟩
      · rw [toNat_shares units]
        exact allocation
      · rw [units, ← Nat.cast_list_sum, allocation.total]
        have low := m.positive
        omega
    · rw [result]
      show (∃ e, Money.collectParts m.currency ((sharesOf m ratios).map Nat.cast) = .error e) ↔ _
      rw [collectParts_error fun share mem => share_le positive mem]
      constructor
      · rintro ⟨share, mem, low⟩
        obtain ⟨n, held, rfl⟩ := List.mem_map.mp mem
        have zero : n = 0 := by omega
        exact .inr (.inr ⟨_, allocation, zero ▸ held⟩)
      · rintro (rfl | none_ | ⟨parts, other, held⟩)
        · exact absurd (fun ratio mem => by cases mem) zeros
        · exact absurd none_ zeros
        · rw [other.unique allocation positive] at held
          exact ⟨0, List.mem_map.mpr ⟨0, held, rfl⟩, le_rfl⟩

theorem split_into_ratios_largest_remainder_thirds :
    [1, 1, 1].length ≤ 4294967296 ∧
      LargestRemainder ⟨100, .egp, by decide, by decide⟩ [1, 1, 1] :=
  ⟨by decide, split_into_ratios_largest_remainder _ _ (by decide)⟩

end Split

end OpenWrapper.MoneyArithmetic
