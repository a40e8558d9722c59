import OpenWrapper.MoneyArithmetic

/-! # Equal parts

`split_into` cuts an amount into `n` parts. The count is cast to a signed
integer for the guard and the division, and is the capacity of the vector; a
call may therefore end without a result. -/

set_option autoImplicit false

namespace OpenWrapper.EqualParts
open OpenWrapper.Amounts OpenWrapper.MachineIntegers

/-- Why a call does not return. -/
inductive Panic where
  | overflow
  | divisionByZero
  | capacityOverflow
deriving DecidableEq, Repr

namespace Kind

/-- An operator of the kind, where overflow is checked. -/
def operator (k : Kind) (x : ℤ) : Except Panic ℤ :=
  if k.Fits x then .ok x else .error .overflow

def divide (k : Kind) (a b : ℤ) : Except Panic ℤ :=
  if b = 0 then .error .divisionByZero else operator k (a.tdiv b)

/-- `%` overflows where `/` does. -/
def remainder (k : Kind) (a b : ℤ) : Except Panic ℤ := do
  let _ ← divide k a b
  pure (a.tmod b)

theorem operator_of_fits {k : Kind} {x : ℤ} (fits : k.Fits x) : operator k x = .ok x :=
  if_pos fits

theorem divide_of_fits {k : Kind} {a b : ℤ} (nonzero : b ≠ 0) (fits : k.Fits (a.tdiv b)) :
    divide k a b = .ok (a.tdiv b) := by
  rw [divide, if_neg nonzero, operator_of_fits fits]

theorem remainder_of_fits {k : Kind} {a b : ℤ} (nonzero : b ≠ 0) (fits : k.Fits (a.tdiv b)) :
    remainder k a b = .ok (a.tmod b) := by
  rw [remainder, divide_of_fits nonzero fits]
  rfl

end Kind

/-- The bytes of a `Money`: an `i64` and a currency, aligned. -/
def moneySize : ℕ := 16

/-- `Vec::with_capacity`: a vector has at most `isize::MAX` bytes. -/
def withCapacity (n : ℕ) : Except Panic Unit :=
  if n * moneySize ≤ 9223372036854775807 then .ok () else .error .capacityOverflow

theorem withCapacity_large {n : ℕ} (large : 9223372036854775808 ≤ n) :
    withCapacity n = .error .capacityOverflow := by
  have beyond : ¬ n * moneySize ≤ 9223372036854775807 := by
    unfold moneySize
    omega
  exact if_neg beyond

theorem withCapacity_small {n : ℕ} (small : n ≤ 1000000000) : withCapacity n = .ok () := by
  have fits : n * moneySize ≤ 9223372036854775807 := by
    unfold moneySize
    omega
  exact if_pos fits

def partAmount (quotient remainder : ℤ) (i : ℕ) : Except Panic ℤ :=
  if (i : ℤ) < remainder then Kind.operator i64 (quotient + 1) else .ok quotient

/-- The loop over `0..n`, from `i` on. -/
def pushParts (currency : Currency) (quotient remainder : ℤ) :
    ℕ → ℕ → Except Panic (Except MoneyError (List Money))
  | _, 0 => .ok (.ok [])
  | i, left + 1 => do
    let amount ← partAmount quotient remainder i
    match Money.fromMinorUnits amount currency with
    | .error e => .ok (.error e)
    | .ok part =>
      match ← pushParts currency quotient remainder (i + 1) left with
      | .error e => .ok (.error e)
      | .ok parts => .ok (.ok (part :: parts))

/-- The call past its guard. -/
def distribute (m : Money) (n : ℕ) (signed : ℤ) :
    Except Panic (Except MoneyError (List Money)) := do
  let quotient ← Kind.divide i64 m.minorUnits signed
  let remainder ← Kind.remainder i64 m.minorUnits signed
  withCapacity n
  pushParts m.currency quotient (usize.wrap remainder) 0 n

def splitInto (m : Money) (n : UInt64) : Except Panic (Except MoneyError (List Money)) :=
  if n.toNat = 0 ∨ m.minorUnits < i64.wrap n.toNat then .ok (.error (.notPositive 0))
  else distribute m n.toNat (i64.wrap n.toNat)

section Loop

variable {c : Currency} {q r : ℤ}

/-- What the part of this index gets. -/
def share (q r : ℤ) (i : ℕ) : ℤ := if (i : ℤ) < r then q + 1 else q

theorem share_bounds (i : ℕ) : q ≤ share q r i ∧ share q r i ≤ q + 1 := by
  unfold share
  split <;> omega

theorem share_antitone {i j : ℕ} (le : i ≤ j) : share q r j ≤ share q r i := by
  unfold share
  split <;> split <;> omega

def shares (q r : ℤ) (i left : ℕ) : List ℤ := (List.range' i left).map (share q r)

/-- The first parts get what is left over, one each. -/
theorem sum_shares (i left : ℕ) :
    (shares q r i left).sum = left * q + (min r (i + left) - min r i) := by
  induction left generalizing i with
  | zero => simp [shares]
  | succ left ih =>
    have rest := ih (i + 1)
    unfold shares at rest ⊢
    rw [List.range'_succ, List.map_cons, List.sum_cons, rest]
    have split : ((left + 1 : ℕ) : ℤ) * q = left * q + q := by
      rw [Nat.cast_succ, Int.add_mul, Int.one_mul]
    rw [split]
    unfold share
    split <;> omega

theorem share_le (bounded : q ≤ maxMinorUnits) (room : 0 < r → q + 1 ≤ maxMinorUnits) (i : ℕ) :
    share q r i ≤ maxMinorUnits := by
  unfold share
  split <;> omega

theorem partAmount_eq (positive : 1 ≤ q) (room : 0 < r → q + 1 ≤ maxMinorUnits) (i : ℕ) :
    partAmount q r i = .ok (share q r i) := by
  unfold partAmount share
  split
  · exact Kind.operator_of_fits (MoneyArithmetic.amount_fits (by omega) (room (by omega)))
  · rfl

theorem pushParts_eq (positive : 1 ≤ q) (bounded : q ≤ maxMinorUnits)
    (room : 0 < r → q + 1 ≤ maxMinorUnits) (i left : ℕ) :
    ∃ parts, pushParts c q r i left = .ok (.ok parts) ∧
      parts.map Money.minorUnits = shares q r i left ∧ ∀ p ∈ parts, p.currency = c := by
  induction left generalizing i with
  | zero => exact ⟨[], rfl, rfl, fun p mem => absurd mem List.not_mem_nil⟩
  | succ left ih =>
    obtain ⟨parts, made, amounts, currency⟩ := ih (i + 1)
    have low := (share_bounds (q := q) (r := r) i).1
    have amount : 0 < share q r i := by omega
    have within_ := share_le bounded room i
    have part : Money.fromMinorUnits (share q r i) c = .ok ⟨share q r i, c, amount, within_⟩ := by
      rw [Money.fromMinorUnits, dif_pos amount, dif_pos within_]
    refine ⟨⟨share q r i, c, amount, within_⟩ :: parts, ?_, ?_, ?_⟩
    · simp only [pushParts, partAmount_eq positive room, made, part, bind, Except.bind]
    · rw [List.map_cons, amounts]
      rfl
    · intro p mem
      rcases List.mem_cons.mp mem with rfl | later
      · rfl
      · exact currency p later

end Loop

section Split

variable {m : Money} {n : UInt64}

/-- The parts are as many as asked for, and as equal as can be. -/
structure AsEqual (m : Money) (n : ℕ) (parts : List Money) : Prop where
  count : parts.length = n
  currency : ∀ p ∈ parts, p.currency = m.currency
  positive : ∀ p ∈ parts, 0 < p.minorUnits
  conserved : (parts.map Money.minorUnits).sum = m.minorUnits
  close : ∀ p ∈ parts, ∀ p' ∈ parts, p.minorUnits ≤ p'.minorUnits + 1
  ordered : parts.Pairwise fun p p' => p'.minorUnits ≤ p.minorUnits

/-- The call returns, with parts just where there is a minor unit for each. -/
structure Conserves (m : Money) (n : UInt64) : Prop where
  returns : ∃ result, splitInto m n = .ok result
  divides : (∃ parts, splitInto m n = .ok (.ok parts)) ↔ 1 ≤ n.toNat ∧ n.toNat ≤ m.minorUnits
  equal : ∀ parts, splitInto m n = .ok (.ok parts) → AsEqual m n.toNat parts

theorem signed_small (small : n.toNat < 9223372036854775808) : i64.wrap n.toNat = n.toNat := by
  apply Kind.wrap_of_fits
  rw [i64_fits]
  omega

theorem signed_large (large : 9223372036854775808 ≤ n.toNat) :
    i64.wrap n.toNat = n.toNat - 18446744073709551616 := by
  have bound := n.toNat_lt
  unfold Kind.wrap i64
  simp only
  omega

theorem quotient_fits (m : Money) (b : ℤ) : i64.Fits (m.minorUnits.tdiv b) := by
  have positive := m.positive
  have bounded := m.bounded
  have size : (m.minorUnits.tdiv b).natAbs ≤ m.minorUnits.natAbs := by
    rw [Int.natAbs_tdiv]
    exact Nat.div_le_self _ _
  unfold maxMinorUnits at bounded
  rw [i64_fits]
  omega

theorem distribute_large {k : ℕ} {b : ℤ} (nonzero : b ≠ 0) (large : 9223372036854775808 ≤ k) :
    distribute m k b = .error .capacityOverflow := by
  have divided := Kind.divide_of_fits nonzero (quotient_fits m b)
  have left := Kind.remainder_of_fits nonzero (quotient_fits m b)
  rw [distribute, divided, left, withCapacity_large large]
  rfl

theorem distribute_small {k : ℕ} {b : ℤ} (nonzero : b ≠ 0) (small : k ≤ 1000000000) :
    distribute m k b = pushParts m.currency (m.minorUnits.tdiv b)
      (usize.wrap (m.minorUnits.tmod b)) 0 k := by
  have divided := Kind.divide_of_fits nonzero (quotient_fits m b)
  have left := Kind.remainder_of_fits nonzero (quotient_fits m b)
  rw [distribute, divided, left, withCapacity_small small]
  rfl

/-- Beyond the signed range the count passes the guard and is no capacity. -/
theorem splitInto_large (large : 9223372036854775808 ≤ n.toNat) :
    splitInto m n = .error .capacityOverflow := by
  have bound := n.toNat_lt
  have positive := m.positive
  have signed := signed_large large
  have passes : ¬ (n.toNat = 0 ∨ m.minorUnits < i64.wrap n.toNat) := by omega
  rw [splitInto, if_neg passes]
  exact distribute_large (by omega) large

theorem splitInto_refused (small : n.toNat < 9223372036854775808)
    (refused : n.toNat = 0 ∨ m.minorUnits < n.toNat) :
    splitInto m n = .ok (.error (.notPositive 0)) := by
  rw [splitInto, signed_small small, if_pos refused]

/-- The quotient and what is left over are those of the natural numbers. -/
theorem splitInto_accepted (least : 1 ≤ n.toNat) (most : n.toNat ≤ m.minorUnits) :
    splitInto m n = pushParts m.currency (m.minorUnits / n.toNat) (m.minorUnits % n.toNat) 0
      n.toNat := by
  have positive := m.positive
  have bounded := m.bounded
  unfold maxMinorUnits at bounded
  have small : n.toNat < 9223372036854775808 := by omega
  have nonzero : (n.toNat : ℤ) ≠ 0 := by omega
  have passes : ¬ (n.toNat = 0 ∨ m.minorUnits < n.toNat) := by omega
  have left : usize.wrap (m.minorUnits % n.toNat) = m.minorUnits % n.toNat := by
    have low := Int.emod_nonneg m.minorUnits nonzero
    have high := Int.emod_lt_of_pos m.minorUnits (show (0 : ℤ) < n.toNat by omega)
    apply Kind.wrap_of_fits
    rw [u64_fits]
    omega
  rw [splitInto, signed_small small, if_neg passes, distribute_small nonzero (by omega),
    Int.tdiv_eq_ediv_of_nonneg positive.le, Int.tmod_eq_emod_of_nonneg positive.le, left]

/-- What an amount is split into. -/
theorem splitInto_parts (least : 1 ≤ n.toNat) (most : n.toNat ≤ m.minorUnits) :
    ∃ parts, splitInto m n = .ok (.ok parts) ∧ AsEqual m n.toNat parts := by
  have bounded := m.bounded
  have divisor : (0 : ℤ) < n.toNat := by omega
  have whole := Int.ediv_mul_add_emod m.minorUnits n.toNat
  have low := Int.emod_nonneg m.minorUnits divisor.ne'
  have high := Int.emod_lt_of_pos m.minorUnits divisor
  have quotient : 1 ≤ m.minorUnits / n.toNat := (Int.le_ediv_iff_mul_le divisor).mpr (by omega)
  have scaled : m.minorUnits / n.toNat ≤ m.minorUnits / n.toNat * n.toNat :=
    le_mul_of_one_le_right (by omega) (by omega)
  obtain ⟨parts, made, amounts, currency⟩ := pushParts_eq (c := m.currency)
    (r := m.minorUnits % n.toNat) quotient (by omega) (fun left => by omega) 0 n.toNat
  have amount (p : Money) (mem : p ∈ parts) : ∃ i, p.minorUnits =
      share (m.minorUnits / n.toNat) (m.minorUnits % n.toNat) i := by
    have listed : p.minorUnits ∈ parts.map Money.minorUnits := List.mem_map_of_mem mem
    rw [amounts] at listed
    obtain ⟨i, -, is⟩ := List.mem_map.mp listed
    exact ⟨i, is.symm⟩
  refine ⟨parts, (splitInto_accepted least most).trans made, ?_, currency, ?_, ?_, ?_, ?_⟩
  · have lengths := congrArg List.length amounts
    simpa [shares] using lengths
  · intro p _
    exact p.positive
  · rw [amounts, sum_shares, Int.mul_comm]
    omega
  · intro p mem p' mem'
    obtain ⟨i, is⟩ := amount p mem
    obtain ⟨i', is'⟩ := amount p' mem'
    have high := (share_bounds (q := m.minorUnits / n.toNat) (r := m.minorUnits % n.toNat) i).2
    have low := (share_bounds (q := m.minorUnits / n.toNat) (r := m.minorUnits % n.toNat) i').1
    omega
  · rw [← List.pairwise_map (f := Money.minorUnits) (R := fun x y => y ≤ x), amounts, shares,
      List.pairwise_map]
    exact List.pairwise_le_range'.imp fun le => share_antitone le

theorem conserves_small (conserves : Conserves m n) : n.toNat < 9223372036854775808 := by
  by_contra large
  obtain ⟨result, returned⟩ := conserves.returns
  rw [splitInto_large (by omega)] at returned
  cases returned

theorem split_into_conserves_iff (m : Money) (n : UInt64) :
    Conserves m n ↔ n.toNat < 9223372036854775808 := by
  constructor
  · exact conserves_small
  · intro small
    by_cases divides : 1 ≤ n.toNat ∧ n.toNat ≤ m.minorUnits
    · obtain ⟨parts, made, equal⟩ := splitInto_parts divides.1 divides.2
      refine ⟨⟨_, made⟩, iff_of_true ⟨parts, made⟩ divides, fun parts' made' => ?_⟩
      rw [made] at made'
      cases made'
      exact equal
    · have refused := splitInto_refused (m := m) small (by omega)
      refine ⟨⟨_, refused⟩, iff_of_false ?_ divides, ?_⟩
      · rintro ⟨parts, made⟩
        rw [refused] at made
        cases made
      · intro parts made
        rw [refused] at made
        cases made

/-- The least count beyond the signed range. -/
theorem split_into_beyond : ¬ ∀ (m : Money) (n : UInt64), Conserves m n := by
  intro conserves
  have small := conserves_small (conserves ⟨100, .egp, by decide, by decide⟩ 9223372036854775808)
  exact absurd small (by decide)

end Split

end OpenWrapper.EqualParts
