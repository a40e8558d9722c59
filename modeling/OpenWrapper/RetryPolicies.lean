import Mathlib.Data.Nat.Find
import Mathlib.Algebra.Order.Ring.Nat
import Mathlib.Tactic.Ring

/-! # The retry engine

Exponential backoff with full jitter around an operation that may fail. A step
that would panic, an overflow or a division by zero, is the absent result. -/

set_option autoImplicit false

namespace OpenWrapper.RetryPolicies

section Durations

/-- A length of time in nanoseconds, of `u64` seconds and what is left of one. -/
structure Duration where
  nanos : ℕ
  bounded : nanos < 2 ^ 64 * 1000000000
deriving DecidableEq

namespace Duration

def zero : Duration := ⟨0, by decide⟩

def isZero (d : Duration) : Bool := d.nanos == 0

def asMicros (d : Duration) : ℕ := d.nanos / 1000

def asNanos (d : Duration) : ℕ := d.nanos

def fromMicros (micros : UInt64) : Duration :=
  ⟨micros.toNat * 1000, by have := micros.toNat_lt; omega⟩

theorem asMicros_le (d : Duration) : d.asMicros * 1000 ≤ d.nanos := Nat.div_mul_le_self _ _

@[simp] theorem fromMicros_nanos (micros : UInt64) :
    (fromMicros micros).nanos = micros.toNat * 1000 := rfl

end Duration

end Durations

section Arithmetic

def maxU64 : UInt64 := 0xFFFFFFFFFFFFFFFF

/-- `u64::try_from`. -/
def tryFrom (n : ℕ) : Option UInt64 := if n < 2 ^ 64 then some (UInt64.ofNat n) else none

/-- `checked_shl`: only as far as the number is wide. -/
def checkedShl (x : UInt64) (n : UInt32) : Option UInt64 :=
  if n < 64 then some (x <<< n.toUInt64) else none

def saturatingMul (a b : UInt64) : UInt64 :=
  if a.toNat * b.toNat < 2 ^ 64 then a * b else maxU64

/-- `%`. -/
def remainder (a b : UInt64) : Option UInt64 := if b = 0 then none else some (a % b)

/-- `+= 1`. -/
def increment (n : UInt32) : Option UInt32 := if n.toNat + 1 < 2 ^ 32 then some (n + 1) else none

theorem increment_toNat {n n' : UInt32} (is : increment n = some n') :
    n'.toNat = n.toNat + 1 := by
  unfold increment at is
  split at is
  next room =>
    cases is
    have one : (1 : UInt32).toNat = 1 := rfl
    rw [UInt32.toNat_add, one, Nat.mod_eq_of_lt room]
  · cases is

theorem increment_of_lt {n m : UInt32} (below : n.toNat < m.toNat) :
    ∃ n', increment n = some n' := by
  have top := m.toNat_lt
  refine ⟨n + 1, if_pos (by omega)⟩

def splitmix64 (x : UInt64) : UInt64 :=
  let x := x + 0x9e3779b97f4a7c15
  let x := (x ^^^ (x >>> 30)) * 0xbf58476d1ce4e5b9
  let x := (x ^^^ (x >>> 27)) * 0x94d049bb133111eb
  x ^^^ (x >>> 31)

end Arithmetic

structure RetryPolicy where
  maxRetries : UInt32
  initialDelay : Duration
  maxDelay : Duration
deriving DecidableEq

namespace RetryPolicy

/-- The delay before the next attempt. The clock shows the time since the epoch,
unless it stands before it. -/
def computeDelay (policy : RetryPolicy) (attempt : UInt32) (clock : Option Duration) :
    Option Duration := do
  if policy.initialDelay.isZero || policy.maxDelay.isZero then
    return .zero
  let factor := (checkedShl 1 (min attempt 30)).getD maxU64
  let baseMicros := (tryFrom policy.initialDelay.asMicros).getD maxU64
  let maxMicros := (tryFrom policy.maxDelay.asMicros).getD maxU64
  let ceilingMicros := min (saturatingMul baseMicros factor) maxMicros
  if ceilingMicros = 0 then
    return .zero
  let nanos := (clock.map fun d => UInt64.ofNat d.asNanos).getD 0x517cc1b727220a95
  let seed := nanos + attempt.toUInt64 * 0x9e3779b97f4a7c15
  let randomFactor ← remainder (splitmix64 seed) ceilingMicros
  return .fromMicros randomFactor

end RetryPolicy

section Loop

variable {T E : Type}

/-- What became of `retry_async`: the calls it made of the operation, the sleeps
between them and the result it returned. -/
structure Returned (T E : Type) where
  calls : ℕ
  slept : List Duration
  result : Except E T

variable (policy : RetryPolicy) (isRetryable : E → Bool) (operation : ℕ → Except E T)
  (clock : UInt32 → Option Duration)

/-- The loop after so many calls. The operation answers each call with a result
of its own. -/
def retryFrom (attempt : UInt32) (calls : ℕ) (slept : List Duration) : Option (Returned T E) :=
  match operation calls with
  | .ok value => some ⟨calls + 1, slept, .ok value⟩
  | .error err =>
    if last : policy.maxRetries ≤ attempt ∨ isRetryable err = false then
      some ⟨calls + 1, slept, .error err⟩
    else
      match policy.computeDelay attempt (clock attempt) with
      | none => none
      | some sleepDuration =>
        match _ : increment attempt with
        | none => none
        | some attempt' =>
          retryFrom attempt' (calls + 1)
            (if sleepDuration.isZero then slept else slept ++ [sleepDuration])
termination_by policy.maxRetries.toNat - attempt.toNat
decreasing_by
  have below : attempt.toNat < policy.maxRetries.toNat :=
    UInt32.lt_iff_toNat_lt.mp (UInt32.not_le.mp fun reached => last (.inl reached))
  have next := increment_toNat ‹increment attempt = some attempt'›
  omega

def retryAsync : Option (Returned T E) := retryFrom policy isRetryable operation clock 0 0 []

end Loop

section Delays

theorem tryFrom_le (n : ℕ) : ((tryFrom n).getD maxU64).toNat ≤ n := by
  unfold tryFrom
  split
  next fits =>
    have kept : (UInt64.ofNat n).toNat = n := UInt64.toNat_ofNat_of_lt' fits
    exact kept.le
  next large => exact le_trans (Nat.le_of_lt_succ (UInt64.toNat_lt _)) (by omega)

theorem saturatingMul_le (a b : UInt64) : (saturatingMul a b).toNat ≤ a.toNat * b.toNat := by
  unfold saturatingMul
  split
  next fits => rw [UInt64.toNat_mul, Nat.mod_eq_of_lt fits]
  next large => exact le_trans (Nat.le_of_lt_succ (UInt64.toNat_lt _)) (by omega)

theorem remainder_below {a b : UInt64} (positive : b ≠ 0) :
    ∃ r, remainder a b = some r ∧ r.toNat < b.toNat := by
  refine ⟨a % b, if_neg positive, ?_⟩
  have some_ : b.toNat ≠ 0 := fun zero => positive (UInt64.toNat_inj.mp zero)
  rw [UInt64.toNat_mod]
  exact Nat.mod_lt _ (by omega)

/-- A shift by thirty at the most loses nothing. -/
theorem factor_eq (attempt : UInt32) :
    ((checkedShl 1 (min attempt 30)).getD maxU64).toNat = 2 ^ min attempt.toNat 30 := by
  have thirty : (30 : UInt32).toNat = 30 := rfl
  have width : (64 : UInt32).toNat = 64 := rfl
  have shift : (min attempt 30).toNat = min attempt.toNat 30 := by
    rw [← thirty]
    exact UInt32.toNat_min attempt 30
  have inside : min attempt 30 < 64 := by
    rw [UInt32.lt_iff_toNat_lt, shift, width]
    omega
  have small : 2 ^ min attempt.toNat 30 < 2 ^ 64 := Nat.pow_lt_pow_right (by decide) (by omega)
  have one : (1 : UInt64).toNat = 1 := rfl
  rw [checkedShl, if_pos inside, Option.getD_some, UInt64.toNat_shiftLeft, UInt32.toNat_toUInt64,
    shift, one, Nat.one_shiftLeft, Nat.mod_eq_of_lt (a := min attempt.toNat 30) (by omega),
    Nat.mod_eq_of_lt small]

/-- No step of the delay overflows, and it is within both of its limits. -/
theorem computeDelay_bounded (policy : RetryPolicy) (attempt : UInt32) (clock : Option Duration) :
    ∃ delay, policy.computeDelay attempt clock = some delay ∧
      delay.nanos ≤ min policy.maxDelay.nanos
        (policy.initialDelay.nanos * 2 ^ min attempt.toNat 30) := by
  unfold RetryPolicy.computeDelay
  split
  · exact ⟨.zero, rfl, Nat.zero_le _⟩
  · dsimp only
    split
    · exact ⟨.zero, rfl, Nat.zero_le _⟩
    next positive =>
      obtain ⟨r, is, below⟩ := remainder_below (a := splitmix64
        ((clock.map fun d => UInt64.ofNat d.asNanos).getD 0x517cc1b727220a95 +
          attempt.toUInt64 * 0x9e3779b97f4a7c15)) positive
      refine ⟨.fromMicros r, by rw [is]; rfl, ?_⟩
      have base := tryFrom_le policy.initialDelay.asMicros
      have top := tryFrom_le policy.maxDelay.asMicros
      have product := saturatingMul_le ((tryFrom policy.initialDelay.asMicros).getD maxU64)
        ((checkedShl 1 (min attempt 30)).getD maxU64)
      rw [factor_eq] at product
      rw [UInt64.toNat_min] at below
      have drawn := (lt_of_lt_of_le below (Nat.min_le_left _ _)).le.trans product
      have capped := (lt_of_lt_of_le below (Nat.min_le_right _ _)).le.trans top
      rw [Duration.fromMicros_nanos]
      apply le_min
      · exact le_trans (Nat.mul_le_mul_right 1000 capped) policy.maxDelay.asMicros_le
      · calc r.toNat * 1000
          _ ≤ policy.initialDelay.asMicros * 2 ^ min attempt.toNat 30 * 1000 :=
            Nat.mul_le_mul_right 1000 (le_trans drawn (Nat.mul_le_mul_right _ base))
          _ = policy.initialDelay.asMicros * 1000 * 2 ^ min attempt.toNat 30 := by ring
          _ ≤ policy.initialDelay.nanos * 2 ^ min attempt.toNat 30 :=
            Nat.mul_le_mul_right _ policy.initialDelay.asMicros_le

end Delays

section Runs

variable {T E : Type}

/-- The operation is not called again after this result: it succeeded, or it
failed for good. -/
def Ends (isRetryable : E → Bool) : Except E T → Prop
  | .ok _ => True
  | .error err => isRetryable err = false

variable (policy : RetryPolicy) (isRetryable : E → Bool) (operation : ℕ → Except E T)
  (clock : UInt32 → Option Duration)

open Classical in
/-- The index of the first result that ends the loop, and of the last retry if
there is none. -/
noncomputable def firstEnd : ℕ :=
  if some_ : ∃ i, Ends isRetryable (operation i) then Nat.find some_ else policy.maxRetries.toNat

/-- The index of the last call. -/
noncomputable def lastCall : ℕ :=
  min (firstEnd policy isRetryable operation) policy.maxRetries.toNat

variable {policy isRetryable operation clock} {n : ℕ}

theorem firstEnd_le (ends : Ends isRetryable (operation n)) :
    firstEnd policy isRetryable operation ≤ n := by
  classical
  rw [firstEnd, dif_pos ⟨n, ends⟩]
  exact Nat.find_min' _ ends

theorem ends_lastCall (below : lastCall policy isRetryable operation < policy.maxRetries.toNat) :
    Ends isRetryable (operation (lastCall policy isRetryable operation)) := by
  classical
  have first : lastCall policy isRetryable operation = firstEnd policy isRetryable operation := by
    unfold lastCall at below ⊢
    omega
  rw [first] at below ⊢
  unfold firstEnd at below ⊢
  split at below
  next some_ =>
    rw [dif_pos some_]
    exact Nat.find_spec some_
  next => omega

theorem lastCall_le_of_ends (ends : Ends isRetryable (operation n)) :
    lastCall policy isRetryable operation ≤ n :=
  le_trans (Nat.min_le_left _ _) (firstEnd_le ends)

theorem lastCall_le : lastCall policy isRetryable operation ≤ policy.maxRetries.toNat :=
  Nat.min_le_right _ _

/-- The call that ends the loop, or uses up the retries. -/
theorem retryFrom_last {attempt : UInt32} (slept : List Duration)
    (now : attempt.toNat = lastCall policy isRetryable operation) :
    retryFrom policy isRetryable operation clock attempt attempt.toNat slept =
      some ⟨attempt.toNat + 1, slept, operation attempt.toNat⟩ := by
  unfold retryFrom
  cases result : operation attempt.toNat with
  | ok value => rfl
  | error err =>
    have last : policy.maxRetries ≤ attempt ∨ isRetryable err = false := by
      by_cases spent : policy.maxRetries ≤ attempt
      · exact .inl spent
      · have room := UInt32.lt_iff_toNat_lt.mp (UInt32.not_le.mp spent)
        have ends := ends_lastCall (now ▸ room)
        rw [← now, result] at ends
        exact .inr ends
    dsimp only
    rw [dif_pos last]

variable (policy isRetryable operation clock) in
/-- Any call before it is followed by the next one, after a delay. -/
theorem retryFrom_again (attempt : UInt32) (slept : List Duration)
    (further : attempt.toNat < lastCall policy isRetryable operation) :
    ∃ attempt' delay, attempt'.toNat = attempt.toNat + 1 ∧
      delay.nanos ≤ policy.maxDelay.nanos ∧
      retryFrom policy isRetryable operation clock attempt attempt.toNat slept =
        retryFrom policy isRetryable operation clock attempt' attempt'.toNat
          (if delay.isZero then slept else slept ++ [delay]) := by
  have room := lt_of_lt_of_le further lastCall_le
  have later : ¬ Ends isRetryable (operation attempt.toNat) := fun ends =>
    absurd (lastCall_le_of_ends ends) (not_le.mpr further)
  obtain ⟨delay, is, bound⟩ := computeDelay_bounded policy attempt (clock attempt)
  obtain ⟨attempt', next⟩ := increment_of_lt room
  have one := increment_toNat next
  refine ⟨attempt', delay, one, le_trans bound (Nat.min_le_left _ _), ?_⟩
  rw [retryFrom]
  cases result : operation attempt.toNat with
  | ok value =>
    rw [result] at later
    exact absurd trivial later
  | error err =>
    have again : ¬ (policy.maxRetries ≤ attempt ∨ isRetryable err = false) := by
      rintro (spent | fatal)
      · exact absurd (UInt32.le_iff_toNat_le.mp spent) (not_le.mpr room)
      · rw [result] at later
        exact later fatal
    dsimp only
    rw [dif_neg again, is]
    dsimp only
    rw [one]
    split
    next none_ =>
      rw [next] at none_
      cases none_
    next attempt'' next' =>
      rw [next] at next'
      cases next'
      rfl

/-- From the call that is due, the calls up to the last one are made. -/
theorem retryFrom_eq {attempt : UInt32} (slept : List Duration)
    (due : attempt.toNat ≤ lastCall policy isRetryable operation)
    (short : slept.length ≤ attempt.toNat)
    (bounded : ∀ d ∈ slept, d.nanos ≤ policy.maxDelay.nanos) :
    ∃ slept', retryFrom policy isRetryable operation clock attempt attempt.toNat slept =
        some ⟨lastCall policy isRetryable operation + 1, slept',
          operation (lastCall policy isRetryable operation)⟩ ∧
      slept'.length ≤ lastCall policy isRetryable operation ∧
      ∀ d ∈ slept', d.nanos ≤ policy.maxDelay.nanos := by
  generalize left : lastCall policy isRetryable operation - attempt.toNat = rest
  induction rest generalizing attempt slept with
  | zero =>
    have now : attempt.toNat = lastCall policy isRetryable operation := by omega
    refine ⟨slept, ?_, by omega, bounded⟩
    rw [retryFrom_last slept now, now]
  | succ rest ih =>
    obtain ⟨attempt', delay, one, bound, step⟩ :=
      retryFrom_again policy isRetryable operation clock attempt slept (by omega)
    rw [step]
    split
    · exact ih slept (by omega) (by omega) bounded (by omega)
    · apply ih (slept ++ [delay]) (by omega)
      · rw [List.length_append, List.length_singleton]
        omega
      · intro d mem
        rcases List.mem_append.mp mem with before | last
        · exact bounded d before
        · rw [List.mem_singleton.mp last]
          exact bound
      · omega

variable (policy isRetryable operation clock)

/-- The operation is called once more than it fails for a while, or once more
than there are retries, and what the last call gave is returned; no delay
overflows, and none is over its limits. -/
theorem retry_bounded_faithful :
    (∃ slept, retryAsync policy isRetryable operation clock =
        some ⟨min (firstEnd policy isRetryable operation) policy.maxRetries.toNat + 1, slept,
          operation (min (firstEnd policy isRetryable operation) policy.maxRetries.toNat)⟩ ∧
      slept.length ≤ min (firstEnd policy isRetryable operation) policy.maxRetries.toNat ∧
      ∀ d ∈ slept, d.nanos ≤ policy.maxDelay.nanos) ∧
    ∀ (attempt : UInt32) (now : Option Duration),
      ∃ delay, policy.computeDelay attempt now = some delay ∧
        delay.nanos ≤ min policy.maxDelay.nanos
          (policy.initialDelay.nanos * 2 ^ min attempt.toNat 30) := by
  constructor
  · have due : (0 : UInt32).toNat ≤ lastCall policy isRetryable operation := Nat.zero_le _
    exact retryFrom_eq [] due (Nat.zero_le _) (by simp)
  · exact computeDelay_bounded policy

end Runs

end OpenWrapper.RetryPolicies
