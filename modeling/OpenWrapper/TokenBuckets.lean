import Mathlib.Algebra.Order.Group.Nat
import Mathlib.Data.List.Basic
import Mathlib.Tactic.Linarith

/-! # The token bucket

A bucket is filled by whole microseconds and keeps what is left of one in its
timestamp. Over a run the tokens are those of the time that passed since the
bucket was full, less one for each grant; only a gap that the count of
microseconds cannot hold is lost. -/

set_option autoImplicit false

namespace OpenWrapper.TokenBuckets

def microtokensPerToken : ℕ := 1000000

/-- The values of a `u64`. -/
def range : ℕ := 18446744073709551616

def saturatingMul (a b : ℕ) : ℕ := min (a * b) (range - 1)

def saturatingAdd (a b : ℕ) : ℕ := min (a + b) (range - 1)

/-- Instants are nanoseconds of the monotonic clock. -/
structure TokenBucket where
  capacityMicrotokens : ℕ
  refillPerSec : ℕ
  tokens : ℕ
  lastRefill : ℕ
deriving DecidableEq, Repr

namespace TokenBucket

def new (requestsPerSec now : ℕ) : TokenBucket :=
  let rps := max 1 requestsPerSec
  let capacity := saturatingMul rps microtokensPerToken
  ⟨capacity, rps, capacity, now⟩

/-- `elapsed.as_micros() as u64`. -/
def elapsedMicros (b : TokenBucket) (now : ℕ) : ℕ := (now - b.lastRefill) / 1000 % range

/-- What a call does before it takes a token. -/
def refill (b : TokenBucket) (now : ℕ) : TokenBucket :=
  let micros := b.elapsedMicros now
  if 0 < micros then
    let tokens := min (saturatingAdd b.tokens (saturatingMul micros b.refillPerSec))
      b.capacityMicrotokens
    if tokens = b.capacityMicrotokens then { b with tokens, lastRefill := now }
    else { b with tokens, lastRefill := b.lastRefill + 1000 * micros }
  else b

def setTokens (b : TokenBucket) (tokens : ℕ) : TokenBucket := { b with tokens }

@[simp] theorem setTokens_tokens (b : TokenBucket) (n : ℕ) : (b.setTokens n).tokens = n := rfl

@[simp] theorem setTokens_capacity (b : TokenBucket) (n : ℕ) :
    (b.setTokens n).capacityMicrotokens = b.capacityMicrotokens := rfl

@[simp] theorem setTokens_rate (b : TokenBucket) (n : ℕ) :
    (b.setTokens n).refillPerSec = b.refillPerSec := rfl

@[simp] theorem setTokens_last (b : TokenBucket) (n : ℕ) :
    (b.setTokens n).lastRefill = b.lastRefill := rfl

def take (b : TokenBucket) : TokenBucket × Bool :=
  if microtokensPerToken ≤ b.tokens then (b.setTokens (b.tokens - microtokensPerToken), true)
  else (b, false)

def tryAcquire (b : TokenBucket) (now : ℕ) : TokenBucket × Bool := (b.refill now).take

end TokenBucket

/-- A call: when it came, whether it found the bucket full, and its answer. -/
structure Call where
  instant : ℕ
  full : Bool
  granted : Bool
deriving DecidableEq, Repr

def call (b : TokenBucket) (now : ℕ) : Call :=
  ⟨now, (b.refill now).tokens == b.capacityMicrotokens, (b.tryAcquire now).2⟩

def run (b : TokenBucket) : List ℕ → TokenBucket
  | [] => b
  | now :: later => run (b.tryAcquire now).1 later

def calls (b : TokenBucket) : List ℕ → List Call
  | [] => []
  | now :: later => call b now :: calls (b.tryAcquire now).1 later

/-- Every call comes before the microseconds since the last refill leave a `u64`. -/
def Held (b : TokenBucket) : List ℕ → Prop
  | [] => True
  | now :: later => (now - b.lastRefill) / 1000 < range ∧ Held (b.tryAcquire now).1 later

instance : (b : TokenBucket) → (instants : List ℕ) → Decidable (Held b instants)
  | _, [] => inferInstanceAs (Decidable True)
  | b, now :: later =>
    have : Decidable (Held (b.tryAcquire now).1 later) := instDecidableHeld _ later
    inferInstanceAs (Decidable (_ ∧ _))

/-- When the bucket was full last, and the grants since. -/
def sinceFull (s grants : ℕ) : List Call → ℕ × ℕ
  | [] => (s, grants)
  | c :: later =>
    if c.full then sinceFull c.instant c.granted.toNat later
    else sinceFull s (grants + c.granted.toNat) later

def grantsWithin (a b : ℕ) (cs : List Call) : ℕ :=
  cs.countP fun c => c.granted && decide (a ≤ c.instant ∧ c.instant ≤ b)

/-- The law of a bucket from its construction over a run of calls. -/
structure Law (rps start : ℕ) (instants : List ℕ) : Prop where
  bounded : (run (.new rps start) instants).tokens ≤ rps * 1000000
  limited : ∀ a b, a ≤ b → grantsWithin a b (calls (.new rps start) instants) * 1000000 ≤
    rps * 1000000 + rps * ((b - a) / 1000 + 1)
  refused : ∀ earlier c later, calls (.new rps start) instants = earlier ++ c :: later →
    c.granted = false → rps * 1000000 + rps * ((c.instant - (sinceFull start 0 earlier).1) / 1000) <
      1000000 + 1000000 * (sinceFull start 0 earlier).2

section Steps

variable {b : TokenBucket} {rps now t : ℕ}

/-- A bucket of this rate, with no more than its capacity. -/
structure Sized (rps : ℕ) (b : TokenBucket) : Prop where
  capacity : b.capacityMicrotokens = rps * 1000000
  rate : b.refillPerSec = rps
  bounded : b.tokens ≤ rps * 1000000

theorem new_sized (least : 1 ≤ rps) (most : rps * 1000000 < range) (start : ℕ) :
    Sized rps (.new rps start) := by
  have rate : max 1 rps = rps := by omega
  have capacity : saturatingMul rps microtokensPerToken = rps * 1000000 := by
    unfold saturatingMul microtokensPerToken
    omega
  constructor
  · simp only [TokenBucket.new, rate, capacity]
  · simp only [TokenBucket.new, rate]
  · simp only [TokenBucket.new, rate, capacity, le_refl]

/-- Where sums saturate the bucket is full. -/
theorem refilled (sized : Sized rps b) (most : rps * 1000000 < range) (micros : ℕ) :
    min (saturatingAdd b.tokens (saturatingMul micros b.refillPerSec)) b.capacityMicrotokens =
      min (b.tokens + rps * micros) (rps * 1000000) := by
  rw [sized.capacity, sized.rate, Nat.mul_comm rps micros]
  unfold saturatingAdd saturatingMul
  omega

/-- What a refill can do. -/
theorem refill_cases (sized : Sized rps b) (most : rps * 1000000 < range) (now : ℕ) :
    (b.elapsedMicros now = 0 ∧ b.refill now = b) ∨
    (0 < b.elapsedMicros now ∧
      rps * 1000000 ≤ b.tokens + rps * b.elapsedMicros now ∧
      b.refill now = { b with tokens := rps * 1000000, lastRefill := now }) ∨
    (0 < b.elapsedMicros now ∧ b.tokens + rps * b.elapsedMicros now < rps * 1000000 ∧
      b.refill now = { b with
        tokens := b.tokens + rps * b.elapsedMicros now
        lastRefill := b.lastRefill + 1000 * b.elapsedMicros now }) := by
  by_cases passed : 0 < b.elapsedMicros now
  · have tokens := refilled sized most (b.elapsedMicros now)
    unfold TokenBucket.refill
    simp only [if_pos passed, tokens]
    by_cases full : rps * 1000000 ≤ b.tokens + rps * b.elapsedMicros now
    · have top : min (b.tokens + rps * b.elapsedMicros now) (rps * 1000000) = rps * 1000000 := by
        omega
      refine .inr (.inl ⟨passed, full, ?_⟩)
      rw [top, if_pos sized.capacity.symm]
    · have sum : min (b.tokens + rps * b.elapsedMicros now) (rps * 1000000) =
          b.tokens + rps * b.elapsedMicros now := by omega
      have below : ¬ b.tokens + rps * b.elapsedMicros now = b.capacityMicrotokens := by
        rw [sized.capacity]
        omega
      refine .inr (.inr ⟨passed, by omega, ?_⟩)
      rw [sum, if_neg below]
  · refine .inl ⟨by omega, ?_⟩
    unfold TokenBucket.refill
    exact if_neg passed

theorem refill_sized (sized : Sized rps b) (most : rps * 1000000 < range) (now : ℕ) :
    Sized rps (b.refill now) := by
  rcases refill_cases sized most now with ⟨-, is⟩ | ⟨-, -, is⟩ | ⟨-, below, is⟩
  · rw [is]
    exact sized
  · rw [is]
    exact ⟨sized.capacity, sized.rate, le_rfl⟩
  · rw [is]
    exact ⟨sized.capacity, sized.rate, below.le⟩

/-- A call takes a token where there is one, and only that. -/
theorem take_tokens (b : TokenBucket) :
    b.take.1.tokens + 1000000 * b.take.2.toNat = b.tokens ∧
      b.take.1.capacityMicrotokens = b.capacityMicrotokens ∧
      b.take.1.refillPerSec = b.refillPerSec ∧ b.take.1.lastRefill = b.lastRefill := by
  unfold TokenBucket.take microtokensPerToken
  by_cases enough : 1000000 ≤ b.tokens
  · rw [if_pos enough]
    refine ⟨?_, b.setTokens_capacity _, b.setTokens_rate _, b.setTokens_last _⟩
    rw [b.setTokens_tokens, Bool.toNat_true]
    omega
  · rw [if_neg enough]
    exact ⟨rfl, rfl, rfl, rfl⟩

theorem take_refused {b : TokenBucket} (refused : b.take.2 = false) : b.tokens < 1000000 := by
  by_contra enough
  have granted : b.take.2 = true := by
    unfold TokenBucket.take microtokensPerToken
    rw [if_pos (by omega)]
  rw [granted] at refused
  cases refused

theorem tryAcquire_sized (sized : Sized rps b) (most : rps * 1000000 < range) (now : ℕ) :
    Sized rps (b.tryAcquire now).1 := by
  have refilled := refill_sized sized most now
  have bounded := refilled.bounded
  obtain ⟨tokens, capacity, rate, -⟩ := take_tokens (b.refill now)
  have left : (b.refill now).take.1.tokens ≤ rps * 1000000 := by omega
  exact ⟨capacity.trans refilled.capacity, rate.trans refilled.rate, left⟩

/-- The token that a call took, and those it left. -/
theorem tryAcquire_tokens (b : TokenBucket) (now : ℕ) :
    (b.tryAcquire now).1.tokens + 1000000 * (b.tryAcquire now).2.toNat = (b.refill now).tokens ∧
      (b.tryAcquire now).1.lastRefill = (b.refill now).lastRefill := by
  obtain ⟨tokens, -, -, last⟩ := take_tokens (b.refill now)
  exact ⟨tokens, last⟩

end Steps

section Limits

variable {b : TokenBucket} {rps now t a e g u : ℕ}

/-- What is left of the time since the last refill is less than a microsecond,
beyond what no count holds. -/
structure Settled (b : TokenBucket) (t : ℕ) : Prop where
  past : b.lastRefill ≤ t
  whole : (t - b.lastRefill) / 1000 % range = 0

theorem refill_settled (settled : Settled b t) (later : t ≤ now) (sized : Sized rps b)
    (most : rps * 1000000 < range) : Settled (b.refill now) now := by
  have past := settled.past
  rcases refill_cases sized most now with ⟨none_, is⟩ | ⟨-, -, is⟩ | ⟨-, -, is⟩
  · rw [is]
    exact ⟨by omega, none_⟩
  · rw [is]
    exact ⟨le_rfl, by simp⟩
  · rw [is]
    unfold TokenBucket.elapsedMicros range
    constructor
    · simp only
      omega
    · simp only [range]
      omega

/-- What a refill adds is no more than the whole microseconds that passed. -/
theorem refill_adds (settled : Settled b t) (later : t ≤ now) (sized : Sized rps b)
    (most : rps * 1000000 < range) : ∃ micros, (b.refill now).tokens ≤ b.tokens + rps * micros ∧
      1000 * micros + (now - (b.refill now).lastRefill) % 1000 ≤
        now - t + (t - b.lastRefill) % 1000 := by
  have past := settled.past
  have whole := settled.whole
  rcases refill_cases sized most now with ⟨-, is⟩ | ⟨-, full, is⟩ | ⟨-, -, is⟩
  · rw [is]
    exact ⟨0, by omega, by omega⟩
  · rw [is]
    refine ⟨b.elapsedMicros now, full, ?_⟩
    unfold TokenBucket.elapsedMicros range at *
    simp only
    omega
  · rw [is]
    refine ⟨b.elapsedMicros now, le_rfl, ?_⟩
    unfold TokenBucket.elapsedMicros range at *
    simp only
    omega

/-- The grants so far and the tokens left, against the time from `a` on. -/
structure Spent (rps a g : ℕ) (b : TokenBucket) (t : ℕ) : Prop where
  sized : Sized rps b
  settled : Settled b t
  after : a ≤ t
  spent : ∃ u, b.tokens + 1000000 * g ≤ rps * 1000000 + rps * u ∧
    1000 * u + (t - b.lastRefill) % 1000 ≤ t - a + 999

theorem Spent.step (spent : Spent rps a g b t) (later : t ≤ now) (most : rps * 1000000 < range) :
    Spent rps a (g + (b.tryAcquire now).2.toNat) (b.tryAcquire now).1 now := by
  obtain ⟨u, tokens, time⟩ := spent.spent
  obtain ⟨micros, added, passed⟩ := refill_adds spent.settled later spent.sized most
  obtain ⟨taken, same⟩ := tryAcquire_tokens b now
  have settled := refill_settled spent.settled later spent.sized most
  have after := spent.after
  refine ⟨tryAcquire_sized spent.sized most now, ⟨?_, ?_⟩, by omega, u + micros, ?_, ?_⟩
  · rw [same]
    exact settled.past
  · rw [same]
    exact settled.whole
  · rw [Nat.mul_add rps]
    omega
  · rw [same]
    omega

/-- The first call of a window finds no more than the capacity. -/
theorem Spent.first (sized : Sized rps b) (settled : Settled b t) (later : t ≤ now)
    (from_ : a ≤ now) (most : rps * 1000000 < range) :
    Spent rps a (b.tryAcquire now).2.toNat (b.tryAcquire now).1 now := by
  have refilled := refill_sized sized most now
  have bounded := refilled.bounded
  have settled' := refill_settled settled later sized most
  obtain ⟨taken, same⟩ := tryAcquire_tokens b now
  refine ⟨tryAcquire_sized sized most now, ⟨?_, ?_⟩, from_, 0, by omega, ?_⟩
  · rw [same]
    exact settled'.past
  · rw [same]
    exact settled'.whole
  · rw [same]
    omega

/-- A window that is not over spends no more than its time allows. -/
theorem Spent.bound (spent : Spent rps a g b t) (within : t ≤ e) :
    g * 1000000 ≤ rps * 1000000 + rps * ((e - a) / 1000 + 1) := by
  obtain ⟨u, tokens, time⟩ := spent.spent
  have after := spent.after
  have micros : u ≤ (e - a) / 1000 + 1 := by omega
  have scaled := Nat.mul_le_mul_left rps micros
  omega

theorem grantsWithin_cons (a e : ℕ) (c : Call) (cs : List Call) : grantsWithin a e (c :: cs) =
    (if a ≤ c.instant ∧ c.instant ≤ e then c.granted.toNat else 0) + grantsWithin a e cs := by
  unfold grantsWithin
  rw [List.countP_cons]
  by_cases inside : a ≤ c.instant ∧ c.instant ≤ e
  · cases c.granted <;> simp [inside, Nat.add_comm]
  · simp [inside]

theorem grantsWithin_past {cs : List Call} (past : ∀ c ∈ cs, e < c.instant) :
    grantsWithin a e cs = 0 := by
  unfold grantsWithin
  rw [List.countP_eq_zero]
  intro c mem
  have beyond := past c mem
  simp only [Bool.and_eq_true, decide_eq_true_eq]
  omega

theorem calls_instants (b : TokenBucket) (instants : List ℕ) :
    (calls b instants).map Call.instant = instants := by
  induction instants generalizing b with
  | nil => rfl
  | cons now later ih => rw [calls, List.map_cons, ih]; rfl

theorem calls_after {instants : List ℕ} (after : ∀ i ∈ instants, e < i) :
    ∀ c ∈ calls b instants, e < c.instant := by
  intro c mem
  apply after
  rw [← calls_instants b instants]
  exact List.mem_map_of_mem mem

/-- Inside a window, by induction over the calls that are left. -/
theorem spent_run (most : rps * 1000000 < range) (instants : List ℕ)
    (spent : Spent rps a g b t) (within : t ≤ e) (ordered : (t :: instants).Pairwise (· ≤ ·)) :
    (g + grantsWithin a e (calls b instants)) * 1000000 ≤
      rps * 1000000 + rps * ((e - a) / 1000 + 1) := by
  induction instants generalizing b t g with
  | nil => exact spent.bound within
  | cons now later ih =>
    obtain ⟨first, ordered'⟩ := List.pairwise_cons.mp ordered
    have next := first now List.mem_cons_self
    by_cases inside : now ≤ e
    · have step := spent.step next most
      have rest := ih step inside ordered'
      have from_ := step.after
      rw [calls, grantsWithin_cons, if_pos ⟨from_, inside⟩, ← Nat.add_assoc]
      exact rest
    · have past : grantsWithin a e (calls b (now :: later)) = 0 := by
        apply grantsWithin_past
        apply calls_after
        intro i mem
        rcases List.mem_cons.mp mem with rfl | mem'
        · omega
        · have := (List.pairwise_cons.mp ordered').1 i mem'
          omega
      rw [past]
      exact spent.bound within

/-- Before a window, by induction over the calls that are left. -/
theorem window_run (most : rps * 1000000 < range) (instants : List ℕ)
    (sized : Sized rps b) (settled : Settled b t) (ordered : (t :: instants).Pairwise (· ≤ ·)) :
    grantsWithin a e (calls b instants) * 1000000 ≤
      rps * 1000000 + rps * ((e - a) / 1000 + 1) := by
  induction instants generalizing b t with
  | nil =>
    rw [calls, grantsWithin_past (fun c mem => absurd mem List.not_mem_nil), Nat.zero_mul]
    exact Nat.zero_le _
  | cons now later ih =>
    obtain ⟨first, ordered'⟩ := List.pairwise_cons.mp ordered
    have next := first now List.mem_cons_self
    by_cases started : a ≤ now
    · by_cases inside : now ≤ e
      · have spent := Spent.first sized settled next started most
        rw [calls, grantsWithin_cons, if_pos ⟨started, inside⟩]
        exact spent_run most later spent inside ordered'
      · have past : grantsWithin a e (calls b (now :: later)) = 0 := by
          apply grantsWithin_past
          apply calls_after
          intro i mem
          rcases List.mem_cons.mp mem with rfl | mem'
          · omega
          · have := (List.pairwise_cons.mp ordered').1 i mem'
            omega
        rw [past, Nat.zero_mul]
        exact Nat.zero_le _
    · have settled' := refill_settled settled next sized most
      have same := (tryAcquire_tokens b now).2
      have outside : ¬ (a ≤ (call b now).instant ∧ (call b now).instant ≤ e) :=
        fun inside => started inside.1
      rw [calls, grantsWithin_cons, if_neg outside, Nat.zero_add]
      exact ih (tryAcquire_sized sized most now)
        ⟨same ▸ settled'.past, same ▸ settled'.whole⟩ ordered'

end Limits

section Refusals

variable {b : TokenBucket} {rps now t s n : ℕ}

/-- Since the bucket was full at `s`, its tokens are those of the time that its
refills cover, less those of the `n` grants. -/
structure Filled (rps s n : ℕ) (b : TokenBucket) (t : ℕ) : Prop where
  sized : Sized rps b
  past : b.lastRefill ≤ t
  recent : t - b.lastRefill < 1000
  filled : ∃ first k, first ≤ s ∧ b.lastRefill = first + 1000 * k ∧
    b.tokens + 1000000 * n = rps * 1000000 + rps * k

theorem Filled.refill (filled : Filled rps s n b t) (later : t ≤ now)
    (held : (now - b.lastRefill) / 1000 < range) (most : rps * 1000000 < range) :
    if (b.refill now).tokens = b.capacityMicrotokens then Filled rps now 0 (b.refill now) now
    else Filled rps s n (b.refill now) now := by
  obtain ⟨first, k, before, last, tokens⟩ := filled.filled
  have past := filled.past
  have sized := refill_sized filled.sized most now
  have micros : b.elapsedMicros now = (now - b.lastRefill) / 1000 := Nat.mod_eq_of_lt held
  rcases refill_cases filled.sized most now with ⟨none_, is⟩ | ⟨-, -, is⟩ | ⟨-, below, is⟩
  · rw [is]
    have recent : now - b.lastRefill < 1000 := by omega
    by_cases full : b.tokens = b.capacityMicrotokens
    · rw [if_pos full]
      have top := full.trans filled.sized.capacity
      refine ⟨filled.sized, by omega, recent, b.lastRefill, 0, by omega, rfl, ?_⟩
      rw [Nat.mul_zero, Nat.mul_zero, top]
    · rw [if_neg full]
      exact ⟨filled.sized, by omega, recent, first, k, before, last, tokens⟩
  · rw [is] at sized ⊢
    rw [if_pos filled.sized.capacity.symm]
    refine ⟨sized, le_rfl, by simp, now, 0, le_rfl, rfl, ?_⟩
    simp only [Nat.mul_zero, Nat.add_zero]
  · rw [is] at sized ⊢
    have apart : ¬ b.tokens + rps * b.elapsedMicros now = b.capacityMicrotokens := by
      rw [filled.sized.capacity]
      omega
    rw [if_neg apart]
    refine ⟨sized, by simp only; omega, by simp only; omega, first, k + b.elapsedMicros now, before,
      by simp only; omega, ?_⟩
    rw [Nat.mul_add rps]
    simp only
    omega

theorem Filled.take (filled : Filled rps s n b t) :
    Filled rps s (n + b.take.2.toNat) b.take.1 t := by
  obtain ⟨first, k, before, last, tokens⟩ := filled.filled
  obtain ⟨taken, capacity, rate, same⟩ := take_tokens b
  have bounded := filled.sized.bounded
  refine ⟨⟨capacity.trans filled.sized.capacity, rate.trans filled.sized.rate, by omega⟩, ?_, ?_,
    first, k, before, same.trans last, by omega⟩
  · rw [same]
    exact filled.past
  · rw [same]
    exact filled.recent

/-- What a call does to the time since the bucket was full. -/
theorem Filled.call (filled : Filled rps s n b t) (later : t ≤ now)
    (held : (now - b.lastRefill) / 1000 < range) (most : rps * 1000000 < range) :
    let since := if (call b now).full then (now, (call b now).granted.toNat)
      else (s, n + (call b now).granted.toNat)
    Filled rps since.1 since.2 (b.tryAcquire now).1 now := by
  have refilled := filled.refill later held most
  by_cases full : (b.refill now).tokens = b.capacityMicrotokens
  · have is : (TokenBuckets.call b now).full = true := by simpa [TokenBuckets.call] using full
    rw [if_pos full] at refilled
    have taken := refilled.take
    rw [Nat.zero_add] at taken
    simp only [is, if_true]
    exact taken
  · have is : (TokenBuckets.call b now).full = false := by simpa [TokenBuckets.call] using full
    rw [if_neg full] at refilled
    simp only [is, Bool.false_eq_true, if_false]
    exact refilled.take

/-- A call is refused for the time and the grants since the bucket was full. -/
theorem Filled.refused (filled : Filled rps s n b t) (later : t ≤ now)
    (held : (now - b.lastRefill) / 1000 < range) (least : 1 ≤ rps)
    (most : rps * 1000000 < range) (refused : (TokenBuckets.call b now).granted = false) :
    rps * 1000000 + rps * ((now - s) / 1000) < 1000000 + 1000000 * n := by
  have empty := take_refused (b := b.refill now) refused
  have capacity := filled.sized.capacity
  have refilled := filled.refill later held most
  rw [if_neg (by omega)] at refilled
  obtain ⟨first, k, before, last, tokens⟩ := refilled.filled
  have past := refilled.past
  have recent := refilled.recent
  have covered : (now - s) / 1000 ≤ k := by omega
  calc rps * 1000000 + rps * ((now - s) / 1000) ≤ rps * 1000000 + rps * k :=
        Nat.add_le_add_left (Nat.mul_le_mul_left rps covered) _
    _ = (b.refill now).tokens + 1000000 * n := tokens.symm
    _ < 1000000 + 1000000 * n := Nat.add_lt_add_right empty _

/-- By induction over the calls, with the time since the bucket was full. -/
theorem refused_run (least : 1 ≤ rps) (most : rps * 1000000 < range) (instants : List ℕ)
    (filled : Filled rps s n b t) (ordered : (t :: instants).Pairwise (· ≤ ·))
    (held : Held b instants) (earlier : List Call) (c : Call) (later : List Call)
    (is : calls b instants = earlier ++ c :: later) (refused : c.granted = false) :
    rps * 1000000 + rps * ((c.instant - (sinceFull s n earlier).1) / 1000) <
      1000000 + 1000000 * (sinceFull s n earlier).2 := by
  induction instants generalizing b t s n earlier with
  | nil => exact absurd is.symm (by simp [calls])
  | cons now rest ih =>
    obtain ⟨first, ordered'⟩ := List.pairwise_cons.mp ordered
    have next := first now List.mem_cons_self
    obtain ⟨gap, held'⟩ := held
    rw [calls] at is
    cases earlier with
    | nil =>
      obtain ⟨rfl, -⟩ := List.cons.inj is
      exact filled.refused next gap least most refused
    | cons c' earlier =>
      obtain ⟨rfl, is'⟩ := List.cons.inj is
      have step := filled.call next gap most
      have onwards := ih step ordered' held' earlier is'
      by_cases full : (TokenBuckets.call b now).full = true
      · simp only [full, if_true] at onwards
        rw [sinceFull, if_pos full]
        exact onwards
      · simp only [full] at onwards
        rw [sinceFull, if_neg full]
        exact onwards

end Refusals

section Runs

variable {rps start : ℕ} {instants : List ℕ}

theorem run_sized {b : TokenBucket} (sized : Sized rps b) (most : rps * 1000000 < range)
    (instants : List ℕ) : Sized rps (run b instants) := by
  induction instants generalizing b with
  | nil => exact sized
  | cons now later ih => exact ih (tryAcquire_sized sized most now)

theorem new_filled (least : 1 ≤ rps) (most : rps * 1000000 < range) (start : ℕ) :
    Filled rps start 0 (.new rps start) start := by
  have sized := new_sized least most start
  have tokens : (TokenBucket.new rps start).tokens = rps * 1000000 := sized.capacity
  exact ⟨sized, le_rfl, by simp [TokenBucket.new], start, 0, le_rfl, rfl,
    by rw [Nat.mul_zero, Nat.mul_zero, tokens]⟩

theorem token_bucket_law (least : 1 ≤ rps) (most : rps * 1000000 < range)
    (ordered : (start :: instants).Pairwise (· ≤ ·)) (held : Held (.new rps start) instants) :
    Law rps start instants := by
  have sized := new_sized least most start
  have filled := new_filled least most start
  have settled : Settled (.new rps start) start := ⟨le_rfl, by simp [TokenBucket.new]⟩
  constructor
  · exact (run_sized sized most instants).bounded
  · intro a e _
    exact window_run most instants sized settled ordered
  · intro earlier c later is refused
    exact refused_run least most instants filled ordered held earlier c later is refused

theorem token_bucket_law_one_per_second : Law 1 0 [0, 500000000, 1000000000] :=
  token_bucket_law le_rfl (by decide) (by decide) (by decide)

/-- A gap of 2^64 microseconds counts as none. -/
theorem gap_lost : ¬ ∀ (rps start : ℕ) (instants : List ℕ), 1 ≤ rps → rps * 1000000 < range →
    (start :: instants).Pairwise (· ≤ ·) → Law rps start instants := by
  intro claimed
  have law := claimed 1 0 [0, 18446744073709551616000] le_rfl (by decide) (by decide)
  have refused := law.refused [⟨0, true, true⟩] ⟨18446744073709551616000, false, false⟩ []
    (by decide) rfl
  exact absurd refused (by decide)

end Runs

end OpenWrapper.TokenBuckets
