import OpenWrapper.SignatureVerdicts

/-! # The sliding window

Replicas count their calls in one cache, by the second. A call is granted by
the count of its own second and a share of the count before, which is rounded
down: a limit of less calls than there are milliseconds leaves a share of none.
-/

set_option autoImplicit false

namespace OpenWrapper.SlidingWindows
open OpenWrapper.Doubles OpenWrapper.MachineIntegers OpenWrapper.SignatureVerdicts

/-- A count, and the millisecond at which it is gone. -/
structure Entry where
  count : ℤ
  deadline : ℕ

abbrev Cache := String → Option Entry

namespace Cache

def empty : Cache := fun _ => none

def get (c : Cache) (now : ℕ) (key : String) : Option ℤ :=
  match c key with
  | none => none
  | some e => if now < e.deadline then some e.count else none

/-- `INCR`, `EXPIRE` and `GET` in one transaction. A count that would leave an
`i64` is an error of the whole. -/
def pipeline (c : Cache) (now : ℕ) (curr prev : String) (seconds : ℤ) :
    Cache × Option (ℤ × Option ℤ) :=
  let deadline := now + 1000 * seconds.toNat
  match i64.checked ((c.get now curr).getD 0 + 1) with
  | none => (Function.update c curr ((c curr).map fun e => { e with deadline }), none)
  | some count =>
    let counted := Function.update c curr (some ⟨count, deadline⟩)
    (counted, some (count, get counted now prev))

end Cache

/-- `saturating_add` on `i64`. -/
def saturatingAdd (a b : ℤ) : ℤ := max (-9223372036854775808) (min (a + b) 9223372036854775807)

/-- `saturating_mul` on `u64`. -/
def saturatingMul (a b : ℕ) : ℕ := min (a * b) 18446744073709551615

def key (bucket : ℕ) : String := "openwrapper:ratelimit:" ++ toString bucket

structure DistributedLimiter where
  limit : ℤ
  windowSecs : ℕ

def distributed (requestsPerSec : ℕ) : DistributedLimiter :=
  ⟨i64.wrap (max 1 requestsPerSec : ℕ), 1⟩

namespace DistributedLimiter

def windowMs (l : DistributedLimiter) : ℕ := saturatingMul (max 1 l.windowSecs) 1000

/-- The estimate of the calls in the trailing window. -/
def estimatedTotal (l : DistributedLimiter) (now : ℕ) (curr : ℤ) (prev : Option ℤ) : ℤ :=
  let delta := i64.wrap (now % l.windowMs : ℕ)
  let prevCount := max (prev.getD 0) 0
  let prevWeighted := i64.wrap ((prevCount * (i64.wrap l.windowMs - delta)).tdiv l.windowMs)
  saturatingAdd curr prevWeighted

/-- A cache that answers with an error lets the call through. -/
def tryAcquire (l : DistributedLimiter) (c : Cache) (now : ℕ) : Cache × Bool :=
  let bucket := now / l.windowMs
  let result := c.pipeline now (key bucket) (key (bucket - 1))
    (i64.wrap (saturatingMul l.windowSecs 5))
  match result.2 with
  | some (curr, prev) => (result.1, decide (l.estimatedTotal now curr prev ≤ l.limit))
  | none => (result.1, true)

end DistributedLimiter

/-- The limiter of every limit that is a count. -/
theorem distributed_eq {requestsPerSec : ℕ} (positive : 1 ≤ requestsPerSec)
    (fits : i64.Fits requestsPerSec) : distributed requestsPerSec = ⟨requestsPerSec, 1⟩ := by
  unfold distributed
  rw [max_eq_right positive, Kind.wrap_of_fits fits]

/-- The cache, and the instants of the calls that were granted. -/
structure Run where
  cache : Cache
  granted : List ℕ

def call (l : DistributedLimiter) (r : Run) (now : ℕ) : Run :=
  let (cache, granted) := l.tryAcquire r.cache now
  ⟨cache, if granted then r.granted ++ [now] else r.granted⟩

def run (l : DistributedLimiter) (instants : List ℕ) : Run :=
  instants.foldl (call l) ⟨.empty, []⟩

/-- What the calls read from the one clock, in milliseconds. -/
structure Readings (instants : List ℕ) : Prop where
  inRange : ∀ now ∈ instants, now < 18446744073709551616
  ordered : instants.Pairwise (· ≤ ·)

/-- No call finds the cache in error. -/
def Faultless (l : DistributedLimiter) (instants : List ℕ) : Prop :=
  ∀ earlier now later, instants = earlier ++ now :: later →
    ((run l earlier).cache.pipeline now (key (now / l.windowMs)) (key (now / l.windowMs - 1))
      (i64.wrap (saturatingMul l.windowSecs 5))).2.isSome = true

def grantsWithin (a b : ℕ) (granted : List ℕ) : ℕ :=
  granted.countP fun now => decide (a ≤ now ∧ now ≤ b)

/-- No window of one second, closed at both ends, holds twice the limit. -/
def Eliminates (limit : ℤ) : Prop :=
  ∀ instants, Readings instants → Faultless ⟨limit, 1⟩ instants → ∀ a b, a ≤ b → b ≤ a + 1000 →
    (grantsWithin a b (run ⟨limit, 1⟩ instants).granted : ℤ) < 2 * limit

section Counting

variable {past : List ℕ} {now k : ℕ}

theorem key_injective {j k : ℕ} (same : key j = key k) : j = k := by
  have digits : Nat.toDigits 10 j = Nat.toDigits 10 k := by
    have texts := congrArg String.toList same
    unfold key at texts
    rw [String.toList_append, String.toList_append] at texts
    have texts' : (toString j).toList = (toString k).toList := List.append_cancel_left texts
    exact String.toList_ofList.symm.trans (texts'.trans String.toList_ofList)
  rw [← digitsValue_toDigits j, digits, digitsValue_toDigits]

/-- The calls of one second. -/
def callsIn (k : ℕ) (instants : List ℕ) : ℕ := instants.countP fun now => now / 1000 == k

theorem callsIn_snoc (k : ℕ) (past : List ℕ) (now : ℕ) :
    callsIn k (past ++ [now]) = callsIn k past + if now / 1000 = k then 1 else 0 := by
  unfold callsIn
  rw [List.countP_append, List.countP_cons, List.countP_nil, Nat.zero_add]
  simp only [beq_iff_eq]

theorem callsIn_none (before : ∀ t ∈ past, t / 1000 ≠ k) : callsIn k past = 0 := by
  unfold callsIn
  rw [List.countP_eq_zero]
  intro t mem
  simpa using before t mem

/-- The cache counts the calls of every second, and keeps a count for longer
than the next second lasts. -/
structure Kept (past : List ℕ) (c : Cache) : Prop where
  missing : ∀ k, callsIn k past = 0 → c (key k) = none
  counted : ∀ k, 0 < callsIn k past → ∃ e, c (key k) = some e ∧ e.count = callsIn k past ∧
    k * 1000 + 5000 ≤ e.deadline
  fits : ∀ k, callsIn k past < 9223372036854775808

theorem Kept.get {c : Cache} (kept : Kept past c) (recent : now < k * 1000 + 5000) :
    (c.get now (key k)).getD 0 = callsIn k past := by
  unfold Cache.get
  by_cases none_ : callsIn k past = 0
  · rw [kept.missing k none_, none_]
    rfl
  · obtain ⟨e, is, count, later⟩ := kept.counted k (by omega)
    rw [is]
    simp only
    rw [if_pos (by omega), count]
    rfl

theorem Kept.empty : Kept [] .empty where
  missing _ _ := rfl
  counted k some_ := absurd some_ (by simp [callsIn])
  fits k := by simp [callsIn]

end Counting

section Calls

variable {past : List ℕ} {c : Cache} {limit : ℤ} {now : ℕ}

theorem windowMs_second (limit : ℤ) : (DistributedLimiter.mk limit 1).windowMs = 1000 := by
  unfold DistributedLimiter.windowMs saturatingMul
  simp only [max_self]
  omega

/-- The share of the second before that the estimate counts. -/
def share (past : List ℕ) (now : ℕ) : ℕ :=
  callsIn (now / 1000 - 1) past * (1000 - now % 1000) / 1000

/-- Where the second holds its calls, the transaction counts one more. -/
theorem Kept.pipeline (kept : Kept past c) (now : ℕ) (seconds : ℤ)
    (room : callsIn (now / 1000) past + 1 < 9223372036854775808) :
    c.pipeline now (key (now / 1000)) (key (now / 1000 - 1)) seconds =
      let counted := Function.update c (key (now / 1000))
        (some ⟨callsIn (now / 1000) past + 1, now + 1000 * seconds.toNat⟩)
      (counted, some ((callsIn (now / 1000) past + 1 : ℤ),
        Cache.get counted now (key (now / 1000 - 1)))) := by
  have recent : now < now / 1000 * 1000 + 5000 := by omega
  have count := kept.get recent
  have fits : i64.Fits ((callsIn (now / 1000) past : ℤ) + 1) := i64_fits.mpr (by omega)
  unfold Cache.pipeline
  rw [count, Kind.checked_of_fits fits]

theorem Kept.error (kept : Kept past c) (now : ℕ) (seconds : ℤ)
    (full : ¬ callsIn (now / 1000) past + 1 < 9223372036854775808) :
    (c.pipeline now (key (now / 1000)) (key (now / 1000 - 1)) seconds).2 = none := by
  have recent : now < now / 1000 * 1000 + 5000 := by omega
  have count := kept.get recent
  have large : ¬ i64.Fits ((callsIn (now / 1000) past : ℤ) + 1) := by
    rw [i64_fits]
    omega
  unfold Cache.pipeline
  rw [count, Kind.checked_of_not_fits large]

theorem Kept.counts (kept : Kept past c)
    (room : callsIn (now / 1000) past + 1 < 9223372036854775808) :
    Kept (past ++ [now]) (Function.update c (key (now / 1000))
      (some ⟨callsIn (now / 1000) past + 1, now + 1000 * 5⟩)) := by
  constructor
  · intro k none_
    rw [callsIn_snoc] at none_
    have other : ¬ now / 1000 = k := by
      intro same
      rw [if_pos same] at none_
      omega
    rw [Function.update_of_ne (fun same => other (key_injective same).symm)]
    exact kept.missing k (by omega)
  · intro k some_
    rw [callsIn_snoc] at some_ ⊢
    by_cases same : now / 1000 = k
    · subst same
      rw [if_pos rfl, Function.update_self]
      exact ⟨_, rfl, by push_cast; rfl, by simp only; omega⟩
    · rw [if_neg same] at some_ ⊢
      rw [Function.update_of_ne (fun is => same (key_injective is).symm)]
      exact kept.counted k some_
  · intro k
    rw [callsIn_snoc]
    by_cases same : now / 1000 = k
    · subst same
      rw [if_pos rfl]
      exact room
    · rw [if_neg same]
      exact kept.fits k

/-- The estimate, in exact numbers. -/
theorem estimatedTotal_second {n p : ℕ} (limit : ℤ) (now : ℕ) {prev : Option ℤ}
    (is : prev.getD 0 = p) (fits : p < 9223372036854775808) :
    (DistributedLimiter.mk limit 1).estimatedTotal now n prev =
      min ((n : ℤ) + (p * (1000 - now % 1000) / 1000 : ℕ)) 9223372036854775807 := by
  have delta : i64.wrap ((now % 1000 : ℕ) : ℤ) = (now % 1000 : ℕ) :=
    Kind.wrap_of_fits (i64_fits.mpr (by omega))
  have window : i64.wrap ((1000 : ℕ) : ℤ) = 1000 := by decide
  have weighted : ((p : ℤ) * (1000 - (now % 1000 : ℕ))).tdiv 1000 =
      (p * (1000 - now % 1000) / 1000 : ℕ) := by
    have left : (1000 : ℤ) - (now % 1000 : ℕ) = (1000 - now % 1000 : ℕ) := by omega
    rw [left, ← Nat.cast_mul, Int.tdiv_eq_ediv_of_nonneg (Int.natCast_nonneg _)]
    rfl
  have small : p * (1000 - now % 1000) / 1000 ≤ p :=
    (Nat.div_le_div_right (Nat.mul_le_mul_left p (Nat.sub_le 1000 _))).trans_eq
      (Nat.mul_div_cancel p (by decide))
  have same : i64.wrap ((p * (1000 - now % 1000) / 1000 : ℕ) : ℤ) =
      (p * (1000 - now % 1000) / 1000 : ℕ) :=
    Kind.wrap_of_fits (i64_fits.mpr (by omega))
  have positive : max (p : ℤ) 0 = p := max_eq_left (Int.natCast_nonneg p)
  unfold DistributedLimiter.estimatedTotal
  simp only [windowMs_second]
  rw [is, positive, delta, window]
  have cast : ((1000 : ℕ) : ℤ) = 1000 := rfl
  rw [cast, weighted, same]
  unfold saturatingAdd
  omega

/-- The estimate that a call is answered by. -/
def estimate (past : List ℕ) (now : ℕ) : ℤ :=
  min ((callsIn (now / 1000) past : ℤ) + share past now) 9223372036854775807

/-- A call is counted, granted or not, and granted by the estimate. -/
theorem Kept.tryAcquire (limit : ℤ) (kept : Kept past c)
    (room : callsIn (now / 1000) past + 1 < 9223372036854775808) :
    Kept (past ++ [now]) ((DistributedLimiter.mk limit 1).tryAcquire c now).1 ∧
      ((DistributedLimiter.mk limit 1).tryAcquire c now).2 =
        decide (estimate (past ++ [now]) now ≤ limit) := by
  have seconds : i64.wrap (saturatingMul 1 5 : ℕ) = 5 := by decide
  have counts := kept.counts room
  have recent : now < (now / 1000 - 1) * 1000 + 5000 := by omega
  have before := counts.get recent
  have fits := counts.fits (now / 1000 - 1)
  have here : callsIn (now / 1000) (past ++ [now]) = callsIn (now / 1000) past + 1 := by
    rw [callsIn_snoc, if_pos rfl]
  have total := estimatedTotal_second limit now before fits (n := callsIn (now / 1000) past + 1)
  unfold DistributedLimiter.tryAcquire
  simp only [windowMs_second]
  rw [seconds, kept.pipeline now 5 room]
  refine ⟨counts, ?_⟩
  unfold estimate share
  rw [here, ← total]
  rfl

end Calls

section Runs

variable {limit : ℤ} {past : List ℕ} {now k : ℕ}

theorem run_snoc (l : DistributedLimiter) (past : List ℕ) (now : ℕ) :
    run l (past ++ [now]) = call l (run l past) now := by
  unfold run
  rw [List.foldl_append]
  rfl

theorem Faultless.earlier {l : DistributedLimiter} (faultless : Faultless l (past ++ [now])) :
    Faultless l past := by
  intro earlier now' later is
  apply faultless earlier now' (later ++ [now])
  rw [is, List.append_assoc, List.cons_append]

/-- The cache after a run, by induction on its last call. -/
theorem run_kept (faultless : Faultless ⟨limit, 1⟩ past) :
    Kept past (run ⟨limit, 1⟩ past).cache := by
  induction past using List.reverseRecOn with
  | nil => exact .empty
  | append_singleton past now ih =>
    have kept := ih faultless.earlier
    have room : callsIn (now / 1000) past + 1 < 9223372036854775808 := by
      by_contra full
      have answered := faultless past now [] rfl
      simp only [windowMs_second] at answered
      rw [kept.error now _ full] at answered
      cases answered
    rw [run_snoc]
    exact (kept.tryAcquire limit room).1

theorem run_granted (faultless : Faultless ⟨limit, 1⟩ (past ++ [now])) :
    (run ⟨limit, 1⟩ (past ++ [now])).granted =
      if estimate (past ++ [now]) now ≤ limit then (run ⟨limit, 1⟩ past).granted ++ [now]
      else (run ⟨limit, 1⟩ past).granted := by
  have kept := run_kept faultless.earlier
  have room := (run_kept faultless).fits (now / 1000)
  rw [callsIn_snoc, if_pos rfl] at room
  have verdict := (kept.tryAcquire limit room).2
  rw [run_snoc]
  unfold call
  simp only [verdict, decide_eq_true_eq]

/-- A second grants no more than it counts, and no more than the limit. -/
theorem granted_second (faultless : Faultless ⟨limit, 1⟩ past) (positive : 1 ≤ limit)
    (small : limit < 9223372036854775807) (k : ℕ) :
    callsIn k (run ⟨limit, 1⟩ past).granted ≤ callsIn k past ∧
      (callsIn k (run ⟨limit, 1⟩ past).granted : ℤ) ≤ limit := by
  induction past using List.reverseRecOn with
  | nil =>
    refine ⟨le_rfl, ?_⟩
    have none_ : callsIn k (run ⟨limit, 1⟩ []).granted = 0 := rfl
    rw [none_]
    omega
  | append_singleton past now ih =>
    obtain ⟨counted, limited⟩ := ih faultless.earlier
    rw [run_granted faultless]
    by_cases grant : estimate (past ++ [now]) now ≤ limit
    · rw [if_pos grant, callsIn_snoc, callsIn_snoc]
      by_cases here : now / 1000 = k
      · unfold estimate at grant
        rw [here, callsIn_snoc, if_pos here] at grant
        rw [if_pos here]
        omega
      · rw [if_neg here]
        omega
    · rw [if_neg grant, callsIn_snoc]
      omega

/-- Where a second counts a thousand calls or more, every call of the next
second has a share of at least one. -/
theorem share_pos (many : 1000 ≤ callsIn (now / 1000 - 1) past) : 1 ≤ share past now := by
  unfold share
  have left : 1 ≤ 1000 - now % 1000 := by omega
  have product := Nat.mul_le_mul many left
  omega

/-- Two seconds that follow each other grant less than twice the limit. -/
theorem granted_seconds (ordered : past.Pairwise (· ≤ ·)) (faultless : Faultless ⟨limit, 1⟩ past)
    (large : 1000 ≤ limit) (small : limit < 9223372036854775807) (k : ℕ) :
    ((callsIn k (run ⟨limit, 1⟩ past).granted +
      callsIn (k + 1) (run ⟨limit, 1⟩ past).granted : ℕ) : ℤ) < 2 * limit := by
  induction past using List.reverseRecOn with
  | nil =>
    have none_ : callsIn k (run ⟨limit, 1⟩ []).granted +
      callsIn (k + 1) (run ⟨limit, 1⟩ []).granted = 0 := rfl
    rw [none_]
    omega
  | append_singleton past now ih =>
    obtain ⟨ordered', -, last⟩ := List.pairwise_append.mp ordered
    have before := ih ordered' faultless.earlier
    have first := granted_second faultless (by omega) small k
    have counted := granted_second faultless.earlier (by omega) small
    rw [run_granted faultless] at first ⊢
    by_cases grant : estimate (past ++ [now]) now ≤ limit
    · rw [if_pos grant] at first ⊢
      rw [callsIn_snoc] at first
      rw [callsIn_snoc, callsIn_snoc]
      by_cases here : now / 1000 = k
      · -- the second after this one has not begun
        have unbegun : callsIn (k + 1) past = 0 := by
          apply callsIn_none
          intro t mem
          have := last t mem now List.mem_cons_self
          omega
        have none_ := (counted (k + 1)).1
        rw [if_pos here] at first ⊢
        rw [if_neg (by omega)]
        omega
      · rw [if_neg here]
        by_cases next : now / 1000 = k + 1
        · rw [if_pos next]
          have calls := counted k
          have calls' := counted (k + 1)
          have earlier : callsIn k (past ++ [now]) = callsIn k past := by
            rw [callsIn_snoc, if_neg here, Nat.add_zero]
          have previous : callsIn (now / 1000 - 1) (past ++ [now]) = callsIn k past := by
            rw [next, Nat.add_sub_cancel, earlier]
          unfold estimate at grant
          rw [next, callsIn_snoc, if_pos next] at grant
          by_cases many : 1000 ≤ callsIn k past
          · have large' : 1000 ≤ callsIn (now / 1000 - 1) (past ++ [now]) := by omega
            have one := share_pos large'
            omega
          · omega
        · rw [if_neg next]
          exact before
    · rw [if_neg grant]
      exact before

/-- A window of a second lies in two seconds. -/
theorem grantsWithin_le {a b : ℕ} (short : b ≤ a + 1000) (granted : List ℕ) :
    grantsWithin a b granted ≤ callsIn (a / 1000) granted + callsIn (a / 1000 + 1) granted := by
  unfold grantsWithin callsIn
  induction granted with
  | nil => exact Nat.zero_le _
  | cons now granted ih =>
    rw [List.countP_cons, List.countP_cons, List.countP_cons]
    simp only [decide_eq_true_eq, beq_iff_eq]
    by_cases inside : a ≤ now ∧ now ≤ b
    · rw [if_pos inside]
      by_cases first : now / 1000 = a / 1000
      · rw [if_pos first, if_neg (by omega)]
        omega
      · rw [if_neg first, if_pos (by omega)]
        omega
    · rw [if_neg inside]
      omega

theorem eliminates (large : 1000 ≤ limit) (small : limit < 9223372036854775807) :
    Eliminates limit := by
  intro instants readings faultless a b _ short
  have seconds := granted_seconds readings.ordered faultless large small (a / 1000)
  have window := grantsWithin_le short (run ⟨limit, 1⟩ instants).granted
  omega

end Runs

section Bursts

variable {limit : ℤ} {past : List ℕ} {now n : ℕ}

theorem Faultless.later (faultless : Faultless ⟨limit, 1⟩ past) (now : ℕ)
    (room : callsIn (now / 1000) past + 1 < 9223372036854775808) :
    Faultless ⟨limit, 1⟩ (past ++ [now]) := by
  intro earlier now' later is
  rcases List.eq_nil_or_concat later with rfl | ⟨later, last, rfl⟩
  · obtain ⟨rfl, same⟩ := List.append_inj' is rfl
    obtain ⟨rfl, -⟩ := List.cons.inj same
    simp only [windowMs_second]
    rw [(run_kept faultless).pipeline now _ room]
    rfl
  · rw [List.concat_eq_append, ← List.cons_append, ← List.append_assoc] at is
    obtain ⟨prefix_, -⟩ := List.append_inj' is rfl
    exact faultless earlier now' later prefix_

theorem callsIn_replicate (past : List ℕ) (now n : ℕ) :
    callsIn (now / 1000) (past ++ List.replicate n now) = callsIn (now / 1000) past + n := by
  induction n with
  | zero => rw [List.replicate_zero, List.append_nil, Nat.add_zero]
  | succ n ih =>
    rw [List.replicate_succ', ← List.append_assoc, callsIn_snoc, if_pos rfl, ih, Nat.add_assoc]

theorem callsIn_replicate_other {k : ℕ} (other : now / 1000 ≠ k) (past : List ℕ) (n : ℕ) :
    callsIn k (past ++ List.replicate n now) = callsIn k past := by
  induction n with
  | zero => rw [List.replicate_zero, List.append_nil]
  | succ n ih =>
    rw [List.replicate_succ', ← List.append_assoc, callsIn_snoc, if_neg other, ih, Nat.add_zero]

/-- Calls at one instant are granted while the estimate of the last one is. -/
theorem burst (now n : ℕ) (faultless : Faultless ⟨limit, 1⟩ past) (later : 1000 ≤ now)
    (room : callsIn (now / 1000) past + n < 9223372036854775808)
    (enough : min ((callsIn (now / 1000) past + n : ℤ) + share past now) 9223372036854775807 ≤
      limit) :
    Faultless ⟨limit, 1⟩ (past ++ List.replicate n now) ∧
      (run ⟨limit, 1⟩ (past ++ List.replicate n now)).granted =
        (run ⟨limit, 1⟩ past).granted ++ List.replicate n now := by
  induction n with
  | zero => simpa using faultless
  | succ n ih =>
    obtain ⟨faultless', granted⟩ := ih (by omega) (by omega)
    have here := callsIn_replicate past now n
    have still := faultless'.later now (by omega)
    have before : callsIn (now / 1000 - 1) (past ++ List.replicate n now ++ [now]) =
        callsIn (now / 1000 - 1) past := by
      rw [callsIn_snoc, if_neg (by omega), Nat.add_zero, callsIn_replicate_other (by omega)]
    have grant : estimate (past ++ List.replicate n now ++ [now]) now ≤ limit := by
      unfold share at enough
      unfold estimate share
      rw [before, callsIn_snoc, if_pos rfl, here]
      push_cast at enough ⊢
      rw [← Int.add_assoc] at enough
      exact enough
    rw [List.replicate_succ', ← List.append_assoc]
    refine ⟨still, ?_⟩
    rw [run_granted still, if_pos grant, granted, List.append_assoc]

/-- As many calls as the limit at the end of a second, and as many at the end
of the next. -/
def bursts (limit : ℕ) : List ℕ := List.replicate limit 1999 ++ List.replicate limit 2999

theorem bursts_readings (limit : ℕ) : Readings (bursts limit) := by
  constructor
  · intro now mem
    rcases List.mem_append.mp mem with first | second
    · rw [List.eq_of_mem_replicate first]
      decide
    · rw [List.eq_of_mem_replicate second]
      decide
  · unfold bursts
    rw [List.pairwise_append]
    refine ⟨List.pairwise_replicate.mpr (.inr le_rfl),
      List.pairwise_replicate.mpr (.inr le_rfl), ?_⟩
    intro a first b second
    rw [List.eq_of_mem_replicate first, List.eq_of_mem_replicate second]
    decide

/-- A small limit leaves the first burst no share in the second, and the
largest limit is where sums saturate. -/
theorem bursts_granted {limit : ℕ} (fits : limit ≤ 9223372036854775807)
    (extreme : limit < 1000 ∨ limit = 9223372036854775807) :
    Faultless ⟨limit, 1⟩ (bursts limit) ∧
      (run ⟨limit, 1⟩ (bursts limit)).granted = bursts limit := by
  have none_ : Faultless ⟨limit, 1⟩ [] := fun earlier _ _ is => by simp at is
  have unshared : share [] 1999 = 0 := rfl
  have empty : callsIn (1999 / 1000) [] = 0 := rfl
  obtain ⟨faultless, granted⟩ := burst 1999 limit none_ (by decide) (by omega)
    (by rw [unshared, empty]; omega)
  rw [List.nil_append] at faultless granted
  have first : callsIn 1 (List.replicate limit 1999) = limit := by
    have counted := callsIn_replicate [] 1999 limit
    rwa [List.nil_append, empty, Nat.zero_add] at counted
  have second : callsIn 2 (List.replicate limit 1999) = 0 :=
    callsIn_replicate_other (by decide : 1999 / 1000 ≠ 2) [] limit
  have rounded : share (List.replicate limit 1999) 2999 = limit / 1000 := by
    have before : callsIn (2999 / 1000 - 1) (List.replicate limit 1999) = limit := first
    have left : limit * (1000 - 2999 % 1000) = limit := Nat.mul_one limit
    unfold share
    rw [before, left]
  have again := burst 2999 limit faultless (by decide)
    (by rw [show 2999 / 1000 = 2 from rfl, second]; omega)
    (by rw [rounded, show 2999 / 1000 = 2 from rfl, second]; omega)
  rw [granted] at again
  exact again

theorem bursts_exceed {limit : ℕ} (fits : limit ≤ 9223372036854775807)
    (extreme : limit < 1000 ∨ limit = 9223372036854775807) : ¬ Eliminates limit := by
  intro eliminated
  obtain ⟨faultless, granted⟩ := bursts_granted fits extreme
  have window := eliminated (bursts limit) (bursts_readings limit) faultless 1999 2999
    (by decide) (by decide)
  rw [granted] at window
  have all : grantsWithin 1999 2999 (bursts limit) = (bursts limit).length := by
    unfold grantsWithin
    rw [List.countP_eq_length]
    intro now mem
    rcases List.mem_append.mp mem with first | second
    · rw [List.eq_of_mem_replicate first]
      rfl
    · rw [List.eq_of_mem_replicate second]
      rfl
  have length : (bursts limit).length = limit + limit := by
    simp [bursts]
  omega

/-- The burst is eliminated from a thousand calls a second on, up to where
sums saturate. -/
theorem boundary_burst_eliminated_iff (positive : 1 ≤ limit) (fits : i64.Fits limit) :
    Eliminates limit ↔ 1000 ≤ limit ∧ limit < 9223372036854775807 := by
  obtain ⟨n, rfl⟩ := Int.eq_ofNat_of_zero_le (by omega : 0 ≤ limit)
  have most := (i64_fits.mp fits).2
  constructor
  · intro eliminated
    by_contra outside
    have extreme : n < 1000 ∨ n = 9223372036854775807 := by omega
    exact bursts_exceed (by omega) extreme eliminated
  · rintro ⟨large, small⟩
    exact eliminates large small

theorem boundary_burst_eliminated_iff_fifty :
    Eliminates 50 ↔ 1000 ≤ (50 : ℤ) ∧ (50 : ℤ) < 9223372036854775807 :=
  boundary_burst_eliminated_iff (by decide) (by decide)

/-- A limit of one grants two calls that are two milliseconds apart. -/
theorem boundary_burst : ¬ ∀ limit : ℤ, 1 ≤ limit → i64.Fits limit → Eliminates limit := by
  intro claimed
  have none_ : Faultless ⟨1, 1⟩ [] := fun earlier _ _ is => by simp at is
  obtain ⟨faultless, first⟩ := burst 1999 1 none_ (by decide) (by decide)
    (by decide)
  obtain ⟨faultless', second⟩ := burst 2001 1 faultless (by decide) (by decide)
    (by decide)
  have readings : Readings [1999, 2001] := ⟨by decide, by decide⟩
  have window := claimed 1 le_rfl (by decide) [1999, 2001] readings faultless' 1999 2001 (by decide)
    (by decide)
  rw [first] at second
  have granted : (run ⟨1, 1⟩ [1999, 2001]).granted = [1999, 2001] := second
  rw [granted] at window
  exact absurd window (by decide)

end Bursts

end OpenWrapper.SlidingWindows
