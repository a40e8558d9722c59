import OpenWrapper.Retries
import OpenWrapper.SdkRequests

/-! # Attempts under one key

All attempts of a call are one request, sent again. Whether it carries a key is
decided before the first: `payments.create` always has one, `refunds.create`
only the caller's. -/

set_option autoImplicit false

namespace OpenWrapper.SdkRetries
open OpenWrapper.JsonValue OpenWrapper.Retries OpenWrapper.SafeIntegers OpenWrapper.SdkRequests

section Property

def keyHeader : String := "Idempotency-Key"

/-- The attempts of one call: one key and one body for all, and not too many. -/
structure Idempotent (maxRetries : ℕ) (sent : List Request) : Prop where
  keyed : 1 < sent.length → ∃ key body, key ≠ "" ∧
    ∀ r ∈ sent, r.header keyHeader = some key ∧ r.body = body
  bounded : sent.length ≤ maxRetries + 1

def Keyed (r : Request) : Prop := ∃ key, key ≠ "" ∧ r.header keyHeader = some key

theorem idempotent_replicate {maxRetries n : ℕ} {r : Request} :
    Idempotent maxRetries (List.replicate n r) ↔ (1 < n → Keyed r) ∧ n ≤ maxRetries + 1 := by
  constructor
  · intro idempotent
    constructor
    · intro more
      obtain ⟨key, body, some_, same⟩ := idempotent.keyed (by simpa using more)
      exact ⟨key, some_, (same r (List.mem_replicate.mpr ⟨by omega, rfl⟩)).1⟩
    · simpa using idempotent.bounded
  · rintro ⟨keyed, bounded⟩
    constructor
    · intro more
      obtain ⟨key, some_, is⟩ := keyed (by simpa using more)
      refine ⟨key, r.body, some_, fun r' mem => ?_⟩
      rw [List.eq_of_mem_replicate mem]
      exact ⟨is, rfl⟩
    · simpa using bounded

theorem idempotent_limited {maxRetries limit n : ℕ} {r : Request} {fates : List Fate}
    (few : limit ≤ maxRetries + 1) (is : n = min limit (patience fates)) :
    Idempotent maxRetries (List.replicate n r) ↔ Keyed r ∨ ¬ (1 < limit ∧ 1 < patience fates) := by
  have bound : n ≤ maxRetries + 1 := by omega
  have two : 1 < n ↔ 1 < limit ∧ 1 < patience fates := by omega
  rw [idempotent_replicate, two]
  simp only [bound, and_true]
  tauto

theorem idempotent_nil (maxRetries : ℕ) : Idempotent maxRetries [] := by
  constructor
  · simp
  · simp

/-- The call has a key when its first attempt is sent. -/
def Call.keyed (call : Call) : Bool :=
  match call.operation with
  | .createPayment _ _ => true
  | .createRefund _ _ _ => call.idempotencyKey.any (· != "")

theorem providerHeaders_unkeyed {given : String → Bool} {p : ProviderCredentials} :
    (providerHeaders given p).find? (fun h => h.1 == keyHeader) = none := by
  rw [List.find?_eq_none]
  intro h mem
  obtain ⟨entry, listed, is⟩ := List.mem_filterMap.mp mem
  obtain ⟨value, -, rfl⟩ := Option.map_eq_some_iff.mp is
  simp only [List.mem_cons, List.not_mem_nil, or_false] at listed
  rcases listed with rfl | rfl | rfl | rfl | rfl | rfl | rfl | rfl | rfl <;>
    simp [keyHeader]

/-- The key among the headers that are set for the call. -/
theorem keyed_iff {r : Request} {headers : List (String × String)}
    (before after : List (String × String)) (is : r.headers = before ++ headers ++ after)
    (unkeyed : before.find? (fun h => h.1 == keyHeader) = none)
    (unkeyed' : after.find? (fun h => h.1 == keyHeader) = none) :
    Keyed r ↔ ∃ key, key ≠ "" ∧
      (headers.find? fun h => h.1 == keyHeader).map Prod.snd = some key := by
  unfold Keyed Request.header
  rw [is, List.find?_append, List.find?_append, unkeyed, unkeyed', Option.none_or, Option.or_none]

theorem validKey_ne {key : String} (valid : validKey key = true) : key ≠ "" := by
  rintro rfl
  cases valid

end Property

namespace TypeScript

open SdkRequests.TypeScript

section Attempts

def fate : Turn → Fate
  | .aborted => .withheld
  | .failed aborted _ _ waited => if !aborted && waited then .again else .last
  | .answered _ => .last

theorem loop_sent (timeoutMs : ℤ) (r : Request) (max attempt : ℕ) (turns : List Turn) :
    (loop timeoutMs r max attempt turns).sent = List.replicate
      (attempts (below max) (fun n => toNumber (n + 1)) attempt
        (turns.map fate)) r := by
  induction turns generalizing attempt with
  | nil => rfl
  | cons turn turns ih =>
    by_cases more : attempt < max
    · rw [List.map_cons, attempts_going (decide_eq_true more)]
      cases turn with
      | aborted =>
        rw [loop, if_pos more]
        rfl
      | answered response =>
        rw [loop, if_pos more]
        rfl
      | failed aborted timedOut message waited =>
        rw [loop, if_pos more]
        cases aborted with
        | true => rfl
        | false =>
          simp only [Bool.false_eq_true, if_false, fate, Bool.not_false, Bool.true_and]
          by_cases last : max ≤ toNumber (attempt + 1)
          · have stops : below max (toNumber (attempt + 1)) = false :=
              decide_eq_false (not_lt.mpr last)
            rw [if_pos last]
            cases waited with
            | true => simp [attempts_stopped stops]
            | false => rfl
          · rw [if_neg last]
            cases waited with
            | true =>
              simp only [if_true, Trace.after, ih]
              rfl
            | false => rfl
    · rw [attempts_stopped (decide_eq_false more)]
      cases turn <;> simp [loop, more]

/-- The attempts of a client with this many retries. -/
def made (maxRetries : ℕ) (turns : List Turn) : ℕ :=
  attempts (below (toNumber (maxRetries + 1))) (fun n => toNumber (n + 1)) 0
    (turns.map fate)

theorem made_counted {maxRetries : ℕ} (counted : maxRetries ≤ 2 ^ 53) (turns : List Turn) :
    ∃ limit, limit ≤ maxRetries + 1 ∧ (1 < limit ↔ 0 < maxRetries) ∧
      made maxRetries turns = min limit (patience (turns.map fate)) := by
  obtain ⟨limit, is, small, below, many⟩ : ∃ limit, toNumber (maxRetries + 1) = limit ∧
      limit ≤ 2 ^ 53 ∧ limit ≤ maxRetries + 1 ∧ (1 < limit ↔ 0 < maxRetries) := by
    by_cases top : maxRetries = 2 ^ 53
    · exact ⟨2 ^ 53, by rw [top, toNumber_gap], le_refl _, by omega, by omega⟩
    · exact ⟨maxRetries + 1, toNumber_small (by omega), by omega, le_refl _, by omega⟩
  refine ⟨limit, below, many, ?_⟩
  rw [made, is]
  exact attempts_limited (fun n inside => toNumber_small (by omega))
    (fun n inside => decide_eq_true inside) (decide_eq_false (lt_irrefl _)) (Nat.zero_le _) _

theorem made_uncounted {maxRetries : ℕ} (uncounted : 2 ^ 53 < maxRetries) (turns : List Turn) :
    made maxRetries turns = patience (turns.map fate) := by
  have far := toNumber_large (by omega : 2 ^ 53 + 2 ≤ maxRetries + 1)
  apply attempts_unlimited fun n => n ≤ 2 ^ 53
  · intro n inside
    by_cases top : n = 2 ^ 53
    · rw [top, toNumber_gap]
    · rw [toNumber_small (by omega)]
      omega
  · intro n inside
    exact decide_eq_true (by omega)
  · exact Nat.zero_le _

end Attempts

section Condition

/-- The checks before the first attempt. -/
def accepts (c : Client) (call : Call) (timeoutMs : Option ℤ) (randomUUID : String) : Bool :=
  positiveInteger (timeoutMs.getD c.timeoutMs) &&
  match call.operation with
  | .createPayment params _ => positiveInteger params.amountMinorUnits &&
      decide (params.amountMinorUnits ≤ 1000000000) &&
      validKey (call.idempotencyKey.getD randomUUID)
  | .createRefund paymentId amount _ => paymentId != "" && positiveInteger amount &&
      decide (amount ≤ 1000000000)

/-- A round after the first is made. -/
def Repeats (c : Client) (turns : List Turn) : Prop :=
  0 < c.maxRetries ∧ 1 < patience (turns.map fate)

/-- Beyond `2 ^ 53` the counter of the loop stands still. -/
def Counts (c : Client) (turns : List Turn) : Prop :=
  c.maxRetries ≤ 2 ^ 53 ∨ patience (turns.map fate) ≤ c.maxRetries + 1

variable {c : Client} {call : Call} {timeoutMs : Option ℤ} {randomUUID : String}
  {turns : List Turn}

theorem idempotent_made {r : Request} : Idempotent c.maxRetries
    (List.replicate (made c.maxRetries turns) r) ↔ (Keyed r ∨ ¬ Repeats c turns) ∧ Counts c turns := by
  unfold Repeats Counts
  by_cases counted : c.maxRetries ≤ 2 ^ 53
  · obtain ⟨limit, few, many, is⟩ := made_counted counted turns
    rw [idempotent_limited few is, many]
    simp only [counted, true_or, and_true]
  · rw [idempotent_replicate, made_uncounted (not_le.mp counted)]
    have some_ : 0 < c.maxRetries := by omega
    simp only [counted, some_, false_or, true_and]
    tauto

theorem request_sent {path : String} {headers : List (String × String)} {body : Json}
    (valid : positiveInteger (timeoutMs.getD c.timeoutMs) = true) :
    ∃ r, (request c timeoutMs path headers body turns).sent =
      List.replicate (made c.maxRetries turns) r ∧ (Keyed r ↔ ∃ key, key ≠ "" ∧
        (headers.find? fun h => h.1 == keyHeader).map Prod.snd = some key) := by
  unfold request
  simp only [valid, Bool.not_true, Bool.false_eq_true, if_false, loop_sent]
  refine ⟨_, rfl, keyed_iff [("Content-Type", "application/json")] _ rfl rfl ?_⟩
  split
  · split
    · rfl
    · simp [keyHeader]
  · rfl

theorem create_accepted (turns : List Turn)
    (accepted : accepts c call timeoutMs randomUUID = true) :
    ∃ r, (create c call timeoutMs randomUUID turns).sent =
      List.replicate (made c.maxRetries turns) r ∧ (Keyed r ↔ Call.keyed call = true) := by
  unfold accepts at accepted
  unfold create Call.keyed
  cases operation : call.operation with
  | createPayment params providers =>
    simp only [operation, Bool.and_eq_true, decide_eq_true_eq] at accepted ⊢
    obtain ⟨timed, ⟨positive, within⟩, valid⟩ := accepted
    rw [positive, valid, if_neg (by decide), if_neg (not_lt.mpr within), if_neg (by decide)]
    obtain ⟨r, sent, keyed⟩ := request_sent timed
    refine ⟨r, sent, keyed.trans ?_⟩
    simp only [iff_true]
    exact ⟨_, validKey_ne valid, rfl⟩
  | createRefund paymentId amount reason =>
    simp only [operation, Bool.and_eq_true, decide_eq_true_eq, bne_iff_ne, ne_eq] at accepted ⊢
    obtain ⟨timed, ⟨named, positive⟩, within⟩ := accepted
    rw [if_neg named, positive, if_neg (by decide), if_neg (not_lt.mpr within)]
    obtain ⟨r, sent, keyed⟩ := request_sent timed
    refine ⟨r, sent, keyed.trans ?_⟩
    cases call.idempotencyKey with
    | none => simp
    | some key =>
      by_cases empty : key = ""
      · simp [empty]
      · simp [empty, keyHeader]

theorem create_refused (refused : accepts c call timeoutMs randomUUID = false) :
    (create c call timeoutMs randomUUID turns).sent = [] := by
  have untimed (path : String) (headers : List (String × String)) (body : Json)
      (late : positiveInteger (timeoutMs.getD c.timeoutMs) = false) :
      (request c timeoutMs path headers body turns).sent = [] := by
    simp [request, late]
  unfold accepts at refused
  unfold create
  cases operation : call.operation with
  | createPayment params providers =>
    simp only [operation] at refused ⊢
    split
    · rfl
    · split
      · rfl
      · split
        · rfl
        · apply untimed
          simp_all
  | createRefund paymentId amount reason =>
    simp only [operation] at refused ⊢
    split
    · rfl
    · split
      · rfl
      · split
        · rfl
        · apply untimed
          simp_all

theorem retries (c : Client) (call : Call) (timeoutMs : Option ℤ) (randomUUID : String)
    (turns : List Turn) :
    Idempotent c.maxRetries (create c call timeoutMs randomUUID turns).sent ↔
      (accepts c call timeoutMs randomUUID = true →
        (Call.keyed call = true ∨ ¬ Repeats c turns) ∧ Counts c turns) := by
  by_cases accepted : accepts c call timeoutMs randomUUID = true
  · obtain ⟨r, sent, keyed⟩ := create_accepted turns accepted
    rw [sent, idempotent_made, keyed]
    simp [accepted]
  · rw [create_refused (by simpa using accepted)]
    simp [accepted, idempotent_nil]

end Condition

end TypeScript

namespace Php

open SdkRequests.Php

section Attempts

def fate : Turn → Fate
  | .failed _ _ waited => if waited then .again else .last
  | .answered _ => .last

theorem loop_sent (c : Client) (r : Request) (attempt : ℕ) (turns : List Turn) :
    (loop c r attempt turns).sent =
      List.replicate (attempts (more c) (· + 1) attempt (turns.map fate)) r := by
  induction turns generalizing attempt with
  | nil => rfl
  | cons turn turns ih =>
    by_cases goes : more c attempt = true
    · rw [List.map_cons, attempts_going goes]
      cases turn with
      | answered response =>
        rw [loop, if_pos goes]
        rfl
      | failed timedOut message waited =>
        rw [loop, if_pos goes]
        by_cases stops : more c (attempt + 1) = true
        · simp only [stops, Bool.not_true, Bool.false_eq_true, if_false, fate]
          cases waited with
          | true =>
            simp only [if_true, Trace.after, ih]
            rfl
          | false => rfl
        · have stops' : more c (attempt + 1) = false := by simpa using stops
          simp only [stops', Bool.not_false, if_true, fate]
          cases waited with
          | true => simp [attempts_stopped stops']
          | false => rfl
    · rw [attempts_stopped (by simpa using goes)]
      cases turn <;> simp [loop, goes]

/-- The counter has a limit, at the greatest integer too. -/
theorem more_limit (c : Client) : ∃ limit, limit ≤ c.maxRetries + 1 ∧
    (1 < limit ↔ 0 < c.maxRetries) ∧ (∀ n < limit, more c n = true) ∧ more c limit = false := by
  by_cases top : c.maxRetries + 1 < 2 ^ 63
  · refine ⟨c.maxRetries + 1, le_refl _, by omega, ?_, ?_⟩
    · intro n inside
      rw [more, if_pos top]
      exact decide_eq_true inside
    · rw [more, if_pos top]
      exact decide_eq_false (lt_irrefl _)
  · have is : c.maxRetries + 1 = 2 ^ 63 := by
      have bounded := c.bounded
      omega
    have stops : ∃ n, more c n = false := by
      refine ⟨2 ^ 63, ?_⟩
      rw [more, if_neg top]
      decide +kernel
    have goes (n : ℕ) (small : n < 2) : more c n = true := by
      rw [more, if_neg top, decide_eq_true_eq, toNumber_small (by omega)]
      omega
    refine ⟨Nat.find stops, ?_, ?_, ?_, Nat.find_spec stops⟩
    · rw [is]
      apply Nat.find_le
      rw [more, if_neg top]
      decide +kernel
    · have two : 2 ≤ Nat.find stops := by
        rw [Nat.le_find_iff]
        intro n small
        rw [goes n small]
        decide
      omega
    · intro n inside
      simpa using Nat.find_min stops inside

end Attempts

section Condition

def accepts (call : Call) (generated : String) : Bool :=
  match call.operation with
  | .createPayment params _ =>
    decide (1 ≤ params.amountMinorUnits ∧ params.amountMinorUnits ≤ 1000000000) &&
      validKey (call.idempotencyKey.getD generated)
  | .createRefund paymentId amount _ =>
    paymentId != "" && decide (1 ≤ amount ∧ amount ≤ 1000000000) &&
      call.idempotencyKey.all validKey

def Repeats (c : Client) (turns : List Turn) : Prop :=
  0 < c.maxRetries ∧ 1 < patience (turns.map fate)

variable {c : Client} {call : Call} {generated : String} {turns : List Turn}

theorem request_sent {path : String} {headers : List (String × String)} {body : Json} :
    ∃ r, (request c path body headers turns).sent =
      List.replicate (attempts (more c) (· + 1) 0 (turns.map fate)) r ∧
      (Keyed r ↔ ∃ key, key ≠ "" ∧
        (headers.find? fun h => h.1 == keyHeader).map Prod.snd = some key) := by
  unfold request
  simp only [loop_sent]
  refine ⟨_, rfl, ?_⟩
  cases c.apiKey with
  | none =>
    exact keyed_iff [("Content-Type", "application/json")] [] (List.append_nil _).symm rfl rfl
  | some key =>
    exact keyed_iff [("Content-Type", "application/json"), ("Authorization", "Bearer " ++ key),
      ("X-API-Key", key)] [] (List.append_nil _).symm (by simp [keyHeader]) rfl

theorem create_accepted (turns : List Turn) (accepted : accepts call generated = true) :
    ∃ r, (create c call generated turns).sent =
      List.replicate (attempts (more c) (· + 1) 0 (turns.map fate)) r ∧
      (Keyed r ↔ Call.keyed call = true) := by
  unfold accepts at accepted
  unfold create Call.keyed
  cases operation : call.operation with
  | createPayment params providers =>
    simp only [operation, Bool.and_eq_true, decide_eq_true_eq] at accepted ⊢
    obtain ⟨amount, valid⟩ := accepted
    rw [if_neg (by omega), valid, if_neg (by decide)]
    obtain ⟨r, sent, keyed⟩ := request_sent (c := c)
    refine ⟨r, sent, keyed.trans ?_⟩
    simp only [iff_true]
    exact ⟨_, validKey_ne valid, rfl⟩
  | createRefund paymentId amount reason =>
    simp only [operation, Bool.and_eq_true, decide_eq_true_eq, bne_iff_ne, ne_eq] at accepted ⊢
    obtain ⟨⟨named, within⟩, valid⟩ := accepted
    rw [if_neg named, if_neg (by omega)]
    cases given : call.idempotencyKey with
    | none =>
      obtain ⟨r, sent, keyed⟩ := request_sent (c := c)
      refine ⟨r, sent, keyed.trans ?_⟩
      simp
    | some key =>
      rw [given] at valid
      have valid' : validKey key = true := valid
      simp only [valid', Bool.not_true, Bool.false_eq_true, if_false]
      obtain ⟨r, sent, keyed⟩ := request_sent (c := c)
      refine ⟨r, sent, keyed.trans ?_⟩
      have some_ := validKey_ne valid'
      simp [keyHeader, some_]

theorem create_refused (refused : accepts call generated = false) :
    (create c call generated turns).sent = [] := by
  unfold accepts at refused
  unfold create
  cases operation : call.operation with
  | createPayment params providers =>
    simp only [operation] at refused ⊢
    split
    · rfl
    next amount =>
      split
      · rfl
      next valid =>
        have within : 1 ≤ params.amountMinorUnits ∧ params.amountMinorUnits ≤ 1000000000 := by omega
        simp_all
  | createRefund paymentId amount reason =>
    simp only [operation] at refused ⊢
    split
    · rfl
    · split
      · rfl
      next outside =>
        have within : 1 ≤ amount ∧ amount ≤ 1000000000 := by omega
        cases given : call.idempotencyKey with
        | none => simp_all
        | some key =>
          dsimp only
          split
          · rfl
          · simp_all

theorem retries (c : Client) (call : Call) (generated : String) (turns : List Turn) :
    Idempotent c.maxRetries (create c call generated turns).sent ↔
      (accepts call generated = true → Call.keyed call = true ∨ ¬ Repeats c turns) := by
  by_cases accepted : accepts call generated = true
  · obtain ⟨r, sent, keyed⟩ := create_accepted (c := c) turns accepted
    obtain ⟨limit, few, many, goes, stops⟩ := more_limit c
    have is : attempts (more c) (· + 1) 0 (turns.map fate) = min (limit - 0) _ :=
      attempts_limited (fun _ _ => rfl) goes stops (Nat.zero_le _) (turns.map fate)
    rw [sent, idempotent_limited few is, keyed, many]
    simp [accepted, Repeats]
  · rw [create_refused (by simpa using accepted)]
    simp [accepted, idempotent_nil]

end Condition

end Php

namespace DotNet

open SdkRequests.DotNet

section Attempts

def fate : Turn → Fate
  | .cancelled => .withheld
  | .failed .timedOut _ waited | .failed .unreachable _ waited => if waited then .again else .last
  | .failed .cancelled _ _ | .failed .unexpected _ _ => .last
  | .answered _ => .last

theorem loop_sent (c : Client) (r : Request) (attempt : ℕ) (turns : List Turn) :
    (loop c r attempt turns).sent =
      List.replicate (attempts (below (maxAttempts c)) (· + 1) attempt (turns.map fate)) r := by
  induction turns generalizing attempt with
  | nil => rfl
  | cons turn turns ih =>
    by_cases goes : attempt < maxAttempts c
    · rw [List.map_cons]
      have again (e : SdkError) (waited : Bool) :
          (if maxAttempts c ≤ attempt + 1 then ⟨[r], .threw e⟩
            else if waited = true then (loop c r (attempt + 1) turns).after r
            else ⟨[r], .threw .cancelled⟩ : Trace).sent =
          List.replicate (attempts (below (maxAttempts c)) (· + 1) attempt
            ((if waited = true then Fate.again else Fate.last) :: turns.map fate)) r := by
        rw [attempts_going (decide_eq_true goes)]
        by_cases last : maxAttempts c ≤ attempt + 1
        · have stops : below (maxAttempts c) (attempt + 1) = false :=
            decide_eq_false (not_lt.mpr last)
          rw [if_pos last]
          cases waited with
          | true => simp [attempts_stopped stops]
          | false => rfl
        · rw [if_neg last]
          cases waited with
          | true =>
            simp only [if_true, Trace.after, ih]
            rfl
          | false => rfl
      cases turn with
      | cancelled =>
        rw [loop, if_pos goes, attempts_going (decide_eq_true goes)]
        rfl
      | answered response =>
        rw [loop, if_pos goes, attempts_going (decide_eq_true goes)]
        rfl
      | failed why message waited =>
        cases why with
        | cancelled =>
          rw [loop, if_pos goes, attempts_going (decide_eq_true goes)]
          rfl
        | unexpected =>
          rw [loop, if_pos goes, attempts_going (decide_eq_true goes)]
          rfl
        | timedOut =>
          rw [loop, if_pos goes]
          exact again _ waited
        | unreachable =>
          rw [loop, if_pos goes]
          exact again _ waited
    · rw [attempts_stopped (decide_eq_false goes)]
      cases turn <;> simp [loop, goes]

end Attempts

section Condition

def accepts (call : Call) (newGuid : String) : Bool :=
  match call.operation with
  | .createPayment params _ =>
    decide (1 ≤ params.amountMinorUnits ∧ params.amountMinorUnits ≤ 1000000000) &&
      validKey (call.idempotencyKey.getD newGuid)
  | .createRefund paymentId amount _ =>
    paymentId != "" && decide (1 ≤ amount ∧ amount ≤ 1000000000)

/-- At the greatest `MaxRetries` the sum wraps around, and there is one attempt. -/
def Repeats (c : Client) (turns : List Turn) : Prop :=
  1 < maxAttempts c ∧ 1 < patience (turns.map fate)

variable {c : Client} {call : Call} {newGuid : String} {turns : List Turn}

theorem request_sent {path : String} {headers : List (String × String)} {body : Json}
    (before : List (String × String))
    (unkeyed : before.find? (fun h => h.1 == keyHeader) = none) :
    ∃ r, (request c path body (before ++ headers) turns).sent =
      List.replicate (attempts (below (maxAttempts c)) (· + 1) 0 (turns.map fate)) r ∧
      (Keyed r ↔ ∃ key, key ≠ "" ∧
        (headers.find? fun h => h.1 == keyHeader).map Prod.snd = some key) := by
  unfold request
  simp only [loop_sent]
  refine ⟨_, rfl, ?_⟩
  have typed : [("Content-Type", "application/json; charset=utf-8")].find?
      (fun h : String × String => h.1 == keyHeader) = none := by simp [keyHeader]
  cases c.apiKey with
  | none => exact keyed_iff before _ rfl unkeyed typed
  | some key =>
    refine keyed_iff ([("Authorization", "Bearer " ++ key), ("X-API-Key", key)] ++ before) _
      (by simp) ?_ typed
    rw [List.find?_append, unkeyed]
    simp [keyHeader]

theorem create_accepted (turns : List Turn) (accepted : accepts call newGuid = true) :
    ∃ r, (create c call newGuid turns).sent =
      List.replicate (attempts (below (maxAttempts c)) (· + 1) 0 (turns.map fate)) r ∧
      (Keyed r ↔ Call.keyed call = true) := by
  unfold accepts at accepted
  unfold create Call.keyed
  cases operation : call.operation with
  | createPayment params providers =>
    simp only [operation, Bool.and_eq_true, decide_eq_true_eq] at accepted ⊢
    obtain ⟨amount, valid⟩ := accepted
    rw [if_neg (by omega), valid, if_neg (by decide)]
    obtain ⟨r, sent, keyed⟩ := request_sent (c := c) _ providerHeaders_unkeyed
    refine ⟨r, sent, keyed.trans ?_⟩
    simp only [iff_true]
    exact ⟨_, validKey_ne valid, rfl⟩
  | createRefund paymentId amount reason =>
    simp only [operation, Bool.and_eq_true, decide_eq_true_eq, bne_iff_ne, ne_eq] at accepted ⊢
    rw [if_neg accepted.1, if_neg (by omega)]
    obtain ⟨r, sent, keyed⟩ := request_sent (c := c) [] rfl
    refine ⟨r, sent, keyed.trans ?_⟩
    cases call.idempotencyKey with
    | none => simp
    | some key =>
      by_cases empty : key = ""
      · simp [empty]
      · simp [empty, keyHeader]

theorem create_refused (refused : accepts call newGuid = false) :
    (create c call newGuid turns).sent = [] := by
  unfold accepts at refused
  unfold create
  cases operation : call.operation with
  | createPayment params providers =>
    simp only [operation] at refused ⊢
    split
    · rfl
    next amount =>
      split
      · rfl
      · have within : 1 ≤ params.amountMinorUnits ∧ params.amountMinorUnits ≤ 1000000000 := by omega
        simp_all
  | createRefund paymentId amount reason =>
    simp only [operation] at refused ⊢
    split
    · rfl
    · split
      · rfl
      next outside =>
        have within : 1 ≤ amount ∧ amount ≤ 1000000000 := by omega
        simp_all

theorem retries (c : Client) (call : Call) (newGuid : String) (turns : List Turn) :
    Idempotent c.maxRetries (create c call newGuid turns).sent ↔
      (accepts call newGuid = true → Call.keyed call = true ∨ ¬ Repeats c turns) := by
  by_cases accepted : accepts call newGuid = true
  · obtain ⟨r, sent, keyed⟩ := create_accepted (c := c) turns accepted
    have few : maxAttempts c ≤ c.maxRetries + 1 := by
      unfold maxAttempts
      split <;> omega
    have is : attempts (below (maxAttempts c)) (· + 1) 0 (turns.map fate) =
        min (maxAttempts c - 0) _ :=
      attempts_limited (fun _ _ => rfl) (fun n inside => decide_eq_true inside)
        (decide_eq_false (lt_irrefl _)) (Nat.zero_le _) (turns.map fate)
    rw [sent, idempotent_limited few is, keyed]
    simp [accepted, Repeats]
  · rw [create_refused (by simpa using accepted)]
    simp [accepted, idempotent_nil]

end Condition

end DotNet

section Samples

def plainPlatform : Platform := ⟨fun _ => "", id⟩

def sampleRefund : Call := ⟨.createRefund "pay_1" 40 none, none⟩

def oneRetry : SdkRequests.TypeScript.Client := ⟨plainPlatform, "https://gateway", none, 1, 30000⟩

theorem refund_repeats : TypeScript.Repeats oneRetry
    [.failed false false "socket hang up" true, .answered ⟨201, "Created", "", none⟩] := by
  constructor
  · decide
  · decide

end Samples

/-- What is sent under one key: everything but a refund without a key, when its
first round may be repeated. -/
theorem sdk_retries_idempotent (call : Call) :
    (∀ (c : SdkRequests.TypeScript.Client) (timeoutMs : Option ℤ) (randomUUID : String)
      (turns : List SdkRequests.TypeScript.Turn),
      Idempotent c.maxRetries
          (SdkRequests.TypeScript.create c call timeoutMs randomUUID turns).sent ↔
        (TypeScript.accepts c call timeoutMs randomUUID = true →
          (Call.keyed call = true ∨ ¬ TypeScript.Repeats c turns) ∧ TypeScript.Counts c turns)) ∧
    (∀ (c : SdkRequests.Php.Client) (generated : String) (turns : List SdkRequests.Php.Turn),
      Idempotent c.maxRetries (SdkRequests.Php.create c call generated turns).sent ↔
        (Php.accepts call generated = true → Call.keyed call = true ∨ ¬ Php.Repeats c turns)) ∧
    (∀ (c : SdkRequests.DotNet.Client) (newGuid : String)
      (turns : List SdkRequests.DotNet.Turn),
      Idempotent c.maxRetries (SdkRequests.DotNet.create c call newGuid turns).sent ↔
        (DotNet.accepts call newGuid = true →
          Call.keyed call = true ∨ ¬ DotNet.Repeats c turns)) := by
  constructor
  · intro c timeoutMs randomUUID turns
    exact TypeScript.retries c call timeoutMs randomUUID turns
  · constructor
    · intro c generated turns
      exact Php.retries c call generated turns
    · intro c newGuid turns
      exact DotNet.retries c call newGuid turns

theorem sdk_refund_repeated : ¬ ∀ (c : SdkRequests.TypeScript.Client) (call : Call)
    (timeoutMs : Option ℤ) (randomUUID : String) (turns : List SdkRequests.TypeScript.Turn),
    Idempotent c.maxRetries
      (SdkRequests.TypeScript.create c call timeoutMs randomUUID turns).sent := by
  intro always
  obtain ⟨keyed | once, -⟩ := (TypeScript.retries oneRetry sampleRefund none "" _).mp
    (always _ _ _ _ _) (by decide)
  · cases keyed
  · exact once refund_repeats

end OpenWrapper.SdkRetries
