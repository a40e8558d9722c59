import OpenWrapper.SubmissionPaths
import OpenWrapper.WebTables

/-! # The stages of a creation request

Between its awaits a request of the web application has not looked its key up
yet, or it found the payment of the key, or it found none and is creating one.
Each stage is a predicate of the program that is left, by recursion on it. -/

set_option autoImplicit false

namespace OpenWrapper.WebCreations
open OpenWrapper.Ids OpenWrapper.Payments OpenWrapper.Schema OpenWrapper.WebDatabase
open OpenWrapper.CallbackRoutes OpenWrapper.ApiRequests OpenWrapper.PaymentRoutes
open OpenWrapper.JavaScript OpenWrapper.SubmissionPaths OpenWrapper.WebTables
open OpenWrapper.Suspended OpenWrapper.Suspended.Prog

/-- A key of one user in one environment, on a host without a gateway. -/
structure Scope where
  host : ApiHost
  userId : String
  key : String
  environment : String
  alone : getGatewayUrl host = none

/-- The caller that a row of `api_keys` stands for. -/
def callerOf (key : WebApiKey) : Caller :=
  ⟨key.id, key.userId,
    (nonEmpty (some key.environment)).getD (getApiKeyEnvironment key.keyPrefix)⟩

/-- The caller is the user, and asks in the environment. -/
structure Scope.Calls (c : Scope) (req : ApiRequest) (caller : Caller) : Prop where
  user : caller.userId = c.userId
  environment : environmentOf req caller = c.environment

instance (c : Scope) (req : ApiRequest) (caller : Caller) : Decidable (c.Calls req caller) :=
  decidable_of_iff (caller.userId = c.userId ∧ environmentOf req caller = c.environment)
    ⟨fun both => ⟨both.1, both.2⟩, fun calls => ⟨calls.user, calls.environment⟩⟩

/-- A request under the key. One that is known without a lookup is the user's. -/
structure Sent (c : Scope) where
  req : ApiRequest
  keyed : req.header "idempotency-key" = some c.key
  ambient : ∀ caller,
    authenticateApiRequest c.host req = .done (.ok (some caller)) → c.Calls req caller

/-- The row is the payment of the key. -/
def Scope.Owns (c : Scope) (row : PaymentRow) : Prop :=
  ownKey c.userId c.key c.environment row = true

instance (c : Scope) (row : PaymentRow) : Decidable (c.Owns row) :=
  inferInstanceAs (Decidable (_ = true))

theorem Scope.owns_iff {c : Scope} {row : PaymentRow} : c.Owns row ↔
    row.userId = some c.userId ∧ keyText row.idempotencyKey = c.key ∧
      row.environment = c.environment := by
  simp [Scope.Owns, ownKey, and_assoc]

/-- The payment an answer tells of. -/
def paid (answer : Answer) : Option (Text PaymentId) :=
  match answer.body with
  | .payment view => some view.paymentId
  | _ => none

variable {c : Scope}

/-- The fingerprint of the body, where the request is accepted. -/
def Sent.fingerprint (o : Sent c) : Option String :=
  (accept c.host o.req).toOption.map fun order => computeFingerprint c.host order.payload

/-- What the request may write. -/
structure Brings (o : Sent c) (input : PersistInput) : Prop where
  user : input.userId = c.userId
  key : keyText input.idempotencyKey = c.key
  environment : input.environment = c.environment
  fingerprint : o.fingerprint = some input.requestFingerprint

section Stages

variable (o : Sent c)

/-- A request that found the payment with this id and fingerprint. -/
def Replays (id : Text PaymentId) (fingerprint : String) : Web Answer → Prop
  | .done answer => ∀ id', paid answer = some id' → id' = id ∧ o.fingerprint = some fingerprint
  | .call .now k => ∀ now, Replays id fingerprint (k now)
  | .call (.upsert input _) k => input.id = id ∧ input.requestFingerprint = fingerprint ∧
      Brings o input ∧ (∀ row, row.payment.id = id → Replays id fingerprint (k (.ok row))) ∧
      ∀ e, Replays id fingerprint (k (.error e))
  | .call _ _ => False

/-- A request that looked the key up in vain among these rows, and has called
the provider so often. Of the calls and statements it is told that they worked. -/
def Creates (rows : List PaymentRow) : ℕ → Web Answer → Prop
  | calls, .done answer => calls = 0 ∧ paid answer = none
  | calls, .call (.select test) k => calls = 0 ∧ Creates rows calls (k (.ok none)) ∧
      ∀ row, row.payment ∈ rows → test row.payment = true → Creates rows calls (k (.ok (some row)))
  | calls, .call .randomUUID k => calls = 0 ∧ ∀ uuid,
      (∀ row ∈ rows, idText row.id ≠ localId uuid) → Creates rows calls (k uuid)
  | calls, .call .now k => calls ≤ 1 ∧ ∀ now, Creates rows calls (k now)
  | calls, .call (.createSession _ _) k =>
      calls = 0 ∧ ∀ session, Creates rows 1 (k (.ok session))
  | calls, .call (.upsert input _) k => calls ≤ 1 ∧ Brings o input ∧
      ((∀ row ∈ rows, idText row.id ≠ idText input.id) ∨
        ∃ row ∈ rows, idText row.id = idText input.id ∧ keyText row.idempotencyKey = c.key) ∧
      ∀ row, ∃ answer, k (.ok row) = .done answer ∧ paid answer = some row.payment.id
  | _, .call _ _ => False

/-- A request that has not looked the key up, or will not. -/
def Waits : Web Answer → Prop
  | .done answer => paid answer = none
  | .call (.findApiKey _) k => ∀ r,
      (∀ key, r = .ok (some key) → c.Calls o.req (callerOf key)) → Waits (k r)
  | .call (.select test) k => test = ownKey c.userId c.key c.environment ∧
      (∀ row, c.Owns row.payment →
        Replays o row.payment.id row.payment.requestFingerprint (k (.ok (some row))) ∧
        (o.fingerprint ≠ some row.payment.requestFingerprint →
          k (.ok (some row)) = .done conflict)) ∧
      ∀ rows, Creates o rows 0 (k (.ok none))
  | .call _ _ => False

end Stages

section Programs

variable {o : Sent c} {order : Order} {caller : Caller} {rows : List PaymentRow} {calls : ℕ}

theorem paid_error (status : ℕ) (code message : String) :
    paid (apiError status code message) = none := rfl

theorem paid_view (status : ℕ) (row : SharedRow) (provider : ProviderName) :
    paid ⟨status, .payment (paymentToApiResponse row provider)⟩ = some row.payment.id := rfl

theorem keyText_keyColumn (raw : String) : keyText (keyColumn raw) = raw := by
  unfold keyColumn
  cases parsed : IdempotencyKey.parse raw with
  | ok key => exact IdempotencyKey.asStr_of_parse parsed
  | error e => rfl

/-- An accepted request is accepted under its key. -/
theorem accept_key (accepted : accept c.host o.req = .ok order) : order.idempotencyKey = c.key := by
  unfold accept at accepted
  rw [o.keyed] at accepted
  split at accepted
  · cases accepted
  next key kept =>
    have same : key = c.key := (Option.filter_eq_some_iff.mp kept).1.symm |> Option.some.inj
    split at accepted
    · cases accepted
    · dsimp only at accepted
      split at accepted
      · cases accepted
      · split at accepted
        · cases accepted
        · cases accepted
          exact same

theorem fingerprint_accepted (accepted : accept c.host o.req = .ok order) :
    o.fingerprint = some (computeFingerprint c.host order.payload) := by
  rw [Sent.fingerprint, accepted]
  rfl

theorem brings_creation (accepted : accept c.host o.req = .ok order)
    (is : c.Calls o.req caller) (created : Created) :
    Brings o (creationInput c.host caller (environmentOf o.req caller) order created) where
  user := is.user
  key := (keyText_keyColumn _).trans (accept_key accepted)
  environment := is.environment
  fingerprint := fingerprint_accepted accepted

theorem brings_replay (accepted : accept c.host o.req = .ok order)
    (is : c.Calls o.req caller) (existing : SharedRow) :
    Brings o (replayInput c.host caller (environmentOf o.req caller) order existing) where
  user := is.user
  key := (keyText_keyColumn _).trans (accept_key accepted)
  environment := is.environment
  fingerprint := fingerprint_accepted accepted

theorem replays_replay (accepted : accept c.host o.req = .ok order) (is : c.Calls o.req caller)
    (existing : SharedRow) : Replays o existing.payment.id existing.payment.requestFingerprint
      (replay c.host o.req caller order existing) := by
  unfold replay
  split
  · intro id told
    cases told
  next same =>
    have same : existing.payment.requestFingerprint = computeFingerprint c.host order.payload :=
      not_not.mp same
    intro now
    refine ⟨rfl, same.symm, brings_replay accepted is existing, fun row id => ?_, fun e => ?_⟩
    · intro id' told
      rw [paid_view] at told
      cases told
      exact ⟨id, same ▸ fingerprint_accepted accepted⟩
    · simp only [pure_eq]
      split
      · intro id' told
        cases told
        exact ⟨rfl, same ▸ fingerprint_accepted accepted⟩
      · intro id' told
        cases told

theorem replay_conflict (accepted : accept c.host o.req = .ok order) {existing : SharedRow}
    (differs : o.fingerprint ≠ some existing.payment.requestFingerprint) :
    replay c.host o.req caller order existing = .done conflict := by
  rw [fingerprint_accepted accepted] at differs
  rw [replay, if_pos fun same => differs (congrArg some same.symm)]
  rfl

/-- A payment that nobody owns is taken over. -/
theorem creates_replay (accepted : accept c.host o.req = .ok order) (is : c.Calls o.req caller)
    {existing : SharedRow} (mem : existing.payment ∈ rows)
    (key : keyText existing.payment.idempotencyKey = c.key) :
    Creates o rows 0 (replay c.host o.req caller order existing) := by
  unfold replay
  split
  · exact ⟨rfl, rfl⟩
  · refine ⟨Nat.zero_le 1, fun now => ?_⟩
    exact ⟨Nat.zero_le 1, brings_replay accepted is existing,
      .inr ⟨existing.payment, mem, rfl, key⟩, fun row => ⟨_, rfl, rfl⟩⟩

/-- What was created is stored under its new id. -/
theorem creates_persist (accepted : accept c.host o.req = .ok order) (is : c.Calls o.req caller)
    {created : Created} (fresh : ∀ row ∈ rows, idText row.id ≠ idText created.id)
    (few : calls ≤ 1) {k : Except SqlError SharedRow → Web Answer}
    (tells : ∀ row, ∃ answer, k (.ok row) = .done answer ∧ paid answer = some row.payment.id) :
    Creates o rows calls (persistPaymentRecord (creationInput c.host caller
      (environmentOf o.req caller) order created) >>= k) := by
  refine ⟨few, fun now => ?_⟩
  exact ⟨few, brings_creation accepted is created, .inl fresh, tells⟩

theorem creates_refusal (status : ℕ) (code message : String) :
    Creates o rows 0 (.done (apiError status code message)) := ⟨rfl, rfl⟩

/-- Without a gateway, everything is carried on. -/
theorem create_alone (isTest : Bool) (paymentId : String) (req : ApiRequest) :
    create c.host order isTest paymentId req = carryOn c.host order isTest paymentId req := by
  rw [create_eq, forwardPaymentToRustGateway, c.alone]
  simp only [pure_eq, done_bind]
  unfold routing
  cases order.provider <;> rfl

theorem creates_carryOn {isTest : Bool} {paymentId : String} {req : ApiRequest}
    {k : Except Answer Created → Web Answer}
    (refuses : ∀ answer, paid answer = none → Creates o rows 0 (k (.error answer)))
    (goes : ∀ created calls, idText created.id = paymentId → calls ≤ 1 →
      Creates o rows calls (k (.ok created))) :
    Creates o rows 0 (carryOn c.host order isTest paymentId req >>= k) := by
  unfold carryOn
  cases order.provider with
  | paymob =>
    dsimp only
    split
    · exact refuses _ rfl
    · exact goes _ 0 rfl (Nat.zero_le 1)
  | fawry =>
    dsimp only
    split
    · exact refuses _ rfl
    · exact goes _ 0 rfl (Nat.zero_le 1)
  | stripe =>
    dsimp only
    split
    · exact goes _ 0 rfl (Nat.zero_le 1)
    · split
      · exact refuses _ rfl
      · exact ⟨rfl, fun session => goes _ 1 rfl (Nat.le_refl 1)⟩
  | mock =>
    dsimp only
    split
    · exact refuses _ rfl
    · split
      · exact refuses _ rfl
      · exact goes _ 0 rfl (Nat.zero_le 1)

theorem creates_createAndPersist (accepted : accept c.host o.req = .ok order)
    (is : c.Calls o.req caller) :
    Creates o rows 0 (createAndPersist c.host o.req caller order) := by
  refine ⟨rfl, fun uuid fresh => ?_⟩
  show Creates o rows 0
    (create c.host order (isTestMode o.req caller) (localId uuid) o.req >>= _)
  rw [create_alone]
  apply creates_carryOn
  · intro answer refused
    exact ⟨rfl, refused⟩
  · intro created calls id few
    refine creates_persist accepted is (fun row mem => id ▸ fresh row mem) few fun row => ?_
    exact ⟨_, rfl, rfl⟩

theorem waits_submit (accepted : accept c.host o.req = .ok order) (is : c.Calls o.req caller) :
    Waits o (submit c.host o.req caller order) := by
  refine ⟨?_, fun row owns => ⟨replays_replay accepted is row, replay_conflict accepted⟩,
    fun rows => ⟨rfl, ?_, ?_⟩⟩
  · rw [is.user, accept_key accepted, is.environment]
  · simp only [pure_eq, bind_eq, done_bind]
    split
    · exact creates_refusal _ _ _
    · exact creates_refusal _ _ _
    · exact creates_createAndPersist accepted is
  · intro row mem passes
    simp only [pure_eq, bind_eq, done_bind]
    have under : keyText row.payment.idempotencyKey = c.key := by
      simp only [anyKey, Bool.and_eq_true, beq_iff_eq] at passes
      rw [passes.1]
      exact accept_key accepted
    split
    · exact creates_refusal _ _ _
    · exact creates_replay accepted is mem under

theorem waits_postAs (is : c.Calls o.req caller) : Waits o (postAs c.host o.req caller) := by
  unfold postAs
  cases accepted : accept c.host o.req with
  | error answer =>
    obtain ⟨status, code, message, rfl⟩ := accept_error accepted
    exact paid_error status code message
  | ok order => exact waits_submit accepted is

/-- Every request starts by waiting. -/
theorem waits_post (o : Sent c) : Waits o (post c.host o.req) := by
  unfold post
  split
  next answer refused =>
    unfold apiVersion at refused
    dsimp only at refused
    split at refused
    · cases refused
    · cases refused
      exact paid_error _ _ _
  · have ambient := o.ambient
    unfold authenticateApiRequest at ambient ⊢
    dsimp only at ambient ⊢
    by_cases blank : presentedToken o.req = ""
    · rw [if_pos blank]
      exact paid_error _ _ _
    · rw [if_neg blank] at ambient ⊢
      by_cases known : (isSandboxToken (presentedToken o.req) ||
          decide (presentedToken o.req ∈ ambientKeys c.host)) = true
      · rw [if_pos known] at ambient ⊢
        exact waits_postAs (ambient _ rfl)
      · rw [if_neg known]
        intro r users
        cases r with
        | error e => exact paid_error _ _ _
        | ok found =>
          cases found with
          | none => exact paid_error _ _ _
          | some key => exact waits_postAs (users key rfl)

end Programs

end OpenWrapper.WebCreations
