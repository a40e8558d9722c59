import OpenWrapper.Adapters
import OpenWrapper.WorkingStore

/-! # Ambiguity at creation

An adapter turns the exchange with the provider into a result or an error,
the error model calls some errors definite, and the handlers of both
transports store `Failed` for those and `Unknown` for the others. The
composition is followed from the exchange to the stored status. -/

set_option autoImplicit false

namespace OpenWrapper.CreationAmbiguity
open OpenWrapper.Ids OpenWrapper.Errors OpenWrapper.Amounts OpenWrapper.Payments
open OpenWrapper.Schema OpenWrapper.ConstraintTable OpenWrapper.PaymentStore
open OpenWrapper.Providers OpenWrapper.HttpExchange OpenWrapper.Adapters OpenWrapper.Effects
open OpenWrapper.StoreContract OpenWrapper.Claimants OpenWrapper.WorkingStore
open OpenWrapper.Suspended OpenWrapper.Suspended.Prog

inductive Transport where
  | http | grpc
deriving DecidableEq, Repr

/-- The handler of a transport, once the payment is claimed. -/
def Transport.create : Transport → Provider → PaymentRequest → PaymentId → Gw Reply
  | http => Handlers.createClaimed
  | grpc => Grpc.createClaimed

/-- An answer for the effects a creation does not perform. -/
def idle : (e : Effect) → e.Response
  | .store _ | .findApiKey _ | .recordEvent _ | .listEvents _ _ _ | .getEvent _
  | .createWebhookEndpoint _ | .listWebhookEndpoints _ | .deleteWebhookEndpoint _ _ =>
    .error .internal
  | .createPayment _ _ _ | .inquireStatus _ _ _ | .refund _ _ _ _ _ => .error .internal
  | .publishWebhook _ | .publishReconcile _ => .error ""
  | .receiveWebhook => ⟨0, "", ⟨ProviderId.mock, "", "", none, .pending, none⟩⟩
  | .receiveReconcile => ⟨0, .corrupt "", "", "", 0⟩
  | .ackWebhook _ | .ackReconcile _ => ()
  | .tryAcquire => false
  | .now => ⟨0⟩
  | .ulid => ⟨0⟩

/-- The tables, and whether the provider was sent anything. -/
structure Progress where
  ledger : Ledger
  sent : Bool

/-- The adapter's call, with the exchange it makes: whether it sent anything,
and what it returns. -/
def asked (a : Adapter) (id : PaymentId) (request : PaymentRequest) (x : Exchange)
    (now : Instant) : Bool × Except OpenWrapperError PaymentResult :=
  serial (outcall x now) 0 false (a.createPayment id request)

/-- The store works, and the provider's answer is what the adapter makes of
the exchange. -/
def answer (fp : PaymentRequest → String) (b : Backend) (d : Draw) (a : Adapter) (x : Exchange)
    (n : ℕ) (s : Progress) : (e : Effect) → Progress × e.Response
  | .store op =>
    let (ledger, r) := execOp fp b { d with fails := fun _ => false } s.ledger op
    ({ s with ledger }, r)
  | .createPayment _ id request =>
    let (sent, r) := asked a id request x (d.clock n)
    ({ s with sent := s.sent || sent }, r)
  | .now => (s, d.clock n)
  | e => (s, idle e)

/-- Where the creation of a claimed payment ends. -/
def created (fp : PaymentRequest → String) (b : Backend) (d : Draw) (t : Transport)
    (a : Adapter) (request : PaymentRequest) (id : PaymentId) (x : Exchange) (L : Ledger) :
    Progress :=
  (serial (answer fp b d a x) 0 ⟨L, false⟩ (t.create a.provider request id)).1

/-- The provider answered with a 4xx other than 408. -/
def Rejected : Exchange → Prop
  | .failed _ => False
  | .answered status _ => 400 ≤ status.code ∧ status.code < 500 ∧ status.code ≠ 408

/-- The adapter can read a result from the body of a successful answer. -/
def usable : Adapter → HttpStatus → Body → Bool
  | .paymob _, status, body => (Paymob.readIntention status body).isOk
  | .fawry _, status, body => (Fawry.readCharge status body).isOk
  | .stripe _, status, body =>
    match Stripe.readSession status body with
    | .ok session => session.url.isSome
    | .error _ => false

/-- The provider may have acted on the request, or not. -/
def Ambiguous (a : Adapter) : Exchange → Prop
  | .failed _ => True
  | .answered status body => status.code = 408 ∨ (300 ≤ status.code ∧ status.code < 400) ∨
      (500 ≤ status.code ∧ status.code < 600) ∨
      (status.isSuccess = true ∧ usable a status body = false)

/-- `Failed` is stored only for what certainly did not happen, and `Unknown`
for what is ambiguous. -/
structure Kept (s : Progress) (id : PaymentId) (a : Adapter) (x : Exchange) : Prop where
  failed : StatusIs s.ledger id .failed → s.sent = false ∨ Rejected x
  ambiguous : s.sent = true → Ambiguous a x → StatusIs s.ledger id .unknown

section Adapters

variable {a : Adapter} {id : PaymentId} {request : PaymentRequest} {x : Exchange}
  {now : Instant}

theorem ensureCreate_error {p : Provider} {e : OpenWrapperError}
    (refused : ensureCreate p request = .error e) : ∃ message, e = .validation message := by
  rw [ensureCreate, Provider.ensureCapability_createPayment] at refused
  exact PaymentRequest.validate_error refused

theorem check_error {e : OpenWrapperError} (refused : a.check request = .error e) :
    ∃ message, e = .validation message := by
  cases a with
  | paymob config =>
    rw [Adapter.check] at refused
    exact ensureCreate_error refused
  | stripe config =>
    rw [Adapter.check] at refused
    exact ensureCreate_error refused
  | fawry config =>
    rw [Adapter.check, Fawry.check] at refused
    split at refused
    next e' earlier =>
      cases refused
      exact ensureCreate_error earlier
    · split at refused
      · cases refused
        exact ⟨_, rfl⟩
      · cases refused

/-- Nothing is sent for a request the adapter refuses. -/
theorem asked_refused {e : OpenWrapperError} (refused : a.check request = .error e) :
    asked a id request x now = (false, .error e) := by
  cases a with
  | paymob config =>
    simp only [Adapter.check] at refused
    simp [asked, Adapter.createPayment, Paymob.createPayment, refused]
  | stripe config =>
    simp only [Adapter.check] at refused
    simp [asked, Adapter.createPayment, Stripe.createPayment, refused]
  | fawry config =>
    simp only [Adapter.check] at refused
    simp [asked, Adapter.createPayment, Fawry.createPayment, refused]

/-- The codes an adapter takes to mean that nothing was created. -/
def disclaims (a : Adapter) (status : HttpStatus) : Prop :=
  status.code = 429 ∨ status.code = 401 ∨ status.code = 403 ∨
    ((∃ config, a = .paymob config) ∧ status.isClientError = true)

def Disclaimed (a : Adapter) : Exchange → Prop
  | .failed _ => False
  | .answered status _ => disclaims a status

theorem mapCreateReqwestErr_ambiguous (provider title : String) (e : TransportError) :
    (mapCreateReqwestErr provider title e).isDefiniteNonOccurrence = false := by
  unfold mapCreateReqwestErr
  split
  · rfl
  · split <;> rfl

theorem disclaims_of_success {status : HttpStatus} (success : status.isSuccess = true) :
    ¬ disclaims a status := by
  simp only [HttpStatus.isSuccess, Bool.and_eq_true, decide_eq_true_eq] at success
  simp only [disclaims, HttpStatus.isClientError, Bool.and_eq_true, decide_eq_true_eq]
  omega

theorem readIntention_error {config : PaymobConfig} {status : HttpStatus} {body : Body}
    {e : OpenWrapperError} (read : Paymob.readIntention status body = .error e) :
    e.isDefiniteNonOccurrence = true ↔ disclaims (.paymob config) status := by
  unfold Paymob.readIntention at read
  split at read
  next success =>
    have kept := disclaims_of_success (a := .paymob config) success
    split at read
    · cases read
      exact iff_of_false Bool.false_ne_true kept
    · split at read
      · cases read
        exact iff_of_false Bool.false_ne_true kept
      · cases read
  · split at read
    next limited =>
      cases read
      exact iff_of_true rfl (.inl limited)
    next unlimited =>
      split at read
      next unknown =>
        cases read
        exact iff_of_true rfl (.inr (unknown.imp_right .inl))
      next known =>
        split at read
        next client =>
          cases read
          exact iff_of_true rfl (.inr (.inr (.inr ⟨⟨config, rfl⟩, client⟩)))
        next other =>
          cases read
          refine iff_of_false Bool.false_ne_true ?_
          rintro (code | code | code | ⟨-, client⟩)
          · exact unlimited code
          · exact known (.inl code)
          · exact known (.inr code)
          · exact other client

theorem disclaims_iff {status : HttpStatus} (other : ∀ config, a ≠ .paymob config) :
    disclaims a status ↔ status.code = 429 ∨ status.code = 401 ∨ status.code = 403 := by
  constructor
  · rintro (code | code | code | ⟨⟨config, is⟩, -⟩)
    · exact .inl code
    · exact .inr (.inl code)
    · exact .inr (.inr code)
    · exact absurd is (other config)
  · rintro (code | code | code)
    · exact .inl code
    · exact .inr (.inl code)
    · exact .inr (.inr (.inl code))

theorem readCharge_error {status : HttpStatus} {body : Body} {e : OpenWrapperError}
    (read : Fawry.readCharge status body = .error e) :
    e.isDefiniteNonOccurrence = true ↔
      status.code = 429 ∨ status.code = 401 ∨ status.code = 403 := by
  unfold Fawry.readCharge at read
  split at read
  next unknown =>
    cases read
    exact iff_of_true rfl (.inr unknown)
  next known =>
    split at read
    next limited =>
      cases read
      exact iff_of_true rfl (.inl limited)
    next unlimited =>
      have kept : ¬ (status.code = 429 ∨ status.code = 401 ∨ status.code = 403) := by
        rintro (code | code)
        · exact unlimited code
        · exact known code
      refine iff_of_false ?_ kept
      split at read
      · cases read
        exact Bool.false_ne_true
      · split at read
        · cases read
        · split at read
          all_goals
            cases read
            exact Bool.false_ne_true

theorem readCharge_ok {status : HttpStatus} {body : Body} {charge : Fawry.ChargeResponse}
    (read : Fawry.readCharge status body = .ok charge) :
    status.isSuccess = true ∧ charge.referenceNumber.isSome = true := by
  unfold Fawry.readCharge at read
  split at read
  · cases read
  · split at read
    · cases read
    · split at read
      · cases read
      · split at read
        next parsed _ accepted =>
          cases read
          refine ⟨accepted.2.1, ?_⟩
          cases named : charge.referenceNumber with
          | none => simp [named] at accepted
          | some reference => rfl
        · split at read <;> cases read

theorem readSession_error {status : HttpStatus} {body : Body} {e : OpenWrapperError}
    (read : Stripe.readSession status body = .error e) :
    e.isDefiniteNonOccurrence = true ↔
      status.code = 429 ∨ status.code = 401 ∨ status.code = 403 := by
  unfold Stripe.readSession at read
  split at read
  next success =>
    simp only [HttpStatus.isSuccess, Bool.and_eq_true, decide_eq_true_eq] at success
    have kept : ¬ (status.code = 429 ∨ status.code = 401 ∨ status.code = 403) := by omega
    refine iff_of_false ?_ kept
    split at read
    · cases read
      exact Bool.false_ne_true
    · split at read
      · cases read
        exact Bool.false_ne_true
      · cases read
  · split at read
    next limited =>
      cases read
      exact iff_of_true rfl (.inl limited)
    next unlimited =>
      split at read
      next unknown =>
        cases read
        exact iff_of_true rfl (.inr unknown)
      next known =>
        have kept : ¬ (status.code = 429 ∨ status.code = 401 ∨ status.code = 403) := by
          rintro (code | code)
          · exact unlimited code
          · exact known code
        refine iff_of_false ?_ kept
        split at read
        all_goals
          cases read
          exact Bool.false_ne_true

theorem readIntention_success {status : HttpStatus} {body : Body}
    {intention : Paymob.CreateIntentionResponse}
    (read : Paymob.readIntention status body = .ok intention) : status.isSuccess = true := by
  unfold Paymob.readIntention at read
  split at read
  next success => exact success
  · split at read
    · cases read
    · split at read
      · cases read
      · split at read <;> cases read

theorem readSession_success {status : HttpStatus} {body : Body} {session : Stripe.SessionResponse}
    (read : Stripe.readSession status body = .ok session) : status.isSuccess = true := by
  unfold Stripe.readSession at read
  split at read
  next success => exact success
  · split at read
    · cases read
    · split at read
      · cases read
      · split at read <;> cases read

/-- A request the adapter lets through is sent, and what comes back is
classified by its code. -/
structure Classified (a : Adapter) (x : Exchange)
    (outcome : Bool × Except OpenWrapperError PaymentResult) : Prop where
  sent : outcome.1 = true
  failed : ∀ e, outcome.2 = .error e → (e.isDefiniteNonOccurrence = true ↔ Disclaimed a x)
  succeeded : ∀ result, outcome.2 = .ok result → ∃ status body, x = .answered status body ∧
    status.isSuccess = true ∧ usable a status body = true

theorem classified_error {e : OpenWrapperError}
    (classified : e.isDefiniteNonOccurrence = true ↔ Disclaimed a x) :
    Classified a x (true, .error e) where
  sent := rfl
  failed := by
    rintro e' ⟨⟩
    exact classified
  succeeded := nofun

theorem classified_failed {provider title : String} {e : TransportError} :
    Classified a (.failed e) (true, .error (mapCreateReqwestErr provider title e)) :=
  classified_error (iff_of_false (by simp [mapCreateReqwestErr_ambiguous]) not_false)

theorem classified_ok {result : PaymentResult} {status : HttpStatus} {body : Body}
    (success : status.isSuccess = true) (read : usable a status body = true) :
    Classified a (.answered status body) (true, .ok result) where
  sent := rfl
  failed := nofun
  succeeded _ _ := ⟨status, body, rfl, success, read⟩

theorem paymob_classified {config : PaymobConfig}
    (passed : ensureCreate (.paymob config) request = .ok ()) :
    Classified (.paymob config) x (asked (.paymob config) id request x now) := by
  simp only [asked, Adapter.createPayment, Paymob.createPayment, passed, Paymob.createIntention,
    Http.post, Http.now, perform_bind, call_bind, serial_call, outcall]
  cases x with
  | failed e => exact classified_failed
  | answered status body =>
    cases read : Paymob.readIntention status body with
    | error e =>
      simp only [pure_eq, done_bind, read, serial_done]
      exact classified_error (readIntention_error read)
    | ok intention =>
      simp only [pure_eq, done_bind, read, serial_call, serial_done, outcall]
      exact classified_ok (readIntention_success read) (by simp [usable, read, Except.isOk,
        Except.toBool])

theorem fawry_classified {config : FawryConfig} (passed : Fawry.check config request = .ok ()) :
    Classified (.fawry config) x (asked (.fawry config) id request x now) := by
  simp only [asked, Adapter.createPayment, Fawry.createPayment, passed, Fawry.createCharge,
    Http.post, Http.now, perform_bind, call_bind, serial_call, outcall]
  cases x with
  | failed e => exact classified_failed
  | answered status body =>
    cases read : Fawry.readCharge status body with
    | error e =>
      simp only [pure_eq, done_bind, read, serial_done]
      refine classified_error ((readCharge_error read).trans ?_)
      exact (disclaims_iff (by simp)).symm
    | ok charge =>
      obtain ⟨success, named⟩ := readCharge_ok read
      obtain ⟨reference, is⟩ := Option.isSome_iff_exists.mp named
      simp only [pure_eq, done_bind, read, is, serial_call, serial_done, outcall]
      exact classified_ok success (by simp [usable, read, Except.isOk, Except.toBool])

theorem stripe_classified {config : StripeConfig}
    (passed : ensureCreate (.stripe config) request = .ok ()) :
    Classified (.stripe config) x (asked (.stripe config) id request x now) := by
  simp only [asked, Adapter.createPayment, Stripe.createPayment, passed,
    Stripe.createCheckoutSession, Http.post, Http.now, perform_bind, call_bind, serial_call,
    outcall]
  cases x with
  | failed e => exact classified_failed
  | answered status body =>
    cases read : Stripe.readSession status body with
    | error e =>
      simp only [pure_eq, done_bind, read, serial_done]
      refine classified_error ((readSession_error read).trans ?_)
      exact (disclaims_iff (by simp)).symm
    | ok session =>
      have success := readSession_success read
      cases is : session.url with
      | none =>
        simp only [pure_eq, done_bind, read, is, serial_done]
        exact classified_error (iff_of_false Bool.false_ne_true (disclaims_of_success success))
      | some url =>
        simp only [pure_eq, done_bind, read, is, serial_call, serial_done, outcall]
        exact classified_ok success (by simp [usable, read, is])

theorem asked_classified (passed : a.check request = .ok ()) :
    Classified a x (asked a id request x now) := by
  cases a with
  | paymob config => exact paymob_classified passed
  | fawry config => exact fawry_classified passed
  | stripe config => exact stripe_classified passed

end Adapters

section Creation

variable {fp : PaymentRequest → String} {b : Backend} {d : Draw} {t : Transport} {a : Adapter}
  {request : PaymentRequest} {id : PaymentId} {x : Exchange} {L : Ledger}

/-- The status a creation stores for what the adapter returned. -/
def final : Except OpenWrapperError PaymentResult → PaymentStatus
  | .ok result => result.status.toStatus
  | .error e => if e.isDefiniteNonOccurrence then .failed else .unknown

/-- What the handlers do with the adapter's result. -/
def Concluded (outcome : Bool × Except OpenWrapperError PaymentResult) (id : PaymentId)
    (s : Progress) : Prop :=
  s.sent = outcome.1 ∧ StatusIs s.ledger id (final outcome.2)

theorem created_concluded (claimed : Claimed L id) :
    Concluded (asked a id request x (d.clock 0)) id (created fp b d t a request id x L) := by
  change Ends (answer fp b d a x) (fun s _ => Concluded _ id s) 0 ⟨L, false⟩ _
  have marked := markFailed_status fp b d claimed
  have ambiguous := markUnknown_status fp b d claimed
  cases t with
  | http =>
    simp only [Transport.create, Handlers.createClaimed, Gw.createPayment, Gw.recordCreationResult,
      Gw.markFailed, Gw.markUnknown, Gw.getPayment, perform_bind]
    rw [ends_call]
    simp only [answer, Bool.false_or]
    generalize asked a id request x (d.clock 0) = returned
    obtain ⟨sent, outcome⟩ := returned
    cases outcome with
    | ok result =>
      simp only [ends_call, answer]
      split
      all_goals exact ⟨rfl, recordCreationResult_status claimed⟩
    | error e =>
      dsimp only
      split
      next definite =>
        simp only [ends_call, answer]
        split
        all_goals exact ⟨rfl, by rw [final, if_pos definite]; exact marked⟩
      next indefinite =>
        have stored : final (.error e) = .unknown := if_neg indefinite
        simp only [ends_call, answer]
        split
        · exact ⟨rfl, by rw [stored]; exact ambiguous⟩
        · simp only [ends_call, answer]
          split
          all_goals exact ⟨rfl, by rw [stored, getPayment_ledger]; exact ambiguous⟩
  | grpc =>
    simp only [Transport.create, Grpc.createClaimed, Gw.createPayment, Gw.recordCreationResult,
      Gw.markFailed, Gw.markUnknown, Gw.now, perform_bind]
    rw [ends_call]
    simp only [answer, Bool.false_or]
    generalize asked a id request x (d.clock 0) = returned
    obtain ⟨sent, outcome⟩ := returned
    cases outcome with
    | ok result =>
      simp only [ends_call, answer]
      split
      all_goals exact ⟨rfl, recordCreationResult_status claimed⟩
    | error e =>
      dsimp only
      split
      next definite => exact ⟨rfl, by rw [final, if_pos definite]; exact marked⟩
      next indefinite => exact ⟨rfl, by rw [final, if_neg indefinite]; exact ambiguous⟩

/-- A request that goes out and is answered 408 by Paymob. -/
def TimedOutAtPaymob (a : Adapter) (request : PaymentRequest) (x : Exchange) : Prop :=
  (∃ config, a = .paymob config) ∧ a.check request = .ok () ∧
    ∃ status body, x = .answered status body ∧ status.code = 408

theorem not_ambiguous_of_usable {status : HttpStatus} {body : Body}
    (success : status.isSuccess = true) (read : usable a status body = true) :
    ¬ Ambiguous a (.answered status body) := by
  simp only [HttpStatus.isSuccess, Bool.and_eq_true, decide_eq_true_eq] at success
  rintro (timeout | redirect | server | ⟨-, unread⟩)
  · omega
  · omega
  · omega
  · rw [read] at unread
    cases unread

theorem rejected_or_timedOut (passed : a.check request = .ok ()) (disclaimed : Disclaimed a x) :
    Rejected x ∨ TimedOutAtPaymob a request x := by
  cases x with
  | failed e => exact disclaimed.elim
  | answered status body =>
    by_cases timeout : status.code = 408
    · rcases disclaimed with code | code | code | ⟨paymob, -⟩
      · omega
      · omega
      · omega
      · exact .inr ⟨paymob, passed, status, body, rfl, timeout⟩
    · rcases disclaimed with code | code | code | ⟨-, client⟩
      · exact .inl (by simp [Rejected, code])
      · exact .inl (by simp [Rejected, code])
      · exact .inl (by simp [Rejected, code])
      · simp only [HttpStatus.isClientError, Bool.and_eq_true, decide_eq_true_eq] at client
        exact .inl ⟨client.1, client.2, timeout⟩

theorem not_ambiguous_of_rejected (rejected : Rejected x) : ¬ Ambiguous a x := by
  cases x with
  | failed e => exact rejected.elim
  | answered status body =>
    obtain ⟨least, most, other⟩ := rejected
    rintro (timeout | redirect | server | ⟨success, -⟩)
    · exact other timeout
    · omega
    · omega
    · simp only [HttpStatus.isSuccess, Bool.and_eq_true, decide_eq_true_eq] at success
      omega

theorem final_ok {result : PaymentResult} : final (.ok result) ≠ .failed := by
  rw [final]
  cases result.status <;> decide

theorem final_failed {e : OpenWrapperError} (failed : final (.error e) = .failed) :
    e.isDefiniteNonOccurrence = true := by
  by_contra indefinite
  rw [final, if_neg indefinite] at failed
  cases failed

/-- Ambiguity never becomes `Failed`, except for the 408 of Paymob, which
always does. -/
theorem created_kept_iff (claimed : Claimed L id) :
    Kept (created fp b d t a request id x L) id a x ↔ ¬ TimedOutAtPaymob a request x := by
  obtain ⟨sent, stored⟩ : Concluded (asked a id request x (d.clock 0)) id
    (created fp b d t a request id x L) := created_concluded claimed
  cases passed : a.check request with
  | error e =>
    have unsent : (asked a id request x (d.clock 0)).1 = false := by rw [asked_refused passed]
    refine iff_of_true ⟨fun _ => .inl (sent.trans unsent), fun went => ?_⟩ ?_
    · rw [sent, unsent] at went
      cases went
    · rintro ⟨-, checked, -⟩
      rw [passed] at checked
      cases checked
  | ok _ =>
    have classified : Classified a x (asked a id request x (d.clock 0)) :=
      asked_classified passed
    generalize asked a id request x (d.clock 0) = returned at sent stored classified
    obtain ⟨went, outcome⟩ := returned
    constructor
    · rintro kept ⟨⟨config, rfl⟩, -, status, body, rfl, timeout⟩
      have disclaimed : Disclaimed (.paymob config) (.answered status body) :=
        .inr (.inr (.inr ⟨⟨config, rfl⟩, by simp [HttpStatus.isClientError, timeout]⟩))
      cases outcome with
      | ok result =>
        obtain ⟨_, _, ⟨⟩, success, -⟩ := classified.succeeded result rfl
        exact disclaims_of_success success disclaimed
      | error e =>
        rw [final, if_pos ((classified.failed e rfl).mpr disclaimed)] at stored
        rcases kept.failed stored with unsent | ⟨-, -, other⟩
        · rw [sent, classified.sent] at unsent
          cases unsent
        · exact other timeout
    · intro answered
      have rejected : ∀ e, outcome = .error e → e.isDefiniteNonOccurrence = true → Rejected x := by
        intro e is definite
        have disclaimed := (classified.failed e is).mp definite
        exact (rejected_or_timedOut passed disclaimed).resolve_right answered
      constructor
      · intro failed
        have is_failed := status_unique stored failed
        cases outcome with
        | ok result => exact absurd is_failed final_ok
        | error e => exact .inr (rejected e rfl (final_failed is_failed))
      · intro _ ambiguous
        cases outcome with
        | ok result =>
          obtain ⟨status, body, rfl, success, read⟩ := classified.succeeded result rfl
          exact absurd ambiguous (not_ambiguous_of_usable success read)
        | error e =>
          by_cases definite : e.isDefiniteNonOccurrence = true
          · exact absurd ambiguous (not_ambiguous_of_rejected (rejected e rfl definite))
          · rw [final, if_neg definite] at stored
            exact stored

end Creation

section Samples

def paymobAccount : PaymobConfig :=
  ⟨"sk_live", "", "pk_live", PaymobConfig.defaultBaseUrl, [], "https://shop.example/hook",
    PaymobConfig.defaultInquiryPathTemplate, PaymobConfig.defaultCheckoutUrlTemplate⟩

def purchase : PaymentRequest :=
  ⟨.order, ProviderId.paymob, .hundred .egp, ⟨"0100", none, none⟩,
    none, none, none, []⟩

/-- The tables once the idempotency key of the purchase is claimed. -/
def claimedLedger : Ledger :=
  (execOp (fun _ => "") .sqlite (Gateway.quietDraw 1) Ledger.empty
    (.beginPaymentWithOwner purchase none)).1

def requestTimeout : Exchange := .answered ⟨408, "Request Timeout"⟩ (.unreadable "")

def badGateway : Exchange := .answered ⟨502, "Bad Gateway"⟩ (.unreadable "")

theorem claimed_purchase : Claimed claimedLedger ⟨1⟩ :=
  begin_claimed (execOp_outcome (fun _ => "") .sqlite (Gateway.quietDraw 1) Ledger.empty
    (.beginPaymentWithOwner purchase none)) (by decide +kernel)

theorem created_kept_bad_gateway :
    Kept (created (fun _ => "") .sqlite (Gateway.quietDraw 1) .http (.paymob paymobAccount)
      purchase ⟨1⟩ badGateway claimedLedger) ⟨1⟩ (.paymob paymobAccount) badGateway :=
  (created_kept_iff claimed_purchase).mpr
    (by rintro ⟨-, -, status, body, is, timeout⟩; cases is; cases timeout)

/-- A 408 of Paymob is stored as `Failed`. -/
theorem not_created_kept :
    ¬ Kept (created (fun _ => "") .sqlite (Gateway.quietDraw 1) .http (.paymob paymobAccount)
      purchase ⟨1⟩ requestTimeout claimedLedger) ⟨1⟩ (.paymob paymobAccount) requestTimeout := by
  intro kept
  have sent : (created (fun _ => "") .sqlite (Gateway.quietDraw 1) .http (.paymob paymobAccount)
    purchase ⟨1⟩ requestTimeout claimedLedger).sent = true := by decide +kernel
  obtain ⟨row, mem, -, unknown⟩ := kept.ambiguous sent (.inl rfl)
  have failed : ∀ row ∈ (created (fun _ => "") .sqlite (Gateway.quietDraw 1) .http
      (.paymob paymobAccount) purchase ⟨1⟩ requestTimeout claimedLedger).ledger.payments.rows,
      row.status = .stored .failed := by decide +kernel
  rw [failed row mem] at unknown
  cases unknown

end Samples

end OpenWrapper.CreationAmbiguity
