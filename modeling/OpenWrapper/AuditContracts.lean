import OpenWrapper.Contracts

/-! # Who writes the audit trail

A refund request records its refund and, right after it, one event. No other
task records a refund or an event. -/

set_option autoImplicit false

namespace OpenWrapper.AuditContracts
open OpenWrapper.Ids OpenWrapper.Payments OpenWrapper.PaymentStore OpenWrapper.Providers
open OpenWrapper.Headers OpenWrapper.Stateless OpenWrapper.Effects OpenWrapper.Background
open OpenWrapper.Gateway OpenWrapper.Contracts OpenWrapper.Suspended OpenWrapper.Suspended.Prog

/-- A record of a refund or of an event. -/
def records : Effect → Bool
  | .store (.recordRefund _ _) => true
  | .recordEvent _ => true
  | _ => false

/-- The program records no refund and no event. -/
abbrev Silent {α : Type} (p : Gw α) : Prop := Confined (fun e => records e = false) p

section Silent

variable {app : App} {h' : HeaderMap} {p : Provider} {request : PaymentRequest} {id : PaymentId}

theorem createClaimed_silent : Silent (Handlers.createClaimed p request id) := by
  simp only [Handlers.createClaimed, Gw.createPayment, Gw.recordCreationResult, Gw.markFailed,
    Gw.markUnknown, Gw.getPayment, perform_bind, confined_call]
  refine ⟨rfl, fun r => ?_⟩
  cases r with
  | ok result =>
    refine ⟨rfl, fun r => ?_⟩
    cases r <;> trivial
  | error e =>
    dsimp only
    split
    · refine ⟨rfl, fun r => ?_⟩
      cases r <;> trivial
    · refine ⟨rfl, fun r => ?_⟩
      cases r with
      | error s => trivial
      | ok _ =>
        refine ⟨rfl, fun r => ?_⟩
        cases r with
        | error s => trivial
        | ok found => cases found <;> trivial

theorem createPayment_silent {body : Handlers.CreatePaymentBody} :
    Silent (Handlers.createPayment app h' body) := by
  unfold Handlers.createPayment
  cases Handlers.parseCreatePayment h' body with
  | error e => trivial
  | ok request =>
    dsimp only
    cases resolvePaymentProvider app.env app.providers request.provider.asStr h' with
    | error e => trivial
    | ok provider =>
      refine ⟨rfl, fun r => ?_⟩
      cases r with
      | error e => trivial
      | ok outcome =>
        cases outcome with
        | conflict => trivial
        | proceed id => exact createClaimed_silent
        | returnExisting payment =>
          refine ⟨rfl, fun r => ?_⟩
          cases r with
          | error e => trivial
          | ok action => cases action <;> trivial

theorem viewPayment_silent {payment : Payment} : Silent (Handlers.viewPayment id payment) := by
  unfold Handlers.viewPayment
  split
  · trivial
  · refine ⟨rfl, fun r => ?_⟩
    cases r with
    | error e => trivial
    | ok action => cases action <;> trivial

theorem refresh_silent {payment : Payment} : Silent (Handlers.refresh app h' payment) := by
  unfold Handlers.refresh
  split
  · trivial
  · simp only [Gw.inquireStatus, Gw.applyReconciliationResult, Gw.getPayment, perform_bind,
      confined_call]
    refine ⟨rfl, fun r => ?_⟩
    cases r with
    | error e => trivial
    | ok resolved =>
      dsimp only
      split
      · refine ⟨rfl, fun _ => ⟨rfl, fun r => ?_⟩⟩
        cases r with
        | error e => trivial
        | ok found => cases found <;> trivial
      · trivial

theorem getPayment_silent {id : Text PaymentId} : Silent (Handlers.getPayment app h' id) := by
  have lookup : Silent (Handlers.lookupPayment id) := by
    cases id <;> exact ⟨rfl, fun _ => trivial⟩
  apply confined_bind lookup
  intro r
  cases r with
  | error e => trivial
  | ok found =>
    cases found with
    | none => trivial
    | some payment =>
      apply confined_bind refresh_silent
      intro r
      cases r with
      | error e => trivial
      | ok current => exact viewPayment_silent

theorem createWebhookEndpoint_silent {body : Handlers.CreateWebhookEndpointBody} :
    Silent (Handlers.createWebhookEndpoint h' body) := by
  unfold Handlers.createWebhookEndpoint
  split
  · trivial
  · refine ⟨rfl, fun _ => ⟨rfl, fun _ => ⟨rfl, fun _ => ⟨rfl, fun r => ?_⟩⟩⟩⟩
    cases r <;> trivial

/-- A route that is not a refund. -/
theorem handle_silent {route : Router.Route}
    (other : ∀ id body, route ≠ .createRefund id body) : Silent (Router.handle app h' route) := by
  cases route with
  | createPayment body => exact createPayment_silent
  | getPayment id => exact getPayment_silent
  | createRefund id body => exact absurd rfl (other id body)
  | listRefunds id =>
    cases id with
    | corrupt raw => trivial
    | stored id =>
      refine ⟨rfl, fun r => ?_⟩
      cases r <;> trivial
  | listEvents query =>
    refine ⟨rfl, fun r => ?_⟩
    cases r <;> trivial
  | getEvent id =>
    simp only [Router.handle, Handlers.getEvent, Gw.getEvent, perform_bind, confined_call]
    refine ⟨rfl, fun r => ?_⟩
    cases r with
    | error e => trivial
    | ok found =>
      cases found with
      | none => trivial
      | some event =>
        dsimp only
        split
        · split <;> trivial
        · trivial
  | createWebhookEndpoint body => exact createWebhookEndpoint_silent
  | listWebhookEndpoints =>
    refine ⟨rfl, fun r => ?_⟩
    cases r <;> trivial
  | deleteWebhookEndpoint id =>
    refine ⟨rfl, fun r => ?_⟩
    cases r with
    | error e => trivial
    | ok deleted => cases deleted <;> trivial

theorem grpc_createClaimed_silent : Silent (Grpc.createClaimed p request id) := by
  simp only [Grpc.createClaimed, Gw.createPayment, Gw.recordCreationResult, Gw.markFailed,
    Gw.markUnknown, Gw.now, perform_bind, confined_call]
  refine ⟨rfl, fun r => ?_⟩
  cases r with
  | ok result =>
    refine ⟨rfl, fun r => ?_⟩
    cases r <;> trivial
  | error e =>
    dsimp only
    split
    · exact ⟨rfl, fun _ => trivial⟩
    · exact ⟨rfl, fun _ => ⟨rfl, fun _ => trivial⟩⟩

theorem serveGrpc_silent (call : Router.GrpcCall) : Silent (Router.serveGrpc app call) := by
  cases call with
  | createPayment req =>
    rw [Router.serveGrpc, Grpc.createPayment]
    cases Grpc.parseCreatePayment req with
    | error e => trivial
    | ok request =>
      dsimp only
      cases app.providers request.provider.asStr with
      | none => trivial
      | some provider =>
        refine ⟨rfl, fun r => ?_⟩
        cases r with
        | error e => trivial
        | ok outcome =>
          cases outcome with
          | conflict => trivial
          | returnExisting payment => exact ⟨rfl, fun _ => trivial⟩
          | proceed id => exact grpc_createClaimed_silent
  | getPayment id =>
    cases id with
    | corrupt raw => trivial
    | stored id =>
      refine ⟨rfl, fun r => ?_⟩
      cases r with
      | error e => trivial
      | ok found =>
        cases found with
        | none => trivial
        | some payment => exact ⟨rfl, fun _ => trivial⟩
  | streamPaymentEvents filter =>
    cases filter with
    | none => trivial
    | some id =>
      cases id with
      | corrupt raw => trivial
      | stored id => exact ⟨rfl, fun _ => trivial⟩

theorem webhook_silent {name : String} {raw : RawWebhookRequest} :
    Silent (Handlers.webhook app name raw) := by
  unfold Handlers.webhook
  cases app.providers name with
  | none => trivial
  | some provider =>
    dsimp only
    cases app.verifyAndParseWebhook provider raw with
    | error e => cases e <;> trivial
    | ok event =>
      dsimp only
      cases ProviderId.parse name with
      | error e => trivial
      | ok providerId =>
        dsimp only
        split
        · refine ⟨rfl, fun r => ?_⟩
          cases r <;> trivial
        · exact ⟨rfl, fun _ => trivial⟩

theorem consumeWebhook_silent : Silent consumeWebhook := by
  simp only [consumeWebhook, Gw.receiveWebhook, Gw.ackWebhook, perform_bind, confined_call]
  refine ⟨rfl, fun d => ?_⟩
  apply confined_bind
  · unfold processWebhookMessage
    cases ProviderId.parse d.message.provider with
    | error e => trivial
    | ok providerId =>
      refine ⟨rfl, fun r => ?_⟩
      cases r <;> trivial
  · exact fun _ => ⟨rfl, fun _ => trivial⟩

theorem consumeReconciliation_silent {bus : BusConfig} : Silent (consumeReconciliation app bus) := by
  simp only [consumeReconciliation, Gw.receiveReconcile, Gw.ackReconcile, perform_bind, confined_call]
  refine ⟨rfl, fun d => ?_⟩
  apply confined_bind
  · unfold processReconcileMessage
    cases d.message.paymentId with
    | corrupt raw => trivial
    | stored id =>
      dsimp only
      cases app.providers d.message.provider with
      | none => trivial
      | some provider =>
        simp only [settleMessage, Gw.inquireStatus, Gw.applyReconciliationResult,
          Gw.touchReconciliationAttempt, Gw.publishReconcile, perform_bind, confined_call]
        refine ⟨rfl, fun r => ?_⟩
        cases r with
        | ok resolved =>
          dsimp only
          split
          · refine ⟨rfl, fun r => ?_⟩
            cases r <;> trivial
          · exact ⟨rfl, fun _ => trivial⟩
        | error e =>
          dsimp only
          cases retryMessage bus.maxRetries d.message with
          | none => trivial
          | some retry => exact ⟨rfl, fun _ => trivial⟩
  · exact fun _ => ⟨rfl, fun _ => trivial⟩

theorem reconcileInline_silent {reference : String} : Silent (reconcileInline id p reference) := by
  simp only [reconcileInline, Gw.inquireStatus, Gw.applyReconciliationResult,
    Gw.touchReconciliationAttempt, perform_bind, confined_call]
  refine ⟨rfl, fun r => ?_⟩
  cases r with
  | ok resolved =>
    dsimp only
    split <;> exact ⟨rfl, fun _ => trivial⟩
  | error e => exact ⟨rfl, fun _ => trivial⟩

theorem reconcileOne_silent {payment : Payment} : Silent (reconcileOne app payment) := by
  unfold reconcileOne
  cases payment.providerReference with
  | none => exact ⟨rfl, fun _ => trivial⟩
  | some reference =>
    dsimp only
    cases reconcileProvider app payment with
    | none => exact ⟨rfl, fun _ => trivial⟩
    | some provider =>
      dsimp only
      split
      · exact ⟨rfl, fun _ => trivial⟩
      · split
        · exact ⟨rfl, fun _ => trivial⟩
        · exact reconcileInline_silent

theorem reconcileAll_silent (payments : List Payment) : Silent (reconcileAll app payments) := by
  induction payments with
  | nil => trivial
  | cons payment rest ih => exact confined_bind reconcileOne_silent fun _ => ih

theorem runOnce_silent : Silent (runOnce app) := by
  simp only [runOnce, Gw.listStaleUnknownPayments, perform_bind, confined_call]
  refine ⟨rfl, fun r => ?_⟩
  cases r with
  | error e => trivial
  | ok payments => exact confined_bind (reconcileAll_silent payments) fun _ => trivial

end Silent

section Trail

/-- The refunds of a payment that were recorded. -/
def written (id : PaymentId) : GwEvent → ℕ
  | ⟨.store (.recordRefund record _), .ok _⟩ => if record.paymentId = id then 1 else 0
  | _ => 0

/-- The row of the event is about the payment. -/
def About (id : PaymentId) (event : EventRecord) : Prop :=
  event.resourceId = id.display ∧ ∀ record, event.payload = .refund record → record.paymentId = id

instance (id : PaymentId) (event : EventRecord) : Decidable (About id event) :=
  match payload : event.payload with
  | .refund record =>
    decidable_of_iff (event.resourceId = id.display ∧ record.paymentId = id) (by
      simp [About, payload])
  | .other json => decidable_of_iff (event.resourceId = id.display) (by simp [About, payload])

/-- The events about the payment that were stored. -/
def noted (id : PaymentId) : GwEvent → List EventRecord
  | ⟨.recordEvent event, .ok _⟩ => if About id event then [event] else []
  | _ => []

def refunded : String := "payment.refunded"

/-- The event a refund request records about its refund. -/
structure Tells (event : EventRecord) (record : RefundRecord) : Prop where
  eventType : event.eventType = refunded
  resourceId : event.resourceId = record.paymentId.display
  payload : event.payload = .refund record

/-- As many events as refunds, for each payment. -/
def Balanced (h : Past) : Prop :=
  ∀ id, (h.map (written id)).sum = (h.map fun ev => (noted id ev).length).sum

def Blank (h : Past) : Prop := ∀ ev ∈ h, records ev.1 = false

/-- A task between its record of a refund and the event. -/
def between : Past → Bool
  | ⟨.store (.recordRefund _ _), .ok _⟩ :: _ => true
  | ⟨.ulid, _⟩ :: ⟨.store (.recordRefund _ _), .ok _⟩ :: _ => true
  | _ => false

/-- Every event that was to be stored was. -/
def Untroubled (h : Past) : Prop :=
  ∀ ev ∈ h, ∀ event, ev.1 = .recordEvent event → ∃ event', ev = ⟨.recordEvent event', .ok ()⟩

def Noting (h : Past) : Effect → Prop
  | .store (.recordRefund record t) => Blank h ∧ (t = .refunded ∨ t = .partiallyRefunded) ∧
    ∃ payment, told (.getPayment record.paymentId) (some payment) ∈ h
  | .recordEvent event => ∃ generated record t earlier, Tells event record ∧
    h = ⟨.ulid, generated⟩ :: told (.recordRefund record t) () :: earlier ∧ Blank earlier
  | _ => True

/-- A task at each effect: its trail is complete unless it is between. -/
def Auditing (h : Past) (e : Effect) : Prop := Noting h e ∧ (between h = false → Balanced h)

def Audited (h : Past) : Prop := Untroubled h → between h = false → Balanced h

variable {app : App} {h : Past} {ev : GwEvent}

theorem written_silent (silent : records ev.1 = false) (id : PaymentId) : written id ev = 0 := by
  unfold written
  split
  · cases silent
  · rfl

theorem noted_silent (silent : records ev.1 = false) (id : PaymentId) : noted id ev = [] := by
  unfold noted
  split
  · cases silent
  · rfl

theorem Blank.balanced (blank : Blank h) : Balanced h := by
  intro id
  induction h with
  | nil => rfl
  | cons ev h ih =>
    have first := blank ev List.mem_cons_self
    have rest := ih fun ev mem => blank ev (List.mem_cons_of_mem _ mem)
    simp [written_silent first, noted_silent first, rest]

theorem Blank.cons (blank : Blank h) {e : Effect} (silent : records e = false) (r : e.Response) :
    Blank (⟨e, r⟩ :: h) := by
  intro ev mem
  rcases List.mem_cons.mp mem with rfl | earlier
  · exact silent
  · exact blank ev earlier

theorem auditing_blank (blank : Blank h) {e : Effect} (silent : records e = false) :
    Auditing h e := by
  refine ⟨?_, fun _ => blank.balanced⟩
  cases e with
  | store op =>
    cases op with
    | recordRefund record t => cases silent
    | _ => trivial
  | recordEvent event => cases silent
  | _ => trivial

theorem auditing_between {e : Effect} (noting : Noting h e) (standing : between h = true) :
    Auditing h e := by
  refine ⟨noting, fun left => ?_⟩
  rw [standing] at left
  cases left

theorem audited_blank (blank : Blank h) : Audited h := fun _ _ => blank.balanced

theorem silent_audited {α : Type} {p : Gw α} (silent : Silent p) (blank : Blank h) :
    Always Auditing (fun h _ => Audited h) p h :=
  (silent.histories blank).mono (fun _ _ held => auditing_blank held.2 held.1)
    fun _ _ held => audited_blank held

/-- The event that is stored after the refund completes the trail. -/
theorem balanced_noted {record : RefundRecord} {t : PaymentStatus} {event : EventRecord}
    {generated : PaymentId} (tells : Tells event record) (blank : Blank h) :
    Balanced (⟨.recordEvent event, .ok ()⟩ :: ⟨.ulid, generated⟩ ::
      told (.recordRefund record t) () :: h) := by
  intro id
  have rest := blank.balanced id
  have about : About id event ↔ record.paymentId = id := by
    constructor
    · rintro ⟨-, payload⟩
      exact payload record tells.payload
    · rintro rfl
      refine ⟨tells.resourceId, fun record' is => ?_⟩
      rw [tells.payload] at is
      rw [EventPayload.refund.inj is]
  by_cases here : record.paymentId = id
  · have inside := about.mpr here
    simp [written, noted, told, inside, here, rest]
  · have outside := mt about.mp here
    simp [written, noted, told, outside, here, rest]

/-- A request whose refund is recorded. -/
theorem note_audited {record : RefundRecord} {t : PaymentStatus} {userId : Option String}
    {createdAt : ℤ} {reply : Reply} {id : PaymentId} (about : record.paymentId = id)
    (blank : Blank h) :
    Always Auditing (fun h _ => Audited h)
      (.call .ulid fun eventId => .call (.recordEvent
        { id := "evt_" ++ eventId.display, userId, eventType := "payment.refunded"
          resourceId := id.display, payload := .refund record, createdAt })
        fun _ => .done reply)
      (told (.recordRefund record t) () :: h) := by
  subst about
  refine ⟨auditing_between trivial rfl, fun eventId => ?_⟩
  have tells : Tells { id := "evt_" ++ eventId.display, userId, eventType := "payment.refunded"
                       resourceId := record.paymentId.display, payload := .refund record
                       createdAt } record := ⟨rfl, rfl, rfl⟩
  refine ⟨auditing_between ⟨eventId, record, t, h, tells, rfl, blank⟩ rfl, fun r => ?_⟩
  intro untroubled _
  obtain ⟨event, is⟩ := untroubled _ List.mem_cons_self _ rfl
  cases is
  exact balanced_noted tells blank

theorem executeRefund_audited {p : Provider} {h' : HeaderMap} {payment : Payment}
    {id : PaymentId} {reference : String} {previously : ℤ} {body : Handlers.CreateRefundBody}
    (blank : Blank h) {held : Payment} (known : told (.getPayment id) (some held) ∈ h) :
    Always Auditing (fun h _ => Audited h)
      (Handlers.executeRefund p h' payment id reference previously body) h := by
  simp only [Handlers.executeRefund, Gw.refund, Gw.ulid, Gw.now, Gw.recordRefund,
    Gw.recordEvent, perform_bind, always_call]
  refine ⟨auditing_blank blank rfl, fun r => ?_⟩
  cases r with
  | error e => exact audited_blank (blank.cons rfl _)
  | ok result =>
    have blank₁ := blank.cons (e := .refund p payment.id reference body.amountMinorUnits body.reason)
      rfl (.ok result)
    refine ⟨auditing_blank blank₁ rfl, fun generated => ?_⟩
    have blank₂ := blank₁.cons (e := .ulid) rfl generated
    refine ⟨auditing_blank blank₂ rfl, fun now => ?_⟩
    have blank₃ := blank₂.cons (e := .now) rfl now
    refine ⟨⟨⟨blank₃, ?_, held, ?_⟩, fun _ => blank₃.balanced⟩, fun r => ?_⟩
    · exact Handlers.statusAfterRefund_cases _ _ _
    · simp [known]
    · cases r with
      | error e =>
        intro _ _ id
        simpa [written, noted] using blank₃.balanced id
      | ok _ =>
        exact note_audited rfl blank₃

theorem createRefund_audited {h' : HeaderMap} {id : Text PaymentId}
    {body : Handlers.CreateRefundBody} (blank : Blank h) :
    Always Auditing (fun h _ => Audited h) (Handlers.createRefund app h' id body) h := by
  cases id with
  | corrupt raw => exact audited_blank blank
  | stored id =>
    simp only [Handlers.createRefund, Gw.getPayment, Gw.getTotalRefundedMinorUnits, perform_bind,
      always_call]
    refine ⟨auditing_blank blank rfl, fun r => ?_⟩
    have blank₁ := blank.cons (e := .store (.getPayment id)) rfl r
    cases r with
    | error e => exact audited_blank blank₁
    | ok found =>
      cases found with
      | none => exact audited_blank blank₁
      | some payment =>
        dsimp only
        split
        · exact audited_blank blank₁
        · split
          · exact audited_blank blank₁
          · refine ⟨auditing_blank blank₁ rfl, fun r => ?_⟩
            have blank₂ := blank₁.cons (e := .store (.getTotalRefundedMinorUnits id)) rfl r
            cases r with
            | error e => exact audited_blank blank₂
            | ok previously =>
              dsimp only
              split
              · exact audited_blank blank₂
              · cases resolvePaymentProvider app.env app.providers payment.provider.asStr h' with
                | error e => exact audited_blank blank₂
                | ok p =>
                  dsimp only
                  split
                  · exact audited_blank blank₂
                  · cases payment.providerReference with
                    | none => exact audited_blank blank₂
                    | some reference =>
                      exact executeRefund_audited blank₂
                        (List.mem_cons_of_mem _ List.mem_cons_self)

theorem blank_nil : Blank [] := fun _ mem => absurd mem List.not_mem_nil

theorem handle_audited {h' : HeaderMap} {route : Router.Route} (blank : Blank h) :
    Always Auditing (fun h _ => Audited h) (Router.handle app h' route) h := by
  by_cases refunds : ∃ id body, route = .createRefund id body
  · obtain ⟨id, body, rfl⟩ := refunds
    exact createRefund_audited blank
  · exact silent_audited (handle_silent fun id body is => refunds ⟨id, body, is⟩) blank

theorem enforce_audited {h' : HeaderMap} {route : Router.Route} (blank : Blank h) :
    Always Auditing (fun h _ => Audited h) (Router.enforce (Router.handle app h' route)) h := by
  refine ⟨auditing_blank blank rfl, fun r => ?_⟩
  have blank₁ := blank.cons (e := .tryAcquire) rfl r
  cases r with
  | true => exact handle_audited blank₁
  | false => exact audited_blank blank₁

theorem serveHttp_audited {headers : HeaderMap} {route : Router.Route} (blank : Blank h) :
    Always Auditing (fun h _ => Audited h) (Router.serveHttp app headers route) h := by
  unfold Router.serveHttp Router.requireApiKey
  dsimp only
  split
  · split
    · exact enforce_audited blank
    · exact audited_blank blank
  next provided _ =>
    split
    · exact enforce_audited blank
    · refine ⟨auditing_blank blank rfl, fun r => ?_⟩
      have blank₁ := blank.cons (e := .findApiKey (app.sha256Hex provided)) rfl r
      cases r with
      | error e => exact audited_blank blank₁
      | ok found =>
        cases found with
        | none => exact audited_blank blank₁
        | some key => exact enforce_audited blank₁

theorem body_audited (app : App) (o : Origin) :
    Always Auditing (fun h _ => Audited h) (body app o) [] := by
  have blank := blank_nil
  cases o with
  | http headers route => exact serveHttp_audited blank
  | grpc call => exact silent_audited (serveGrpc_silent call) blank
  | webhook name raw => exact silent_audited webhook_silent blank
  | webhookConsumer => exact silent_audited consumeWebhook_silent blank
  | reconcileConsumer =>
    rw [body]
    cases app.messageBus with
    | some bus => exact silent_audited consumeReconciliation_silent blank
    | none => exact audited_blank blank
  | reconciler => exact silent_audited runOnce_silent blank

end Trail

end OpenWrapper.AuditContracts
