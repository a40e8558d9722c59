import OpenWrapper.Gateway

/-! # What each task may do, and after what

`Licensed` lists, effect by effect, what a task has been told when it performs
the effect. It is proved handler by handler, for whatever the effects are
answered, and is the only thing the run properties use of the handlers'
text. -/

set_option autoImplicit false

namespace OpenWrapper.Contracts
open OpenWrapper.Ids OpenWrapper.Errors OpenWrapper.Payments OpenWrapper.PaymentStore
open OpenWrapper.Providers OpenWrapper.Headers OpenWrapper.Stateless OpenWrapper.Effects
open OpenWrapper.Gateway OpenWrapper.Suspended OpenWrapper.Suspended.Prog

/-- The store answered `op` with `v`. -/
abbrev told (op : StoreOp) (v : op.Value) : GwEvent := ⟨.store op, .ok v⟩

abbrev Past := History Effect.Response

/-- The payment request an origin carries, once its handler has parsed it. -/
def requestOf : Origin → Option PaymentRequest
  | .http headers (.createPayment body) => (Handlers.parseCreatePayment headers body).toOption
  | .grpc (.createPayment req) => (Grpc.parseCreatePayment req).toOption
  | _ => none

def isInternal (name : String) : Prop :=
  name = "x-openwrapper-user-id" ∨ name = "x-openwrapper-api-key-id" ∨
    name = "x-openwrapper-environment"

/-- Header maps that differ at most in what the authentication layer sets. -/
def SameCaller (headers h : HeaderMap) : Prop :=
  ∀ name, ¬ isInternal name → h.get name = headers.get name

/-- The provider a task resolves a provider's name to. -/
inductive Resolves (app : App) : Origin → String → Provider → Prop
  | server (o : Origin) (name : String) (p : Provider) :
      app.providers name = some p → Resolves app o name p
  | request (headers h : HeaderMap) (route : Router.Route) (name : String) (p : Provider) :
      SameCaller headers h → resolvePaymentProvider app.env app.providers name h = .ok p →
      Resolves app (.http headers route) name p
  | environment (name : String) (p : Provider) :
      resolvePaymentProvider app.env app.providers name ⟨[]⟩ = .ok p →
      Resolves app .reconciler name p

/-- The payments an answer of the store hands out. -/
def handedOut : GwEvent → List Payment
  | ⟨.store (.getPayment _), .ok (some p)⟩ => [p]
  | ⟨.store (.findPaymentByReference _), .ok (some p)⟩ => [p]
  | ⟨.store (.listStaleUnknownPayments _ _), .ok ps⟩ => ps
  | ⟨.store (.beginPaymentWithOwner _ _), .ok (.returnExisting p)⟩ => [p]
  | _ => []

/-- The task holds a payment the store handed out. -/
def Holds (h : Past) (payment : Payment) : Prop := ∃ ev ∈ h, payment ∈ handedOut ev

/-- A refund request past its checks: the payment and the total it read. -/
structure RefundChecked (h : Past) (id : PaymentId) (payment : Payment)
    (previously amount : ℤ) : Prop where
  read : ∃ rest, h = told (.getTotalRefundedMinorUnits id) previously ::
    told (.getPayment id) (some payment) :: rest
  refundable : payment.status = .succeeded ∨ payment.status = .partiallyRefunded
  positive : 0 < amount
  covered : previously + amount ≤ payment.amount.minorUnits

/-- The provider's answer to the creation of `id` is the latest event. -/
def Created (h : Past) (id : PaymentId) (r : Except OpenWrapperError PaymentResult) : Prop :=
  ∃ p request rest, h = ⟨.createPayment p id request, r⟩ :: rest

/-- The refund of `record` was answered by the provider; what follows in the
history is the clock and an identifier. -/
structure RefundAnswered (h : Past) (record : RefundRecord) (status : PaymentStatus) : Prop where
  answered : ∃ now generated p payment reference result previously rest,
    h = ⟨.now, now⟩ :: ⟨.ulid, generated⟩ ::
      ⟨.refund p payment.id reference record.amountMinorUnits record.reason, .ok result⟩ :: rest ∧
    RefundChecked rest record.paymentId payment previously record.amountMinorUnits ∧
    payment.providerReference = some reference ∧ record.status = result.status ∧
    status = Handlers.statusAfterRefund payment previously record.amountMinorUnits

/-- A delivery whose signature the adapter accepted. -/
def Verified (app : App) (o : Origin) (name : String) (event : WebhookEvent) : Prop :=
  ∃ raw p, o = .webhook name raw ∧ app.providers name = some p ∧
    app.verifyAndParseWebhook p raw = .ok event

/-- A consumer that holds a delivery and has done nothing else. -/
def Received (o : Origin) (h : Past) (d : Delivery WebhookQueueMessage) : Prop :=
  o = .webhookConsumer ∧ h = [⟨.receiveWebhook, d⟩]

def Licensed (app : App) (o : Origin) (h : Past) : Effect → Prop
  | .store (.beginPaymentWithOwner request _) =>
    requestOf o = some request ∧ ∃ p, Resolves app o request.provider.asStr p
  | .store (.recordCreationResult id reference status action) =>
    ∃ result, Created h id (.ok result) ∧ reference = result.providerReference ∧
      status = result.status.toStatus ∧ action = result.nextAction
  | .store (.markTerminalWithoutProviderReference id status) =>
    status = .failed ∧ ∃ e, Created h id (.error e) ∧ e.isDefiniteNonOccurrence = true
  | .store (.markUnknown id) =>
    ∃ e, Created h id (.error e) ∧ e.isDefiniteNonOccurrence = false
  | .store (.applyReconciliationResult id resolved) =>
    resolved ≠ .unknown ∧
      ∃ p reference rest, h = ⟨.inquireStatus p (.stored id) reference, .ok resolved⟩ :: rest
  | .store (.applyWebhookEvent report) =>
    (∃ name event providerId, Verified app o name event ∧ app.messageBus = none ∧
      ProviderId.parse name = .ok providerId ∧
      report = Handlers.WebhookEvent.report event providerId) ∨
    (∃ d providerId, Received o h d ∧ ProviderId.parse d.message.provider = .ok providerId ∧
      report = Handlers.WebhookEvent.report d.message.event providerId)
  | .store (.recordRefund record status) => RefundAnswered h record status
  | .store (.getTotalRefundedMinorUnits id) =>
    ∃ payment rest, h = told (.getPayment id) (some payment) :: rest ∧
      (payment.status = .succeeded ∨ payment.status = .partiallyRefunded)
  | .createPayment p id request =>
    (∃ owner rest, h = told (.beginPaymentWithOwner request owner) (.proceed id) :: rest) ∧
      Resolves app o request.provider.asStr p
  | .inquireStatus p payment reference =>
    (∃ held, Holds h held ∧ payment = .stored held.id ∧
      held.providerReference = some reference ∧ Resolves app o held.provider.asStr p) ∨
    (∃ d : Delivery ReconcileQueueMessage, (⟨.receiveReconcile, d⟩ : GwEvent) ∈ h ∧
      payment = d.message.paymentId ∧ reference = d.message.providerReference ∧
      app.providers d.message.provider = some p)
  | .refund p id reference amount _ =>
    ∃ asked payment previously, RefundChecked h asked payment previously amount ∧
      id = payment.id ∧ payment.providerReference = some reference ∧
      Resolves app o payment.provider.asStr p
  | .publishWebhook m =>
    Verified app o m.provider m.event ∧ ∃ providerId, ProviderId.parse m.provider = .ok providerId
  | .publishReconcile m =>
    (∃ held reference, Holds h held ∧ held.providerReference = some reference ∧
      m = ⟨.stored held.id, held.provider.asStr, reference, 0⟩) ∨
    (∃ d : Delivery ReconcileQueueMessage, (⟨.receiveReconcile, d⟩ : GwEvent) ∈ h ∧
      ∃ attempt, m = { d.message with attempt })
  | .ackWebhook tag =>
    ∃ d, tag = d.tag ∧
      ((Received o h d ∧ ∃ e, ProviderId.parse d.message.provider = .error e) ∨
      ∃ providerId r earlier, Received o earlier d ∧
        ProviderId.parse d.message.provider = .ok providerId ∧
        h = ⟨.store (.applyWebhookEvent
          (Handlers.WebhookEvent.report d.message.event providerId)), r⟩ :: earlier)
  | _ => True

section Answers

/-- The payment a create request is answered with. -/
def paymentIdOf : Reply → Option PaymentId
  | .http _ (.payment view) => some view.paymentId
  | .grpc (.ok answer) => some answer.payment.id
  | _ => none

def isConflict : Reply → Prop
  | .http status _ => status = 409
  | .grpc (.error (.alreadyExists _)) => True
  | _ => False

def isOk : Reply → Prop
  | .http status _ => status = 200
  | _ => False

/-- The store let the request create `id`, or named it as the payment of an
earlier request. -/
inductive Granted (h : Past) (request : PaymentRequest) : PaymentId → Prop
  | proceeded (owner : Option ApiKeyInfo) (id : PaymentId) :
      told (.beginPaymentWithOwner request owner) (.proceed id) ∈ h → Granted h request id
  | reread (owner : Option ApiKeyInfo) (id : PaymentId) (payment : Payment) :
      told (.beginPaymentWithOwner request owner) (.proceed id) ∈ h →
      told (.getPayment id) (some payment) ∈ h → Granted h request payment.id
  | existing (owner : Option ApiKeyInfo) (payment : Payment) :
      told (.beginPaymentWithOwner request owner) (.returnExisting payment) ∈ h →
      Granted h request payment.id

/-- A delivery the gateway has taken over: queued, or judged by the store. -/
def TakenOver (h : Past) (name : String) (event : WebhookEvent) : Prop :=
  (⟨.publishWebhook ⟨name, event⟩, .ok ()⟩ : GwEvent) ∈ h ∨
  ∃ providerId outcome, told (.applyWebhookEvent
    (Handlers.WebhookEvent.report event providerId)) outcome ∈ h

structure Answered (app : App) (o : Origin) (h : Past) (reply : Reply) : Prop where
  granted : ∀ request id, requestOf o = some request → paymentIdOf reply = some id →
    Granted h request id
  refused : ∀ request owner, requestOf o = some request →
    told (.beginPaymentWithOwner request owner) .conflict ∈ h →
    isConflict reply ∧ ∀ ev ∈ h, ∀ op, ev.1 = .store op →
      op = .beginPaymentWithOwner request owner
  taken : ∀ name raw, o = .webhook name raw → isOk reply →
    ∃ event, Verified app o name event ∧ TakenOver h name event

end Answers

section Creation

variable {app : App} {o : Origin} {request : PaymentRequest}

/-- Nothing in the history touched the store. -/
def Quiet (h : Past) : Prop := ∀ ev ∈ h, ∀ op, ev.1 ≠ .store op

theorem Quiet.told_not_mem {h : Past} (quiet : Quiet h) (op : StoreOp) (v : op.Value) :
    told op v ∉ h := fun mem => quiet _ mem op rfl

/-- A create request the store has not refused. -/
structure Unrefused (o : Origin) (request : PaymentRequest) (h : Past) : Prop where
  asked : requestOf o = some request
  unrefused : ∀ owner, told (.beginPaymentWithOwner request owner) .conflict ∉ h

theorem Quiet.unrefused {h : Past} (quiet : Quiet h) (asked : requestOf o = some request) :
    Unrefused o request h :=
  ⟨asked, fun _ => quiet.told_not_mem _ _⟩

theorem Unrefused.cons {h : Past} (open_ : Unrefused o request h) (ev : GwEvent)
    (other : ∀ owner, ev ≠ told (.beginPaymentWithOwner request owner) .conflict) :
    Unrefused o request (ev :: h) where
  asked := open_.asked
  unrefused := by
    intro owner mem
    rcases List.mem_cons.mp mem with same | earlier
    · exact other owner same.symm
    · exact open_.unrefused owner earlier

theorem Unrefused.named {h : Past} {reply : Reply} {id : PaymentId}
    (open_ : Unrefused o request h) (names : paymentIdOf reply = some id)
    (granted : Granted h request id) : Answered app o h reply where
  granted := by
    intro r i asked named
    rw [open_.asked] at asked
    cases asked
    rw [names] at named
    cases named
    exact granted
  refused := by
    intro r owner asked mem
    rw [open_.asked] at asked
    cases asked
    exact absurd mem (open_.unrefused owner)
  taken := by
    rintro name raw rfl
    exact absurd open_.asked (by simp [requestOf])

theorem Unrefused.unnamed {h : Past} {reply : Reply} (open_ : Unrefused o request h)
    (nothing : paymentIdOf reply = none) : Answered app o h reply where
  granted := by simp [nothing]
  refused := by
    intro r owner asked mem
    rw [open_.asked] at asked
    cases asked
    exact absurd mem (open_.unrefused owner)
  taken := by
    rintro name raw rfl
    exact absurd open_.asked (by simp [requestOf])

@[simp] theorem paymentIdOf_apiError (e : OpenWrapperError) :
    paymentIdOf (Handlers.apiError e) = none := by
  unfold Handlers.apiError
  split <;> rfl

@[simp] theorem paymentIdOf_storeError (e : StoreError) :
    paymentIdOf (Handlers.storeError e) = none := paymentIdOf_apiError _

@[simp] theorem paymentIdOf_storeStatus (e : StoreError) :
    paymentIdOf (Grpc.storeStatus e) = none := rfl

/-- A conflict ends the request: it was the only call of the store. -/
theorem answered_conflict {h : Past} {reply : Reply} {owner : Option ApiKeyInfo}
    (asked : requestOf o = some request) (quiet : Quiet h)
    (nothing : paymentIdOf reply = none) (conflict : isConflict reply) :
    Answered app o (told (.beginPaymentWithOwner request owner) .conflict :: h) reply where
  granted := by simp [nothing]
  refused := by
    intro request' owner' asked' mem
    rw [asked] at asked'
    cases asked'
    rcases List.mem_cons.mp mem with same | earlier
    · cases same
      refine ⟨conflict, fun ev known op is => ?_⟩
      rcases List.mem_cons.mp known with rfl | before
      · cases is
        rfl
      · exact absurd is (quiet ev before op)
    · exact absurd earlier (quiet.told_not_mem _ _)
  taken := by
    rintro name raw rfl
    exact absurd asked (by simp [requestOf])

theorem createClaimed_always {p : Provider} {id : PaymentId} {h : Past}
    (asked : requestOf o = some request) (owner : Option ApiKeyInfo)
    (resolved : Resolves app o request.provider.asStr p) (quiet : Quiet h) :
    Always (Licensed app o) (Answered app o) (Handlers.createClaimed p request id)
      (told (.beginPaymentWithOwner request owner) (.proceed id) :: h) := by
  have proceeding := (quiet.unrefused asked).cons
    (told (.beginPaymentWithOwner request owner) (.proceed id)) (by simp)
  simp only [Handlers.createClaimed, Gw.createPayment, Gw.recordCreationResult, Gw.markFailed,
    Gw.markUnknown, Gw.getPayment, perform_bind, always_call]
  refine ⟨⟨⟨owner, h, rfl⟩, resolved⟩, fun r => ?_⟩
  cases r with
  | ok result =>
    refine ⟨⟨result, ⟨p, request, _, rfl⟩, rfl, rfl, rfl⟩, fun r => ?_⟩
    have recorded := (proceeding.cons ⟨.createPayment p id request, .ok result⟩
      (by simp)).cons ⟨_, r⟩ (by simp)
    cases r with
    | ok _ => exact recorded.named rfl (.proceeded owner id (by simp))
    | error e => exact recorded.unnamed (by simp)
  | error e =>
    have refused := proceeding.cons ⟨.createPayment p id request, .error e⟩ (by simp)
    dsimp only
    split
    next definite =>
      refine ⟨⟨rfl, e, ⟨p, request, _, rfl⟩, definite⟩, fun r => ?_⟩
      have marked := refused.cons ⟨_, r⟩ (by simp)
      cases r with
      | ok _ => exact marked.unnamed (by simp)
      | error s => exact marked.unnamed (by simp)
    next ambiguous =>
      refine ⟨⟨e, ⟨p, request, _, rfl⟩, by simpa using ambiguous⟩, fun r => ?_⟩
      have marked := refused.cons ⟨_, r⟩ (by simp)
      cases r with
      | error s => exact marked.unnamed (by simp)
      | ok _ =>
        refine ⟨trivial, fun r => ?_⟩
        have read := marked.cons ⟨.store (.getPayment id), r⟩ (by simp)
        cases r with
        | error s => exact read.unnamed (by simp)
        | ok found =>
          cases found with
          | none => exact read.unnamed (by simp)
          | some payment =>
            exact read.named rfl (.reread owner id payment (by simp) List.mem_cons_self)

theorem grpc_createClaimed_always {p : Provider} {id : PaymentId} {h : Past}
    (asked : requestOf o = some request) (owner : Option ApiKeyInfo)
    (resolved : Resolves app o request.provider.asStr p) (quiet : Quiet h) :
    Always (Licensed app o) (Answered app o) (Grpc.createClaimed p request id)
      (told (.beginPaymentWithOwner request owner) (.proceed id) :: h) := by
  have proceeding := (quiet.unrefused asked).cons
    (told (.beginPaymentWithOwner request owner) (.proceed id)) (by simp)
  simp only [Grpc.createClaimed, Gw.createPayment, Gw.recordCreationResult, Gw.markFailed,
    Gw.markUnknown, Gw.now, perform_bind, always_call]
  refine ⟨⟨⟨owner, h, rfl⟩, resolved⟩, fun r => ?_⟩
  cases r with
  | ok result =>
    refine ⟨⟨result, ⟨p, request, _, rfl⟩, rfl, rfl, rfl⟩, fun r => ?_⟩
    have recorded := (proceeding.cons ⟨.createPayment p id request, .ok result⟩
      (by simp)).cons ⟨_, r⟩ (by simp)
    cases r with
    | ok _ => exact recorded.named rfl (.proceeded owner id (by simp))
    | error e => exact recorded.unnamed (by simp)
  | error e =>
    have refused := proceeding.cons ⟨.createPayment p id request, .error e⟩ (by simp)
    dsimp only
    split
    next definite =>
      refine ⟨⟨rfl, e, ⟨p, request, _, rfl⟩, definite⟩, fun r => ?_⟩
      exact (refused.cons ⟨_, r⟩ (by simp)).unnamed rfl
    next ambiguous =>
      refine ⟨⟨e, ⟨p, request, _, rfl⟩, by simpa using ambiguous⟩, fun r => ?_⟩
      refine ⟨trivial, fun now => ?_⟩
      have timed := (refused.cons ⟨_, r⟩ (by simp)).cons ⟨.now, now⟩ (by simp)
      exact timed.named rfl (.proceeded owner id (by simp))

theorem parse_sameCaller {headers h : HeaderMap} (same : SameCaller headers h)
    (body : Handlers.CreatePaymentBody) :
    Handlers.parseCreatePayment h body = Handlers.parseCreatePayment headers body := by
  have key : h.getStr "idempotency-key" = headers.getStr "idempotency-key" := by
    unfold HeaderMap.getStr
    rw [same "idempotency-key" (by simp [isInternal])]
  unfold Handlers.parseCreatePayment
  rw [key]

theorem createPayment_always {headers h' : HeaderMap} {body : Handlers.CreatePaymentBody}
    {h : Past} (same : SameCaller headers h') (quiet : Quiet h) :
    Always (Licensed app (.http headers (.createPayment body)))
      (Answered app (.http headers (.createPayment body)))
      (Handlers.createPayment app h' body) h := by
  unfold Handlers.createPayment
  rw [parse_sameCaller same]
  cases parsed : Handlers.parseCreatePayment headers body with
  | error e =>
    have asked : requestOf (.http headers (.createPayment body)) = none := by
      simp [requestOf, parsed, Except.toOption]
    exact ⟨by simp [asked], by simp [asked], by simp⟩
  | ok request =>
    have asked : requestOf (.http headers (.createPayment body)) = some request := by
      simp [requestOf, parsed, Except.toOption]
    dsimp only
    cases resolved : resolvePaymentProvider app.env app.providers request.provider.asStr h' with
    | error e => exact (quiet.unrefused asked).unnamed (by simp)
    | ok provider =>
      have resolves : Resolves app (.http headers (.createPayment body))
          request.provider.asStr provider := .request headers h' _ _ _ same resolved
      simp only [Gw.begin, Gw.getNextAction, perform_bind, always_call]
      refine ⟨⟨asked, provider, resolves⟩, fun r => ?_⟩
      cases r with
      | error e => exact Unrefused.unnamed ((quiet.unrefused asked).cons _ (by simp)) (by simp)
      | ok outcome =>
        cases outcome with
        | conflict => exact answered_conflict asked quiet (by simp) rfl
        | returnExisting payment =>
          refine ⟨trivial, fun r => ?_⟩
          have existing := ((quiet.unrefused asked).cons (told
            (.beginPaymentWithOwner request (Handlers.owner h')) (.returnExisting payment))
            (by simp)).cons ⟨.store (.getNextAction payment.id), r⟩ (by simp)
          have granted : Granted (⟨.store (.getNextAction payment.id), r⟩ ::
              told (.beginPaymentWithOwner request (Handlers.owner h')) (.returnExisting payment) :: h)
              request payment.id :=
            .existing (Handlers.owner h') payment (by simp)
          cases r with
          | error e => exact existing.named rfl granted
          | ok action =>
            cases action with
            | none => exact existing.named rfl granted
            | some a => exact existing.named rfl granted
        | proceed id =>
          exact createClaimed_always asked _ resolves quiet

theorem grpc_createValidated_always {p : Provider} {h : Past}
    (asked : requestOf o = some request) (quiet : Quiet h)
    (resolved : Resolves app o request.provider.asStr p) :
    Always (Licensed app o) (Answered app o) (Grpc.createValidated p request) h := by
  simp only [Grpc.createValidated, Gw.begin, Gw.getNextAction, perform_bind, always_call]
  refine ⟨⟨asked, p, resolved⟩, fun r => ?_⟩
  cases r with
  | error e => exact Unrefused.unnamed ((quiet.unrefused asked).cons _ (by simp)) rfl
  | ok outcome =>
    cases outcome with
    | conflict => exact answered_conflict asked quiet rfl trivial
    | returnExisting payment =>
      refine ⟨trivial, fun r => ?_⟩
      have existing := ((quiet.unrefused asked).cons (told
        (.beginPaymentWithOwner request none) (.returnExisting payment))
        (by simp)).cons ⟨.store (.getNextAction payment.id), r⟩ (by simp)
      exact existing.named rfl (.existing none payment (by simp))
    | proceed id => exact grpc_createClaimed_always asked _ resolved quiet

end Creation

section Requests

variable {app : App} {o : Origin}

theorem answered_other {h : Past} {reply : Reply} (silent : requestOf o = none)
    (direct : ∀ name raw, o ≠ .webhook name raw) : Answered app o h reply where
  granted := by simp [silent]
  refused := by simp [silent]
  taken := fun name raw is => absurd is (direct name raw)

/-- A task whose answer nobody depends on. -/
theorem always_other {p : Gw Reply} {h : Past} (silent : requestOf o = none)
    (direct : ∀ name raw, o ≠ .webhook name raw)
    (always : Always (Licensed app o) (fun _ _ => True) p h) :
    Always (Licensed app o) (Answered app o) p h :=
  always.mono (fun _ _ license => license) fun _ _ _ => answered_other silent direct

theorem Holds.cons {h : Past} {payment : Payment} (holds : Holds h payment) (ev : GwEvent) :
    Holds (ev :: h) payment := by
  obtain ⟨ev', mem, handed⟩ := holds
  exact ⟨ev', List.mem_cons_of_mem _ mem, handed⟩

theorem holds_latest {h : Past} {payment : Payment} {ev : GwEvent}
    (handed : payment ∈ handedOut ev) : Holds (ev :: h) payment :=
  ⟨ev, List.mem_cons_self, handed⟩

theorem inquiryProvider_resolves {headers h' : HeaderMap} (route : Router.Route)
    {payment : Payment} {p : Provider} {reference : String} (same : SameCaller headers h')
    (chosen : Handlers.inquiryProvider app h' payment = some (p, reference)) :
    payment.providerReference = some reference ∧
      Resolves app (.http headers route) payment.provider.asStr p := by
  unfold Handlers.inquiryProvider at chosen
  split at chosen
  · cases chosen
  · split at chosen
    · cases chosen
    next stored =>
      dsimp only at chosen
      split at chosen
      · cases chosen
      next provider resolved =>
        split at chosen
        · cases chosen
          refine ⟨stored, ?_⟩
          split at resolved
          next ok =>
            cases resolved
            exact .request headers h' _ _ _ same ok
          · exact .server _ _ _ resolved
        · cases chosen

theorem refresh_always {headers h' : HeaderMap} {route : Router.Route} {payment : Payment}
    {h : Past} (same : SameCaller headers h') (holds : Holds h payment) :
    Always (Licensed app (.http headers route)) (fun _ _ => True)
      (Handlers.refresh app h' payment) h := by
  unfold Handlers.refresh
  cases chosen : Handlers.inquiryProvider app h' payment with
  | none => trivial
  | some pair =>
    obtain ⟨p, reference⟩ := pair
    obtain ⟨stored, resolves⟩ := inquiryProvider_resolves route same chosen
    simp only [Gw.inquireStatus, Gw.applyReconciliationResult, Gw.getPayment, perform_bind,
      always_call]
    refine ⟨.inl ⟨payment, holds, rfl, stored, resolves⟩, fun r => ?_⟩
    cases r with
    | error e => trivial
    | ok resolved =>
      dsimp only
      split
      next news =>
        refine ⟨⟨news.2, p, reference, h, rfl⟩, fun r => ⟨trivial, fun r => ?_⟩⟩
        cases r with
        | error e => trivial
        | ok found => cases found <;> trivial
      · trivial

theorem viewPayment_always {id : PaymentId} {payment : Payment} {h : Past} :
    Always (Licensed app o) (fun _ _ => True) (Handlers.viewPayment id payment) h := by
  unfold Handlers.viewPayment
  split
  · trivial
  · refine ⟨trivial, fun r => ?_⟩
    cases r with
    | error e => trivial
    | ok action => cases action <;> trivial

theorem lookupPayment_always {id : Text PaymentId} {h : Past} :
    Always (Licensed app o)
      (fun h r => ∀ payment, r = .ok (some payment) → Holds h payment)
      (Handlers.lookupPayment id) h := by
  cases id with
  | stored id =>
    refine ⟨trivial, fun r payment is => ?_⟩
    cases is
    exact holds_latest (by simp [handedOut])
  | corrupt raw =>
    refine ⟨trivial, fun r payment is => ?_⟩
    cases is
    exact holds_latest (by simp [handedOut])

theorem getPayment_always {headers h' : HeaderMap} {route : Router.Route}
    {id : Text PaymentId} {h : Past} (same : SameCaller headers h') :
    Always (Licensed app (.http headers route)) (fun _ _ => True)
      (Handlers.getPayment app h' id) h := by
  unfold Handlers.getPayment
  refine always_bind _ _ lookupPayment_always fun h₁ r _ held => ?_
  cases r with
  | error e => trivial
  | ok found =>
    cases found with
    | none => trivial
    | some payment =>
      refine always_bind _ _ (refresh_always same (held payment rfl)) fun h₂ r _ _ => ?_
      cases r with
      | error e => trivial
      | ok current => exact viewPayment_always

theorem executeRefund_always {headers h' : HeaderMap} {route : Router.Route} {p : Provider}
    {payment : Payment} {id : PaymentId} {reference : String} {previously : ℤ}
    {body : Handlers.CreateRefundBody} {h : Past}
    (checked : RefundChecked h id payment previously body.amountMinorUnits)
    (stored : payment.providerReference = some reference)
    (resolves : Resolves app (.http headers route) payment.provider.asStr p) :
    Always (Licensed app (.http headers route)) (fun _ _ => True)
      (Handlers.executeRefund p h' payment id reference previously body) h := by
  simp only [Handlers.executeRefund, Gw.refund, Gw.ulid, Gw.now, Gw.recordRefund,
    Gw.recordEvent, perform_bind, always_call]
  refine ⟨⟨id, payment, previously, checked, rfl, stored, resolves⟩, fun r => ?_⟩
  cases r with
  | error e => trivial
  | ok result =>
    refine ⟨trivial, fun generated => ⟨trivial, fun now => ?_⟩⟩
    refine ⟨⟨now, generated, p, payment, reference, result, previously, h, rfl, checked,
      stored, rfl, rfl⟩, fun r => ?_⟩
    cases r with
    | error e => trivial
    | ok _ => exact ⟨trivial, fun _ => ⟨trivial, fun _ => trivial⟩⟩

theorem createRefund_always {headers h' : HeaderMap} {route : Router.Route}
    {id : Text PaymentId} {body : Handlers.CreateRefundBody} {h : Past}
    (same : SameCaller headers h') :
    Always (Licensed app (.http headers route)) (fun _ _ => True)
      (Handlers.createRefund app h' id body) h := by
  cases id with
  | corrupt raw => trivial
  | stored id =>
    simp only [Handlers.createRefund, Gw.getPayment, Gw.getTotalRefundedMinorUnits,
      perform_bind, always_call]
    refine ⟨trivial, fun r => ?_⟩
    cases r with
    | error e => trivial
    | ok found =>
      cases found with
      | none => trivial
      | some payment =>
        dsimp only
        split
        · trivial
        next refundable =>
          have refundable : payment.status = .succeeded ∨ payment.status = .partiallyRefunded := by
            by_contra neither
            exact refundable (not_or.mp neither)
          split
          · trivial
          next positive =>
            refine ⟨⟨payment, h, rfl, refundable⟩, fun r => ?_⟩
            cases r with
            | error e => trivial
            | ok previously =>
              dsimp only
              split
              · trivial
              next covered =>
                cases resolved : resolvePaymentProvider app.env app.providers
                    payment.provider.asStr h' with
                | error e => trivial
                | ok p =>
                  dsimp only
                  split
                  · trivial
                  · cases stored : payment.providerReference with
                    | none => trivial
                    | some reference =>
                      have checked : RefundChecked
                          (told (.getTotalRefundedMinorUnits id) previously ::
                            told (.getPayment id) (some payment) :: h)
                          id payment previously body.amountMinorUnits :=
                        ⟨⟨h, rfl⟩, refundable, by omega, by omega⟩
                      exact executeRefund_always checked stored
                        (.request headers h' _ _ _ same resolved)

theorem webhook_always {name : String} {raw : RawWebhookRequest} :
    Always (Licensed app (.webhook name raw)) (Answered app (.webhook name raw))
      (Handlers.webhook app name raw) [] := by
  have refused : ∀ (h : Past) reply, ¬ isOk reply → Answered app (.webhook name raw) h reply :=
    fun h reply bad => ⟨by simp [requestOf], by simp [requestOf], fun _ _ _ ok => absurd ok bad⟩
  have accepted : ∀ (h : Past) reply event, Verified app (.webhook name raw) name event →
      TakenOver h name event → Answered app (.webhook name raw) h reply := by
    intro h reply event verified taken
    refine ⟨by simp [requestOf], by simp [requestOf], fun name' raw' is _ => ?_⟩
    cases is
    exact ⟨event, verified, taken⟩
  unfold Handlers.webhook
  cases configured : app.providers name with
  | none => exact refused _ _ (by simp [isOk])
  | some p =>
    dsimp only
    cases verified : app.verifyAndParseWebhook p raw with
    | error e => cases e <;> exact refused _ _ (by simp [isOk])
    | ok event =>
      have genuine : Verified app (.webhook name raw) name event :=
        ⟨raw, p, rfl, configured, verified⟩
      dsimp only
      cases parsed : ProviderId.parse name with
      | error e => exact refused _ _ (by simp [isOk])
      | ok providerId =>
        dsimp only
        split
        · refine ⟨⟨genuine, providerId, parsed⟩, fun r => ?_⟩
          cases r with
          | error e => exact refused _ _ (by simp [isOk])
          | ok _ => exact accepted _ _ event genuine (.inl List.mem_cons_self)
        next unbuffered =>
          have direct : app.messageBus = none := by simpa using unbuffered
          refine ⟨.inl ⟨name, event, providerId, genuine, direct, parsed, rfl⟩, fun r => ?_⟩
          cases r with
          | error e => exact refused _ _ (by simp [isOk, Handlers.webhookReply])
          | ok outcome =>
            exact accepted _ _ event genuine (.inr ⟨providerId, outcome, List.mem_cons_self⟩)

end Requests

section Background

variable {app : App} {o : Origin}

theorem consumeWebhook_always :
    Always (Licensed app .webhookConsumer) (Answered app .webhookConsumer)
      Background.consumeWebhook [] := by
  refine always_other rfl (by simp) ?_
  simp only [Background.consumeWebhook, Background.processWebhookMessage, Gw.receiveWebhook,
    Gw.ackWebhook, Gw.applyWebhookEvent, perform_bind, always_call]
  refine ⟨trivial, fun d => ?_⟩
  have received : Received .webhookConsumer [⟨.receiveWebhook, d⟩] d := ⟨rfl, rfl⟩
  cases parsed : ProviderId.parse d.message.provider with
  | error e => exact ⟨⟨d, rfl, .inl ⟨received, e, parsed⟩⟩, fun _ => trivial⟩
  | ok providerId =>
    simp only [call_bind]
    refine ⟨.inr ⟨d, providerId, received, parsed, rfl⟩, fun r => ?_⟩
    cases r with
    | error e => exact ⟨⟨d, rfl, .inr ⟨providerId, _, _, received, parsed, rfl⟩⟩, fun _ => trivial⟩
    | ok _ => exact ⟨⟨d, rfl, .inr ⟨providerId, _, _, received, parsed, rfl⟩⟩, fun _ => trivial⟩

theorem settleMessage_always {bus : BusConfig} {d : Delivery ReconcileQueueMessage}
    {id : PaymentId} {p : Provider} {h : Past}
    (received : (⟨.receiveReconcile, d⟩ : GwEvent) ∈ h) (is : d.message.paymentId = .stored id)
    (configured : app.providers d.message.provider = some p) :
    Always (Licensed app o) (fun _ _ => True)
      (Background.settleMessage bus d.message id p) h := by
  simp only [Background.settleMessage, Gw.inquireStatus, Gw.applyReconciliationResult,
    Gw.touchReconciliationAttempt, Gw.publishReconcile, perform_bind, always_call]
  refine ⟨.inr ⟨d, received, rfl, rfl, configured⟩, fun r => ?_⟩
  cases r with
  | ok resolved =>
    dsimp only
    split
    next known =>
      refine ⟨⟨known, p, d.message.providerReference, h, by rw [is]⟩, fun r => ?_⟩
      cases r <;> trivial
    · exact ⟨trivial, fun _ => trivial⟩
  | error e =>
    dsimp only
    cases again : Background.retryMessage bus.maxRetries d.message with
    | none => trivial
    | some retry =>
      refine ⟨.inr ⟨d, List.mem_cons_of_mem _ received, retry.attempt, ?_⟩, fun _ => trivial⟩
      unfold Background.retryMessage at again
      split at again
      · cases again
        rfl
      · cases again

theorem consumeReconciliation_always {bus : BusConfig} :
    Always (Licensed app .reconcileConsumer) (Answered app .reconcileConsumer)
      (Background.consumeReconciliation app bus) [] := by
  refine always_other rfl (by simp) ?_
  simp only [Background.consumeReconciliation, Gw.receiveReconcile, perform_bind, always_call]
  refine ⟨trivial, fun d => ?_⟩
  refine always_bind (R := fun _ _ => True) _ _ ?_ fun _ _ _ _ => ⟨trivial, fun _ => trivial⟩
  unfold Background.processReconcileMessage
  cases is : d.message.paymentId with
  | corrupt raw => trivial
  | stored id =>
    dsimp only
    cases configured : app.providers d.message.provider with
    | none => trivial
    | some p => exact settleMessage_always List.mem_cons_self is configured

theorem reconcileInline_always {p : Provider} {payment : Payment} {reference : String}
    {h : Past} (holds : Holds h payment) (stored : payment.providerReference = some reference)
    (resolves : Resolves app o payment.provider.asStr p) :
    Always (Licensed app o) (fun _ _ => True)
      (Background.reconcileInline payment.id p reference) h := by
  simp only [Background.reconcileInline, Gw.inquireStatus, Gw.applyReconciliationResult,
    Gw.touchReconciliationAttempt, perform_bind, always_call]
  refine ⟨.inl ⟨payment, holds, rfl, stored, resolves⟩, fun r => ?_⟩
  cases r with
  | ok resolved =>
    dsimp only
    split
    next known => exact ⟨⟨known, p, reference, h, rfl⟩, fun _ => trivial⟩
    · exact ⟨trivial, fun _ => trivial⟩
  | error e => exact ⟨trivial, fun _ => trivial⟩

theorem reconcileProvider_resolves {payment : Payment} {p : Provider}
    (chosen : Background.reconcileProvider app payment = some p) :
    Resolves app .reconciler payment.provider.asStr p := by
  unfold Background.reconcileProvider at chosen
  split at chosen
  next configured =>
    cases chosen
    exact .server _ _ _ configured
  · split at chosen
    next resolved =>
      cases chosen
      exact .environment _ _ resolved
    · cases chosen

theorem reconcileOne_always {payment : Payment} {h : Past} (holds : Holds h payment) :
    Always (Licensed app .reconciler) (fun _ _ => True)
      (Background.reconcileOne app payment) h := by
  unfold Background.reconcileOne
  cases stored : payment.providerReference with
  | none => exact ⟨trivial, fun _ => trivial⟩
  | some reference =>
    dsimp only
    cases chosen : Background.reconcileProvider app payment with
    | none => exact ⟨trivial, fun _ => trivial⟩
    | some p =>
      dsimp only
      split
      · exact ⟨trivial, fun _ => trivial⟩
      · split
        · exact ⟨.inl ⟨payment, reference, holds, stored, rfl⟩, fun _ => trivial⟩
        · exact reconcileInline_always holds stored (reconcileProvider_resolves chosen)

theorem reconcileAll_always {payments : List Payment} {h : Past}
    (holds : ∀ payment ∈ payments, Holds h payment) :
    Always (Licensed app .reconciler) (fun _ _ => True)
      (Background.reconcileAll app payments) h := by
  induction payments generalizing h with
  | nil => trivial
  | cons payment rest ih =>
    refine always_bind _ _ (reconcileOne_always (holds payment List.mem_cons_self)) ?_
    intro h' _ suffix _
    refine ih fun later mem => ?_
    obtain ⟨ev, known, handed⟩ := holds later (List.mem_cons_of_mem _ mem)
    exact ⟨ev, suffix.subset known, handed⟩

theorem runOnce_always :
    Always (Licensed app .reconciler) (Answered app .reconciler)
      (Background.runOnce app) [] := by
  refine always_other rfl (by simp) ?_
  simp only [Background.runOnce, Gw.listStaleUnknownPayments, perform_bind, always_call]
  refine ⟨trivial, fun r => ?_⟩
  cases r with
  | error e => trivial
  | ok stale =>
    refine always_bind _ _ (reconcileAll_always fun payment mem => ?_) fun _ _ _ _ => trivial
    exact holds_latest (by simpa [handedOut] using mem)

end Background

section Records

/-! The routes that read or keep other records than payments. -/

variable {app : App} {o : Origin} {h : Past}

theorem listRefunds_always {id : Text PaymentId} :
    Always (Licensed app o) (fun _ _ => True) (Handlers.listRefunds id) h := by
  cases id with
  | corrupt raw => trivial
  | stored id =>
    refine ⟨trivial, fun r => ?_⟩
    cases r <;> trivial

theorem listEvents_always {h' : HeaderMap} {query : Handlers.ListEventsQuery} :
    Always (Licensed app o) (fun _ _ => True) (Handlers.listEvents h' query) h := by
  refine ⟨trivial, fun r => ?_⟩
  cases r <;> trivial

theorem getEvent_always {h' : HeaderMap} {id : String} :
    Always (Licensed app o) (fun _ _ => True) (Handlers.getEvent h' id) h := by
  simp only [Handlers.getEvent, Gw.getEvent, perform_bind, always_call]
  refine ⟨trivial, fun r => ?_⟩
  cases r with
  | error e => trivial
  | ok found =>
    cases found with
    | none => trivial
    | some event =>
      dsimp only
      split
      · split <;> trivial
      · trivial

theorem createWebhookEndpoint_always {h' : HeaderMap}
    {body : Handlers.CreateWebhookEndpointBody} :
    Always (Licensed app o) (fun _ _ => True) (Handlers.createWebhookEndpoint h' body) h := by
  unfold Handlers.createWebhookEndpoint
  split
  · trivial
  · refine ⟨trivial, fun _ => ⟨trivial, fun _ => ⟨trivial, fun _ => ⟨trivial, fun r => ?_⟩⟩⟩⟩
    cases r <;> trivial

theorem listWebhookEndpoints_always {h' : HeaderMap} :
    Always (Licensed app o) (fun _ _ => True) (Handlers.listWebhookEndpoints h') h := by
  refine ⟨trivial, fun r => ?_⟩
  cases r <;> trivial

theorem deleteWebhookEndpoint_always {h' : HeaderMap} {id : String} :
    Always (Licensed app o) (fun _ _ => True) (Handlers.deleteWebhookEndpoint h' id) h := by
  simp only [Handlers.deleteWebhookEndpoint, Gw.deleteWebhookEndpoint, perform_bind, always_call]
  refine ⟨trivial, fun r => ?_⟩
  cases r with
  | error e => trivial
  | ok deleted => cases deleted <;> trivial

theorem grpc_getPayment_always {id : Text PaymentId} :
    Always (Licensed app o) (fun _ _ => True) (Grpc.getPayment id) h := by
  cases id with
  | corrupt raw => trivial
  | stored id =>
    simp only [Grpc.getPayment, Gw.getPayment, Gw.getNextAction, perform_bind, always_call]
    refine ⟨trivial, fun r => ?_⟩
    cases r with
    | error e => trivial
    | ok found =>
      cases found with
      | none => trivial
      | some payment => exact ⟨trivial, fun _ => trivial⟩

theorem streamPaymentEvents_always {filter : Option (Text PaymentId)} :
    Always (Licensed app o) (fun _ _ => True) (Grpc.streamPaymentEvents filter) h := by
  cases filter with
  | none => trivial
  | some id =>
    cases id with
    | corrupt raw => trivial
    | stored id => exact ⟨trivial, fun _ => trivial⟩

end Records

section Layers

variable {app : App} {P : Past → Effect → Prop} {Q : Past → Reply → Prop}

/-- The request carries a key the server knows, or no keys are configured. -/
inductive Admitted (app : App) (headers : HeaderMap) (h : Past) : Prop
  | unprotected : app.apiKeys = none → Admitted app headers h
  | static (provided key : String) : Router.providedKey headers = some provided →
      key ∈ app.apiKeys.getD [] → app.sha256Hex key = app.sha256Hex provided →
      Admitted app headers h
  | stored (provided : String) (key : ApiKeyInfo) (rest : Past) :
      Router.providedKey headers = some provided →
      h = ⟨.findApiKey (app.sha256Hex provided), .ok (some key)⟩ :: rest →
      Admitted app headers h

theorem sameCaller_remove {headers h : HeaderMap} (same : SameCaller headers h)
    {name : String} (internal : isInternal name) : SameCaller headers (h.remove name) := by
  intro other outside
  rw [HeaderMap.get_remove_of_ne h (by rintro rfl; exact outside internal)]
  exact same other outside

theorem sameCaller_insertStr {headers h : HeaderMap} (same : SameCaller headers h)
    (name value : String) (internal : isInternal name) :
    SameCaller headers (Router.insertStr h name value) := by
  unfold Router.insertStr
  split
  · intro other outside
    rw [HeaderMap.get_insert_of_ne h _ (by rintro rfl; exact outside internal)]
    exact same other outside
  · exact same

theorem sameCaller_stripUntrusted (headers : HeaderMap) :
    SameCaller headers (Router.stripUntrusted headers) := by
  unfold Router.stripUntrusted
  refine sameCaller_remove (sameCaller_remove (sameCaller_remove (fun _ _ => rfl) ?_) ?_) ?_
  all_goals simp [isInternal]

theorem sameCaller_withApiKey {headers h : HeaderMap} (same : SameCaller headers h)
    (key : ApiKeyInfo) : SameCaller headers (Router.withApiKey h key) := by
  unfold Router.withApiKey
  refine sameCaller_insertStr ?_ _ _ (by simp [isInternal])
  cases key.userId with
  | none => exact same
  | some userId => exact sameCaller_insertStr same _ _ (by simp [isInternal])

theorem SameCaller.providedKey {headers h : HeaderMap} (same : SameCaller headers h) :
    Router.providedKey h = Router.providedKey headers := by
  unfold Router.providedKey Router.apiKeyHeader
  rw [same "x-api-key" (by simp [isInternal]), same "authorization" (by simp [isInternal])]

/-- Behind the layers the handler runs with the caller's own headers, on an
admitted request, and nothing has touched the store. -/
theorem serveHttp_always {headers : HeaderMap} {route : Router.Route}
    (lookup : ∀ h hash, Quiet h → P h (.findApiKey hash)) (limit : ∀ h, Quiet h → P h .tryAcquire)
    (refused : ∀ h status body, Quiet h → status ≠ 200 →
      (∀ view, body ≠ .payment view) → Q h (.http status body))
    (next : ∀ h' h, SameCaller headers h' → Quiet h →
      (∃ earlier ev, Admitted app headers earlier ∧ h = ev :: earlier) →
      Always P Q (Router.handle app h' route) h) :
    Always P Q (Router.serveHttp app headers route) [] := by
  have quiet : Quiet [] := by simp [Quiet]
  have enforced : ∀ h' h, SameCaller headers h' → Quiet h → Admitted app headers h →
      Always P Q (Router.enforce (Router.handle app h' route)) h := by
    intro h' h same quiet admitted
    refine ⟨limit h quiet, fun r => ?_⟩
    have still : Quiet (⟨.tryAcquire, r⟩ :: h) := by
      intro ev mem op
      rcases List.mem_cons.mp mem with rfl | earlier
      · simp
      · exact quiet ev earlier op
    cases r with
    | true => exact next h' _ same still ⟨h, _, admitted, rfl⟩
    | false => exact refused _ _ _ still (by simp) (by simp)
  have stripped := sameCaller_stripUntrusted headers
  unfold Router.serveHttp Router.requireApiKey
  dsimp only
  split
  · split
    next unprotected =>
      exact enforced _ _ stripped quiet (.unprotected (by simpa using unprotected))
    · exact refused _ _ _ quiet (by simp) (by simp)
  next provided carried =>
    rw [stripped.providedKey] at carried
    have caller := sameCaller_insertStr stripped "x-openwrapper-environment"
      (Router.environmentOf provided) (by simp [isInternal])
    split
    next known =>
      obtain ⟨key, mem, equal⟩ := List.any_eq_true.mp known
      exact enforced _ _ caller quiet
        (.static provided key carried mem (by simpa [Router.constantTimeEq] using equal))
    · refine ⟨lookup _ _ quiet, fun r => ?_⟩
      have still : Quiet [⟨.findApiKey (app.sha256Hex provided), r⟩] := by simp [Quiet]
      cases r with
      | error e => exact refused _ _ _ still (by simp) (by simp)
      | ok found =>
        cases found with
        | none => exact refused _ _ _ still (by simp) (by simp)
        | some key =>
          exact enforced _ _ (sameCaller_withApiKey caller key) still
            (.stored provided key [] carried rfl)

end Layers

theorem handle_always {app : App} {headers h' : HeaderMap} {route : Router.Route} {h : Past}
    (same : SameCaller headers h') (quiet : Quiet h) :
    Always (Licensed app (.http headers route)) (Answered app (.http headers route))
      (Router.handle app h' route) h := by
  have other : ∀ name raw, (Origin.http headers route) ≠ .webhook name raw := by simp
  cases route with
  | createPayment b => exact createPayment_always same quiet
  | getPayment id => exact always_other rfl other (getPayment_always same)
  | createRefund id b => exact always_other rfl other (createRefund_always same)
  | listRefunds id => exact always_other rfl other listRefunds_always
  | listEvents query => exact always_other rfl other listEvents_always
  | getEvent id => exact always_other rfl other getEvent_always
  | createWebhookEndpoint b => exact always_other rfl other createWebhookEndpoint_always
  | listWebhookEndpoints => exact always_other rfl other listWebhookEndpoints_always
  | deleteWebhookEndpoint id => exact always_other rfl other deleteWebhookEndpoint_always

theorem serveGrpc_always (app : App) (call : Router.GrpcCall) :
    Always (Licensed app (.grpc call)) (Answered app (.grpc call))
      (Router.serveGrpc app call) [] := by
  have other : ∀ name raw, (Origin.grpc call) ≠ .webhook name raw := by simp
  cases call with
  | createPayment req =>
    have quiet : Quiet [] := by simp [Quiet]
    rw [Router.serveGrpc, Grpc.createPayment]
    cases parsed : Grpc.parseCreatePayment req with
    | error e =>
      have asked : requestOf (.grpc (.createPayment req)) = none := by
        simp [requestOf, parsed, Except.toOption]
      exact answered_other asked other
    | ok request =>
      have asked : requestOf (.grpc (.createPayment req)) = some request := by
        simp [requestOf, parsed, Except.toOption]
      dsimp only
      cases resolved : app.providers request.provider.asStr with
      | none => exact (quiet.unrefused asked).unnamed rfl
      | some provider =>
        exact grpc_createValidated_always asked quiet (.server _ _ _ resolved)
  | getPayment id => exact always_other rfl other grpc_getPayment_always
  | streamPaymentEvents filter => exact always_other rfl other streamPaymentEvents_always

/-- Every task keeps its contract, whatever its effects are answered. -/
theorem body_always (app : App) (o : Origin) :
    Always (Licensed app o) (Answered app o) (body app o) [] := by
  cases o with
  | http headers route =>
    refine serveHttp_always (fun _ _ _ => trivial) (fun _ _ => trivial) ?_
      fun h' h same quiet _ => handle_always same quiet
    intro h status reply quiet bad unnamed
    refine ⟨fun request id asked named => ?_, fun request owner asked mem => ?_, by simp⟩
    · cases reply with
      | payment view => exact absurd rfl (unnamed view)
      | _ => simp [paymentIdOf] at named
    · exact absurd mem (quiet.told_not_mem _ _)
  | grpc call => exact serveGrpc_always app call
  | webhook name raw => exact webhook_always
  | webhookConsumer => exact consumeWebhook_always
  | reconcileConsumer =>
    rw [body]
    cases app.messageBus with
    | some bus => exact consumeReconciliation_always
    | none => exact answered_other rfl (by simp)
  | reconciler => exact runOnce_always

end OpenWrapper.Contracts
