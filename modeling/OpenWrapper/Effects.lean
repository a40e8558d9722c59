import OpenWrapper.Stateless

/-! # The effects of a gateway task

What a handler, a consumer or the reconciler awaits: a call of the payment
store, a lookup of an API key, a call of a provider, a message of the bus.
`inquireStatus` names the payment whose row the reference was read from; the
provider is sent the reference only. -/

set_option autoImplicit false

namespace OpenWrapper.Effects
open OpenWrapper.Ids OpenWrapper.Errors OpenWrapper.Payments OpenWrapper.Schema
open OpenWrapper.PaymentStore OpenWrapper.Providers OpenWrapper.Stateless
open OpenWrapper.Suspended OpenWrapper.Suspended.Prog

structure WebhookQueueMessage where
  provider : String
  event : WebhookEvent
deriving DecidableEq

structure ReconcileQueueMessage where
  paymentId : Text PaymentId
  provider : String
  providerReference : String
  attempt : ℕ
deriving DecidableEq

/-- A message as a consumer holds it until it is acknowledged. -/
structure Delivery (μ : Type) where
  tag : ℕ
  message : μ
deriving DecidableEq

inductive EventPayload where
  | refund (record : RefundRecord)
  | other (json : String)
deriving DecidableEq

structure EventRecord where
  id : String
  userId : Option String
  eventType : String
  resourceId : String
  payload : EventPayload
  createdAt : ℤ
deriving DecidableEq

structure WebhookEndpointRecord where
  id : String
  userId : Option String
  url : String
  secret : String
  events : List String
  isActive : Bool
  createdAt : ℤ
deriving DecidableEq

inductive Effect where
  | store (op : StoreOp)
  | findApiKey (keyHash : String)
  | recordEvent (event : EventRecord)
  | listEvents (userId : Option String) (limit : ℤ) (startingAfter : Option String)
  | getEvent (id : String)
  | createWebhookEndpoint (endpoint : WebhookEndpointRecord)
  | listWebhookEndpoints (userId : Option String)
  | deleteWebhookEndpoint (id : String) (userId : Option String)
  | createPayment (provider : Provider) (id : PaymentId) (request : PaymentRequest)
  | inquireStatus (provider : Provider) (payment : Text PaymentId) (reference : String)
  | refund (provider : Provider) (id : PaymentId) (reference : String) (amount : ℤ)
      (reason : Option String)
  | publishWebhook (message : WebhookQueueMessage)
  | publishReconcile (message : ReconcileQueueMessage)
  | receiveWebhook
  | receiveReconcile
  | ackWebhook (tag : ℕ)
  | ackReconcile (tag : ℕ)
  | tryAcquire
  | now
  | ulid

abbrev Effect.Response : Effect → Type
  | store op => op.Result
  | findApiKey _ => StoreResult (Option ApiKeyInfo)
  | recordEvent _ => StoreResult Unit
  | listEvents _ _ _ => StoreResult (List EventRecord)
  | getEvent _ => StoreResult (Option EventRecord)
  | createWebhookEndpoint _ => StoreResult Unit
  | listWebhookEndpoints _ => StoreResult (List WebhookEndpointRecord)
  | deleteWebhookEndpoint _ _ => StoreResult Bool
  | createPayment _ _ _ => Except OpenWrapperError PaymentResult
  | inquireStatus _ _ _ => Except OpenWrapperError PaymentStatus
  | refund _ _ _ _ _ => Except OpenWrapperError RefundResult
  | publishWebhook _ => Except String Unit
  | publishReconcile _ => Except String Unit
  | receiveWebhook => Delivery WebhookQueueMessage
  | receiveReconcile => Delivery ReconcileQueueMessage
  | ackWebhook _ => Unit
  | ackReconcile _ => Unit
  | tryAcquire => Bool
  | now => Instant
  | ulid => PaymentId

abbrev Gw : Type → Type := Prog Effect.Response

/-- An event of a task's history. -/
abbrev GwEvent := Event Effect.Response

namespace Gw

@[simp] def store (op : StoreOp) : Gw op.Result := perform (Effect.store op)

@[simp] def begin (request : PaymentRequest) (owner : Option ApiKeyInfo) :
    Gw (StoreResult BeginOutcome) :=
  perform (Effect.store (.beginPaymentWithOwner request owner))

@[simp] def recordCreationResult (id : PaymentId) (result : PaymentResult) :
    Gw (StoreResult Unit) :=
  perform (Effect.store (.recordCreationResult id result.providerReference
    result.status.toStatus result.nextAction))

@[simp] def markFailed (id : PaymentId) : Gw (StoreResult Unit) :=
  perform (Effect.store (.markTerminalWithoutProviderReference id .failed))

@[simp] def markUnknown (id : PaymentId) : Gw (StoreResult Unit) :=
  perform (Effect.store (.markUnknown id))

@[simp] def getPayment (id : PaymentId) : Gw (StoreResult (Option Payment)) :=
  perform (Effect.store (.getPayment id))

@[simp] def findPaymentByReference (reference : Text PaymentId) :
    Gw (StoreResult (Option Payment)) :=
  perform (Effect.store (.findPaymentByReference reference))

@[simp] def getNextAction (id : PaymentId) : Gw (StoreResult (Option PaymentNextAction)) :=
  perform (Effect.store (.getNextAction id))

@[simp] def applyWebhookEvent (event : WebhookReport) : Gw (StoreResult WebhookApplyOutcome) :=
  perform (Effect.store (.applyWebhookEvent event))

@[simp] def applyReconciliationResult (id : PaymentId) (resolved : PaymentStatus) :
    Gw (StoreResult TransitionOutcome) :=
  perform (Effect.store (.applyReconciliationResult id resolved))

@[simp] def touchReconciliationAttempt (id : PaymentId) : Gw (StoreResult Unit) :=
  perform (Effect.store (.touchReconciliationAttempt id))

@[simp] def listStaleUnknownPayments (minAge limit : ℤ) : Gw (StoreResult (List Payment)) :=
  perform (Effect.store (.listStaleUnknownPayments minAge limit))

@[simp] def getTotalRefundedMinorUnits (id : PaymentId) : Gw (StoreResult ℤ) :=
  perform (Effect.store (.getTotalRefundedMinorUnits id))

@[simp] def recordRefund (refund : RefundRecord) (status : PaymentStatus) :
    Gw (StoreResult Unit) :=
  perform (Effect.store (.recordRefund refund status))

@[simp] def listRefundsForPayment (id : PaymentId) : Gw (StoreResult (List RefundRecord)) :=
  perform (Effect.store (.listRefundsForPayment id))

@[simp] def findApiKey (keyHash : String) : Gw (StoreResult (Option ApiKeyInfo)) :=
  perform (Effect.findApiKey keyHash)

@[simp] def recordEvent (event : EventRecord) : Gw (StoreResult Unit) :=
  perform (Effect.recordEvent event)

@[simp] def listEvents (userId : Option String) (limit : ℤ) (startingAfter : Option String) :
    Gw (StoreResult (List EventRecord)) :=
  perform (Effect.listEvents userId limit startingAfter)

@[simp] def getEvent (id : String) : Gw (StoreResult (Option EventRecord)) :=
  perform (Effect.getEvent id)

@[simp] def createWebhookEndpoint (endpoint : WebhookEndpointRecord) : Gw (StoreResult Unit) :=
  perform (Effect.createWebhookEndpoint endpoint)

@[simp] def listWebhookEndpoints (userId : Option String) :
    Gw (StoreResult (List WebhookEndpointRecord)) :=
  perform (Effect.listWebhookEndpoints userId)

@[simp] def deleteWebhookEndpoint (id : String) (userId : Option String) :
    Gw (StoreResult Bool) :=
  perform (Effect.deleteWebhookEndpoint id userId)

@[simp] def createPayment (provider : Provider) (id : PaymentId) (request : PaymentRequest) :
    Gw (Except OpenWrapperError PaymentResult) :=
  perform (Effect.createPayment provider id request)

@[simp] def inquireStatus (provider : Provider) (payment : Text PaymentId)
    (reference : String) : Gw (Except OpenWrapperError PaymentStatus) :=
  perform (Effect.inquireStatus provider payment reference)

@[simp] def refund (provider : Provider) (id : PaymentId) (reference : String) (amount : ℤ)
    (reason : Option String) : Gw (Except OpenWrapperError RefundResult) :=
  perform (Effect.refund provider id reference amount reason)

@[simp] def publishWebhook (message : WebhookQueueMessage) : Gw (Except String Unit) :=
  perform (Effect.publishWebhook message)

@[simp] def publishReconcile (message : ReconcileQueueMessage) : Gw (Except String Unit) :=
  perform (Effect.publishReconcile message)

@[simp] def receiveWebhook : Gw (Delivery WebhookQueueMessage) :=
  perform Effect.receiveWebhook

@[simp] def receiveReconcile : Gw (Delivery ReconcileQueueMessage) :=
  perform Effect.receiveReconcile

@[simp] def ackWebhook (tag : ℕ) : Gw Unit := perform (Effect.ackWebhook tag)

@[simp] def ackReconcile (tag : ℕ) : Gw Unit := perform (Effect.ackReconcile tag)

@[simp] def tryAcquire : Gw Bool := perform Effect.tryAcquire

@[simp] def now : Gw Instant := perform Effect.now

@[simp] def ulid : Gw PaymentId := perform Effect.ulid

end Gw

structure BusConfig where
  maxRetries : ℕ
deriving DecidableEq

/-- What a gateway process is started with. The digest of a request, SHA-256
and the adapters' webhook verification are functions of their own. -/
structure App where
  fingerprint : PaymentRequest → String
  sha256Hex : String → String
  verifyAndParseWebhook : Provider → RawWebhookRequest → Except WebhookError WebhookEvent
  env : Env
  providers : Configured
  apiKeys : Option (List String)
  messageBus : Option BusConfig

structure PaymentView where
  paymentId : PaymentId
  provider : ProviderId
  providerReference : Option String
  status : PaymentStatus
  amountMinorUnits : ℤ
  currency : String
  merchantReference : Option String
  nextAction : Option PaymentNextAction
deriving DecidableEq

def PaymentView.ofPayment (p : Payment) : PaymentView where
  paymentId := p.id
  provider := p.provider
  providerReference := p.providerReference
  status := p.status
  amountMinorUnits := p.amount.minorUnits
  currency := p.currency.code
  merchantReference := p.merchantReference
  nextAction := none

def PaymentView.fromFresh (id : PaymentId) (result : PaymentResult)
    (merchantReference : Option String) : PaymentView where
  paymentId := id
  provider := result.provider
  providerReference := some result.providerReference
  status := result.status.toStatus
  amountMinorUnits := result.amount.minorUnits
  currency := result.amount.currency.code
  merchantReference := merchantReference
  nextAction := result.nextAction

inductive HttpBody where
  | empty
  | text (message : String)
  | error (code message : String)
  | payment (view : PaymentView)
  | refund (record : RefundRecord)
  | refunds (data : List RefundRecord)
  | events (data : List EventRecord) (hasMore : Bool)
  | event (record : EventRecord)
  | endpoint (record : WebhookEndpointRecord)
  | endpoints (data : List WebhookEndpointRecord)
deriving DecidableEq

structure GrpcPayment where
  payment : Payment
  nextAction : Option PaymentNextAction
deriving DecidableEq

inductive GrpcStatus where
  | invalidArgument (message : String)
  | notFound (message : String)
  | alreadyExists (message : String)
  | aborted (message : String)
  | internal (message : String)
deriving DecidableEq

/-- What a task ends with. -/
inductive Reply where
  | http (status : ℕ) (body : HttpBody)
  | grpc (response : Except GrpcStatus GrpcPayment)
  | stream (first : Option Payment)
  | finished

end OpenWrapper.Effects
