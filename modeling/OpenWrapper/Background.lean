import OpenWrapper.Handlers

/-! # The bus consumers and the reconciler

One task of a consumer is one turn of its loop: a delivery is processed and
then acknowledged, whatever processing it returned. -/

set_option autoImplicit false

namespace OpenWrapper.Background
open OpenWrapper.Ids OpenWrapper.Payments OpenWrapper.PaymentStore OpenWrapper.Providers
open OpenWrapper.Headers OpenWrapper.Stateless OpenWrapper.Effects OpenWrapper.Suspended

def processWebhookMessage (msg : WebhookQueueMessage) : Gw (Except String Unit) :=
  match ProviderId.parse msg.provider with
  | .error e => pure (.error e.display)
  | .ok providerId => do
    match ← Gw.applyWebhookEvent (Handlers.WebhookEvent.report msg.event providerId) with
    | .error _ => pure (.error "internal error")
    | .ok _ => pure (.ok ())

def consumeWebhook : Gw Reply := do
  let delivery ← Gw.receiveWebhook
  let _ ← processWebhookMessage delivery.message
  Gw.ackWebhook delivery.tag
  pure .finished

/-- The message a failed inquiry puts back, if it may be tried again. -/
def retryMessage (maxRetries : ℕ) (msg : ReconcileQueueMessage) :
    Option ReconcileQueueMessage :=
  if msg.attempt + 1 < maxRetries then some { msg with attempt := msg.attempt + 1 } else none

def settleMessage (bus : BusConfig) (msg : ReconcileQueueMessage) (id : PaymentId)
    (provider : Provider) : Gw (Except String Unit) := do
  match ← Gw.inquireStatus provider msg.paymentId msg.providerReference with
  | .ok resolved =>
    if resolved ≠ .unknown then
      match ← Gw.applyReconciliationResult id resolved with
      | .ok _ => pure (.ok ())
      | .error _ => pure (.error "internal error")
    else
      let _ ← Gw.touchReconciliationAttempt id
      pure (.ok ())
  | .error _ =>
    match retryMessage bus.maxRetries msg with
    | some retry => Gw.publishReconcile retry
    | none => pure (.ok ())

def processReconcileMessage (app : App) (bus : BusConfig) (msg : ReconcileQueueMessage) :
    Gw (Except String Unit) :=
  match msg.paymentId with
  | .corrupt _ => pure (.error "invalid payment id")
  | .stored id =>
    match app.providers msg.provider with
    | none => pure (.error ("unknown provider " ++ msg.provider))
    | some provider => settleMessage bus msg id provider

def consumeReconciliation (app : App) (bus : BusConfig) : Gw Reply := do
  let delivery ← Gw.receiveReconcile
  let _ ← processReconcileMessage app bus delivery.message
  Gw.ackReconcile delivery.tag
  pure .finished

/-- Thirty seconds, in nanoseconds. -/
def minAge : ℤ := 30000000000

def batchLimit : ℤ := 100

/-- A server-side provider first, then one from the environment. -/
def reconcileProvider (app : App) (payment : Payment) : Option Provider :=
  match app.providers payment.provider.asStr with
  | some provider => some provider
  | none =>
    match resolvePaymentProvider app.env app.providers payment.provider.asStr ⟨[]⟩ with
    | .ok provider => some provider
    | .error _ => none

def reconcileInline (id : PaymentId) (provider : Provider) (reference : String) :
    Gw Unit := do
  match ← Gw.inquireStatus provider (.stored id) reference with
  | .ok resolved =>
    if resolved ≠ .unknown then
      let _ ← Gw.applyReconciliationResult id resolved
      pure ()
    else
      let _ ← Gw.touchReconciliationAttempt id
      pure ()
  | .error _ =>
    let _ ← Gw.touchReconciliationAttempt id
    pure ()

/-- One stale payment of a reconciliation pass. -/
def reconcileOne (app : App) (payment : Payment) : Gw Unit :=
  match payment.providerReference with
  | none => do
    let _ ← Gw.touchReconciliationAttempt payment.id
    pure ()
  | some reference =>
    match reconcileProvider app payment with
    | none => do
      let _ ← Gw.touchReconciliationAttempt payment.id
      pure ()
    | some provider =>
      if .inquireStatus ∉ provider.capabilities then do
        let _ ← Gw.touchReconciliationAttempt payment.id
        pure ()
      else if app.messageBus.isSome then do
        let _ ← Gw.publishReconcile
          ⟨.stored payment.id, payment.provider.asStr, reference, 0⟩
        pure ()
      else reconcileInline payment.id provider reference

def reconcileAll (app : App) : List Payment → Gw Unit
  | [] => pure ()
  | payment :: rest => do
    reconcileOne app payment
    reconcileAll app rest

/-- One tick of the reconciler. -/
def runOnce (app : App) : Gw Reply := do
  match ← Gw.listStaleUnknownPayments minAge batchLimit with
  | .error _ => pure .finished
  | .ok stale =>
    reconcileAll app stale
    pure .finished

end OpenWrapper.Background
