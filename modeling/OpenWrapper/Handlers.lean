import OpenWrapper.Effects

/-! # The HTTP handlers -/

set_option autoImplicit false

namespace OpenWrapper.Handlers
open OpenWrapper.Ids OpenWrapper.Errors OpenWrapper.Amounts OpenWrapper.Payments
open OpenWrapper.Schema OpenWrapper.PaymentStore OpenWrapper.Providers OpenWrapper.Headers
open OpenWrapper.Stateless OpenWrapper.Effects OpenWrapper.Suspended

section Errors

def contains (s part : String) : Bool :=
  s.toList.tails.any fun tail => part.toList.isPrefixOf tail

def credentialsMissing : OpenWrapperError → Bool
  | .validation message => contains message "credentials missing"
  | _ => false

def statusCode : OpenWrapperError → ℕ
  | .validation _ => 400
  | .authentication _ _ => 401
  | .authorization _ => 403
  | .configuration _ => 500
  | .network _ _ => 502
  | .timeout _ _ => 504
  | .provider _ _ _ => 502
  | .rateLimit _ _ => 429
  | .unsupportedCapability _ _ => 400
  | .security _ => 401
  | .idempotencyConflict _ => 409
  | .unknownOutcome _ _ => 200
  | .internal => 500

/-- `ApiError::into_response`. -/
def apiError (e : OpenWrapperError) : Reply :=
  if credentialsMissing e then
    .http 422 (.error "missing_provider_credentials" e.display)
  else .http (statusCode e) (.error e.code e.display)

def badRequest (message : String) : Reply := apiError (.validation message)

/-- A store call that did not return its value. A panic ends the task
without a response of its own; the client sees the server fail. -/
def storeError (_ : StoreError) : Reply := apiError .internal

end Errors

structure CustomerBody where
  phone : String
  email : Option String
  fullName : Option String
deriving DecidableEq

structure CreatePaymentBody where
  provider : String
  amountMinorUnits : ℤ
  currency : String
  customer : CustomerBody
  merchantReference : Option String
  description : Option String
  returnUrl : Option String
  metadata : List (String × String)
deriving DecidableEq

structure CreateRefundBody where
  amountMinorUnits : ℤ
  reason : Option String
deriving DecidableEq

/-- The checks of `create_payment` up to `request.validate()`. -/
def parseCreatePayment (headers : HeaderMap) (body : CreatePaymentBody) :
    Except OpenWrapperError PaymentRequest :=
  match headers.getStr "idempotency-key" with
  | none => .error (.validation "missing required Idempotency-Key header")
  | some raw =>
    match IdempotencyKey.parse raw with
    | .error e => .error (.validation ("invalid Idempotency-Key: " ++ e.display))
    | .ok idempotencyKey =>
      match ProviderId.parse body.provider with
      | .error e => .error (.validation ("invalid provider: " ++ e.display))
      | .ok provider =>
        match Currency.parse body.currency with
        | .error e => .error (.validation ("invalid currency: " ++ e.display))
        | .ok currency =>
          match Money.fromMinorUnits body.amountMinorUnits currency with
          | .error e => .error (.validation ("invalid amount: " ++ e.display))
          | .ok amount =>
            let request : PaymentRequest :=
              { idempotencyKey, provider, amount
                customer := ⟨body.customer.phone, body.customer.email, body.customer.fullName⟩
                merchantReference := body.merchantReference
                description := body.description
                returnUrl := body.returnUrl
                metadata := body.metadata }
            match request.validate with
            | .error e => .error e
            | .ok () => .ok request

/-- The owner the authentication layer left in the headers. -/
def owner (headers : HeaderMap) : Option ApiKeyInfo :=
  let userId := headers.getStr "x-openwrapper-user-id"
  let apiKeyId := (headers.getStr "x-openwrapper-api-key-id").bind parseI64
  let environment := headers.getStr "x-openwrapper-environment"
  match apiKeyId, userId with
  | some id, userId => some ⟨id, userId, environment⟩
  | none, some userId => some ⟨0, some userId, environment⟩
  | none, none => if environment.isSome then some ⟨0, none, environment⟩ else none

/-- `create_payment` from the claimed idempotency key on. -/
def createClaimed (provider : Provider) (request : PaymentRequest) (id : PaymentId) :
    Gw Reply := do
  match ← Gw.createPayment provider id request with
  | .ok result =>
    match ← Gw.recordCreationResult id result with
    | .ok () =>
      pure (.http 201 (.payment (.fromFresh id result request.merchantReference)))
    | .error e => pure (storeError e)
  | .error e =>
    if e.isDefiniteNonOccurrence then
      match ← Gw.markFailed id with
      | .ok () => pure (apiError e)
      | .error s => pure (storeError s)
    else
      match ← Gw.markUnknown id with
      | .error s => pure (storeError s)
      | .ok () =>
        match ← Gw.getPayment id with
        | .error s => pure (storeError s)
        | .ok none => pure (apiError .internal)
        | .ok (some payment) => pure (.http 200 (.payment (.ofPayment payment)))

def createPayment (app : App) (headers : HeaderMap) (body : CreatePaymentBody) :
    Gw Reply :=
  match parseCreatePayment headers body with
  | .error e => pure (apiError e)
  | .ok request =>
    match resolvePaymentProvider app.env app.providers request.provider.asStr headers with
    | .error e => pure (apiError e)
    | .ok provider => do
      match ← Gw.begin request (owner headers) with
      | .error e => pure (storeError e)
      | .ok .conflict =>
        pure (apiError (.idempotencyConflict
          "Idempotency-Key was already used with a different request body"))
      | .ok (.returnExisting payment) =>
        match ← Gw.getNextAction payment.id with
        | .ok (some action) =>
          pure (.http 200 (.payment { PaymentView.ofPayment payment with
            nextAction := some action }))
        | .ok none => pure (.http 200 (.payment (.ofPayment payment)))
        | .error _ => pure (.http 200 (.payment (.ofPayment payment)))
      | .ok (.proceed id) => createClaimed provider request id

def lookupPayment : Text PaymentId → Gw (StoreResult (Option Payment))
  | .stored id => Gw.getPayment id
  | .corrupt raw => Gw.findPaymentByReference (.corrupt raw)

/-- The provider an unresolved payment can be inquired at. -/
def inquiryProvider (app : App) (headers : HeaderMap) (payment : Payment) :
    Option (Provider × String) :=
  if payment.status.isTerminal then none
  else
    match payment.providerReference with
    | none => none
    | some reference =>
      let resolved :=
        match resolvePaymentProvider app.env app.providers payment.provider.asStr headers with
        | .ok provider => some provider
        | .error _ => app.providers payment.provider.asStr
      match resolved with
      | none => none
      | some provider =>
        if .inquireStatus ∈ provider.capabilities then some (provider, reference) else none

/-- The reconciliation a GET attempts; the payment as it is afterwards. -/
def refresh (app : App) (headers : HeaderMap) (payment : Payment) :
    Gw (StoreResult Payment) :=
  match inquiryProvider app headers payment with
  | none => pure (.ok payment)
  | some (provider, reference) => do
    match ← Gw.inquireStatus provider (.stored payment.id) reference with
    | .error _ => pure (.ok payment)
    | .ok resolved =>
      if resolved ≠ payment.status ∧ resolved ≠ .unknown then
        let _ ← Gw.applyReconciliationResult payment.id resolved
        match ← Gw.getPayment payment.id with
        | .error e => pure (.error e)
        | .ok none => pure (.ok payment)
        | .ok (some updated) => pure (.ok updated)
      else pure (.ok payment)

/-- The view of a payment with the next action of an open one. -/
def viewPayment (id : PaymentId) (payment : Payment) : Gw Reply :=
  if payment.status.isTerminal then
    pure (.http 200 (.payment (.ofPayment payment)))
  else do
    match ← Gw.getNextAction id with
    | .ok (some action) =>
      pure (.http 200 (.payment { PaymentView.ofPayment payment with nextAction := some action }))
    | .ok none => pure (.http 200 (.payment (.ofPayment payment)))
    | .error _ => pure (.http 200 (.payment (.ofPayment payment)))

def getPayment (app : App) (headers : HeaderMap) (id : Text PaymentId) : Gw Reply := do
  match ← lookupPayment id with
  | .error e => pure (storeError e)
  | .ok none => pure (badRequest "no payment with that id")
  | .ok (some payment) =>
    match ← refresh app headers payment with
    | .error e => pure (storeError e)
    | .ok current => viewPayment payment.id current

/-- The answer to a delivery the store has judged. -/
def webhookReply : StoreResult WebhookApplyOutcome → Reply
  | .ok .duplicate => .http 200 .empty
  | .ok .paymentNotFound => .http 200 .empty
  | .ok (.transition _) => .http 200 .empty
  | .error _ => .http 500 .empty

def WebhookEvent.report (event : WebhookEvent) (provider : ProviderId) : WebhookReport where
  eventId := event.eventId
  provider := provider
  providerReference := event.providerReference
  reportedStatus := event.reportedStatus
  reportedAmountMinorUnits := event.reportedAmountMinorUnits

def webhook (app : App) (providerName : String) (raw : RawWebhookRequest) : Gw Reply :=
  match app.providers providerName with
  | none => pure (.http 404 (.text "unknown provider"))
  | some provider =>
    match app.verifyAndParseWebhook provider raw with
    | .error .signatureMissing => pure (.http 401 (.text "webhook rejected"))
    | .error .signatureInvalid => pure (.http 401 (.text "webhook rejected"))
    | .error _ => pure (.http 400 (.text "webhook rejected"))
    | .ok event =>
      match ProviderId.parse providerName with
      | .error _ => pure (.http 404 (.text "unknown provider"))
      | .ok providerId =>
        if app.messageBus.isSome then do
          match ← Gw.publishWebhook ⟨providerName, event⟩ with
          | .error _ => pure (.http 500 .empty)
          | .ok () => pure (.http 200 .empty)
        else do
          let applied ← Gw.applyWebhookEvent (WebhookEvent.report event providerId)
          pure (webhookReply applied)

/-- The payment status after a refund of `amount` on top of `previously`. -/
def statusAfterRefund (payment : Payment) (previously amount : ℤ) : PaymentStatus :=
  if previously + amount ≥ payment.amount.minorUnits then .refunded else .partiallyRefunded

theorem statusAfterRefund_cases (payment : Payment) (previously amount : ℤ) :
    statusAfterRefund payment previously amount = .refunded ∨
      statusAfterRefund payment previously amount = .partiallyRefunded := by
  unfold statusAfterRefund
  split
  · exact .inl rfl
  · exact .inr rfl

/-- `create_refund` from the call of the provider on. -/
def executeRefund (provider : Provider) (headers : HeaderMap) (payment : Payment)
    (paymentId : PaymentId) (reference : String) (previously : ℤ) (body : CreateRefundBody) :
    Gw Reply := do
  match ← Gw.refund provider payment.id reference body.amountMinorUnits body.reason with
  | .error e => pure (apiError e)
  | .ok result =>
    -- used only when the provider gave the refund no id
    let generated ← Gw.ulid
    let refundId := if result.refundId.toList.isEmpty then "re_" ++ generated.display
      else result.refundId
    let now ← Gw.now
    let record : RefundRecord :=
      { id := refundId, paymentId, amountMinorUnits := body.amountMinorUnits
        currency := payment.currency, status := result.status, reason := body.reason
        providerRefundRef := result.providerReference, createdAt := now.seconds }
    match ← Gw.recordRefund record
        (statusAfterRefund payment previously body.amountMinorUnits) with
    | .error e => pure (storeError e)
    | .ok () =>
      let userId := headers.getStr "x-openwrapper-user-id"
      let eventId ← Gw.ulid
      let _ ← Gw.recordEvent
        { id := "evt_" ++ eventId.display, userId, eventType := "payment.refunded"
          resourceId := paymentId.display, payload := .refund record, createdAt := now.seconds }
      pure (.http 201 (.refund record))

def createRefund (app : App) (headers : HeaderMap) (id : Text PaymentId)
    (body : CreateRefundBody) : Gw Reply :=
  match id with
  | .corrupt _ => pure (badRequest "invalid payment id")
  | .stored paymentId => do
    match ← Gw.getPayment paymentId with
    | .error e => pure (storeError e)
    | .ok none => pure (badRequest ("payment " ++ paymentId.display ++ " not found"))
    | .ok (some payment) =>
      if payment.status ≠ .succeeded ∧ payment.status ≠ .partiallyRefunded then
        pure (badRequest ("payment is in status '" ++ payment.status.display ++
          "' and cannot be refunded"))
      else if body.amountMinorUnits ≤ 0 then
        pure (badRequest "refund amount_minor_units must be positive")
      else
        match ← Gw.getTotalRefundedMinorUnits paymentId with
        | .error e => pure (storeError e)
        | .ok previously =>
          let remaining := payment.amount.minorUnits - previously
          if body.amountMinorUnits > remaining then
            pure (badRequest ("refund amount " ++ toString body.amountMinorUnits ++
              " exceeds remaining refundable balance " ++ toString remaining))
          else
            match resolvePaymentProvider app.env app.providers payment.provider.asStr
                headers with
            | .error e => pure (apiError e)
            | .ok provider =>
              if .refund ∉ provider.capabilities then
                pure (apiError (.unsupportedCapability payment.provider.asStr
                  Capability.refund.display))
              else
                match payment.providerReference with
                | none => pure (apiError .internal)
                | some reference =>
                  executeRefund provider headers payment paymentId reference previously body

def listRefunds (id : Text PaymentId) : Gw Reply :=
  match id with
  | .corrupt _ => pure (badRequest "invalid payment id")
  | .stored paymentId => do
    match ← Gw.listRefundsForPayment paymentId with
    | .error e => pure (storeError e)
    | .ok refunds => pure (.http 200 (.refunds refunds))

structure ListEventsQuery where
  limit : Option ℤ
  startingAfter : Option String
deriving DecidableEq

def listEvents (headers : HeaderMap) (query : ListEventsQuery) : Gw Reply := do
  let limit := max 1 (min 100 (query.limit.getD 20))
  match ← Gw.listEvents (headers.getStr "x-openwrapper-user-id") limit query.startingAfter with
  | .error e => pure (storeError e)
  | .ok events => pure (.http 200 (.events events (decide (limit ≤ events.length))))

def getEvent (headers : HeaderMap) (id : String) : Gw Reply := do
  match ← Gw.getEvent id with
  | .error e => pure (storeError e)
  | .ok none => pure (badRequest "event not found")
  | .ok (some event) =>
    match headers.getStr "x-openwrapper-user-id", event.userId with
    | some requester, some eventOwner =>
      if requester ≠ eventOwner then
        pure (apiError (.authorization "unauthorized event access"))
      else pure (.http 200 (.event event))
    | _, _ => pure (.http 200 (.event event))

structure CreateWebhookEndpointBody where
  url : String
  events : Option (List String)
deriving DecidableEq

def createWebhookEndpoint (headers : HeaderMap) (body : CreateWebhookEndpointBody) :
    Gw Reply := do
  if !startsWith body.url "https://" && !startsWith body.url "http://localhost" &&
      !startsWith body.url "http://127.0.0.1" then
    pure (badRequest "webhook url must begin with https:// (or http:// for localhost)")
  else
    let id ← Gw.ulid
    let secret ← Gw.ulid
    let now ← Gw.now
    let record : WebhookEndpointRecord :=
      { id := "we_" ++ id.display, userId := headers.getStr "x-openwrapper-user-id"
        url := body.url, secret := "whsec_" ++ secret.hex
        events := body.events.getD ["*"], isActive := true, createdAt := now.seconds }
    match ← Gw.createWebhookEndpoint record with
    | .error e => pure (storeError e)
    | .ok () => pure (.http 201 (.endpoint record))

def listWebhookEndpoints (headers : HeaderMap) : Gw Reply := do
  match ← Gw.listWebhookEndpoints (headers.getStr "x-openwrapper-user-id") with
  | .error e => pure (storeError e)
  | .ok endpoints => pure (.http 200 (.endpoints endpoints))

def deleteWebhookEndpoint (headers : HeaderMap) (id : String) : Gw Reply := do
  match ← Gw.deleteWebhookEndpoint id (headers.getStr "x-openwrapper-user-id") with
  | .error e => pure (storeError e)
  | .ok true => pure (.http 204 .empty)
  | .ok false => pure (badRequest "endpoint not found")

end OpenWrapper.Handlers
