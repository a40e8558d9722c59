import OpenWrapper.ApiRequests

/-! # The web application's payment routes

A creation is looked up by its idempotency key, sent to the gateway, and, where
the gateway did not answer, carried on by the route itself; what comes of it is
upserted into the shared table. A read asks the gateway about a payment that is
not resolved and writes the answer back. -/

set_option autoImplicit false

namespace OpenWrapper.PaymentRoutes
open OpenWrapper.Ids OpenWrapper.Amounts OpenWrapper.Payments OpenWrapper.Schema
open OpenWrapper.Providers OpenWrapper.Effects
open OpenWrapper.JsonValue OpenWrapper.JavaScript OpenWrapper.WebDatabase
open OpenWrapper.CallbackRoutes OpenWrapper.ApiRequests
open OpenWrapper.Suspended OpenWrapper.Suspended.Prog

section Columns

def keyText : Text IdempotencyKey → String
  | .stored key => key.asStr
  | .corrupt raw => raw

def keyColumn (raw : String) : Text IdempotencyKey :=
  match IdempotencyKey.parse raw with
  | .ok key => .stored key
  | .error _ => .corrupt raw

/-- The column of a code of three capital letters. -/
def currencyColumn (raw : String) : Text Currency :=
  match Currency.parse raw with
  | .ok currency => .stored currency
  | .error _ => .corrupt raw

def providerColumn : ProviderName → Text ProviderId
  | .paymob => .stored ProviderId.paymob
  | .fawry => .stored ProviderId.fawry
  | .stripe => .stored ProviderId.stripe
  | .mock => .stored ProviderId.mock

end Columns

section Gateway

/-- `GatewayResult`. -/
inductive GatewayResult where
  | ok (view : PaymentView)
  | error (status : ℕ) (message : String) (code : Option String)

def getGatewayUrl (host : ApiHost) : Option String :=
  (host.variableOf "OPENWRAPPER_GATEWAY_URL").bind host.gatewayBase

def gatewayUnavailable : GatewayResult :=
  .error 503 "Rust gateway is not configured" (some "gateway_unavailable")

/-- `parseGatewayError`. -/
def parseGatewayError (status : ℕ) (message code : Option String) : String × Option String :=
  let text := (nonEmpty message).getD ("Gateway error (" ++ toString status ++ ")")
  match nonEmpty code with
  | some code => (text, some code)
  | none =>
    (text, if includesIgnoreCase text "credentials missing" then some "missing_provider_credentials"
      else code)

def reachError (reason : String) : GatewayResult :=
  .error 502 ("Could not reach Rust gateway: " ++ reason) (some "gateway_unreachable")

def createdResult : GatewayAnswer → GatewayResult
  | .ok view => .ok view
  | .error status message code =>
    let (text, code) := parseGatewayError status message code
    if code = some "missing_provider_credentials" ∨
        (code = some "validation_error" ∧ includesIgnoreCase text "credentials missing") then
      .error 422 text (some "missing_provider_credentials")
    else .error status text code
  | .lost reason => reachError reason

def fetchedResult : GatewayAnswer → GatewayResult
  | .ok view => .ok view
  | .error status message code =>
    let (text, code) := parseGatewayError status message code
    .error status text code
  | .lost reason => reachError reason

def forwardPaymentToRustGateway (host : ApiHost) (request : GatewayRequest)
    (idempotencyKey : String) : Web GatewayResult :=
  match getGatewayUrl host with
  | none => pure gatewayUnavailable
  | some _ => do
    let answer ← Web.forward request idempotencyKey
    pure (createdResult answer)

def getPaymentFromRustGateway (host : ApiHost) (id : String) : Web GatewayResult :=
  match getGatewayUrl host with
  | none => pure gatewayUnavailable
  | some _ => do
    let answer ← Web.fetch id
    pure (fetchedResult answer)

end Gateway

section Created

/-- What the route goes on with. -/
structure Created where
  id : Text PaymentId
  providerReference : Option String
  status : PaymentStatus
  nextActionType : Option String
  nextActionPayload : Option String
deriving DecidableEq

def actionType : PaymentNextAction → String
  | .redirectToUrl _ => "redirect_to_url"
  | .payAtReference _ _ => "pay_at_reference"

/-- `next_action?.url || next_action?.reference || null`. -/
def actionPayload : PaymentNextAction → Option String
  | .redirectToUrl url => nonEmpty (some url)
  | .payAtReference reference _ => nonEmpty (some reference)

def Created.ofView (view : PaymentView) : Created where
  id := .stored view.paymentId
  providerReference := view.providerReference
  status := view.status
  nextActionType := view.nextAction.map actionType
  nextActionPayload := view.nextAction.bind actionPayload

/-- What became of the call of the gateway. -/
inductive Routed where
  | handled (created : Created)
  | refused (answer : Answer)
  | unanswered

def isUnanswered (code : Option String) : Bool :=
  code == some "gateway_unreachable" || code == some "gateway_unavailable"

def routed : GatewayResult → Routed
  | .ok view => .handled (Created.ofView view)
  | .error status message code =>
    if isUnanswered code then .unanswered
    else .refused (apiError status ((nonEmpty code).getD "gateway_error") message)

/-- An unknown status with neither a reference nor an action. -/
def isEmptyUnknown (view : PaymentView) : Bool :=
  view.status == .unknown && (nonEmpty view.providerReference).isNone && view.nextAction.isNone

/-- The Paymob and Fawry branch gives an empty unknown answer up. -/
def routedUnlessEmpty (provider : ProviderName) (isTest : Bool) : GatewayResult → Routed
  | .ok view =>
    if isEmptyUnknown view then
      if isTest then .unanswered
      else .refused (apiError 502 "provider_error"
        ("Payment intention could not be created by provider \"" ++ provider.display ++
          "\". Please check provider integration credentials."))
    else .handled (Created.ofView view)
  | result => routed result

/-- A new id: 28 characters, which is no ULID. -/
def localId (uuid : String) : String :=
  "pay_" ++ String.ofList ((uuid.toList.filter (· != '-')).take 24)

def wrap32 (n : ℤ) : ℤ := (n + 2147483648) % 4294967296 - 2147483648

def kioskCode (paymentId : String) : String :=
  let hash := paymentId.toList.foldl (fun acc c => wrap32 (acc * 31 + c.toNat)) 0
  let digits := toString (hash.natAbs % 1000000)
  "929" ++ String.ofList (List.replicate (6 - digits.length) '0') ++ digits

def defaultAppUrl : String := "https://openwrapper.muejam.com"

def simulatedFawry (paymentId : String) : Created where
  id := .corrupt paymentId
  providerReference := some ("fawry_sim_" ++ paymentId)
  status := .pending
  nextActionType := some "pay_at_reference"
  nextActionPayload := some (kioskCode paymentId)

def simulatedPaymob (host : ApiHost) (order : Order) (paymentId : String) : Created where
  id := .corrupt paymentId
  providerReference := some ("paymob_sim_" ++ paymentId)
  status := .pending
  nextActionType := some "redirect_to_url"
  nextActionPayload :=
    let appUrl := trimEndMatches '/' ((firstNonEmpty (host.env "NEXT_PUBLIC_APP_URL")
      (host.env "OPENWRAPPER_PUBLIC_URL")).getD defaultAppUrl)
    let param := match order.returnUrlParam with
      | some url => "&return_url=" ++ host.encodeURIComponent url
      | none => ""
    some (appUrl ++ "/mock/pay/" ++ paymentId ++ "?provider=paymob&method=cards" ++ param)

def simulatedStripe (paymentId : String) : Created where
  id := .corrupt paymentId
  providerReference := some ("cs_test_" ++ paymentId)
  status := .pending
  nextActionType := some "redirect_to_url"
  nextActionPayload := some ("https://checkout.stripe.com/c/pay/cs_test_" ++ paymentId)

def simulatedMock (host : ApiHost) (order : Order) (paymentId : String) : Created :=
  let action : String × String :=
    if startsWith order.payload.phone "+20" && order.payload.returnUrl.isNone then
      ("pay_at_reference", "MOCK-" ++ String.ofList (paymentId.toList.take 8))
    else
      ("redirect_to_url", trimEndMatches '/' ((host.variableOf "NEXT_PUBLIC_APP_URL").getD
        defaultAppUrl) ++ "/mock/pay/" ++ paymentId)
  { id := .corrupt paymentId
    providerReference := some ("mock_ref_" ++ paymentId)
    status := .pending
    nextActionType := some action.1
    nextActionPayload := some action.2 }

def Created.ofSession (paymentId : String) (session : WebDatabase.Session) : Created where
  id := .corrupt paymentId
  providerReference := some session.sessionId
  status := .pending
  nextActionType := some "redirect_to_url"
  nextActionPayload := some (session.url.getD "")

end Created

section Creation

variable (host : ApiHost) (order : Order) (isTest : Bool) (paymentId : String)

def gatewayRequired : Answer :=
  apiError 503 "gateway_required" ("Provider \"" ++ order.provider.display ++
    "\" requires OPENWRAPPER_GATEWAY_URL. Paymob and Fawry payments are handled by the Rust gateway.")

/-- Paymob and Fawry. -/
def createAtGateway (simulated : Created) : Web (Except Answer Created) := do
  let result ← forwardPaymentToRustGateway host order.payload order.idempotencyKey
  match routedUnlessEmpty order.provider isTest result with
  | .handled created => pure (.ok created)
  | .refused answer => pure (.error answer)
  | .unanswered =>
    if !isTest && (getGatewayUrl host).isNone then pure (.error (gatewayRequired order))
    else pure (.ok simulated)

/-- The error of the library names missing credentials. -/
def isConfigError (message : String) : Bool :=
  includes message "credentials missing" || includes message "STRIPE"

def stripeMissing : Answer :=
  apiError 422 "missing_provider_credentials"
    "Stripe credentials missing. Provide X-Stripe-Secret-Key header."

/-- The key of the request: its header, or its body. -/
def requestStripeKey (req : ApiRequest) : Value :=
  match nonEmpty (req.header "x-stripe-secret-key") with
  | some key => some (.str key)
  | none => order.bodyStripeKey

def createAtStripe (req : ApiRequest) : Web (Except Answer Created) := do
  let result ← forwardPaymentToRustGateway host order.payload order.idempotencyKey
  match routed result with
  | .handled created => pure (.ok created)
  | .refused answer => pure (.error answer)
  | .unanswered =>
    let keyed := truthy host.numberText (requestStripeKey order req) ||
      (host.variableOf "STRIPE_SECRET_KEY").isSome
    if isTest && !keyed then pure (.ok (simulatedStripe paymentId))
    else if !keyed then pure (.error stripeMissing)
    else
      match ← Web.createSession order.payload order.idempotencyKey with
      | .ok session => pure (.ok (Created.ofSession paymentId session))
      | .error message =>
        if isConfigError message then pure (.error stripeMissing)
        else pure (.error (apiError 502 "provider_error" "Stripe provider request failed."))

def createAtMock : Web (Except Answer Created) := do
  let result ← forwardPaymentToRustGateway host order.payload order.idempotencyKey
  match routed result with
  | .handled created => pure (.ok created)
  | .refused answer => pure (.error answer)
  | .unanswered =>
    if order.payload.amountMinorUnits % 100 = 99 then
      pure (.error (apiError 402 "card_declined" "Simulated card decline (amount ends in 99)"))
    else if order.payload.amountMinorUnits % 100 = 88 then
      pure (.error (apiError 504 "timeout"
        "Simulated network/provider timeout (amount ends in 88)"))
    else pure (.ok (simulatedMock host order paymentId))

def create (req : ApiRequest) : Web (Except Answer Created) :=
  match order.provider with
  | .paymob => createAtGateway host order isTest (simulatedPaymob host order paymentId)
  | .fawry => createAtGateway host order isTest (simulatedFawry paymentId)
  | .stripe => createAtStripe host order isTest paymentId req
  | .mock => createAtMock host order paymentId

end Creation

section Persisting

/-- `persistPaymentRecord`: the demo user is answered from memory when the
statement fails. -/
def persistPaymentRecord (input : PersistInput) : Web (Except SqlError SharedRow) := do
  let now ← Web.now
  match ← Web.upsert input now with
  | .ok row => pure (.ok row)
  | .error e =>
    if input.userId = sandboxUser then pure (.ok ⟨input.inserted now, input.web⟩)
    else pure (.error e)

inductive IdempotencyLookup where
  | absent
  | row (existing : SharedRow)
  | crossTenant

def ownKey (userId key environment : String) (row : PaymentRow) : Bool :=
  row.userId == some userId && keyText row.idempotencyKey == key && row.environment == environment

def anyKey (key environment : String) (row : PaymentRow) : Bool :=
  keyText row.idempotencyKey == key && row.environment == environment

def findIdempotentPayment (userId key environment : String) :
    Web (Except SqlError IdempotencyLookup) := do
  let failed (e : SqlError) : Except SqlError IdempotencyLookup :=
    if userId = sandboxUser then .ok .absent else .error e
  match ← Web.select (ownKey userId key environment) with
  | .error e => pure (failed e)
  | .ok (some existing) => pure (.ok (.row existing))
  | .ok none =>
    match ← Web.select (anyKey key environment) with
    | .error e => pure (failed e)
    | .ok none => pure (.ok .absent)
    | .ok (some existing) =>
      if existing.payment.userId.any fun owner => owner != "" && owner != userId then
        pure (.ok .crossTenant)
      else pure (.ok (.row existing))

def payloadText (payload : Option String) : String := payload.getD "null"

/-- `paymentToApiResponse`. -/
def paymentToApiResponse (row : SharedRow) (provider : ProviderName) : ApiPayment where
  paymentId := row.payment.id
  provider := row.payment.provider
  providerReference := row.payment.providerReference
  status := row.payment.status
  amountMinorUnits := row.payment.amountMinorUnits
  currency := row.payment.currency
  merchantReference := row.payment.merchantReference
  nextAction := (nonEmpty row.web.nextActionType).map fun type =>
    if type = "redirect_to_url" then .redirectToUrl row.web.nextActionPayload
    else .payAtReference row.web.nextActionPayload ((nonEmpty row.web.description).getD
      ("Pay at any " ++ (if provider = .fawry then "Fawry" else "kiosk") ++
        " outlet using reference code: " ++ payloadText row.web.nextActionPayload))

def metadataMembers (metadata : List (String × String)) : List (String × Json) :=
  metadata.map fun entry => (entry.1, .str entry.2)

def metadataJson (host : ApiHost) (order : Order) (environment : String) : String :=
  host.printJson (.obj (metadataMembers order.payload.metadata ++
    [("environment", .str environment)]))

/-- The members of a text that is there. -/
def textMember (name : String) (text : Option String) : List (String × Json) :=
  (text.map fun s => (name, Json.str s)).toList

def nullable : Option String → Json
  | some s => .str s
  | none => .null

/-- `canonicalizeJson` of the payload; members without a value are not printed. -/
def canonicalDocument (payload : GatewayRequest) : Json :=
  .obj ([("amount_minor_units", .num (toString payload.amountMinorUnits)),
      ("currency", .str payload.currency),
      ("customer", .obj (textMember "email" payload.email ++
        textMember "full_name" payload.fullName ++ [("phone", .str payload.phone)])),
      ("description", .str payload.description),
      ("merchant_reference", nullable payload.merchantReference),
      ("metadata", .obj (metadataMembers
        (payload.metadata.insertionSort fun a b => a.1 ≤ b.1))),
      ("provider", .str payload.provider)] ++
    textMember "return_url" payload.returnUrl)

/-- `computeCanonicalFingerprint`. -/
def computeFingerprint (host : ApiHost) (payload : GatewayRequest) : String :=
  host.sha256Hex (host.printJson (canonicalDocument payload))

def creationInput (host : ApiHost) (caller : Caller) (environment : String) (order : Order)
    (created : Created) : PersistInput where
  id := created.id
  userId := caller.userId
  apiKeyId := caller.id
  idempotencyKey := keyColumn order.idempotencyKey
  requestFingerprint := computeFingerprint host order.payload
  provider := providerColumn order.provider
  providerReference := created.providerReference
  status := .stored created.status
  amountMinorUnits := order.payload.amountMinorUnits
  currency := currencyColumn order.payload.currency
  merchantReference := order.payload.merchantReference
  environment := environment
  web :=
    { description := some order.payload.description
      customerPhone := some order.payload.phone
      customerEmail := order.payload.email
      customerName := order.payload.fullName
      nextActionType := created.nextActionType
      nextActionPayload := created.nextActionPayload
      metadataJson := some (metadataJson host order environment) }

/-- The row that was found, written back with the caller's columns. -/
def replayInput (host : ApiHost) (caller : Caller) (environment : String) (order : Order)
    (existing : SharedRow) : PersistInput where
  id := existing.payment.id
  userId := caller.userId
  apiKeyId := caller.id
  idempotencyKey := keyColumn order.idempotencyKey
  requestFingerprint := computeFingerprint host order.payload
  provider := existing.payment.provider
  providerReference := existing.payment.providerReference
  status := existing.payment.status
  amountMinorUnits := existing.payment.amountMinorUnits
  currency := existing.payment.currency
  merchantReference := existing.payment.merchantReference
  environment := environment
  web :=
    { description := firstNonEmpty existing.web.description (some order.payload.description)
      customerPhone := firstNonEmpty existing.web.customerPhone (some order.payload.phone)
      customerEmail := firstNonEmpty existing.web.customerEmail order.payload.email
      customerName := firstNonEmpty existing.web.customerName order.payload.fullName
      nextActionType := existing.web.nextActionType
      nextActionPayload := existing.web.nextActionPayload
      metadataJson := firstNonEmpty existing.web.metadataJson
        (some (metadataJson host order environment)) }

end Persisting

section Post

variable (host : ApiHost) (req : ApiRequest) (caller : Caller) (order : Order)

def foreignKey : Answer :=
  apiError 409 "idempotency_conflict" "Idempotency key is already in use by another account."

def conflict : Answer :=
  apiError 409 "idempotency_conflict"
    "Idempotency key was already used with different request parameters."

def replay (existing : SharedRow) : Web Answer :=
  if existing.payment.requestFingerprint ≠ computeFingerprint host order.payload then pure conflict
  else do
    match ← persistPaymentRecord (replayInput host caller (environmentOf req caller) order
        existing) with
    | .error _ => pure internalError
    | .ok attached => pure ⟨200, .payment (paymentToApiResponse attached order.provider)⟩

def createAndPersist : Web Answer := do
  let uuid ← Web.randomUUID
  match ← create host order (isTestMode req caller) (localId uuid) req with
  | .error answer => pure answer
  | .ok created =>
    match ← persistPaymentRecord (creationInput host caller (environmentOf req caller) order
        created) with
    | .error _ => pure internalError
    | .ok row => pure ⟨201, .payment (paymentToApiResponse row order.provider)⟩

def submit : Web Answer := do
  match ← findIdempotentPayment caller.userId order.idempotencyKey (environmentOf req caller) with
  | .error _ => pure internalError
  | .ok .crossTenant => pure foreignKey
  | .ok (.row existing) => replay host req caller order existing
  | .ok .absent =>
    match missingCredentials host req caller order with
    | none => pure internalError
    | some (some message) => pure (apiError 422 "missing_provider_credentials" message)
    | some none => createAndPersist host req caller order

/-- The route for a caller that is known. -/
def postAs : Web Answer :=
  match accept host req with
  | .error answer => pure answer
  | .ok order => submit host req caller order

def unauthorized (message : String) : Answer := apiError 401 "unauthorized" message

@[irreducible] def post : Web Answer :=
  match apiVersion req.version with
  | .error answer => pure answer
  | .ok _ => do
    match ← authenticateApiRequest host req with
    | .error _ => pure internalError
    | .ok none => pure (unauthorized
        "Missing or invalid API key. Use Authorization: Bearer <key> or X-API-Key.")
    | .ok (some caller) => postAs host req caller

end Post

section Get

variable (host : ApiHost) (req : ApiRequest) (caller : Caller) (id : String)

/-- `/^[A-Za-z0-9_-]{1,128}$/`. -/
def isPathId (s : String) : Bool :=
  1 ≤ s.toList.length && s.toList.length ≤ 128 && s.toList.all fun c =>
    ('A' ≤ c && c ≤ 'Z') || ('a' ≤ c && c ≤ 'z') || ('0' ≤ c && c ≤ '9') || c == '_' || c == '-'

def ownId (row : PaymentRow) : Bool :=
  idText row.id == id && row.userId == some caller.userId

def ownReference (row : PaymentRow) : Bool :=
  (row.merchantReference == some id || row.providerReference == some id) &&
    row.userId == some caller.userId

/-- What the route has come to know of the payment. -/
structure Known where
  status : Text PaymentStatus
  providerReference : Option String
  nextActionType : Option String
  nextActionPayload : Option String
deriving DecidableEq

def Known.ofRow (row : SharedRow) : Known where
  status := row.payment.status
  providerReference := row.payment.providerReference
  nextActionType := row.web.nextActionType
  nextActionPayload := row.web.nextActionPayload

/-- The answer of the gateway, over what was known. -/
def Known.merge (known : Known) (view : PaymentView) : Known :=
  let final := isTerminal (.stored view.status)
  { status := .stored view.status
    providerReference := orElse view.providerReference known.providerReference
    nextActionType := if final then none
      else (view.nextAction.map actionType).orElse fun _ => known.nextActionType
    nextActionPayload := if final then none
      else (view.nextAction.bind actionPayload).orElse fun _ => known.nextActionPayload }

def Known.edit (known : Known) : WebEdit where
  status := known.status
  providerReference := some known.providerReference
  nextAction := some (known.nextActionType, known.nextActionPayload)

/-- The providers the route inquires. -/
def isInquired (row : SharedRow) : Bool :=
  (row.payment.provider == .stored ProviderId.paymob ||
      row.payment.provider == .stored ProviderId.fawry ||
      row.payment.provider == .stored ProviderId.stripe ||
      row.payment.provider == .stored ProviderId.mock) && row.payment.unresolved

/-- The gateway's answer is written back if it differs from the row. -/
def refresh (row : SharedRow) : Web (Except SqlError Known) := do
  match ← getPaymentFromRustGateway host id with
  | .error _ _ _ => pure (.ok (Known.ofRow row))
  | .ok view =>
    let known := (Known.ofRow row).merge view
    if known.status ≠ row.payment.status ∨ known.providerReference ≠ row.payment.providerReference
    then
      match ← Web.update row.payment.id known.edit with
      | .error e => pure (.error e)
      | .ok () => pure (.ok known)
    else pure (.ok known)

def sessionOutcome (session : SessionStatus) : Option PaymentStatus :=
  if session.paymentStatus = "paid" ∨ session.status = some "complete" then some .succeeded
  else if session.status = some "expired" then some .failed
  else none

def inquiryKey : Bool :=
  (nonEmpty (req.header "x-stripe-secret-key")).isSome ||
    (nonEmpty (req.header "stripe-secret-key")).isSome ||
    (host.variableOf "STRIPE_SECRET_KEY").isSome

/-- The session to ask Stripe about directly. -/
def inquiredSession (row : SharedRow) (known : Known) : Option String :=
  if known.status = .stored .pending ∧ row.payment.provider = .stored ProviderId.stripe ∧
      inquiryKey host req then
    known.providerReference.filter fun reference => startsWith reference "cs_"
  else none

def sessionEdit (status : PaymentStatus) : WebEdit where
  status := .stored status
  providerReference := none
  nextAction := some (none, none)

/-- A failure of the inquiry or of its update is only logged. -/
def inquireSession (row : SharedRow) (known : Known) : Web Known :=
  match inquiredSession host req row known with
  | none => pure known
  | some reference => do
    match ← Web.retrieveSession reference with
    | .error _ => pure known
    | .ok session =>
      match sessionOutcome session with
      | none => pure known
      | some status => do
        let _ ← Web.update row.payment.id (sessionEdit status)
        pure { known with
          status := .stored status, nextActionType := none, nextActionPayload := none }

def Known.view (known : Known) (row : SharedRow) : ApiPayment where
  paymentId := row.payment.id
  provider := row.payment.provider
  providerReference := known.providerReference
  status := known.status
  amountMinorUnits := row.payment.amountMinorUnits
  currency := row.payment.currency
  merchantReference := row.payment.merchantReference
  nextAction := (nonEmpty known.nextActionType).map fun type =>
    if type = "redirect_to_url" then .redirectToUrl known.nextActionPayload
    else .payAtReference known.nextActionPayload ((nonEmpty row.web.description).getD
      ("Pay reference code: " ++ payloadText known.nextActionPayload))

def showPayment (row : SharedRow) : Web Answer :=
  if isInquired row then do
    match ← refresh host id row with
    | .error _ => pure Answer.crashed
    | .ok known =>
      let known ← inquireSession host req row known
      pure ⟨200, .payment (known.view row)⟩
  else pure ⟨200, .payment ((Known.ofRow row).view row)⟩

def findPayment : Web (Except SqlError (Option SharedRow)) := do
  match ← Web.select (ownId caller id) with
  | .error e => pure (.error e)
  | .ok (some row) => pure (.ok (some row))
  | .ok none => Web.select (ownReference caller id)

def getAs : Web Answer :=
  if !isPathId id then pure (apiError 400 "invalid_request" "Invalid payment ID.")
  else do
    match ← findPayment caller id with
    | .error _ => pure Answer.crashed
    | .ok none => pure (apiError 404 "not_found" ("Payment with id '" ++ id ++ "' not found."))
    | .ok (some row) => showPayment host req id row

@[irreducible] def get : Web Answer :=
  match apiVersion req.version with
  | .error answer => pure answer
  | .ok _ => do
    match ← authenticateApiRequest host req with
    | .error _ => pure Answer.crashed
    | .ok none => pure (unauthorized "Missing or invalid API key.")
    | .ok (some caller) => getAs host req caller id

end Get

end OpenWrapper.PaymentRoutes
