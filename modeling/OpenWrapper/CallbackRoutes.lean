import OpenWrapper.WebDatabase

/-! # The web application's webhook routes

Each route authenticates the body its own way, reads the payment, the status
and the reference from it, and then looks the payment up and updates it. The
part before the first statement is a function of the request; an exception it
throws is answered by the framework. -/

set_option autoImplicit false

namespace OpenWrapper.CallbackRoutes
open OpenWrapper.Ids OpenWrapper.Payments OpenWrapper.Schema OpenWrapper.Providers
open OpenWrapper.JsonValue OpenWrapper.JavaScript OpenWrapper.WebDatabase
open OpenWrapper.Suspended OpenWrapper.Suspended.Prog

/-- What the web application runs on: its environment variables, the JSON
reader and number printer, the digests, the event constructor of the Stripe
library, and how the driver binds a parameter that is not a string. -/
structure Host where
  env : String → Option String
  parseJson : String → Throws Json
  numberText : String → String
  hmacSha256Hex : (key message : String) → String
  hmacSha512Hex : (key message : String) → String
  sha256Hex : String → String
  constructEvent : (payload signature secret : String) → Throws Json
  bindText : Json → String

/-- A variable that is set and not empty. -/
def Host.variableOf (host : Host) (name : String) : Option String := nonEmpty (host.env name)

structure CallbackRequest where
  hmacParam : Option String
  headers : List (String × String)
  bodyBytes : ℕ
  bodyText : String

def CallbackRequest.header (req : CallbackRequest) (name : String) : Option String :=
  (req.headers.find? fun entry => entry.1 == name).map Prod.snd

inductive ApiNextAction where
  | redirectToUrl (url : Option String)
  | payAtReference (reference : Option String) (instructions : String)
deriving DecidableEq

/-- What the API shows of a payment. -/
structure ApiPayment where
  paymentId : Text PaymentId
  provider : Text ProviderId
  providerReference : Option String
  status : Text PaymentStatus
  amountMinorUnits : ℤ
  currency : Text Amounts.Currency
  merchantReference : Option String
  nextAction : Option ApiNextAction
deriving DecidableEq

inductive AnswerBody where
  | none
  | error (message : String)
  | failure (code message : String)
  | received (provider : Option String) (status : PaymentStatus)
  | receivedEvent (eventId : String)
  | payment (view : ApiPayment)
deriving DecidableEq

structure Answer where
  status : ℕ
  body : AnswerBody
deriving DecidableEq

/-- The framework's answer to an exception nothing caught. -/
def Answer.crashed : Answer := ⟨500, .none⟩

def maxCallbackBytes : ℕ := 1000000

/-- `readLimitedTextBody`. -/
def readLimitedTextBody (maxBytes bytes : ℕ) (text : String) : Option String :=
  if bytes > maxBytes then none else some text

def constantTimeEqHex (expected received : String) : Bool :=
  toLowerCase expected == toLowerCase received

section Reading

variable (host : Host)

/-- `payload.a || payload.b || … || default`. -/
def firstField (payload : Value) : List String → Value → Throws Value
  | [], default => some default
  | name :: rest, default =>
    (member name payload).bind fun v =>
      if truthy host.numberText v then some v else firstField payload rest default

def fieldText (payload : Value) (names : List String) (default : String) : Throws String :=
  (firstField host payload names (some (.str default))).bind (string host.numberText)

/-- The JSON body, within the size limit. -/
def readPayload (req : CallbackRequest) : Except Answer Json :=
  match readLimitedTextBody maxCallbackBytes req.bodyBytes req.bodyText with
  | none => .error ⟨413, .error "Request body too large"⟩
  | some body =>
    match host.parseJson body with
    | none => .error ⟨400, .error "Invalid JSON"⟩
    | some payload => .ok payload

def orCrash {α : Type} : Throws α → Except Answer α
  | some a => .ok a
  | none => .error Answer.crashed

theorem orCrash_eq_ok {α : Type} {a : α} {x : Throws α} : orCrash x = .ok a ↔ x = some a := by
  cases x <;> simp [orCrash]

theorem bind_eq_ok {α β : Type} {x : Except Answer α} {f : α → Except Answer β} {b : β} :
    (x >>= f) = .ok b ↔ ∃ a, x = .ok a ∧ f a = .ok b := by
  cases x <;> simp [Bind.bind, Except.bind]

end Reading

section Settling

/-- `succeeded` and `failed`; refunds are not known to the routes. -/
def isTerminal (status : Text PaymentStatus) : Bool :=
  status == .stored .succeeded || status == .stored .failed

def isIllegal (found : Text PaymentStatus) (status : PaymentStatus) : Bool :=
  isTerminal found && found != .stored status

/-- The update of the row that was found, unless its status is final. -/
def settle (found : Option SharedRow) (status : PaymentStatus) (edit : SharedRow → WebEdit) :
    Web (Except SqlError (Option (Text PaymentId))) :=
  match found with
  | none => pure (.ok none)
  | some row =>
    if isIllegal row.payment.status status then pure (.ok (some row.payment.id))
    else do
      match ← Web.update row.payment.id (edit row) with
      | .ok () => pure (.ok (some row.payment.id))
      | .error e => pure (.error e)

def lookup (test : Option (PaymentRow → Bool)) : Web (Except SqlError (Option SharedRow)) :=
  match test with
  | some test => Web.select test
  | none => pure (.ok none)

/-- A lookup and what it settles. -/
def lookupAndSettle (test : Option (PaymentRow → Bool)) (status : PaymentStatus)
    (edit : SharedRow → WebEdit) : Web (Except SqlError (Option (Text PaymentId))) := do
  match ← lookup test with
  | .ok found => settle found status edit
  | .error e => pure (.error e)

def eventIdOr (lead known : String) : Web String :=
  if known = "" then do
    let uuid ← Web.randomUUID
    pure (lead ++ uuid)
  else pure (lead ++ known)

end Settling

namespace Paymob

structure Config where
  secretKey : String
  publicKey : String
  hmacSecret : String

def getPaymobConfig (host : Host) : Option Config :=
  match host.variableOf "PAYMOB_SECRET_KEY", host.variableOf "PAYMOB_PUBLIC_KEY",
    host.variableOf "PAYMOB_HMAC_SECRET" with
  | some secretKey, some publicKey, some hmacSecret => some ⟨secretKey, publicKey, hmacSecret⟩
  | _, _, _ => none

def fields : List (List String) :=
  [["amount_cents"], ["created_at"], ["currency"], ["error_occured"], ["has_parent_transaction"],
    ["id"], ["integration_id"], ["is_3d_secure"], ["is_auth"], ["is_capture"], ["is_refunded"],
    ["is_standalone_payment"], ["is_voided"], ["order", "id"], ["owner"], ["pending"],
    ["source_data", "pan"], ["source_data", "sub_type"], ["source_data", "type"], ["success"]]

/-- The value at the end of a path; the paths of one name are read with `[]`. -/
def fieldValue (obj : Value) : List String → Throws Value
  | [name] => member name obj
  | path => some (path.foldl (fun current name => optionalMember name current) obj)

def fieldString (host : Host) (obj : Value) (path : List String) : Throws String :=
  (fieldValue obj path).bind fun
    | none => some ""
    | some .null => some ""
    | some v => text host.numberText v

def concatenated (host : Host) (obj : Value) : Throws String :=
  (fields.mapM (fieldString host obj)).map String.join

/-- `payload.obj || payload`. -/
def objOf (host : Host) (payload : Value) : Throws Value :=
  (member "obj" payload).map fun obj => either host.numberText obj payload

/-- The comparison throws on a received value that is not a string. -/
def verifyPaymobHmac (host : Host) (payload : Value) (received : Value) (hmacSecret : String) :
    Throws Bool :=
  (objOf host payload).bind fun obj =>
    (concatenated host obj).bind fun message =>
      match received with
      | some (.str hmac) => some (constantTimeEqHex (host.hmacSha512Hex hmacSecret message) hmac)
      | _ => none

/-- `queryHmac || payload.hmac || request.headers.get("x-paymob-hmac")`. -/
def receivedHmac (host : Host) (req : CallbackRequest) (payload : Value) : Throws Value :=
  match nonEmpty req.hmacParam with
  | some hmac => some (some (.str hmac))
  | none => (member "hmac" payload).map fun hmac =>
      either host.numberText hmac ((req.header "x-paymob-hmac").map Json.str)

structure Callback where
  transactionId : String
  status : PaymentStatus
  specialReference : String
deriving DecidableEq

def flag (name : String) (obj : Value) : Throws Bool :=
  (member name obj).map fun v => isTrue v || isString "true" v

def statusOf (pending success : Bool) : PaymentStatus :=
  if pending then .pending else if success then .succeeded else .failed

/-- What the route reads from a body it has authenticated. -/
def read (host : Host) (payload : Value) : Except Answer Callback := do
  let obj ← orCrash (objOf host payload)
  let transactionId ← orCrash (fieldText host obj ["id"] "")
  let success ← orCrash (flag "success" obj)
  let pending ← orCrash (flag "pending" obj)
  let specialReference ← orCrash (fieldText host obj ["special_reference", "merchant_order_id"] "")
  if utf16Length transactionId > 255 || utf16Length specialReference > 255 then
    .error ⟨400, .error "Invalid webhook identifiers"⟩
  else .ok ⟨transactionId, statusOf pending success, specialReference⟩

def inspect (host : Host) (req : CallbackRequest) : Except Answer Callback := do
  let payload ← readPayload host req
  let hmac ← orCrash (receivedHmac host req (some payload))
  match getPaymobConfig host with
  | none => .error ⟨503, .error "Paymob webhook verification is not configured"⟩
  | some config =>
    if !truthy host.numberText hmac then .error ⟨401, .error "Missing HMAC signature"⟩
    else if !(← orCrash (verifyPaymobHmac host (some payload) hmac config.hmacSecret)) then
      .error ⟨401, .error "Invalid HMAC signature"⟩
    else read host (some payload)

def test (cb : Callback) : Option (PaymentRow → Bool) :=
  if cb.specialReference = "" then none
  else some fun row =>
    row.provider == .stored ProviderId.paymob && row.merchantReference == some cb.specialReference

def edit (cb : Callback) (row : SharedRow) : WebEdit where
  status := .stored cb.status
  providerReference := some (orElse (some cb.transactionId) row.payment.providerReference)
  nextAction := none

def work (cb : Callback) : Web Answer := do
  match ← lookupAndSettle (test cb) cb.status (edit cb) with
  | .error _ => pure Answer.crashed
  | .ok paymentId =>
    let eventId ← eventIdOr "pm_evt_" cb.transactionId
    match ← Web.recordEvent eventId "paymob" paymentId with
    | .error _ => pure Answer.crashed
    | .ok () => pure ⟨200, .received none cb.status⟩

def post (host : Host) (req : CallbackRequest) : Web Answer :=
  match inspect host req with
  | .error answer => pure answer
  | .ok cb => work cb

end Paymob

namespace Fawry

structure Config where
  merchantCode : String
  secureKey : String

def getFawryConfig (host : Host) : Option Config :=
  match host.variableOf "FAWRY_MERCHANT_CODE", host.variableOf "FAWRY_SECURE_KEY" with
  | some merchantCode, some secureKey => some ⟨merchantCode, secureKey⟩
  | _, _ => none

structure Fields where
  fawryRefNumber : String
  merchantRefNumber : String
  paymentAmount : String
  orderAmount : String
  orderStatus : String
  paymentMethod : String
  paymentRefNumber : String
  signature : String
deriving DecidableEq

def readFields (host : Host) (payload : Value) : Throws Fields := do
  let fawryRefNumber ← fieldText host payload ["fawryRefNumber", "referenceNumber"] ""
  let merchantRefNumber ← fieldText host payload ["merchantRefNumber", "merchantRefNum"] ""
  let paymentAmount ← fieldText host payload ["paymentAmount", "amount"] ""
  let orderAmount ← fieldText host payload ["orderAmount"] paymentAmount
  let orderStatus ← fieldText host payload ["orderStatus", "paymentStatus"] ""
  let paymentMethod ← fieldText host payload ["paymentMethod"] "PAYATFAWRY"
  let paymentRefNumber ←
    fieldText host payload ["paymentRefrenceNumber", "paymentReferenceNumber"] ""
  let signature ← fieldText host payload ["messageSignature", "signature"] ""
  pure ⟨fawryRefNumber, merchantRefNumber, paymentAmount, orderAmount, orderStatus, paymentMethod,
    paymentRefNumber, signature⟩

def signedText (f : Fields) (secureKey : String) : String :=
  f.fawryRefNumber ++ f.merchantRefNumber ++ f.paymentAmount ++ f.orderAmount ++ f.orderStatus ++
    f.paymentMethod ++ f.paymentRefNumber ++ secureKey

def verifyFawryWebhookSignature (host : Host) (f : Fields) (secureKey : String) : Bool :=
  constantTimeEqHex (host.sha256Hex (signedText f secureKey)) f.signature

def statusOf (orderStatus : String) : PaymentStatus :=
  let upper := toUpperCase orderStatus
  if upper = "PAID" ∨ upper = "SUCCESS" then .succeeded
  else if upper = "UNPAID" ∨ upper = "NEW" then .pending
  else .failed

def inspect (host : Host) (req : CallbackRequest) : Except Answer Fields := do
  let payload ← readPayload host req
  let f ← orCrash (readFields host (some payload))
  if utf16Length f.fawryRefNumber > 255 || utf16Length f.merchantRefNumber > 255 then
    .error ⟨400, .error "Invalid webhook identifiers"⟩
  else
    match getFawryConfig host with
    | none => .error ⟨503, .error "Fawry webhook verification is not configured"⟩
    | some config =>
      if f.signature = "" then .error ⟨401, .error "Missing signature"⟩
      else if !verifyFawryWebhookSignature host f config.secureKey then
        .error ⟨401, .error "Invalid signature"⟩
      else .ok f

def test (f : Fields) : Option (PaymentRow → Bool) :=
  if f.merchantRefNumber = "" ∧ f.fawryRefNumber = "" then none
  else some fun row =>
    row.provider == .stored ProviderId.fawry &&
      if f.merchantRefNumber = "" then row.providerReference == some f.fawryRefNumber
      else row.merchantReference == some f.merchantRefNumber

def edit (f : Fields) (row : SharedRow) : WebEdit where
  status := .stored (statusOf f.orderStatus)
  providerReference := some (orElse (some f.fawryRefNumber) row.payment.providerReference)
  nextAction := none

def work (f : Fields) : Web Answer := do
  match ← lookupAndSettle (test f) (statusOf f.orderStatus) (edit f) with
  | .error _ => pure Answer.crashed
  | .ok paymentId =>
    let eventId ← eventIdOr "fw_evt_" f.fawryRefNumber
    match ← Web.recordEvent eventId "fawry" paymentId with
    | .error _ => pure Answer.crashed
    | .ok () => pure ⟨200, .received none (statusOf f.orderStatus)⟩

def post (host : Host) (req : CallbackRequest) : Web Answer :=
  match inspect host req with
  | .error answer => pure answer
  | .ok f => work f

end Fawry

namespace Stripe

def inspect (host : Host) (req : CallbackRequest) : Except Answer Json :=
  match readLimitedTextBody maxCallbackBytes req.bodyBytes req.bodyText with
  | none => .error ⟨413, .error "Request body too large"⟩
  | some rawBody =>
    if utf16Length rawBody < 2 then .error ⟨400, .error "Empty request body"⟩
    else
      match host.variableOf "STRIPE_WEBHOOK_SECRET" with
      | none => .error ⟨503, .error "Stripe webhook verification is not configured"⟩
      | some secret =>
        match nonEmpty (req.header "stripe-signature") with
        | none => .error ⟨401, .error "Missing stripe-signature header"⟩
        | some signature =>
          match host.constructEvent rawBody signature secret with
          | none => .error ⟨401, .error "Invalid Stripe signature"⟩
          | some event => .ok event

def checkoutEvents : List String :=
  ["checkout.session.completed", "checkout.session.async_payment_succeeded",
    "checkout.session.async_payment_failed", "checkout.session.expired"]

structure Callback where
  sessionId : Json
  status : PaymentStatus

/-- The session of a checkout event, if it has an id. -/
def read (host : Host) (event : Json) : Throws (Option Callback) :=
  (member "type" (some event)).bind fun type =>
    match type with
    | some (.str type) =>
      if type ∈ checkoutEvents then
        (member "data" (some event)).map fun data =>
          match optionalMember "object" data with
          | some session =>
            match session.get "id" with
            | some id =>
              if truthy host.numberText (some id) then
                some ⟨id,
                  if isString "paid" (session.get "payment_status") then .succeeded
                  else if endsWith type "failed" || endsWith type "expired" then .failed
                  else .pending⟩
              else none
            | none => none
          | none => none
      else some none
    | _ => some none

def test (host : Host) (cb : Callback) (row : PaymentRow) : Bool :=
  row.providerReference == some (host.bindText cb.sessionId)

def edit (cb : Callback) (_ : SharedRow) : WebEdit where
  status := .stored cb.status
  providerReference := none
  nextAction := none

def failed : Answer := ⟨500, .error "Webhook processing error"⟩

def record (host : Host) (event : Json) (paymentId : Option (Text PaymentId)) : Web Answer := do
  let eventId ← match event.get "id" with
    | some id =>
      if truthy host.numberText (some id) then pure (host.bindText id)
      else do
        let now ← Web.now
        pure ("evt_" ++ toString (now.nanoseconds / 1000000))
    | none => do
        let now ← Web.now
        pure ("evt_" ++ toString (now.nanoseconds / 1000000))
  match ← Web.recordEvent eventId "stripe" paymentId with
  | .error _ => pure failed
  | .ok () => pure ⟨200, .receivedEvent eventId⟩

def work (host : Host) (event : Json) : Web Answer :=
  match read host event with
  | none => pure failed
  | some none => record host event none
  | some (some cb) => do
    match ← lookupAndSettle (some (test host cb)) cb.status (edit cb) with
    | .error _ => pure failed
    | .ok paymentId => record host event paymentId

def post (host : Host) (req : CallbackRequest) : Web Answer :=
  match inspect host req with
  | .error answer => pure answer
  | .ok event => work host event

end Stripe

namespace Mock

def defaultSecret : String := "mock_default_secret_key_for_testing_purposes"

def secret (host : Host) : String :=
  (host.variableOf "OPENWRAPPER_MOCK_HMAC_SECRET").getD defaultSecret

/-- The signature header, or the empty text. -/
def sigHeader (req : CallbackRequest) : String :=
  ((nonEmpty (req.header "x-mock-signature")).orElse fun _ =>
    nonEmpty (req.header "x-signature")).getD ""

def cleanSig (sig : String) : String := if startsWith sig "sha256=" then sliceFrom sig 7 else sig

def verified (host : Host) (req : CallbackRequest) (body : String) : Bool :=
  host.hmacSha256Hex (secret host) body == cleanSig (sigHeader req)

structure Callback where
  eventId : Option String
  providerRef : String
  merchantRef : String
  status : PaymentStatus
  explicitPaymentId : String
deriving DecidableEq

def statusOf (raw : String) : PaymentStatus :=
  let lower := toLowerCase raw
  if lower = "succeeded" ∨ lower = "success" ∨ lower = "paid" then .succeeded
  else if lower = "pending" then .pending
  else .failed

/-- The event id is minted when the body has none. -/
def read (host : Host) (payload : Value) : Throws Callback := do
  let event ← firstField host payload ["event_id", "eventId"] none
  let eventId ← match event with
    | none => some none
    | some id => (text host.numberText id).map some
  let providerRef ← fieldText host payload ["provider_reference", "providerReference"] ""
  let merchantRef ← fieldText host payload ["merchant_reference", "merchantReference"] ""
  let rawStatus ← fieldText host payload ["status"] "succeeded"
  let explicitPaymentId ← fieldText host payload ["payment_id", "paymentId", "id"] ""
  pure ⟨eventId, providerRef, merchantRef, statusOf rawStatus, explicitPaymentId⟩

/-- A body without a signature header is not checked. -/
def inspect (host : Host) (req : CallbackRequest) : Except Answer Callback := do
  let payload ← readPayload host req
  if sigHeader req != "" && !verified host req req.bodyText then
    .error ⟨401, .error "Invalid signature"⟩
  else orCrash (read host (some payload))

def byId (cb : Callback) : Option (PaymentRow → Bool) :=
  if cb.explicitPaymentId = "" then none
  else some fun row => idText row.id == cb.explicitPaymentId

def byReference (cb : Callback) : Option (PaymentRow → Bool) :=
  if cb.merchantRef = "" ∧ cb.providerRef = "" then none
  else some fun row =>
    if cb.merchantRef = "" then row.providerReference == some cb.providerRef
    else row.merchantReference == some cb.merchantRef

def edit (cb : Callback) (row : SharedRow) : WebEdit where
  status := .stored cb.status
  providerReference := some (orElse (some cb.providerRef) row.payment.providerReference)
  nextAction :=
    if isTerminal (.stored cb.status) then some (none, none)
    else some (row.web.nextActionType, row.web.nextActionPayload)

/-- `dbWork`; the answer does not depend on how it ends. -/
def dbWork (eventId : String) (cb : Callback) : Web Unit := do
  match ← lookup (byId cb) with
  | .error _ => pure ()
  | .ok named =>
    match ← (match named with
      | some row => pure (.ok (some row))
      | none => lookup (byReference cb)) with
    | .error _ => pure ()
    | .ok found =>
      match ← settle found cb.status (edit cb) with
      | .error _ => pure ()
      | .ok paymentId => do
        let _ ← Web.recordEvent eventId "mock" paymentId
        pure ()

def work (cb : Callback) : Web Answer := do
  let eventId ← match cb.eventId with
    | some eventId => pure eventId
    | none => eventIdOr "mock_evt_" ""
  dbWork eventId cb
  pure ⟨200, .received (some "mock") cb.status⟩

def post (host : Host) (req : CallbackRequest) : Web Answer :=
  match inspect host req with
  | .error answer => pure answer
  | .ok cb => work cb

end Mock

inductive Route where
  | paymob | fawry | stripe | mock
deriving DecidableEq, Repr

namespace Route

def provider : Route → ProviderId
  | paymob => ProviderId.paymob
  | fawry => ProviderId.fawry
  | stripe => ProviderId.stripe
  | mock => ProviderId.mock

def post (host : Host) : Route → CallbackRequest → Web Answer
  | paymob => Paymob.post host
  | fawry => Fawry.post host
  | stripe => Stripe.post host
  | mock => Mock.post host

end Route

end OpenWrapper.CallbackRoutes
