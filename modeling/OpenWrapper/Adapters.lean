import OpenWrapper.HttpExchange
import OpenWrapper.Providers

/-! # Creating a payment at a provider

The `create_payment` of each adapter, as a program that posts one request and
reads the answer. What the request carries is the provider's affair and not
modelled; what the answer is turned into decides the payment's status. -/

set_option autoImplicit false

namespace OpenWrapper.Adapters
open OpenWrapper.Ids OpenWrapper.Errors OpenWrapper.Payments OpenWrapper.Providers
open OpenWrapper.HttpExchange OpenWrapper.Suspended OpenWrapper.Suspended.Prog

inductive Outcall where
  | post (url : String)
  | now

abbrev Outcall.Response : Outcall → Type
  | post _ => Exchange
  | now => Instant

abbrev Http : Type → Type := Prog Outcall.Response

namespace Http

@[simp] def post (url : String) : Http Exchange := perform (Outcall.post url)

@[simp] def now : Http Instant := perform Outcall.now

end Http

/-- `map_create_reqwest_err` of an adapter. -/
def mapCreateReqwestErr (provider title : String) (e : TransportError) : OpenWrapperError :=
  if e.isTimeout then .timeout provider 15000
  else if e.isConnect then .network provider ("could not connect to " ++ title)
  else .unknownOutcome none
    (title ++ " create request failed after transmission may have started")

def ensureCreate (p : Provider) (request : PaymentRequest) : Except OpenWrapperError Unit :=
  match p.ensureCapability .createPayment with
  | .error e => .error e
  | .ok () => request.validate

section Text

def replaceGo (pattern by_ : List Char) : ℕ → List Char → List Char
  | 0, s => s
  | _ + 1, [] => []
  | fuel + 1, c :: rest =>
    if pattern.isPrefixOf (c :: rest) then
      by_ ++ replaceGo pattern by_ fuel ((c :: rest).drop pattern.length)
    else c :: replaceGo pattern by_ fuel rest

def replace (s pattern by_ : String) : String :=
  String.ofList (replaceGo pattern.toList by_.toList s.toList.length s.toList)

def upperHex (n : ℕ) : Char := "0123456789ABCDEF".toList.getD n '0'

def encodeByte (b : UInt8) : List Char :=
  let n := b.toNat
  if n == 0x20 then ['+']
  else if (0x30 ≤ n && n ≤ 0x39) || (0x41 ≤ n && n ≤ 0x5A) || (0x61 ≤ n && n ≤ 0x7A) ||
      n == 0x2A || n == 0x2D || n == 0x2E || n == 0x5F then [Char.ofNat n]
  else ['%', upperHex (n / 16), upperHex (n % 16)]

def encodeUrlComponent (value : String) : String :=
  String.ofList (value.toUTF8.data.toList.flatMap encodeByte)

end Text

namespace Paymob

structure CreateIntentionResponse where
  id : String
  clientSecret : String

def CreateIntentionResponse.read (j : Json) : Option CreateIntentionResponse :=
  match decodeFields ["id", "client_secret"] j with
  | some [id, clientSecret] =>
    match required Json.asString id, required Json.asString clientSecret with
    | some id, some clientSecret => some ⟨id, clientSecret⟩
    | _, _ => none
  | _ => none

/-- What `create_intention` makes of the answer. -/
def readIntention (status : HttpStatus) (body : Body) :
    Except OpenWrapperError CreateIntentionResponse :=
  if status.isSuccess then
    match body.decode CreateIntentionResponse.read with
    | .error e => .error (.provider "paymob" none ("could not parse Paymob response: " ++ e))
    | .ok parsed =>
      if isBlank parsed.id || isBlank parsed.clientSecret then
        .error (.provider "paymob" none
          "Paymob response omitted the intention id or client secret")
      else .ok parsed
  else if status.code = 429 then .error (.rateLimit "paymob" none)
  else if status.code = 401 ∨ status.code = 403 then
    .error (.authentication "paymob" "Paymob rejected the configured secret key")
  else if status.isClientError then
    .error (.validation ("Paymob rejected the request with HTTP " ++ status.display))
  else
    .error (.provider "paymob" (some (toString status.code))
      ("Paymob rejected the request with HTTP " ++ status.display))

def createIntention (config : PaymobConfig) :
    Http (Except OpenWrapperError CreateIntentionResponse) := do
  match ← Http.post (trimEndMatches '/' config.baseUrl ++ "/v1/intention/") with
  | .failed e => pure (.error (mapCreateReqwestErr "paymob" "Paymob" e))
  | .answered status body => pure (readIntention status body)

def unifiedCheckoutUrl (config : PaymobConfig) (clientSecret : String) : String :=
  replace (replace (replace config.checkoutUrlTemplate
    "\x7bbase_url\x7d" (trimEndMatches '/' config.baseUrl))
    "\x7bpublic_key\x7d" (encodeUrlComponent config.publicKey))
    "\x7bclient_secret\x7d" (encodeUrlComponent clientSecret)

def createPayment (config : PaymobConfig) (request : PaymentRequest) :
    Http (Except OpenWrapperError PaymentResult) :=
  match ensureCreate (.paymob config) request with
  | .error e => pure (.error e)
  | .ok () => do
    match ← createIntention config with
    | .error e => pure (.error e)
    | .ok intention =>
      let now ← Http.now
      pure (.ok ⟨ProviderId.paymob, intention.id, .pending,
        some (.redirectToUrl (unifiedCheckoutUrl config intention.clientSecret)),
        request.amount, now⟩)

end Paymob

namespace Fawry

structure ChargeResponse where
  statusCode : Option ℤ
  statusDescription : Option String
  referenceNumber : Option String

def ChargeResponse.read (j : Json) : Option ChargeResponse :=
  match decodeFields ["statusCode", "statusDescription", "referenceNumber"] j with
  | some [code, description, reference] =>
    match optional Json.asI64 code, optional Json.asString description,
      optional Json.asString reference with
    | some code, some description, some reference => some ⟨code, description, reference⟩
    | _, _, _ => none
  | _ => none

/-- What `create_charge` makes of the answer. -/
def readCharge (status : HttpStatus) (body : Body) : Except OpenWrapperError ChargeResponse :=
  if status.code = 401 ∨ status.code = 403 then
    .error (.authentication "fawry" "Fawry rejected the configured merchant credentials")
  else if status.code = 429 then .error (.rateLimit "fawry" none)
  else
    match body.decode ChargeResponse.read with
    | .error e => .error (.provider "fawry" (some (toString status.code))
        ("could not parse Fawry response: " ++ e))
    | .ok parsed =>
      if (parsed.statusCode = some 200 ∨ parsed.statusCode = none) ∧ status.isSuccess = true ∧
          parsed.referenceNumber.any (fun reference => !isBlank reference) = true then
        .ok parsed
      else
        match parsed.statusCode with
        | some code => .error (.provider "fawry" (some (toString code))
            (parsed.statusDescription.getD "Fawry rejected the charge request"))
        | none => .error (.provider "fawry" (some (toString status.code))
            "Fawry response missing referenceNumber")

def createCharge (config : FawryConfig) : Http (Except OpenWrapperError ChargeResponse) := do
  match ← Http.post (trimEndMatches '/' config.baseUrl ++
      "/ECommerceWeb/Fawry/payments/charge") with
  | .failed e => pure (.error (mapCreateReqwestErr "fawry" "Fawry" e))
  | .answered status body => pure (readCharge status body)

def deriveMerchantRefNum (request : PaymentRequest) (id : PaymentId) : String :=
  request.merchantReference.getD id.display

/-- The checks of `create_payment` before anything is sent. -/
def check (config : FawryConfig) (request : PaymentRequest) : Except OpenWrapperError Unit :=
  match ensureCreate (.fawry config) request with
  | .error e => .error e
  | .ok () =>
    if isBlank request.customer.phone then
      .error (.validation "Fawry requires customer.phone (customerMobile)")
    else .ok ()

def createPayment (config : FawryConfig) (id : PaymentId) (request : PaymentRequest) :
    Http (Except OpenWrapperError PaymentResult) :=
  match check config request with
  | .error e => pure (.error e)
  | .ok () => do
    match ← createCharge config with
    | .error e => pure (.error e)
    | .ok charge =>
      match charge.referenceNumber with
      | none => pure (.error (.provider "fawry" none
          "Fawry accepted the charge but returned no referenceNumber"))
      | some reference =>
        let now ← Http.now
        pure (.ok ⟨ProviderId.fawry, deriveMerchantRefNum request id, .pending,
          some (.payAtReference reference
            (some "Pay this reference number at any Fawry outlet, ATM, or via the Fawry app.")),
          request.amount, now⟩)

end Fawry

namespace Stripe

structure SessionResponse where
  id : String
  url : Option String
  status : Option String
  paymentStatus : Option String

def SessionResponse.read (j : Json) : Option SessionResponse :=
  match decodeFields ["id", "url", "status", "payment_status"] j with
  | some [id, url, status, paymentStatus] =>
    match required Json.asString id, optional Json.asString url,
      optional Json.asString status, optional Json.asString paymentStatus with
    | some id, some url, some status, some paymentStatus => some ⟨id, url, status, paymentStatus⟩
    | _, _, _, _ => none
  | _ => none

structure ErrorDetail where
  message : Option String
  errorType : Option String
  code : Option String

def ErrorDetail.read (j : Json) : Option ErrorDetail :=
  match decodeFields ["message", "type", "code"] j with
  | some [message, errorType, code] =>
    match optional Json.asString message, optional Json.asString errorType,
      optional Json.asString code with
    | some message, some errorType, some code => some ⟨message, errorType, code⟩
    | _, _, _ => none
  | _ => none

def ErrorEnvelope.read (j : Json) : Option ErrorDetail :=
  match decodeFields ["error"] j with
  | some [detail] => required ErrorDetail.read detail
  | _ => none

/-- What `create_checkout_session` makes of the answer. -/
def readSession (status : HttpStatus) (body : Body) : Except OpenWrapperError SessionResponse :=
  if status.isSuccess then
    match body.decode SessionResponse.read with
    | .error e => .error (.provider "stripe" none
        ("failed to parse Stripe Checkout Session response: " ++ e))
    | .ok session =>
      if isBlank session.id then
        .error (.provider "stripe" none "Stripe response omitted checkout session ID")
      else .ok session
  else if status.code = 429 then .error (.rateLimit "stripe" none)
  else if status.code = 401 ∨ status.code = 403 then
    .error (.authentication "stripe" "Stripe rejected the configured secret key")
  else
    match body.decode ErrorEnvelope.read with
    | .ok detail => .error (.provider "stripe" detail.code
        (detail.message.getD ("Stripe rejected request with HTTP " ++ status.display)))
    | .error _ => .error (.provider "stripe" (some (toString status.code))
        ("Stripe rejected request with HTTP " ++ status.display))

def createCheckoutSession (config : StripeConfig) :
    Http (Except OpenWrapperError SessionResponse) := do
  match ← Http.post (trimEndMatches '/' config.baseUrl ++ "/v1/checkout/sessions") with
  | .failed e => pure (.error (mapCreateReqwestErr "stripe" "Stripe" e))
  | .answered status body => pure (readSession status body)

def createPayment (config : StripeConfig) (request : PaymentRequest) :
    Http (Except OpenWrapperError PaymentResult) :=
  match ensureCreate (.stripe config) request with
  | .error e => pure (.error e)
  | .ok () => do
    match ← createCheckoutSession config with
    | .error e => pure (.error e)
    | .ok session =>
      match session.url with
      | none => pure (.error (.provider "stripe" none
          "Stripe checkout session response omitted checkout URL"))
      | some url =>
        let now ← Http.now
        pure (.ok ⟨ProviderId.stripe, session.id, .pending, some (.redirectToUrl url),
          request.amount, now⟩)

end Stripe

/-- The adapters that talk to a provider. -/
inductive Adapter where
  | paymob (config : PaymobConfig)
  | fawry (config : FawryConfig)
  | stripe (config : StripeConfig)

namespace Adapter

def provider : Adapter → Provider
  | paymob config => .paymob config
  | fawry config => .fawry config
  | stripe config => .stripe config

def createPayment (a : Adapter) (id : PaymentId) (request : PaymentRequest) :
    Http (Except OpenWrapperError PaymentResult) :=
  match a with
  | paymob config => Paymob.createPayment config request
  | fawry config => Fawry.createPayment config id request
  | stripe config => Stripe.createPayment config request

/-- The checks the adapter makes before it sends anything. -/
def check (a : Adapter) (request : PaymentRequest) : Except OpenWrapperError Unit :=
  match a with
  | paymob config => ensureCreate (.paymob config) request
  | fawry config => Fawry.check config request
  | stripe config => ensureCreate (.stripe config) request

end Adapter

/-- One exchange with the provider; the state tells whether it took place. -/
def outcall (x : Exchange) (now : Instant) (_ : ℕ) (sent : Bool) :
    (e : Outcall) → Bool × e.Response
  | .post _ => (true, x)
  | .now => (sent, now)

end OpenWrapper.Adapters
