import OpenWrapper.CallbackRoutes

/-! # What the web API accepts

Who calls, in which environment, and what the body of a creation request says
once the schema has passed it. -/

set_option autoImplicit false

namespace OpenWrapper.ApiRequests
open OpenWrapper.Ids OpenWrapper.Payments OpenWrapper.Schema OpenWrapper.Providers
open OpenWrapper.JsonValue OpenWrapper.JavaScript OpenWrapper.WebDatabase
open OpenWrapper.CallbackRoutes
open OpenWrapper.Suspended OpenWrapper.Suspended.Prog

/-- Also what the schema library and the URL functions decide: the integer a
numeral denotes, if it is a safe one, what an email and an HTTP URL are, the
normal form of the gateway's URL, the encoding of a URL component, and the
printed form of a document. -/
structure ApiHost extends Host where
  safeInteger : String → Option ℤ
  isEmail : String → Bool
  isHttpUrl : String → Bool
  gatewayBase : String → Option String
  encodeURIComponent : String → String
  printJson : Json → String

structure ApiRequest where
  version : String
  headers : List (String × String)
  bodyBytes : ℕ
  bodyText : String

def ApiRequest.header (req : ApiRequest) (name : String) : Option String :=
  (req.headers.find? fun entry => entry.1 == name).map Prod.snd

def apiError (status : ℕ) (code message : String) : Answer := ⟨status, .failure code message⟩

def internalError : Answer :=
  apiError 500 "internal_error" "An unexpected error occurred while processing the payment."

/-- `validateApiVersion`. -/
def apiVersion (raw : String) : Except Answer String :=
  let normalized := trimmed (toLowerCase raw)
  if normalized ∈ ["v1", "v2", "v3"] then .ok normalized
  else .error (apiError 400 "unsupported_api_version" ("API version '" ++ raw ++
    "' is not supported. Supported versions: v1, v2, v3."))

section Callers

structure Caller where
  id : ℤ
  userId : String
  environment : String
deriving DecidableEq

/-- The text after the scheme, if `/^Bearer\s+/i` matches. -/
def afterBearer (authorization : String) : Option String :=
  let scheme := authorization.toList.take 6
  let rest := authorization.toList.drop 6
  if scheme.map asciiLower = "bearer".toList ∧ (rest.headD 'x' |> isSpace) = true then
    some (String.ofList (rest.dropWhile isSpace))
  else none

/-- The token that is authenticated. -/
def presentedToken (req : ApiRequest) : String :=
  match (nonEmpty (req.header "authorization")).bind afterBearer with
  | some token => trimmed token
  | none => ((nonEmpty (req.header "x-api-key")).map trimmed).getD ""

/-- The token that is forwarded and that decides the environment. -/
def extractApiToken (req : ApiRequest) : Option String :=
  let bearer := (req.header "authorization").map fun value =>
    trimmed ((afterBearer value).getD value)
  (nonEmpty bearer).orElse fun _ => nonEmpty ((req.header "x-api-key").map trimmed)

def isSandboxToken (token : String) : Bool :=
  token == "ow_test_sandbox_demo" || token == "ow_demo_sandbox_key"

def getApiKeyEnvironment (keyOrPrefix : String) : String :=
  let normalized := toLowerCase (trimmed keyOrPrefix)
  if startsWith normalized "ow_test" || isSandboxToken normalized then "test" else "live"

def sandboxUser : String := "usr_sandbox_demo"

def ambientKeys (host : ApiHost) : List String :=
  match host.variableOf "OPENWRAPPER_API_KEYS" with
  | some configured => ((splitOn ',' configured).map trimmed).filter (· != "")
  | none => []

/-- `authenticateApiRequest`. -/
def authenticateApiRequest (host : ApiHost) (req : ApiRequest) :
    Web (Except SqlError (Option Caller)) :=
  let token := presentedToken req
  if token = "" then pure (.ok none)
  else if isSandboxToken token || token ∈ ambientKeys host then
    pure (.ok (some ⟨0, sandboxUser, getApiKeyEnvironment token⟩))
  else do
    match ← Web.findApiKey (host.sha256Hex (trimmed token)) with
    | .error e => pure (.error e)
    | .ok none => pure (.ok none)
    | .ok (some key) =>
      pure (.ok (some ⟨key.id, key.userId,
        (nonEmpty (some key.environment)).getD (getApiKeyEnvironment key.keyPrefix)⟩))

def asksForTest (req : ApiRequest) : Bool :=
  (req.header "x-openwrapper-environment").map toLowerCase == some "test"

def isTestMode (req : ApiRequest) (caller : Caller) : Bool :=
  caller.environment == "test" || asksForTest req ||
    (extractApiToken req).any fun token => startsWith token "ow_test_" || isSandboxToken token

def environmentOf (req : ApiRequest) (caller : Caller) : String :=
  if isTestMode req caller then "test" else "live"

end Callers

section Bodies

inductive ProviderName where
  | paymob | fawry | stripe | mock
deriving DecidableEq, Repr

def ProviderName.display : ProviderName → String
  | paymob => "paymob"
  | fawry => "fawry"
  | stripe => "stripe"
  | mock => "mock"

/-- `paymentInputSchema`, as it passes a body on. -/
structure PaymentInput where
  provider : ProviderName
  amountMinorUnits : Option ℤ
  amount : Option ℤ
  currency : String
  phone : String
  email : Option String
  full_name : Option String
  fullName : Option String
  merchant_reference : Option String
  merchantReference : Option String
  description : Option String
  return_url : Option String
  returnUrl : Option String
  metadata : Option (List (String × String))
deriving DecidableEq

def isControl (c : Char) : Bool :=
  let n := c.toNat
  n ≤ 8 || n == 0x0B || n == 0x0C || (0x0E ≤ n && n ≤ 0x1F) || n == 0x7F

def sanitize (s : String) : String := String.ofList (s.toList.filter fun c => !isControl c)

def boundedString (maxLength : ℕ) (v : Json) : Option String :=
  match v with
  | .str s => if utf16Length (trimmed s) ≤ maxLength then some (sanitize (trimmed s)) else none
  | _ => none

/-- `.nullable().optional()`. -/
def nullish {α : Type} (read : Json → Option α) : Value → Option (Option α)
  | none => some none
  | some .null => some none
  | some v => (read v).map some

/-- `.optional()`. -/
def optional {α : Type} (read : Json → Option α) : Value → Option (Option α)
  | none => some none
  | some v => (read v).map some

/-- `.default(…)`. -/
def withDefault {α : Type} (default : α) (read : Json → Option α) : Value → Option α
  | none => some default
  | some v => read v

def providerSchema (v : Json) : Option ProviderName :=
  (boundedString 20 v).bind fun s =>
    match toLowerCase s with
    | "paymob" => some .paymob
    | "fawry" => some .fawry
    | "stripe" => some .stripe
    | "mock" => some .mock
    | _ => none

def maxAmount : ℤ := 2147483647

def amountSchema (host : ApiHost) : Json → Option ℤ
  | .num numeral => (host.safeInteger numeral).filter fun n => 0 < n && n ≤ maxAmount
  | _ => none

/-- `/^[A-Z]{3}$/`. -/
def isCurrencyCode (s : String) : Bool :=
  s.toList.length == 3 && s.toList.all fun c => 'A' ≤ c && c ≤ 'Z'

def currencySchema (v : Json) : Option String :=
  ((boundedString 3 v).map toUpperCase).filter isCurrencyCode

def phoneSchema (v : Json) : Option String :=
  (boundedString 32 v).filter fun s => 3 ≤ utf16Length s

def emailSchema (host : ApiHost) : Json → Option String
  | .str s => if host.isEmail (trimmed s) ∧ utf16Length (trimmed s) ≤ 254 then some (trimmed s)
    else none
  | _ => none

def httpUrl (host : ApiHost) : Json → Option String
  | .str s => if utf16Length (trimmed s) ≤ 2048 ∧ host.isHttpUrl (trimmed s) then some (trimmed s)
    else none
  | _ => none

/-- The members of an object, each name once. -/
def entriesOf (members : List (String × Json)) : List (String × Json) :=
  (members.map Prod.fst).dedup.filterMap fun name =>
    (Json.lookup name members).map fun v => (name, v)

def metadataEntry : String × Json → Option (String × String)
  | (name, .str s) => if utf16Length name ≤ 64 ∧ utf16Length s ≤ 1000 then some (name, s) else none
  | _ => none

def metadataSchema : Json → Option (List (String × String))
  | .arr [] => some []
  | .obj members =>
    ((entriesOf members).mapM metadataEntry).filter fun entries => entries.length ≤ 50
  | _ => none

/-- `paymentInputSchema.safeParse`. -/
def paymentInputSchema (host : ApiHost) (body : Json) : Option PaymentInput :=
  match body, body.get "customer" with
  | .obj _, some (.obj customer) => do
    let customer := Json.obj customer
    let provider ← withDefault .paymob providerSchema (body.get "provider")
    let amountMinorUnits ← optional (amountSchema host) (body.get "amount_minor_units")
    let amount ← optional (amountSchema host) (body.get "amount")
    let currency ← withDefault "EGP" currencySchema (body.get "currency")
    let phone ← (customer.get "phone").bind phoneSchema
    let email ← nullish (emailSchema host) (customer.get "email")
    let full_name ← nullish (boundedString 200) (customer.get "full_name")
    let fullName ← nullish (boundedString 200) (customer.get "fullName")
    let merchant_reference ← nullish (boundedString 255) (body.get "merchant_reference")
    let merchantReference ← nullish (boundedString 255) (body.get "merchantReference")
    let description ← nullish (boundedString 500) (body.get "description")
    let return_url ← nullish (httpUrl host) (body.get "return_url")
    let returnUrl ← nullish (httpUrl host) (body.get "returnUrl")
    let metadata ← nullish metadataSchema (body.get "metadata")
    pure ⟨provider, amountMinorUnits, amount, currency, phone, email, full_name, fullName,
      merchant_reference, merchantReference, description, return_url, returnUrl, metadata⟩
  | _, _ => none

end Bodies

section Orders

/-- `a || b || undefined`. -/
def firstNonEmpty (a b : Option String) : Option String :=
  (nonEmpty a).orElse fun _ => nonEmpty b

/-- What an accepted creation request asks for. -/
structure Order where
  idempotencyKey : String
  provider : ProviderName
  payload : GatewayRequest
  /-- `data.return_url`, which the simulated page is given. -/
  returnUrlParam : Option String
  bodyStripeKey : Value

/-- `/^[\x21-\x7E]{1,200}$/`. -/
def isIdempotencyKey (s : String) : Bool :=
  s.toList.all IdempotencyKey.isAsciiGraphic && 1 ≤ s.toList.length && s.toList.length ≤ 200

/-- The request that is forwarded and fingerprinted. -/
def canonicalPayload (input : PaymentInput) (amountMinorUnits : ℤ) : GatewayRequest where
  provider := input.provider.display
  amountMinorUnits := amountMinorUnits
  currency := input.currency
  phone := input.phone
  email := nonEmpty input.email
  fullName := firstNonEmpty input.full_name input.fullName
  merchantReference := firstNonEmpty input.merchant_reference input.merchantReference
  description := (nonEmpty input.description).getD "Payment"
  returnUrl := firstNonEmpty input.return_url input.returnUrl
  metadata := input.metadata.getD []

def maxBodyBytes : ℕ := 65536

/-- Everything a creation request is asked before the first lookup. -/
def accept (host : ApiHost) (req : ApiRequest) : Except Answer Order :=
  match (req.header "idempotency-key").filter isIdempotencyKey with
  | none => .error (apiError 400 "invalid_request"
      "An Idempotency-Key header (1-200 printable ASCII characters) is required.")
  | some idempotencyKey =>
    match readLimitedTextBody maxBodyBytes req.bodyBytes req.bodyText with
    | none => .error (apiError 413 "payload_too_large" "Request body must not exceed 64 KiB.")
    | some body =>
      let rawJson := (host.parseJson body).getD .null
      match paymentInputSchema host rawJson with
      | none => .error (apiError 422 "validation_error" "Invalid payment request payload")
      | some input =>
        match input.amountMinorUnits.orElse fun _ => input.amount with
        | none => .error (apiError 422 "validation_error"
            "amount_minor_units must be a positive integer")
        | some amountMinorUnits => .ok {
            idempotencyKey
            provider := input.provider
            payload := canonicalPayload input amountMinorUnits
            returnUrlParam := nonEmpty input.return_url
            bodyStripeKey := optionalMember "stripe_secret_key"
              (optionalMember "provider_credentials" (some rawJson)) }

end Orders

section Credentials

def hasHeader (req : ApiRequest) (name : String) : Bool :=
  (nonEmpty ((req.header name).map trimmed)).isSome

def hasVariable (host : ApiHost) (name : String) : Bool :=
  (nonEmpty ((host.env name).map trimmed)).isSome

def headerIncludes (req : ApiRequest) (name part : String) : Bool :=
  (req.header name).any fun value => includes (toLowerCase value) part

/-- `v?.trim()`; only a text can be trimmed. -/
def optionalTrim : Value → Throws (Option String)
  | none => some none
  | some .null => some none
  | some (.str s) => some (some (trimmed s))
  | some _ => none

def hasStripeKey (host : ApiHost) (req : ApiRequest) (order : Order) : Throws Bool :=
  if hasVariable host "STRIPE_SECRET_KEY" || hasHeader req "x-stripe-secret-key" then some true
  else (optionalTrim order.bodyStripeKey).map fun key => (nonEmpty key).isSome

def ignoresCredentials (req : ApiRequest) (caller : Caller) : Bool :=
  isTestMode req caller || asksForTest req || headerIncludes req "authorization" "ow_test_" ||
    headerIncludes req "x-api-key" "ow_test_" || headerIncludes req "authorization" "sandbox" ||
    headerIncludes req "x-api-key" "sandbox"

/-- `validateProviderCredentials`: the message that refuses, if any. -/
def missingCredentials (host : ApiHost) (req : ApiRequest) (caller : Caller) (order : Order) :
    Throws (Option String) :=
  if ignoresCredentials req caller then some none
  else
    match order.provider with
    | .paymob =>
      if ["PAYMOB_SECRET_KEY", "PAYMOB_PUBLIC_KEY", "PAYMOB_HMAC_SECRET",
          "PAYMOB_INTEGRATION_ID"].all (hasVariable host) ||
        ["x-paymob-secret-key", "x-paymob-public-key", "x-paymob-hmac-secret",
          "x-paymob-integration-id"].all (hasHeader req) then some none
      else some (some ("Paymob credentials missing. Provide X-Paymob-Secret-Key, " ++
        "X-Paymob-Public-Key, X-Paymob-Hmac-Secret, and X-Paymob-Integration-Id headers."))
    | .fawry =>
      if ["FAWRY_MERCHANT_CODE", "FAWRY_SECURE_KEY"].all (hasVariable host) ||
        ["x-fawry-merchant-code", "x-fawry-secure-key"].all (hasHeader req) then some none
      else some (some ("Fawry credentials missing. Provide X-Fawry-Merchant-Code and " ++
        "X-Fawry-Secure-Key headers."))
    | .stripe => (hasStripeKey host req order).map fun supplied =>
      if supplied then none
      else some "Stripe credentials missing. Provide X-Stripe-Secret-Key header."
    | .mock => some none

end Credentials

end OpenWrapper.ApiRequests
