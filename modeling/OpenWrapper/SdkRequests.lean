import OpenWrapper.Ids
import OpenWrapper.JavaScript
import OpenWrapper.SafeIntegers

/-! # What the SDKs send

Creating a payment and a refund with the TypeScript, PHP and .NET clients: the
request each builds, and the loop in which each sends it. A round of a loop is
told how it went: whether the transport failed, and whether the pause after it
was waited out. -/

set_option autoImplicit false

namespace OpenWrapper.SdkRequests
open OpenWrapper.Ids OpenWrapper.JsonValue OpenWrapper.SafeIntegers

section Data

structure Customer where
  phone : String
  email : Option String
  fullName : Option String

structure CreatePaymentParams where
  provider : String
  amountMinorUnits : ℤ
  currency : String
  customer : Customer
  merchantReference : Option String
  description : Option String
  returnUrl : Option String
  metadata : Option (List (String × String))

/-- The credentials of the client and of the call, merged. -/
structure ProviderCredentials where
  paymobSecretKey : Option String
  paymobPublicKey : Option String
  paymobHmacSecret : Option String
  paymobIntegrationId : Option String
  paymobBaseUrl : Option String
  fawryMerchantCode : Option String
  fawrySecureKey : Option String
  fawryBaseUrl : Option String
  stripeSecretKey : Option String

inductive Operation where
  | createPayment (params : CreatePaymentParams) (providers : ProviderCredentials)
  | createRefund (paymentId : String) (amountMinorUnits : ℤ) (reason : Option String)

structure Call where
  operation : Operation
  idempotencyKey : Option String

/-- How a platform prints a JSON value and escapes a segment of a path. -/
structure Platform where
  encode : Json → String
  escape : String → String

structure Request where
  method : String
  url : String
  headers : List (String × String)
  body : String
deriving DecidableEq

def Request.header (r : Request) (name : String) : Option String :=
  (r.headers.find? fun h => h.1 == name).map Prod.snd

structure Response where
  status : ℕ
  reason : String
  text : String
  json : Option Json

inductive SdkError where
  | argument (message : String)
  | gatewayTimeout (message : String)
  | gatewayUnreachable (message : String)
  | gateway (code message : String) (status : ℕ)
  | cancelled
  | other (message : String)

inductive Result where
  | returned (body : Option Json)
  | threw (e : SdkError)
  | running

/-- The attempts a call has sent, and how it stands. -/
structure Trace where
  sent : List Request
  result : Result

def Trace.after (r : Request) (t : Trace) : Trace := ⟨r :: t.sent, t.result⟩

end Data

section Building

def text (name : String) (v : Option String) : List (String × Json) :=
  match v with
  | some s => [(name, .str s)]
  | none => []

def integer (n : ℤ) : Json := .num (toString n)

def metadataJson (entries : List (String × String)) : Json :=
  .obj (entries.map fun entry => (entry.1, .str entry.2))

/-- Fields that are absent are left out. -/
def paymentBody (params : CreatePaymentParams) (metadata : Option Json) : Json :=
  .obj ([("provider", .str params.provider), ("amount_minor_units", integer params.amountMinorUnits),
    ("currency", .str params.currency),
    ("customer", .obj (("phone", .str params.customer.phone) ::
      (text "email" params.customer.email ++ text "full_name" params.customer.fullName)))] ++
    text "merchant_reference" params.merchantReference ++ text "description" params.description ++
    text "return_url" params.returnUrl ++
    match metadata with
    | some m => [("metadata", m)]
    | none => [])

def refundBody (amount : ℤ) (reason : Option String) : Json :=
  .obj (("amount_minor_units", integer amount) :: text "reason" reason)

/-- The headers of the credentials that count as given. -/
def providerHeaders (given : String → Bool) (p : ProviderCredentials) : List (String × String) :=
  [("X-Paymob-Secret-Key", p.paymobSecretKey), ("X-Paymob-Public-Key", p.paymobPublicKey),
    ("X-Paymob-Hmac-Secret", p.paymobHmacSecret),
    ("X-Paymob-Integration-Id", p.paymobIntegrationId),
    ("X-Paymob-Base-Url", p.paymobBaseUrl), ("X-Fawry-Merchant-Code", p.fawryMerchantCode),
    ("X-Fawry-Secure-Key", p.fawrySecureKey), ("X-Fawry-Base-Url", p.fawryBaseUrl),
    ("X-Stripe-Secret-Key", p.stripeSecretKey)].filterMap fun entry =>
    (entry.2.filter given).map fun value => (entry.1, value)

/-- One to two hundred printable ASCII characters without quotes. -/
def validKey (key : String) : Bool :=
  1 ≤ key.toList.length && key.toList.length ≤ 200 &&
    key.toList.all fun c => c = '!' || ('#' ≤ c && c ≤ '~')

def keyMessage : String :=
  "idempotencyKey must be 1-200 printable ASCII characters without quotes or whitespace"

def urlFor (versioned : Bool) (baseUrl path : String) : String :=
  if versioned && startsWith path "/v1/" then baseUrl ++ JavaScript.sliceFrom path 3
  else baseUrl ++ path

def refundPath (platform : Platform) (paymentId : String) : String :=
  "/v1/payments/" ++ platform.escape paymentId ++ "/refunds"

def errorField (body : Json) (name : String) : Option Json :=
  (body.get "error").bind fun e => e.get name

end Building

namespace TypeScript

structure Client where
  platform : Platform
  baseUrl : String
  apiKey : Option String
  maxRetries : ℕ
  timeoutMs : ℤ

/-- One round of the loop in `request`. -/
inductive Turn where
  | aborted
  | failed (aborted timedOut : Bool) (message : String) (waited : Bool)
  | answered (response : Response)

def maxSafeInteger : ℤ := 9007199254740991

def positiveInteger (n : ℤ) : Bool := decide (0 < n ∧ n ≤ maxSafeInteger)

def integerMessage (name : String) : String := name ++
  " must be a positive integer in minor units (e.g. 1000 for 10.00 EGP). " ++
  "Never pass floating-point numbers."

def settle (response : Response) : Result :=
  if 200 ≤ response.status ∧ response.status ≤ 299 then
    if response.status = 204 then .returned none
    else
      match response.json with
      | none | some .null => .threw (.gatewayUnreachable
          "OpenWrapper gateway returned a non-JSON success response")
      | some body => .returned (some body)
  else
    match response.json.bind fun body => errorField body "code",
        response.json.bind fun body => errorField body "message" with
    | some (.str code), some (.str message) => .threw (.gateway code message response.status)
    | _, _ => .threw (.gatewayUnreachable ("HTTP " ++ toString response.status ++
        " from gateway: " ++ response.reason))

variable (c : Client)

/-- The loop of `request`. -/
def loop (timeoutMs : ℤ) (r : Request) (maxAttempts attempt : ℕ) : List Turn → Trace
  | [] => ⟨[], .running⟩
  | turn :: turns =>
    if attempt < maxAttempts then
      match turn with
      | .aborted => ⟨[], .threw .cancelled⟩
      | .answered response => ⟨[r], settle response⟩
      | .failed aborted timedOut message waited =>
        if aborted then ⟨[r], .threw .cancelled⟩
        else
          let attempt := toNumber (attempt + 1)
          if maxAttempts ≤ attempt then
            ⟨[r], .threw (if timedOut then .gatewayTimeout
                ("OpenWrapper gateway request timed out after " ++ toString timeoutMs ++ "ms")
              else .gatewayUnreachable ("Failed to reach OpenWrapper gateway at " ++ r.url ++
                " after " ++ toString attempt ++ " attempt(s): " ++ message))⟩
          else if waited then (loop timeoutMs r maxAttempts attempt turns).after r
          else ⟨[r], .threw .cancelled⟩
    else ⟨[], .threw (.gatewayUnreachable "Request loop exited unexpectedly")⟩

def request (timeoutMs : Option ℤ) (path : String) (headers : List (String × String))
    (body : Json) (turns : List Turn) : Trace :=
  let timeoutMs := timeoutMs.getD c.timeoutMs
  if !positiveInteger timeoutMs then ⟨[], .threw (.argument (integerMessage "timeoutMs"))⟩
  else
    let credentials := match c.apiKey with
      | some key => if key = "" then []
        else [("Authorization", "Bearer " ++ key), ("X-API-Key", key)]
      | none => []
    let r : Request :=
      { method := "POST"
        url := urlFor (JavaScript.endsWith c.baseUrl "/v1") c.baseUrl path
        headers := ("Content-Type", "application/json") :: (headers ++ credentials)
        body := c.platform.encode body }
    loop timeoutMs r (toNumber (c.maxRetries + 1)) 0 turns

/-- `payments.create` and `refunds.create`; the key is generated if none is
given, but for a refund. -/
def create (call : Call) (timeoutMs : Option ℤ) (randomUUID : String) (turns : List Turn) :
    Trace :=
  match call.operation with
  | .createPayment params providers =>
    if !positiveInteger params.amountMinorUnits then
      ⟨[], .threw (.argument (integerMessage "amountMinorUnits"))⟩
    else if 1000000000 < params.amountMinorUnits then
      ⟨[], .threw (.argument "amountMinorUnits exceeds the gateway maximum of 1000000000")⟩
    else
      let idempotencyKey := call.idempotencyKey.getD randomUUID
      if !validKey idempotencyKey then ⟨[], .threw (.argument keyMessage)⟩
      else
        request c timeoutMs "/v1/payments"
          (("Idempotency-Key", idempotencyKey) :: providerHeaders (· != "") providers)
          (paymentBody params (params.metadata.map metadataJson)) turns
  | .createRefund paymentId amount reason =>
    if paymentId = "" then ⟨[], .threw (.argument "paymentId must not be empty")⟩
    else if !positiveInteger amount then
      ⟨[], .threw (.argument (integerMessage "amountMinorUnits"))⟩
    else if 1000000000 < amount then
      ⟨[], .threw (.argument "amountMinorUnits exceeds the gateway maximum of 1000000000")⟩
    else
      let headers := match call.idempotencyKey with
        | some key => if key = "" then [] else [("Idempotency-Key", key)]
        | none => []
      request c timeoutMs (refundPath c.platform paymentId) headers (refundBody amount reason) turns

end TypeScript

namespace Php

/-- The constructor makes `maxRetries` at least zero; it is a 64-bit integer. -/
structure Client where
  platform : Platform
  baseUrl : String
  apiKey : Option String
  maxRetries : ℕ
  bounded : maxRetries < 2 ^ 63
  timeoutSeconds : ℕ

inductive Turn where
  | failed (timedOut : Bool) (message : String) (waited : Bool)
  | answered (response : Response)

/-- `$attempt < $maxAttempts`; one more than the greatest integer is a float,
and the comparison with it makes a float of the counter. -/
def more (c : Client) (attempt : ℕ) : Bool :=
  if c.maxRetries + 1 < 2 ^ 63 then decide (attempt < c.maxRetries + 1)
  else decide (toNumber attempt < 2 ^ 63)

/-- `empty`. -/
def isEmpty (s : String) : Bool := s == "" || s == "0"

def settle (response : Response) : Result :=
  if 200 ≤ response.status ∧ response.status < 300 then
    if response.status = 204 ∨ JavaScript.trimmed response.text = "" then .returned none
    else
      match response.json with
      | some (.arr items) => .returned (some (.arr items))
      | some (.obj members) => .returned (some (.obj members))
      | _ => .threw (.gatewayUnreachable
          "OpenWrapper gateway returned a non-JSON success response")
  else
    match response.json.bind fun body => errorField body "code",
        response.json.bind fun body => errorField body "message" with
    | some (.str code), some (.str message) => .threw (.gateway code message response.status)
    | _, _ => .threw (.gatewayUnreachable
        ("OpenWrapper gateway returned HTTP " ++ toString response.status))

variable (c : Client)

/-- The loop of `request`. -/
def loop (r : Request) (attempt : ℕ) : List Turn → Trace
  | [] => ⟨[], .running⟩
  | turn :: turns =>
    if more c attempt then
      match turn with
      | .answered response => ⟨[r], settle response⟩
      | .failed timedOut message waited =>
        let attempt := attempt + 1
        if !more c attempt then
          ⟨[r], .threw (if timedOut then .gatewayTimeout
              ("OpenWrapper gateway request timed out after " ++ toString c.timeoutSeconds ++
                " seconds")
            else .gatewayUnreachable
              ("could not reach OpenWrapper gateway at " ++ c.baseUrl ++ ": " ++ message))⟩
        else if waited then (loop r attempt turns).after r
        else ⟨[r], .threw (.other "random_int")⟩
    else ⟨[], .threw (.gatewayUnreachable ("could not reach OpenWrapper gateway at " ++ c.baseUrl))⟩

def request (path : String) (body : Json) (extraHeaders : List (String × String))
    (turns : List Turn) : Trace :=
  let credentials := match c.apiKey with
    | some key => [("Authorization", "Bearer " ++ key), ("X-API-Key", key)]
    | none => []
  let r : Request :=
    { method := "POST"
      url := urlFor (JavaScript.endsWith c.baseUrl "/v1") c.baseUrl path
      headers := ("Content-Type", "application/json") :: (credentials ++ extraHeaders)
      body := c.platform.encode body }
  loop c r 0 turns

def amountMessage : String := "amountMinorUnits must be between 1 and 1000000000"

/-- `createPayment` and `createRefund`. -/
def create (call : Call) (generated : String) (turns : List Turn) : Trace :=
  match call.operation with
  | .createPayment params providers =>
    if params.amountMinorUnits < 1 ∨ 1000000000 < params.amountMinorUnits then
      ⟨[], .threw (.argument amountMessage)⟩
    else
      let idempotencyKey := call.idempotencyKey.getD generated
      if !validKey idempotencyKey then ⟨[], .threw (.argument keyMessage)⟩
      else
        request c "/v1/payments"
          (paymentBody params (some (metadataJson (params.metadata.getD []))))
          (("Idempotency-Key", idempotencyKey) :: providerHeaders (!isEmpty ·) providers) turns
  | .createRefund paymentId amount reason =>
    if paymentId = "" then ⟨[], .threw (.argument "paymentId must not be empty")⟩
    else if amount < 1 ∨ 1000000000 < amount then ⟨[], .threw (.argument amountMessage)⟩
    else
      match call.idempotencyKey with
      | some key =>
        if !validKey key then ⟨[], .threw (.argument keyMessage)⟩
        else
          request c (refundPath c.platform paymentId) (refundBody amount reason)
            [("Idempotency-Key", key)] turns
      | none => request c (refundPath c.platform paymentId) (refundBody amount reason) [] turns

end Php

namespace DotNet

/-- `MaxRetries` is a 32-bit integer, and not negative. -/
structure Client where
  platform : Platform
  baseUrl : String
  apiKey : Option String
  maxRetries : ℕ
  bounded : maxRetries < 2 ^ 31
  timeoutMs : ℕ

/-- How `SendAsync` failed: the token was cancelled, the attempt was out of time,
the request could not be sent, or something else. -/
inductive Failure where
  | cancelled
  | timedOut
  | unreachable
  | unexpected

inductive Turn where
  | cancelled
  | failed (why : Failure) (message : String) (waited : Bool)
  | answered (response : Response)

/-- `Math.Max(1, MaxRetries + 1)`, where the sum wraps around. -/
def maxAttempts (c : Client) : ℕ := if c.maxRetries + 1 < 2 ^ 31 then c.maxRetries + 1 else 1

def settle (response : Response) : Result :=
  if 200 ≤ response.status ∧ response.status ≤ 299 then
    if response.status = 204 ∨ JavaScript.trimmed response.text = "" then .returned none
    else
      match response.json with
      | none => .threw (.other "JsonException")
      | some .null => .threw (.gatewayUnreachable "Empty response from gateway")
      | some body => .returned (some body)
  else
    match response.json.bind fun body => errorField body "code",
        response.json.bind fun body => errorField body "message" with
    | some (.str code), some (.str message) => .threw (.gateway code message response.status)
    | some (.str code), _ => .threw (.gateway code "" response.status)
    | _, _ => .threw (.gatewayUnreachable ("HTTP " ++ toString response.status ++
        " from gateway: " ++ response.reason))

variable (c : Client)

/-- The loop of `RequestAsync`. -/
def loop (r : Request) (attempt : ℕ) : List Turn → Trace
  | [] => ⟨[], .running⟩
  | turn :: turns =>
    if attempt < maxAttempts c then
      match turn with
      | .cancelled => ⟨[], .threw .cancelled⟩
      | .answered response => ⟨[r], settle response⟩
      | .failed why message waited =>
        let attempt := attempt + 1
        match why with
        | .cancelled => ⟨[r], .threw .cancelled⟩
        | .unexpected => ⟨[r], .threw (.other message)⟩
        | .timedOut =>
          if maxAttempts c ≤ attempt then
            ⟨[r], .threw (.gatewayTimeout ("OpenWrapper gateway request timed out after " ++
              toString c.timeoutMs ++ "ms: " ++ message))⟩
          else if waited then (loop r attempt turns).after r
          else ⟨[r], .threw .cancelled⟩
        | .unreachable =>
          if maxAttempts c ≤ attempt then
            ⟨[r], .threw (.gatewayUnreachable ("Failed to reach OpenWrapper gateway at " ++ r.url ++
              " after " ++ toString attempt ++ " attempt(s): " ++ message))⟩
          else if waited then (loop r attempt turns).after r
          else ⟨[r], .threw .cancelled⟩
    else ⟨[], .threw (.gatewayUnreachable "Request loop exited unexpectedly")⟩

def lower (s : String) : String := String.ofList (s.toList.map JavaScript.asciiLower)

def request (path : String) (body : Json) (extraHeaders : List (String × String))
    (turns : List Turn) : Trace :=
  let credentials := match c.apiKey with
    | some key => [("Authorization", "Bearer " ++ key), ("X-API-Key", key)]
    | none => []
  let r : Request :=
    { method := "POST"
      url := urlFor (JavaScript.endsWith (lower c.baseUrl) "/v1") c.baseUrl path
      headers := credentials ++ extraHeaders ++ [("Content-Type", "application/json; charset=utf-8")]
      body := c.platform.encode body }
  loop c r 0 turns

def amountMessage : String := "AmountMinorUnits must be between 1 and 1000000000."

/-- `Payments.CreateAsync` and `Refunds.CreateAsync`. -/
def create (call : Call) (newGuid : String) (turns : List Turn) : Trace :=
  match call.operation with
  | .createPayment params providers =>
    if params.amountMinorUnits < 1 ∨ 1000000000 < params.amountMinorUnits then
      ⟨[], .threw (.argument amountMessage)⟩
    else
      let idempotencyKey := call.idempotencyKey.getD newGuid
      if !validKey idempotencyKey then
        ⟨[], .threw (.argument ("Idempotency key must be 1-200 printable ASCII characters " ++
          "without quotes or whitespace."))⟩
      else
        request c "/v1/payments" (paymentBody params (params.metadata.map metadataJson))
          (providerHeaders (fun s => JavaScript.trimmed s != "") providers ++
            [("Idempotency-Key", idempotencyKey)]) turns
  | .createRefund paymentId amount reason =>
    if paymentId = "" then ⟨[], .threw (.argument "Payment ID must not be empty.")⟩
    else if amount < 1 ∨ 1000000000 < amount then ⟨[], .threw (.argument amountMessage)⟩
    else
      let headers := match call.idempotencyKey with
        | some key => if key = "" then [] else [("Idempotency-Key", key)]
        | none => []
      request c (refundPath c.platform paymentId) (refundBody amount reason) headers turns

end DotNet

end OpenWrapper.SdkRequests
