import OpenWrapper.Hexadecimal
import OpenWrapper.JsonValue
import OpenWrapper.Providers

/-! # What the adapters make of a callback

The `verify_and_parse` of each adapter: the signature is checked over what the
provider signs, and the document is read as an event. The identity of the
event is coined differently by each. The hash functions and the JSON parser
are parameters. -/

set_option autoImplicit false

namespace OpenWrapper.WebhookAdapters
open OpenWrapper.Ids OpenWrapper.Payments OpenWrapper.Providers
open OpenWrapper.JsonValue OpenWrapper.Hexadecimal

/-- What the adapters call: the hash functions, `serde_json::from_slice` with
its error texts, and `to_string` of an array or an object. -/
structure Crypto where
  hmacSha512 : String → String → List UInt8
  hmacSha256 : String → List UInt8 → List UInt8
  sha256 : String → List UInt8
  fromSlice : List UInt8 → Except String Json
  payloadError : List UInt8 → String
  toText : Json → String

section Reading

/-- `Value::as_i64`: a number is kept as its numeral. -/
def asI64 : Json → Option ℤ
  | .num numeral => parseI64 numeral
  | _ => none

def header (raw : RawWebhookRequest) (name : String) : Option String :=
  (raw.headers.find? fun entry => entry.1 == name).map Prod.snd

def query (raw : RawWebhookRequest) (name : String) : Option String :=
  (raw.query.find? fun entry => entry.1 == name).map Prod.snd

/-- `ok_or_else`. -/
def orElse {α : Type} (e : WebhookError) : Option α → Except WebhookError α
  | some a => .ok a
  | none => .error e

def orMalformed {α : Type} (detail : String) : Option α → Except WebhookError α :=
  orElse (.malformedPayload detail)

/-- The body as a document. -/
def parseBody (k : Crypto) (lead : String) (raw : RawWebhookRequest) : Except WebhookError Json :=
  match k.fromSlice raw.rawBody with
  | .ok json => .ok json
  | .error e => .error (.malformedPayload (lead ++ e))

@[simp] theorem orElse_eq_ok {α : Type} {e : WebhookError} {a : Option α} {b : α} :
    orElse e a = .ok b ↔ a = some b := by
  cases a <;> simp [orElse]

@[simp] theorem orMalformed_eq_ok {α : Type} {detail : String} {a : Option α} {b : α} :
    orMalformed detail a = .ok b ↔ a = some b := orElse_eq_ok

@[simp] theorem parseBody_eq_ok {k : Crypto} {lead : String} {raw : RawWebhookRequest}
    {json : Json} : parseBody k lead raw = .ok json ↔ k.fromSlice raw.rawBody = .ok json := by
  unfold parseBody
  cases k.fromSlice raw.rawBody <;> simp

/-- A step that succeeded, and what followed it. -/
theorem bind_eq_ok {α β : Type} {x : Except WebhookError α} {f : α → Except WebhookError β}
    {b : β} : (x >>= f) = .ok b ↔ ∃ a, x = .ok a ∧ f a = .ok b := by
  cases x with
  | error e =>
    constructor
    · intro stopped
      cases stopped
    · rintro ⟨a, impossible, -⟩
      cases impossible
  | ok a =>
    constructor
    · intro held
      exact ⟨a, rfl, held⟩
    · rintro ⟨a', same, held⟩
      cases same
      exact held

end Reading

namespace Paymob

/-- `HMAC_FIELD_ORDER`. -/
def hmacFieldOrder : List String :=
  ["amount_cents", "created_at", "currency", "error_occured", "has_parent_transaction", "id",
    "integration_id", "is_3d_secure", "is_auth", "is_capture", "is_refunded",
    "is_standalone_payment", "is_voided", "order.id", "owner", "pending", "source_data.pan",
    "source_data.sub_type", "source_data.type", "success"]

/-- `split_once('.')`. -/
def splitOnce (path : String) : Option (String × String) :=
  if '.' ∈ path.toList then
    some (String.ofList (path.toList.takeWhile (· != '.')),
      String.ofList ((path.toList.dropWhile (· != '.')).drop 1))
  else none

def fieldAt (obj : Json) (path : String) : Option Json :=
  match splitOnce path with
  | some (outer, inner) => (obj.get outer).bind fun v => v.get inner
  | none => obj.get path

def textOf (k : Crypto) : Option Json → String
  | none => ""
  | some .null => ""
  | some (.bool b) => if b then "true" else "false"
  | some (.num numeral) => numeral
  | some (.str s) => s
  | some other => k.toText other

/-- `paymob_field_string`. -/
def fieldString (k : Crypto) (obj : Json) (path : String) : String := textOf k (fieldAt obj path)

def concatenatedHmacString (k : Crypto) (obj : Json) : String :=
  String.join (hmacFieldOrder.map (fieldString k obj))

/-- `verify`: the received text is the MAC of the fields in hexadecimal. -/
def verify (k : Crypto) (obj : Json) (receivedHmac secret : String) : Bool :=
  decode receivedHmac == some (k.hmacSha512 secret (concatenatedHmacString k obj))

def requiredBool (obj : Json) (field : String) : Except WebhookError Bool :=
  orMalformed ("obj." ++ field ++ " missing or not a boolean") ((obj.get field).bind Json.asBool)

def reportedStatus (success pending : Bool) : PaymentStatus :=
  if pending then .pending else if success then .succeeded else .failed

/-- `order.merchant_order_id`, a text or an integer. -/
def merchantReference (obj : Json) : Option String :=
  ((obj.get "order").bind fun order => order.get "merchant_order_id").bind fun v =>
    v.asStr.orElse fun _ => (asI64 v).map toString

def eventId (k : Crypto) (id : ℤ) (verifiedHmac : String) : String :=
  "paymob:" ++ toString id ++ ":" ++ encode (k.sha256 (toAsciiLowercase verifiedHmac))

def parseVerifiedTransaction (k : Crypto) (obj : Json) (verifiedHmac : String) :
    Except WebhookError WebhookEvent := do
  let id ← orMalformed "obj.id missing or not a number" ((obj.get "id").bind asI64)
  let success ← requiredBool obj "success"
  let pending ← requiredBool obj "pending"
  let errorOccured ← requiredBool obj "error_occured"
  if success && (pending || errorOccured) then
    .error (.malformedPayload "Paymob callback contains contradictory status flags")
  else do
    let amount ← orMalformed "obj.amount_cents missing, non-integer, or not positive"
      (((obj.get "amount_cents").bind asI64).filter (0 < ·))
    .ok {
      provider := ProviderId.paymob
      eventId := eventId k id verifiedHmac
      providerReference := toString id
      merchantReference := merchantReference obj
      reportedStatus := reportedStatus success pending
      reportedAmountMinorUnits := some amount }

def verifyAndParse (k : Crypto) (config : PaymobConfig) (raw : RawWebhookRequest) :
    Except WebhookError WebhookEvent := do
  let hmacParam ← orElse .signatureMissing (query raw "hmac")
  let payload ← parseBody k "body is not valid JSON: " raw
  let obj ← orMalformed "missing top-level \"obj\"" (payload.get "obj")
  if verify k obj hmacParam config.hmacSecret then parseVerifiedTransaction k obj hmacParam
  else .error .signatureInvalid

variable {k : Crypto} {config : PaymobConfig} {raw : RawWebhookRequest} {obj : Json}
variable {hmac : String} {event : WebhookEvent}

theorem requiredBool_eq_ok {field : String} {b : Bool} :
    requiredBool obj field = .ok b ↔ (obj.get field).bind Json.asBool = some b :=
  orMalformed_eq_ok

/-- What a verified transaction says. -/
structure Says (k : Crypto) (obj : Json) (hmac : String) (event : WebhookEvent) (id amount : ℤ)
    (success pending errorOccured : Bool) : Prop where
  named : (obj.get "id").bind asI64 = some id
  succeeds : (obj.get "success").bind Json.asBool = some success
  pends : (obj.get "pending").bind Json.asBool = some pending
  fails : (obj.get "error_occured").bind Json.asBool = some errorOccured
  consistent : (success && (pending || errorOccured)) = false
  charged : (obj.get "amount_cents").bind asI64 = some amount
  positive : 0 < amount
  read : event = ⟨ProviderId.paymob, eventId k id hmac, toString id, merchantReference obj,
    reportedStatus success pending, some amount⟩

theorem parseVerifiedTransaction_ok :
    parseVerifiedTransaction k obj hmac = .ok event ↔
      ∃ id amount success pending errorOccured,
        Says k obj hmac event id amount success pending errorOccured := by
  constructor
  · intro parsed
    simp only [parseVerifiedTransaction, bind_eq_ok, orMalformed_eq_ok, requiredBool_eq_ok] at parsed
    obtain ⟨id, named, success, succeeds, pending, pends, errorOccured, fails, rest⟩ := parsed
    split at rest
    · cases rest
    next consistent =>
      obtain ⟨amount, positive, is⟩ := bind_eq_ok.mp rest
      obtain ⟨charged, above⟩ := Option.filter_eq_some_iff.mp (orMalformed_eq_ok.mp positive)
      cases is
      exact ⟨id, amount, success, pending, errorOccured, named, succeeds, pends, fails,
        by simpa using consistent, charged, by simpa using above, rfl⟩
  · rintro ⟨id, amount, success, pending, errorOccured, told⟩
    have positive : ((obj.get "amount_cents").bind asI64).filter (0 < ·) = some amount :=
      Option.filter_eq_some_iff.mpr ⟨told.charged, by simpa using told.positive⟩
    simp only [parseVerifiedTransaction, bind_eq_ok, orMalformed_eq_ok, requiredBool_eq_ok]
    refine ⟨id, told.named, success, told.succeeds, pending, told.pends, errorOccured,
      told.fails, ?_⟩
    simp only [told.consistent, Bool.false_eq_true, if_false]
    exact bind_eq_ok.mpr ⟨amount, orMalformed_eq_ok.mpr positive, by rw [told.read]⟩

/-- The callback passes the check of its signature. -/
def Signed (k : Crypto) (config : PaymobConfig) (raw : RawWebhookRequest) (obj : Json)
    (hmac : String) : Prop :=
  query raw "hmac" = some hmac ∧ (∃ payload, k.fromSlice raw.rawBody = .ok payload ∧
    payload.get "obj" = some obj) ∧ verify k obj hmac config.hmacSecret = true

theorem verifyAndParse_ok : verifyAndParse k config raw = .ok event ↔
    ∃ obj hmac, Signed k config raw obj hmac ∧ parseVerifiedTransaction k obj hmac = .ok event := by
  simp only [verifyAndParse, bind_eq_ok, orElse_eq_ok, parseBody_eq_ok, orMalformed_eq_ok]
  constructor
  · rintro ⟨hmac, received, payload, parsed, obj, within, rest⟩
    split at rest
    next verified => exact ⟨obj, hmac, ⟨received, ⟨payload, parsed, within⟩, verified⟩, rest⟩
    · cases rest
  · rintro ⟨obj, hmac, ⟨received, ⟨payload, parsed, within⟩, verified⟩, rest⟩
    exact ⟨hmac, received, payload, parsed, obj, within, by rw [if_pos verified]; exact rest⟩

end Paymob

namespace Fawry

/-- A text member, or a number as it was written. -/
def getStr (payload : Json) (field : String) : Option String :=
  match payload.get field with
  | some (.str s) => some s
  | some (.num numeral) => some numeral
  | _ => none

/-- `decimal_str_to_minor_units`. -/
def decimalStrToMinorUnits (s : String) : Option ℤ :=
  let chars := trimChars s.toList
  let major := chars.takeWhile (· != '.')
  let minor := (chars.dropWhile (· != '.')).drop 1
  if major.isEmpty ∨ minor.length > 2 then none
  else
    match parseDigits 0 major, parseDigits 0 minor with
    | some units, some fraction =>
      let cents := if minor.length = 1 then fraction * 10 else fraction
      if units * 100 + cents ≤ 9223372036854775807 then some (units * 100 + cents : ℕ) else none
    | _, _ => none

/-- `map_order_status`. -/
def mapOrderStatus (status : String) : PaymentStatus :=
  if status = "NEW" then .pending
  else if status = "PAID" then .succeeded
  else if status ∈ ["CANCELED", "EXPIRED", "FAILED"] then .failed
  else if status ∈ ["REFUNDED", "PARTIAL_REFUNDED"] then .succeeded
  else .unknown

/-- The fields the notification is signed over, as they stand in it. -/
structure SignedFields where
  fawryRefNumber : String
  merchantRefNumber : String
  paymentAmount : String
  orderAmount : String
  orderStatus : String
  paymentMethod : String
  paymentReferenceNumber : Option String
deriving DecidableEq

def SignedFields.parts (f : SignedFields) : List String :=
  [f.fawryRefNumber, f.merchantRefNumber, f.paymentAmount, f.orderAmount, f.orderStatus,
    f.paymentMethod, f.paymentReferenceNumber.getD ""]

/-- `webhook_signature`, before it is printed. -/
def webhookSignature (k : Crypto) (f : SignedFields) (secureKey : String) : List UInt8 :=
  k.sha256 (String.join f.parts ++ secureKey)

def readFields (payload : Json) : Except WebhookError SignedFields := do
  let fawryRefNumber ← orMalformed "missing fawryRefNumber" (getStr payload "fawryRefNumber")
  let merchantRefNumber ←
    orMalformed "missing merchantRefNumber" (getStr payload "merchantRefNumber")
  let orderStatus ← orMalformed "missing orderStatus" (getStr payload "orderStatus")
  let paymentAmount ←
    orMalformed "missing or non-numeric paymentAmount" (getStr payload "paymentAmount")
  let orderAmount ← orMalformed "missing or non-numeric orderAmount" (getStr payload "orderAmount")
  .ok ⟨fawryRefNumber, merchantRefNumber, paymentAmount, orderAmount, orderStatus,
    (getStr payload "paymentMethod").getD "",
    (getStr payload "paymentRefrenceNumber").orElse fun _ =>
      getStr payload "paymentReferenceNumber"⟩

/-- The notification's own id, or a digest of its signature. -/
def eventIdentity (k : Crypto) (payload : Json) (receivedSignature : String) : String :=
  ((getStr payload "requestId").filter fun id => !isBlank id).getD
    (encode (k.sha256 (toAsciiLowercase receivedSignature)))

def verifyAndParse (k : Crypto) (config : FawryConfig) (raw : RawWebhookRequest) :
    Except WebhookError WebhookEvent := do
  let payload ← parseBody k "body is not valid JSON: " raw
  let receivedSignature ← orElse .signatureMissing (getStr payload "messageSignature")
  let fields ← readFields payload
  if decode receivedSignature ≠ some (webhookSignature k fields config.secureKey) then
    .error .signatureInvalid
  else if fields.paymentMethod ≠ "PAYATFAWRY" then
    .error (.unrecognizedEventType fields.paymentMethod)
  else do
    let amount ← orMalformed "paymentAmount is outside the supported positive 2dp range"
      ((decimalStrToMinorUnits fields.paymentAmount).filter (0 < ·))
    .ok {
      provider := ProviderId.fawry
      eventId := "fawry:" ++ eventIdentity k payload receivedSignature
      providerReference := fields.merchantRefNumber
      merchantReference := some fields.merchantRefNumber
      reportedStatus := mapOrderStatus fields.orderStatus
      reportedAmountMinorUnits := some amount }

variable {k : Crypto} {config : FawryConfig} {raw : RawWebhookRequest} {event : WebhookEvent}

/-- The notification passes the check of its signature. -/
structure Signed (k : Crypto) (config : FawryConfig) (raw : RawWebhookRequest) (payload : Json)
    (signature : String) (fields : SignedFields) : Prop where
  parsed : k.fromSlice raw.rawBody = .ok payload
  received : getStr payload "messageSignature" = some signature
  read : readFields payload = .ok fields
  verified : decode signature = some (webhookSignature k fields config.secureKey)

/-- The event of a signed notification. -/
def eventOf (k : Crypto) (payload : Json) (signature : String) (fields : SignedFields)
    (amount : ℤ) : WebhookEvent where
  provider := ProviderId.fawry
  eventId := "fawry:" ++ eventIdentity k payload signature
  providerReference := fields.merchantRefNumber
  merchantReference := some fields.merchantRefNumber
  reportedStatus := mapOrderStatus fields.orderStatus
  reportedAmountMinorUnits := some amount

theorem verifyAndParse_ok : verifyAndParse k config raw = .ok event ↔
    ∃ payload signature fields amount, Signed k config raw payload signature fields ∧
      fields.paymentMethod = "PAYATFAWRY" ∧
      decimalStrToMinorUnits fields.paymentAmount = some amount ∧ 0 < amount ∧
      event = eventOf k payload signature fields amount := by
  simp only [verifyAndParse, bind_eq_ok, orElse_eq_ok, parseBody_eq_ok]
  constructor
  · rintro ⟨payload, parsed, signature, received, fields, read, rest⟩
    split at rest
    · cases rest
    next verified =>
      split at rest
      · cases rest
      next method =>
        obtain ⟨amount, positive, is⟩ := bind_eq_ok.mp rest
        obtain ⟨minor, above⟩ := Option.filter_eq_some_iff.mp (orMalformed_eq_ok.mp positive)
        cases is
        exact ⟨payload, signature, fields, amount, ⟨parsed, received, read, not_not.mp verified⟩,
          not_not.mp method, minor, by simpa using above, rfl⟩
  · rintro ⟨payload, signature, fields, amount, signed, method, minor, above, rfl⟩
    have positive : (decimalStrToMinorUnits fields.paymentAmount).filter (0 < ·) = some amount :=
      Option.filter_eq_some_iff.mpr ⟨minor, by simpa using above⟩
    refine ⟨payload, signed.parsed, signature, signed.received, fields, signed.read, ?_⟩
    rw [if_neg (not_not.mpr signed.verified), if_neg (not_not.mpr method)]
    exact bind_eq_ok.mpr ⟨amount, orMalformed_eq_ok.mpr positive, rfl⟩

end Fawry

namespace Stripe

structure ParsedSignatureHeader where
  timestamp : ℤ
  signatures : List String

/-- A `key=value` item of the header, trimmed. -/
def headerItem (item : List Char) : String × String :=
  (String.ofList (trimChars (item.takeWhile (· != '='))),
    String.ofList (trimChars ((item.dropWhile (· != '=')).drop 1)))

def parseSignatureHeader (text : String) : Except WebhookError ParsedSignatureHeader :=
  let items := (text.toList.splitOn ',').map headerItem
  -- the last `t` that is an integer counts
  let timestamp := ((items.filter fun item => item.1 == "t").filterMap
    fun item => parseI64 item.2).getLast?
  let signatures := (items.filter fun item => item.1 == "v1" && item.2 != "").map Prod.snd
  match timestamp with
  | none => .error .signatureMissing
  | some timestamp =>
    if signatures.isEmpty then .error .signatureMissing else .ok ⟨timestamp, signatures⟩

def wrapI64 (n : ℤ) : ℤ :=
  (n + 9223372036854775808) % 18446744073709551616 - 9223372036854775808

def absI64 (n : ℤ) : ℤ := wrapI64 n.natAbs

def formatSignedPayload (timestamp : ℤ) (rawBody : List UInt8) : List UInt8 :=
  (toString timestamp ++ ".").toUTF8.data.toList ++ rawBody

def verifySignature (k : Crypto) (now : Instant) (secret : String) (rawBody : List UInt8)
    (text : String) (tolerance : ℕ) : Except WebhookError Unit :=
  match parseSignatureHeader text with
  | .error e => .error e
  | .ok parsed =>
    if 0 < tolerance ∧ wrapI64 tolerance < absI64 (wrapI64 (now.seconds - parsed.timestamp)) then
      .error .signatureInvalid
    else if parsed.signatures.any fun signature =>
        decode signature == some (k.hmacSha256 secret (formatSignedPayload parsed.timestamp rawBody))
    then .ok ()
    else .error .signatureInvalid

/-- The kinds of events that are accepted. -/
inductive EventKind where
  | sessionCompleted
  | sessionExpired
  | intentSucceeded
  | intentFailed
  | intentProcessing
deriving DecidableEq

namespace EventKind

def ofType (type : String) : Option EventKind :=
  if type = "checkout.session.completed" then some sessionCompleted
  else if type = "checkout.session.expired" then some sessionExpired
  else if type = "payment_intent.succeeded" then some intentSucceeded
  else if type = "payment_intent.payment_failed" ∨ type = "payment_intent.canceled" then
    some intentFailed
  else if type = "payment_intent.processing" then some intentProcessing
  else none

/-- The object is a checkout session. -/
def isSession : EventKind → Bool
  | sessionCompleted | sessionExpired => true
  | intentSucceeded | intentFailed | intentProcessing => false

def missingId (kind : EventKind) : String :=
  if kind.isSession then "checkout session missing id" else "payment_intent missing id"

def merchantReference (kind : EventKind) (object : Json) : Option String :=
  if kind.isSession then (object.get "client_reference_id").bind Json.asStr
  else ((object.get "metadata").bind fun metadata =>
    (metadata.get "merchant_reference").orElse fun _ =>
      metadata.get "openwrapper_payment_id").bind Json.asStr

def amount (kind : EventKind) (object : Json) : Option ℤ :=
  (object.get (if kind.isSession then "amount_total" else "amount")).bind asI64

def reportedStatus (kind : EventKind) (object : Json) : PaymentStatus :=
  match kind with
  | sessionCompleted =>
    if (object.get "payment_status").bind Json.asStr = some "paid" then .succeeded else .pending
  | sessionExpired => .failed
  | intentSucceeded => .succeeded
  | intentFailed => .failed
  | intentProcessing => .pending

end EventKind

def nonBlankStr (json : Json) (field : String) : Option String :=
  ((json.get field).bind Json.asStr).filter fun s => !isBlank s

def parseEvent (json : Json) : Except WebhookError WebhookEvent := do
  let eventId ← orMalformed "missing event id" (nonBlankStr json "id")
  let eventType ← orMalformed "missing event type" (nonBlankStr json "type")
  let object ← orMalformed "missing data.object"
    ((json.get "data").bind fun data => data.get "object")
  let kind ← orElse (.unrecognizedEventType eventType) (EventKind.ofType eventType)
  let reference ← orMalformed kind.missingId ((object.get "id").bind Json.asStr)
  .ok {
    provider := ProviderId.stripe
    eventId
    providerReference := reference
    merchantReference := kind.merchantReference object
    reportedStatus := kind.reportedStatus object
    reportedAmountMinorUnits := kind.amount object }

def verifyAndParse (k : Crypto) (now : Instant) (config : StripeConfig) (raw : RawWebhookRequest) :
    Except WebhookError WebhookEvent := do
  let secret ← orElse .signatureInvalid config.webhookSecret
  let text ← orElse .signatureMissing
    ((header raw "stripe-signature").orElse fun _ => header raw "Stripe-Signature")
  let () ← verifySignature k now secret raw.rawBody text config.webhookToleranceSecs
  let json ← parseBody k "invalid JSON: " raw
  parseEvent json

variable {k : Crypto} {now : Instant} {config : StripeConfig} {raw : RawWebhookRequest}
variable {json object : Json} {kind : EventKind} {event : WebhookEvent}

/-- The document is an event of this kind about the object. -/
def IsEvent (json : Json) (eventId : String) (kind : EventKind) (object : Json) : Prop :=
  nonBlankStr json "id" = some eventId ∧
    (∃ type, nonBlankStr json "type" = some type ∧ EventKind.ofType type = some kind) ∧
    ((json.get "data").bind fun data => data.get "object") = some object

theorem isEvent_unique {json object object' : Json} {eventId eventId' : String}
    {kind kind' : EventKind} (is : IsEvent json eventId kind object)
    (is' : IsEvent json eventId' kind' object') : kind = kind' ∧ object = object' := by
  obtain ⟨-, ⟨type, typed, known⟩, within⟩ := is
  obtain ⟨-, ⟨type', typed', known'⟩, within'⟩ := is'
  rw [typed] at typed'
  cases typed'
  rw [known] at known'
  rw [within] at within'
  exact ⟨Option.some.inj known', Option.some.inj within'⟩

/-- The event of an object. -/
def eventOf (eventId : String) (kind : EventKind) (object : Json) (reference : String) :
    WebhookEvent where
  provider := ProviderId.stripe
  eventId := eventId
  providerReference := reference
  merchantReference := kind.merchantReference object
  reportedStatus := kind.reportedStatus object
  reportedAmountMinorUnits := kind.amount object

theorem parseEvent_ok : parseEvent json = .ok event ↔
    ∃ eventId kind object reference, IsEvent json eventId kind object ∧
      (object.get "id").bind Json.asStr = some reference ∧
      event = eventOf eventId kind object reference := by
  simp only [parseEvent, bind_eq_ok, orElse_eq_ok, orMalformed_eq_ok]
  constructor
  · rintro ⟨eventId, named, type, typed, object, within, kind, known, reference, about, is⟩
    cases is
    exact ⟨eventId, kind, object, reference, ⟨named, ⟨type, typed, known⟩, within⟩, about, rfl⟩
  · rintro ⟨eventId, kind, object, reference, ⟨named, ⟨type, typed, known⟩, within⟩, about, rfl⟩
    exact ⟨eventId, named, type, typed, object, within, kind, known, reference, about, rfl⟩

/-- The delivery passes the check of its signature. -/
def Signed (k : Crypto) (now : Instant) (config : StripeConfig) (raw : RawWebhookRequest) : Prop :=
  ∃ secret text, config.webhookSecret = some secret ∧
    ((header raw "stripe-signature").orElse fun _ => header raw "Stripe-Signature") = some text ∧
    verifySignature k now secret raw.rawBody text config.webhookToleranceSecs = .ok ()

theorem verifyAndParse_ok : verifyAndParse k now config raw = .ok event ↔
    Signed k now config raw ∧ ∃ json, k.fromSlice raw.rawBody = .ok json ∧
      parseEvent json = .ok event := by
  simp only [verifyAndParse, bind_eq_ok, orElse_eq_ok, parseBody_eq_ok]
  constructor
  · rintro ⟨secret, configured, text, received, ⟨⟩, verified, json, parsed, read⟩
    exact ⟨⟨secret, text, configured, received, verified⟩, json, parsed, read⟩
  · rintro ⟨⟨secret, text, configured, received, verified⟩, json, parsed, read⟩
    exact ⟨secret, configured, text, received, (), verified, json, parsed, read⟩

end Stripe

namespace Mock

structure Payload where
  eventId : String
  providerReference : String
  merchantReference : Option String
  status : String
  amountMinorUnits : Option ℤ

/-- A field of a derived reader: absent, once, or twice (an error). -/
def field (members : List (String × Json)) (name : String) : Option (Option Json) :=
  match members.filter fun member => member.1 == name with
  | [] => some none
  | [member] => some (some member.2)
  | _ => none

def optionally {α : Type} (read : Json → Option α) : Option Json → Option (Option α)
  | none => some none
  | some .null => some none
  | some json => (read json).map some

/-- `i64` straight from the text, where `-0` is no integer. -/
def readI64 : Json → Option ℤ
  | .num numeral => if numeral = "-0" then none else parseI64 numeral
  | _ => none

def Payload.ofFields (eventId reference merchant status amount : Option Json) : Option Payload :=
  match eventId.bind Json.asStr, reference.bind Json.asStr, optionally Json.asStr merchant,
    status.bind Json.asStr, optionally readI64 amount with
  | some eventId, some reference, some merchant, some status, some amount =>
    some ⟨eventId, reference, merchant, status, amount⟩
  | _, _, _, _, _ => none

/-- The derived reader of `MockWebhookPayload`. -/
def Payload.read : Json → Option Payload
  | .obj members =>
    match field members "event_id", field members "provider_reference",
      field members "merchant_reference", field members "status",
      field members "amount_minor_units" with
    | some eventId, some reference, some merchant, some status, some amount =>
      ofFields eventId reference merchant status amount
    | _, _, _, _, _ => none
  | .arr [eventId, reference, merchant, status, amount] =>
    ofFields (some eventId) (some reference) (some merchant) (some status) (some amount)
  | _ => none

def mapStatus (status : String) : Option PaymentStatus :=
  let lower := toAsciiLowercase status
  if lower ∈ ["succeeded", "success", "paid"] then some .succeeded
  else if lower ∈ ["failed", "declined", "canceled"] then some .failed
  else if lower = "pending" then some .pending
  else none

def verifyAndParse (k : Crypto) (config : MockConfig) (providerId : ProviderId)
    (raw : RawWebhookRequest) : Except WebhookError WebhookEvent := do
  let sigHeader ← orElse .signatureMissing (header raw "x-mock-signature")
  let sigClean := (stripPrefix "sha256=" sigHeader).getD sigHeader
  if decode sigClean ≠ some (k.hmacSha256 config.hmacSecret raw.rawBody) then
    .error .signatureInvalid
  else do
    let payload ← orMalformed (k.payloadError raw.rawBody)
      ((k.fromSlice raw.rawBody).toOption.bind Payload.read)
    let status ← orElse (.unrecognizedEventType payload.status) (mapStatus payload.status)
    .ok {
      provider := providerId
      eventId := payload.eventId
      providerReference := payload.providerReference
      merchantReference := payload.merchantReference
      reportedStatus := status
      reportedAmountMinorUnits := payload.amountMinorUnits }

variable {k : Crypto} {config : MockConfig} {providerId : ProviderId} {raw : RawWebhookRequest}
variable {event : WebhookEvent}

/-- The delivery passes the check of its signature. -/
def Signed (k : Crypto) (config : MockConfig) (raw : RawWebhookRequest) : Prop :=
  ∃ text, header raw "x-mock-signature" = some text ∧
    decode ((stripPrefix "sha256=" text).getD text) =
      some (k.hmacSha256 config.hmacSecret raw.rawBody)

def eventOf (providerId : ProviderId) (payload : Payload) (status : PaymentStatus) :
    WebhookEvent where
  provider := providerId
  eventId := payload.eventId
  providerReference := payload.providerReference
  merchantReference := payload.merchantReference
  reportedStatus := status
  reportedAmountMinorUnits := payload.amountMinorUnits

theorem verifyAndParse_ok : verifyAndParse k config providerId raw = .ok event ↔
    Signed k config raw ∧ ∃ payload status,
      (k.fromSlice raw.rawBody).toOption.bind Payload.read = some payload ∧
      mapStatus payload.status = some status ∧ event = eventOf providerId payload status := by
  simp only [verifyAndParse, bind_eq_ok, orElse_eq_ok]
  constructor
  · rintro ⟨text, received, rest⟩
    split at rest
    · cases rest
    next verified =>
      obtain ⟨payload, read, status, mapped, is⟩ := by
        simpa only [bind_eq_ok, orMalformed_eq_ok, orElse_eq_ok] using rest
      cases is
      exact ⟨⟨text, received, not_not.mp verified⟩, payload, status, read, mapped, rfl⟩
  · rintro ⟨⟨text, received, verified⟩, payload, status, read, mapped, rfl⟩
    refine ⟨text, received, ?_⟩
    rw [if_neg (not_not.mpr verified)]
    simp only [bind_eq_ok, orMalformed_eq_ok, orElse_eq_ok]
    exact ⟨payload, read, status, mapped, rfl⟩

end Mock

/-- `verify_and_parse_webhook` of a provider, at this time. -/
def verifyAndParseWebhook (k : Crypto) (now : Instant) (p : Provider) (raw : RawWebhookRequest) :
    Except WebhookError WebhookEvent :=
  match p with
  | .paymob config => Paymob.verifyAndParse k config raw
  | .fawry config => Fawry.verifyAndParse k config raw
  | .stripe config => Stripe.verifyAndParse k now config raw
  | .mock config providerId => Mock.verifyAndParse k config providerId raw

end OpenWrapper.WebhookAdapters
