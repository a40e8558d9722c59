import OpenWrapper.Adapters

/-! # Refunding at a provider

The `refund` of each adapter, as a program over the exchanges it has with its
provider. Paymob and Fawry keep the trait's default, which refuses. -/

set_option autoImplicit false

namespace OpenWrapper.RefundAdapters
open OpenWrapper.Ids OpenWrapper.Errors OpenWrapper.Schema OpenWrapper.Providers
open OpenWrapper.HttpExchange OpenWrapper.Adapters
open OpenWrapper.Suspended OpenWrapper.Suspended.Prog

inductive RefundCall where
  | get (url : String)
  | post (url : String) (form : List (String × String))

abbrev RefundCall.Response : RefundCall → Type
  | get _ => Exchange
  | post _ _ => Exchange

abbrev RefundHttp : Type → Type := Prog RefundCall.Response

namespace RefundHttp

@[simp] def get (url : String) : RefundHttp Exchange := perform (RefundCall.get url)

@[simp] def post (url : String) (form : List (String × String)) : RefundHttp Exchange :=
  perform (RefundCall.post url form)

end RefundHttp

/-- `Value::get`: the last of the fields of that name. -/
def getField (name : String) : Json → Option Json
  | .object fields => (fields.reverse.find? fun field => field.1 == name).map Prod.snd
  | _ => none

namespace Mock

/-- A simulation: amounts that end in 99 are declined. -/
def refund (label : ProviderId) (id : PaymentId) (reference : String) (amount : ℤ) :
    Except OpenWrapperError RefundResult :=
  if amount.tmod 100 = 99 then
    .error (.provider label.asStr (some "refund_declined")
      "Simulated refund decline (amount ends in 99)")
  else
    .ok ⟨label.asStr ++ "_refnd_" ++ id.display, some reference, amount, .succeeded⟩

end Mock

namespace Stripe

structure RefundResponse where
  id : String
  status : Option String
  amount : Option ℤ

def RefundResponse.read (j : Json) : Option RefundResponse :=
  match decodeFields ["id", "status", "amount"] j with
  | some [id, status, amount] =>
    match required Json.asString id, optional Json.asString status, optional Json.asI64 amount with
    | some id, some status, some amount => some ⟨id, status, amount⟩
    | _, _, _ => none
  | _ => none

def mapInquiryReqwestErr (e : TransportError) : OpenWrapperError :=
  if e.isTimeout then .timeout "stripe" 15000 else .network "stripe" "request to Stripe failed"

def refundStatus : Option String → RefundStatus
  | some "succeeded" => .succeeded
  | some "pending" => .pending
  | _ => .failed

/-- What `refund` makes of the answer to its last request. -/
def readRefund (paymentIntentId : String) (amount : ℤ) (status : HttpStatus) (body : Body) :
    Except OpenWrapperError RefundResult :=
  if status.isSuccess then
    match body.decode RefundResponse.read with
    | .error e => .error (.provider "stripe" none ("failed to parse Stripe refund response: " ++ e))
    | .ok response =>
      .ok ⟨response.id, some paymentIntentId, response.amount.getD amount,
        refundStatus response.status⟩
  else
    let message := match body.decode Adapters.Stripe.ErrorEnvelope.read with
      | .ok detail => detail.message
      | .error _ => none
    .error (.provider "stripe" (some "refund_failed")
      (message.getD ("Stripe refund failed with HTTP " ++ status.display)))

def reasonField : Option String → List (String × String)
  | none => []
  | some "duplicate" => [("reason", "duplicate")]
  | some "fraudulent" => [("reason", "fraudulent")]
  | some _ => [("reason", "requested_by_customer")]

def postRefund (config : StripeConfig) (paymentIntentId : String) (amount : ℤ)
    (reason : Option String) : RefundHttp (Except OpenWrapperError RefundResult) := do
  match ← RefundHttp.post (trimEndMatches '/' config.baseUrl ++ "/v1/refunds")
      ([("payment_intent", paymentIntentId), ("amount", toString amount)] ++
        reasonField reason) with
  | .failed e => pure (.error (mapCreateReqwestErr "stripe" "Stripe" e))
  | .answered status body => pure (readRefund paymentIntentId amount status body)

/-- The payment intent of a checkout session. -/
def readSessionIntent (status : HttpStatus) (body : Body) : Except OpenWrapperError String :=
  if !status.isSuccess then
    .error (.provider "stripe" (some "session_lookup_failed")
      "could not resolve payment_intent from Stripe checkout session")
  else
    match body.decode some with
    | .error e => .error (.provider "stripe" none
        ("could not parse Stripe checkout session: " ++ e))
    | .ok json =>
      match (getField "payment_intent" json).bind Json.asString with
      | none => .error (.provider "stripe" (some "no_payment_intent")
          "checkout session has no payment_intent associated")
      | some intent => .ok intent

def refund (config : StripeConfig) (reference : String) (amount : ℤ) (reason : Option String) :
    RefundHttp (Except OpenWrapperError RefundResult) :=
  if startsWith reference "pi_" || startsWith reference "ch_" then
    postRefund config reference amount reason
  else do
    match ← RefundHttp.get (trimEndMatches '/' config.baseUrl ++ "/v1/checkout/sessions/" ++
        reference) with
    | .failed e => pure (.error (mapInquiryReqwestErr e))
    | .answered status body =>
      match readSessionIntent status body with
      | .error e => pure (.error e)
      | .ok intent => postRefund config intent amount reason

end Stripe

/-- `PaymentProvider::refund` of an instance. -/
def refund (p : Provider) (id : PaymentId) (reference : String) (amount : ℤ)
    (reason : Option String) : RefundHttp (Except OpenWrapperError RefundResult) :=
  match p with
  | .mock _ label => pure (Mock.refund label id reference amount)
  | .stripe config => Stripe.refund config reference amount reason
  | .paymob _ | .fawry _ =>
    pure (.error (.unsupportedCapability p.id.asStr Capability.refund.display))

/-- The exchanges of a refund, in the order it has them. -/
def exchanged (exchanges : List Exchange) (n : ℕ) (_ : Unit) :
    (e : RefundCall) → Unit × e.Response
  | .get _ => ((), exchanges.getD n (.failed ⟨true, false⟩))
  | .post _ _ => ((), exchanges.getD n (.failed ⟨true, false⟩))

/-- What the adapter answers when its provider answers like this. -/
def answered (p : Provider) (id : PaymentId) (reference : String) (amount : ℤ)
    (reason : Option String) (exchanges : List Exchange) : Except OpenWrapperError RefundResult :=
  (serial (exchanged exchanges) 0 () (refund p id reference amount reason)).2

/-- The mock names every refund of a payment alike. -/
theorem mock_refundId {config : MockConfig} {label : ProviderId} {id : PaymentId}
    {reference : String} {amount : ℤ} {reason : Option String} {exchanges : List Exchange}
    {result : RefundResult}
    (is : answered (.mock config label) id reference amount reason exchanges = .ok result) :
    result.refundId = label.asStr ++ "_refnd_" ++ id.display ∧ result.status = .succeeded := by
  have is' : Mock.refund label id reference amount = .ok result := is
  unfold Mock.refund at is'
  split at is'
  · cases is'
  · cases is'
    exact ⟨rfl, rfl⟩

end OpenWrapper.RefundAdapters
