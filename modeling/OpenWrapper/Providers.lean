import OpenWrapper.PaymentStore

/-! # The provider contract and the provider instances

An instance is an adapter with its configuration. Every adapter but the mock
talks to a real payment provider; the mock settles payments by itself. -/

set_option autoImplicit false

namespace OpenWrapper.Providers
open OpenWrapper.Ids OpenWrapper.Errors OpenWrapper.Payments OpenWrapper.Schema

inductive Capability where
  | createPayment | inquireStatus | webhook | refund
deriving DecidableEq, Repr

def Capability.display : Capability → String
  | createPayment => "create_payment"
  | inquireStatus => "inquire_status"
  | webhook => "webhook"
  | refund => "refund"

structure RefundResult where
  refundId : String
  providerReference : Option String
  amountMinorUnits : ℤ
  status : RefundStatus
deriving DecidableEq, Repr

/-- The refund was taken on: it is done, or under way. -/
def RefundResult.accepted (r : RefundResult) : Bool :=
  match r.status with
  | .succeeded | .pending => true
  | .failed => false

structure RawWebhookRequest where
  rawBody : List UInt8
  headers : List (String × String)
  query : List (String × String)

structure WebhookEvent where
  provider : ProviderId
  eventId : String
  providerReference : String
  merchantReference : Option String
  reportedStatus : PaymentStatus
  reportedAmountMinorUnits : Option ℤ
deriving DecidableEq

inductive WebhookError where
  | signatureMissing
  | signatureInvalid
  | malformedPayload (detail : String)
  | unrecognizedEventType (eventType : String)
deriving DecidableEq, Repr

inductive PaymobPaymentMethod where
  | integrationId (id : ℤ)
  | named (name : String)
deriving DecidableEq, Repr

structure PaymobConfig where
  secretKey : String
  hmacSecret : String
  publicKey : String
  baseUrl : String
  paymentMethods : List PaymobPaymentMethod
  notificationUrl : String
  inquiryPathTemplate : String
  checkoutUrlTemplate : String
deriving DecidableEq, Repr

def PaymobConfig.defaultBaseUrl : String := "https://accept.paymob.com"
def PaymobConfig.defaultInquiryPathTemplate : String := "/api/acceptance/transactions/\x7bid\x7d"
def PaymobConfig.defaultCheckoutUrlTemplate : String :=
  "\x7bbase_url\x7d/unifiedcheckout/?publicKey=\x7bpublic_key\x7d&clientSecret=\x7bclient_secret\x7d"

structure FawryConfig where
  merchantCode : String
  secureKey : String
  baseUrl : String
  debugSignatures : Bool
deriving DecidableEq, Repr

structure StripeConfig where
  secretKey : String
  webhookSecret : Option String
  baseUrl : String
  webhookToleranceSecs : ℕ
deriving DecidableEq, Repr

def StripeConfig.defaultBaseUrl : String := "https://api.stripe.com"
def StripeConfig.defaultWebhookToleranceSecs : ℕ := 300

structure MockConfig where
  hmacSecret : String
deriving DecidableEq, Repr

def MockConfig.default : MockConfig := ⟨"mock_default_secret_key_for_testing_purposes"⟩

namespace ProviderId

def paymob : ProviderId := ⟨"paymob", rfl⟩
def fawry : ProviderId := ⟨"fawry", rfl⟩
def stripe : ProviderId := ⟨"stripe", rfl⟩
def mock : ProviderId := ⟨"mock", rfl⟩

end ProviderId

inductive Provider where
  | paymob (config : PaymobConfig)
  | fawry (config : FawryConfig)
  | stripe (config : StripeConfig)
  | mock (config : MockConfig) (providerId : ProviderId)
deriving DecidableEq

namespace Provider

def id : Provider → ProviderId
  | paymob _ => ProviderId.paymob
  | fawry _ => ProviderId.fawry
  | stripe _ => ProviderId.stripe
  | mock _ label => label

def capabilities : Provider → List Capability
  | paymob _ => [.createPayment, .inquireStatus, .webhook]
  | fawry _ => [.createPayment, .inquireStatus, .webhook]
  | stripe _ => [.createPayment, .inquireStatus, .webhook, .refund]
  | mock _ _ => [.createPayment, .inquireStatus, .webhook, .refund]

/-- The instance settles payments by simulation. -/
def simulated : Provider → Bool
  | mock _ _ => true
  | paymob _ | fawry _ | stripe _ => false

def ensureCapability (p : Provider) (c : Capability) : Except OpenWrapperError Unit :=
  if c ∈ p.capabilities then .ok ()
  else .error (.unsupportedCapability p.id.asStr c.display)

theorem ensureCapability_createPayment (p : Provider) :
    p.ensureCapability .createPayment = .ok () := by
  cases p <;> rfl

theorem inquireStatus_supported (p : Provider) : .inquireStatus ∈ p.capabilities := by
  cases p <;> simp [capabilities]

/-- `FawryProvider::with_http` and `new` refuse a blank base URL. -/
def newFawry (config : FawryConfig) : Except OpenWrapperError Provider :=
  if isBlank config.baseUrl then
    .error (.configuration "Fawry base_url must be set explicitly (no default — see config.rs)")
  else .ok (fawry config)

end Provider

end OpenWrapper.Providers
