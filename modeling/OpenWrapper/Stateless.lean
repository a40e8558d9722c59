import OpenWrapper.Providers
import OpenWrapper.Headers

/-! # Per-request provider resolution

A provider configured on the server wins. Otherwise an instance is built from
the caller's credential headers, each falling back to an environment
variable; a test caller without credentials gets a mock under the provider's
name. -/

set_option autoImplicit false

namespace OpenWrapper.Stateless
open OpenWrapper.Ids OpenWrapper.Errors OpenWrapper.Providers OpenWrapper.Headers

abbrev Env := String → Option String

/-- The providers the server was started with, by name. -/
abbrev Configured := String → Option Provider

def headerValue (h : HeaderMap) (name : String) : Option String :=
  ((h.getStr name).map trim).filter fun s => !s.toList.isEmpty

def nonBlankEnv (env : Env) (name : String) : Option String :=
  (env name).filter fun s => !isBlank s

def credential (env : Env) (h : HeaderMap) (header name : String) : Option String :=
  (headerValue h header).orElse fun _ => nonBlankEnv env name

def paymobNotificationUrl (env : Env) : String :=
  match nonBlankEnv env "PAYMOB_NOTIFICATION_URL" with
  | some url => url
  | none =>
    match ((env "OPENWRAPPER_PUBLIC_WEBHOOK_BASE").map (trimEndMatches '/')).filter
        fun s => !s.toList.isEmpty with
    | some base => base ++ "/v1/webhooks/paymob"
    | none =>
      match nonBlankEnv env "RAILWAY_PUBLIC_DOMAIN" with
      | some domain => "https://" ++ trim domain ++ "/v1/webhooks/paymob"
      | none => "http://localhost:8080/v1/webhooks/paymob"

/-- The cached mocks carry the names of the providers they stand in for. -/
def cachedMockProvider (providerId : String) : Provider :=
  match providerId with
  | "fawry" => .mock .default ProviderId.fawry
  | "paymob" => .mock .default ProviderId.paymob
  | "stripe" => .mock .default ProviderId.stripe
  | _ => .mock .default ProviderId.mock

def isTest (h : HeaderMap) : Bool :=
  headerValue h "x-openwrapper-environment" == some "test"

def resolveFawry (env : Env) (h : HeaderMap) : Except OpenWrapperError Provider :=
  match credential env h "x-fawry-merchant-code" "FAWRY_MERCHANT_CODE",
    credential env h "x-fawry-secure-key" "FAWRY_SECURE_KEY" with
  | some merchantCode, some secureKey =>
    Provider.newFawry ⟨merchantCode, secureKey,
      (credential env h "x-fawry-base-url" "FAWRY_BASE_URL").getD
        "https://atfawry.fawrystaging.com", false⟩
  | _, _ =>
    if isTest h then .ok (cachedMockProvider "fawry")
    else .error (.validation "Fawry credentials missing. Provide X-Fawry-Merchant-Code and X-Fawry-Secure-Key headers.")

def paymobIntegration (env : Env) (h : HeaderMap) : Option String :=
  (credential env h "x-paymob-integration-id" "PAYMOB_INTEGRATION_ID").orElse fun _ =>
    (env "PAYMOB_INTEGRATION_IDS").map fun s => trim (splitFirst ',' s)

def resolvePaymob (env : Env) (h : HeaderMap) : Except OpenWrapperError Provider :=
  match credential env h "x-paymob-secret-key" "PAYMOB_SECRET_KEY",
    credential env h "x-paymob-public-key" "PAYMOB_PUBLIC_KEY",
    credential env h "x-paymob-hmac-secret" "PAYMOB_HMAC_SECRET",
    paymobIntegration env h with
  | some secretKey, some publicKey, some hmacSecret, some integration =>
    match parseI64 integration with
    | none => .error (.validation "X-Paymob-Integration-Id must be a numeric integration ID.")
    | some integrationId =>
      .ok (.paymob ⟨secretKey, hmacSecret, publicKey,
        (credential env h "x-paymob-base-url" "PAYMOB_BASE_URL").getD
          PaymobConfig.defaultBaseUrl,
        [.integrationId integrationId], paymobNotificationUrl env,
        PaymobConfig.defaultInquiryPathTemplate, PaymobConfig.defaultCheckoutUrlTemplate⟩)
  | _, _, _, _ =>
    if isTest h then .ok (cachedMockProvider "paymob")
    else .error (.validation "Paymob credentials missing. Provide X-Paymob-Secret-Key, X-Paymob-Public-Key, X-Paymob-Hmac-Secret, and X-Paymob-Integration-Id headers.")

def resolveStripe (env : Env) (h : HeaderMap) : Except OpenWrapperError Provider :=
  match credential env h "x-stripe-secret-key" "STRIPE_SECRET_KEY" with
  | some secretKey =>
    .ok (.stripe ⟨secretKey, headerValue h "x-stripe-webhook-secret",
      (headerValue h "x-stripe-base-url").getD StripeConfig.defaultBaseUrl,
      StripeConfig.defaultWebhookToleranceSecs⟩)
  | none =>
    if isTest h then .ok (cachedMockProvider "stripe")
    else .error (.validation "Stripe credentials missing. Provide X-Stripe-Secret-Key header.")

def resolveMock (h : HeaderMap) : Except OpenWrapperError Provider :=
  match headerValue h "x-mock-secret" with
  | some secret => .ok (.mock ⟨secret⟩ ProviderId.mock)
  | none => .ok (cachedMockProvider "mock")

def resolvePaymentProvider (env : Env) (configured : Configured) (providerId : String)
    (h : HeaderMap) : Except OpenWrapperError Provider :=
  match configured providerId with
  | some provider => .ok provider
  | none =>
    match providerId with
    | "fawry" => resolveFawry env h
    | "paymob" => resolvePaymob env h
    | "stripe" => resolveStripe env h
    | "mock" => resolveMock h
    | other => .error (.validation ("unknown provider '" ++ other ++ "'"))

end OpenWrapper.Stateless
