import OpenWrapper.Ids

/-! # The error model

`Internal` carries a random correlation id in the source; it identifies a
log line and nothing reads it, so the variant stands without it here. -/

set_option autoImplicit false

namespace OpenWrapper.Errors

inductive OpenWrapperError where
  | validation (message : String)
  | authentication (provider message : String)
  | authorization (message : String)
  | configuration (message : String)
  | network (provider message : String)
  | timeout (provider : String) (elapsedMs : ℕ)
  | provider (provider : String) (providerCode : Option String) (message : String)
  | rateLimit (provider : String) (retryAfterMs : Option ℕ)
  | unsupportedCapability (provider capability : String)
  | security (message : String)
  | idempotencyConflict (message : String)
  | unknownOutcome (providerReference : Option String) (message : String)
  | internal
deriving DecidableEq, Repr

namespace OpenWrapperError

def code : OpenWrapperError → String
  | validation _ => "validation_error"
  | authentication _ _ => "authentication_error"
  | authorization _ => "authorization_error"
  | configuration _ => "configuration_error"
  | network _ _ => "network_error"
  | timeout _ _ => "timeout"
  | provider _ _ _ => "provider_error"
  | rateLimit _ _ => "rate_limit"
  | unsupportedCapability _ _ => "unsupported_capability"
  | security _ => "security_error"
  | idempotencyConflict _ => "idempotency_conflict"
  | unknownOutcome _ _ => "unknown_outcome"
  | internal => "internal_error"

def debugText : Option String → String
  | none => "None"
  | some s => "Some(\"" ++ s ++ "\")"

def display : OpenWrapperError → String
  | validation m => "validation error: " ++ m
  | authentication p m => "authentication error talking to provider " ++ p ++ ": " ++ m
  | authorization m => "authorization error: " ++ m
  | configuration m => "configuration error: " ++ m
  | network p m => "network error talking to provider " ++ p ++ ": " ++ m
  | timeout p ms => "timeout talking to provider " ++ p ++ " after " ++ toString ms ++ "ms"
  | provider p c m => "provider " ++ p ++ " error (" ++ debugText c ++ "): " ++ m
  | rateLimit p ms => "rate limited by provider " ++ p ++ ", retry_after_ms=" ++
      debugText (ms.map toString)
  | unsupportedCapability p c => "provider " ++ p ++ " does not support capability " ++ c
  | security m => "security error: " ++ m
  | idempotencyConflict m => "idempotency conflict: " ++ m
  | unknownOutcome r m => "payment outcome unknown for provider_reference=" ++
      debugText r ++ ": " ++ m
  | internal => "internal error"

/-- The error is certain to mean that the provider never began processing. -/
def isDefiniteNonOccurrence : OpenWrapperError → Bool
  | validation _ | authentication _ _ | authorization _ | configuration _
  | unsupportedCapability _ _ | rateLimit _ _ | idempotencyConflict _ => true
  | network _ _ | timeout _ _ | provider _ _ _ | security _ | unknownOutcome _ _
  | internal => false

end OpenWrapperError

end OpenWrapper.Errors
