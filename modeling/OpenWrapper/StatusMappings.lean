import OpenWrapper.WebhookAdapters
import OpenWrapper.PaymentRoutes

/-! # The status of an object, asked for and told

What an adapter makes of a transaction, a checkout session or a payment intent
when it inquires, beside what it makes of the same object in a callback. The
web application has a mapping of its own for sessions. -/

set_option autoImplicit false

namespace OpenWrapper.StatusMappings
open OpenWrapper.Ids OpenWrapper.Payments OpenWrapper.Providers OpenWrapper.JsonValue
open OpenWrapper.WebhookAdapters

def mapInquiryStatus (obj : Json) : PaymentStatus :=
  if (obj.get "pending").bind Json.asBool = some true then .pending
  else
    match (obj.get "success").bind Json.asBool with
    | some true => .succeeded
    | some false => .failed
    | none => .unknown

def textAt (json : Json) (field : String) : Option String := (json.get field).bind Json.asStr

def mapCheckoutSessionStatus (json : Json) : PaymentStatus :=
  if textAt json "payment_status" = some "paid" then .succeeded
  else if textAt json "status" = some "open" then .pending
  else if textAt json "status" = some "complete" then .succeeded
  else if textAt json "status" = some "expired" then .failed
  else .unknown

def isProcessing (json : Json) : Bool :=
  (textAt json "status").any fun status =>
    status ∈ ["processing", "requires_action", "requires_confirmation", "requires_capture"]

/-- An error that is `null` counts as one. -/
def mapPaymentIntentStatus (json : Json) : PaymentStatus :=
  if textAt json "status" = some "succeeded" then .succeeded
  else if textAt json "status" = some "canceled" then .failed
  else if textAt json "status" = some "requires_payment_method" then
    if (json.get "last_payment_error").isSome then .failed else .pending
  else if isProcessing json then .pending
  else .unknown

/-- The session as the web application's client library reads it. -/
def sessionOf (json : Json) : WebDatabase.SessionStatus where
  paymentStatus := (textAt json "payment_status").getD ""
  status := textAt json "status"

/-- What an object is, by the callback it came in. -/
inductive Subject where
  | transaction
  | object (kind : Stripe.EventKind)
deriving DecidableEq

/-- The adapter accepts the object as the subject of a callback. -/
def Accepts (k : Crypto) (o : Json) (event : WebhookEvent) : Subject → Prop
  | .transaction => ∃ hmac, Paymob.parseVerifiedTransaction k o hmac = .ok event
  | .object kind => kind ≠ .sessionExpired ∧ ∃ json eventId, Stripe.IsEvent json eventId kind o ∧
      Stripe.parseEvent json = .ok event

def inquired (o : Json) : Subject → PaymentStatus
  | .transaction => mapInquiryStatus o
  | .object kind => if kind.isSession then mapCheckoutSessionStatus o else mapPaymentIntentStatus o

def isSession : Subject → Bool
  | .transaction => false
  | .object kind => kind.isSession

def isIntent : Subject → Bool
  | .transaction => false
  | .object kind => !kind.isSession

/-- The callback and the inquiry tell one status, neither they nor the web
application take an unpaid session for paid, and an intent that waits for a
method of payment has not failed without an error. -/
structure Agrees (s : Subject) (o : Json) (event : WebhookEvent) : Prop where
  same : event.reportedStatus = inquired o s
  unpaid : isSession s = true → textAt o "payment_status" ≠ some "paid" →
    event.reportedStatus ≠ .succeeded ∧ inquired o s ≠ .succeeded ∧
      PaymentRoutes.sessionOutcome (sessionOf o) ≠ some .succeeded
  waiting : isIntent s = true → textAt o "status" = some "requires_payment_method" →
    o.get "last_payment_error" = some .null →
    event.reportedStatus ≠ .failed ∧ inquired o s ≠ .failed

/-- The object says what the event's type says. -/
def Consistent (o : Json) : Subject → Prop
  | .transaction => True
  | .object .sessionCompleted =>
    textAt o "payment_status" = some "paid" ∨ textAt o "status" = some "open"
  | .object .sessionExpired => False
  | .object .intentSucceeded => textAt o "status" = some "succeeded"
  | .object .intentFailed => textAt o "status" = some "canceled" ∨
      textAt o "status" = some "requires_payment_method" ∧
        ∃ e, o.get "last_payment_error" = some e ∧ e ≠ .null
  | .object .intentProcessing => isProcessing o = true ∨
      textAt o "status" = some "requires_payment_method" ∧ o.get "last_payment_error" = none

section Mappings

variable {o : Json} {event : WebhookEvent}

theorem transaction_agrees {k : Crypto} {hmac : String}
    (parsed : Paymob.parseVerifiedTransaction k o hmac = .ok event) :
    event.reportedStatus = mapInquiryStatus o := by
  obtain ⟨id, amount, success, pending, errorOccured, told⟩ :=
    Paymob.parseVerifiedTransaction_ok.mp parsed
  rw [told.read, mapInquiryStatus, told.pends, told.succeeds]
  cases pending <;> cases success <;> rfl

/-- The status a callback of the kind tells of the object it accepted. -/
theorem reported_of_event {json : Json} {eventId : String} {kind : Stripe.EventKind}
    (is : Stripe.IsEvent json eventId kind o) (parsed : Stripe.parseEvent json = .ok event) :
    event.reportedStatus = kind.reportedStatus o := by
  obtain ⟨eventId', kind', object, reference, is', -, rfl⟩ := Stripe.parseEvent_ok.mp parsed
  obtain ⟨rfl, rfl⟩ := Stripe.isEvent_unique is is'
  rfl

theorem paid_session_iff : (sessionOf o).paymentStatus = "paid" ↔
    textAt o "payment_status" = some "paid" := by
  show (textAt o "payment_status").getD "" = "paid" ↔ _
  cases textAt o "payment_status" with
  | none => decide
  | some text => simp

theorem session_reported : Stripe.EventKind.reportedStatus .sessionCompleted o =
    if textAt o "payment_status" = some "paid" then .succeeded else .pending := rfl

theorem session_agrees_iff (told : event.reportedStatus = Stripe.EventKind.reportedStatus
    .sessionCompleted o) :
    Agrees (.object .sessionCompleted) o event ↔ Consistent o (.object .sessionCompleted) := by
  rw [session_reported] at told
  have asked : inquired o (.object .sessionCompleted) = mapCheckoutSessionStatus o := rfl
  constructor
  · intro agrees
    have same := agrees.same
    by_contra neither
    obtain ⟨unpaid, closed⟩ := not_or.mp neither
    rw [asked, told, mapCheckoutSessionStatus, if_neg unpaid, if_neg unpaid, if_neg closed] at same
    split at same
    · cases same
    · split at same <;> cases same
  · intro consistent
    by_cases paid : textAt o "payment_status" = some "paid"
    · constructor
      · rw [asked, told, mapCheckoutSessionStatus, if_pos paid, if_pos paid]
      · exact fun _ unpaid => absurd paid unpaid
      · nofun
    · have opened : textAt o "status" = some "open" := consistent.resolve_left paid
      have pending : mapCheckoutSessionStatus o = .pending := by
        rw [mapCheckoutSessionStatus, if_neg paid, if_pos opened]
      rw [if_neg paid] at told
      constructor
      · rw [asked, told, pending]
      · intro _ _
        rw [asked, told, pending]
        refine ⟨by decide, by decide, ?_⟩
        have unpaid : ¬ (sessionOf o).paymentStatus = "paid" := fun is => paid (paid_session_iff.mp is)
        have state : (sessionOf o).status = some "open" := opened
        simp [PaymentRoutes.sessionOutcome, unpaid, state]
      · nofun

theorem intent_succeeded_iff :
    mapPaymentIntentStatus o = .succeeded ↔ textAt o "status" = some "succeeded" := by
  unfold mapPaymentIntentStatus
  constructor
  · intro mapped
    by_contra other
    rw [if_neg other] at mapped
    split at mapped
    · cases mapped
    · split at mapped
      · split at mapped <;> cases mapped
      · split at mapped <;> cases mapped
  · intro status
    rw [if_pos status]

theorem intent_failed_iff : mapPaymentIntentStatus o = .failed ↔
    textAt o "status" = some "canceled" ∨ textAt o "status" = some "requires_payment_method" ∧
      (o.get "last_payment_error").isSome = true := by
  unfold mapPaymentIntentStatus
  by_cases succeeded : textAt o "status" = some "succeeded"
  · simp [succeeded]
  · by_cases canceled : textAt o "status" = some "canceled"
    · simp [canceled]
    · by_cases waiting : textAt o "status" = some "requires_payment_method"
      · by_cases error : (o.get "last_payment_error").isSome = true
        · simp [waiting, error]
        · simp [waiting, error]
      · by_cases processing : isProcessing o = true
        · simp [succeeded, canceled, waiting, processing]
        · simp [succeeded, canceled, waiting, processing]

theorem intent_pending_iff : mapPaymentIntentStatus o = .pending ↔
    isProcessing o = true ∨ textAt o "status" = some "requires_payment_method" ∧
      o.get "last_payment_error" = none := by
  unfold mapPaymentIntentStatus
  by_cases succeeded : textAt o "status" = some "succeeded"
  · simp [succeeded, isProcessing]
  · by_cases canceled : textAt o "status" = some "canceled"
    · simp [canceled, isProcessing]
    · by_cases waiting : textAt o "status" = some "requires_payment_method"
      · cases error : o.get "last_payment_error" with
        | none => simp [waiting]
        | some e => simp [waiting, isProcessing]
      · by_cases processing : isProcessing o = true
        · simp [succeeded, canceled, waiting, processing]
        · simp [succeeded, canceled, waiting, processing]

/-- What the agreement on a payment intent comes to. -/
theorem intent_agrees_iff {kind : Stripe.EventKind} {status : PaymentStatus}
    (intent : kind.isSession = false) (told : event.reportedStatus = status) :
    Agrees (.object kind) o event ↔ mapPaymentIntentStatus o = status ∧
      (textAt o "status" = some "requires_payment_method" →
        o.get "last_payment_error" = some .null → status ≠ .failed) := by
  have asked : inquired o (.object kind) = mapPaymentIntentStatus o := by simp [inquired, intent]
  have waits : isIntent (.object kind) = true := by simp [isIntent, intent]
  constructor
  · rintro ⟨same, -, waiting⟩
    rw [asked, told] at same
    refine ⟨same.symm, fun status error => ?_⟩
    have kept := (waiting waits status error).1
    rw [told] at kept
    exact kept
  · rintro ⟨same, waiting⟩
    constructor
    · rw [asked, told, same]
    · intro session
      simp [isSession, intent] at session
    · intro _ status error
      have kept := waiting status error
      rw [asked, told, same]
      exact ⟨kept, kept⟩

theorem waiting_apart {status : String} (is : textAt o "status" = some status)
    (other : status ≠ "requires_payment_method") :
    textAt o "status" ≠ some "requires_payment_method" := by
  rw [is]
  simpa using other

theorem object_agrees_iff {kind : Stripe.EventKind} (completed : kind ≠ .sessionExpired)
    (told : event.reportedStatus = kind.reportedStatus o) :
    Agrees (.object kind) o event ↔ Consistent o (.object kind) := by
  cases kind with
  | sessionCompleted => exact session_agrees_iff told
  | sessionExpired => exact absurd rfl completed
  | intentSucceeded =>
    rw [intent_agrees_iff rfl told]
    show mapPaymentIntentStatus o = .succeeded ∧ _ ↔ _
    rw [intent_succeeded_iff]
    exact and_iff_left fun _ _ => (by decide : PaymentStatus.succeeded ≠ .failed)
  | intentFailed =>
    rw [intent_agrees_iff rfl told]
    constructor
    · rintro ⟨mapped, waiting⟩
      rcases intent_failed_iff.mp mapped with canceled | ⟨waits, error⟩
      · exact .inl canceled
      · obtain ⟨e, is⟩ := Option.isSome_iff_exists.mp error
        refine .inr ⟨waits, e, is, ?_⟩
        rintro rfl
        exact waiting waits is rfl
    · rintro (canceled | ⟨waits, e, is, present⟩)
      · refine ⟨intent_failed_iff.mpr (.inl canceled), fun waits => ?_⟩
        exact absurd waits (waiting_apart canceled (by decide))
      · refine ⟨intent_failed_iff.mpr (.inr ⟨waits, by rw [is]; rfl⟩), fun _ null => ?_⟩
        rw [is] at null
        exact absurd (Option.some.inj null) present
  | intentProcessing =>
    rw [intent_agrees_iff rfl told]
    show mapPaymentIntentStatus o = .pending ∧ _ ↔ _
    rw [intent_pending_iff]
    exact and_iff_left fun _ _ => (by decide : PaymentStatus.pending ≠ .failed)

end Mappings

section Main

variable {k : Crypto} {o : Json} {event : WebhookEvent} {s : Subject}

/-- The two mappings agree on an object exactly if it says what its event does. -/
theorem mappings_agree_iff (accepted : Accepts k o event s) : Agrees s o event ↔ Consistent o s := by
  cases s with
  | transaction =>
    obtain ⟨hmac, parsed⟩ := accepted
    exact iff_of_true ⟨transaction_agrees parsed, nofun, nofun⟩ trivial
  | object kind =>
    obtain ⟨completed, json, eventId, is, parsed⟩ := accepted
    exact object_agrees_iff completed (reported_of_event is parsed)

section Samples

def checkout (status paymentStatus : String) : Json :=
  .obj [("id", .str "cs_1"), ("status", .str status), ("payment_status", .str paymentStatus)]

def checkoutEvent (status paymentStatus : String) : Json :=
  .obj [("id", .str "evt_1"), ("type", .str "checkout.session.completed"),
    ("data", .obj [("object", checkout status paymentStatus)])]

theorem checkout_accepted (k : Crypto) (status paymentStatus : String) :
    Accepts k (checkout status paymentStatus) (Stripe.eventOf "evt_1" .sessionCompleted
      (checkout status paymentStatus) "cs_1") (.object .sessionCompleted) := by
  have is : Stripe.IsEvent (checkoutEvent status paymentStatus) "evt_1" .sessionCompleted
      (checkout status paymentStatus) := ⟨rfl, ⟨_, rfl, rfl⟩, rfl⟩
  refine ⟨by decide, checkoutEvent status paymentStatus, "evt_1", is, ?_⟩
  exact Stripe.parseEvent_ok.mpr ⟨_, _, _, "cs_1", is, rfl, rfl⟩

def noCrypto : Crypto where
  hmacSha512 := fun _ _ => []
  hmacSha256 := fun _ _ => []
  sha256 := fun _ => []
  fromSlice := fun _ => .error "expected value at line 1 column 1"
  payloadError := fun _ => "expected value at line 1 column 1"
  toText := fun _ => ""

theorem mappings_agree_paid : Agrees (.object .sessionCompleted) (checkout "complete" "paid")
    (Stripe.eventOf "evt_1" .sessionCompleted (checkout "complete" "paid") "cs_1") :=
  (mappings_agree_iff (checkout_accepted noCrypto "complete" "paid")).mpr (.inl rfl)

/-- A completed session whose payment is still under way. -/
theorem mappings_disagree : ¬ ∀ (k : Crypto) (s : Subject) (o : Json) (event : WebhookEvent),
    Accepts k o event s → Agrees s o event := by
  intro claimed
  have agrees := claimed noCrypto _ _ _ (checkout_accepted noCrypto "complete" "unpaid")
  exact absurd agrees.same (by decide)

end Samples

end Main

end OpenWrapper.StatusMappings
