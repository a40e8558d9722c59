import OpenWrapper.Errors
import OpenWrapper.Amounts

/-! # Payments and their state machine -/

set_option autoImplicit false

namespace OpenWrapper.Payments
open OpenWrapper.Ids OpenWrapper.Errors OpenWrapper.Amounts

inductive PaymentStatus where
  | pending | succeeded | failed | unknown | partiallyRefunded | refunded
deriving DecidableEq, Repr

structure IllegalTransition where
  source : PaymentStatus
  target : PaymentStatus
deriving DecidableEq, Repr

namespace PaymentStatus

def isTerminal : PaymentStatus → Bool
  | succeeded | failed | refunded => true
  | pending | unknown | partiallyRefunded => false

def validateTransition (s t : PaymentStatus) : Except IllegalTransition Unit :=
  if s = t then .ok ()
  else match s, t with
    | pending, succeeded | pending, failed | pending, unknown => .ok ()
    | unknown, succeeded | unknown, failed => .ok ()
    | succeeded, partiallyRefunded | succeeded, refunded => .ok ()
    | partiallyRefunded, refunded => .ok ()
    | _, _ => .error ⟨s, t⟩

def display : PaymentStatus → String
  | pending => "pending"
  | succeeded => "succeeded"
  | failed => "failed"
  | unknown => "unknown"
  | partiallyRefunded => "partially_refunded"
  | refunded => "refunded"

/-- The transition is one the state machine allows. -/
abbrev Legal (s t : PaymentStatus) : Prop := s.validateTransition t = .ok ()

@[simp] theorem validateTransition_self (s : PaymentStatus) : Legal s s :=
  if_pos rfl

theorem validateTransition_error {s t : PaymentStatus} {e : IllegalTransition}
    (illegal : s.validateTransition t = .error e) : e = ⟨s, t⟩ ∧ s ≠ t := by
  unfold validateTransition at illegal
  split at illegal
  · cases illegal
  next apart =>
    split at illegal
    all_goals cases illegal
    exact ⟨rfl, apart⟩

/-- A status that is not `Pending` or `Unknown` can only be left for a refund. -/
theorem legal_from_settled {s t : PaymentStatus} (legal : Legal s t) (apart : s ≠ t)
    (settled : s ≠ pending ∧ s ≠ unknown) :
    (s = succeeded ∧ t = partiallyRefunded) ∨ (s = succeeded ∧ t = refunded) ∨
      (s = partiallyRefunded ∧ t = refunded) := by
  revert legal apart settled
  cases s <;> cases t <;> decide

end PaymentStatus

inductive PaymentNextAction where
  | redirectToUrl (url : String)
  | payAtReference (reference : String) (instructions : Option String)
deriving DecidableEq, Repr

structure CustomerDetails where
  phone : String
  email : Option String
  fullName : Option String
deriving DecidableEq, Repr

structure PaymentRequest where
  idempotencyKey : IdempotencyKey
  provider : ProviderId
  amount : Money
  customer : CustomerDetails
  merchantReference : Option String
  description : Option String
  returnUrl : Option String
  metadata : List (String × String)
deriving DecidableEq

namespace PaymentRequest

def maxMetadataEntries : ℕ := 20
def maxMetadataKeyLen : ℕ := 100
def maxMetadataValueLen : ℕ := 500

def validateMetadata : List (String × String) → Except OpenWrapperError Unit
  | [] => .ok ()
  | (k, v) :: rest =>
    if k.toList.isEmpty || k.utf8ByteSize > maxMetadataKeyLen then
      .error (.validation ("metadata key must be 1..=" ++ toString maxMetadataKeyLen ++
        " bytes, got " ++ toString k.utf8ByteSize))
    else if v.utf8ByteSize > maxMetadataValueLen then
      .error (.validation ("metadata[" ++ k ++ "] exceeds max length"))
    else validateMetadata rest

/-- Structural validation independent of any provider. -/
def validate (r : PaymentRequest) : Except OpenWrapperError Unit :=
  if isBlank r.customer.phone then
    .error (.validation "customer.phone must not be empty")
  else if r.metadata.length > maxMetadataEntries then
    .error (.validation ("metadata has " ++ toString r.metadata.length ++
      " entries, max is " ++ toString maxMetadataEntries))
  else if r.merchantReference.any isBlank then
    .error (.validation "merchant_reference must not be blank when provided")
  else if r.description.any (fun d => d.utf8ByteSize > 500) then
    .error (.validation "description exceeds maximum length of 500 characters")
  else if r.returnUrl.any (fun u => u.utf8ByteSize > 2048) then
    .error (.validation "return_url exceeds maximum length of 2048 characters")
  else validateMetadata r.metadata

theorem validateMetadata_error {m : List (String × String)} {e : OpenWrapperError}
    (refused : validateMetadata m = .error e) : ∃ message, e = .validation message := by
  induction m with
  | nil => cases refused
  | cons entry rest ih =>
    unfold validateMetadata at refused
    split at refused
    · cases refused
      exact ⟨_, rfl⟩
    · split at refused
      · cases refused
        exact ⟨_, rfl⟩
      · exact ih refused

theorem validate_error {r : PaymentRequest} {e : OpenWrapperError}
    (refused : r.validate = .error e) : ∃ message, e = .validation message := by
  unfold validate at refused
  repeat' split at refused
  all_goals first
    | (cases refused; exact ⟨_, rfl⟩)
    | exact validateMetadata_error refused

end PaymentRequest

inductive CreationStatus where
  | pending | unknown
deriving DecidableEq, Repr

def CreationStatus.toStatus : CreationStatus → PaymentStatus
  | pending => .pending
  | unknown => .unknown

structure PaymentResult where
  provider : ProviderId
  providerReference : String
  status : CreationStatus
  nextAction : Option PaymentNextAction
  amount : Money
  createdAt : Instant
deriving DecidableEq

/-- The durable record of a payment, as the store hands it out. -/
structure Payment where
  id : PaymentId
  idempotencyKey : IdempotencyKey
  provider : ProviderId
  providerReference : Option String
  status : PaymentStatus
  amount : Money
  currency : Currency
  merchantReference : Option String
  createdAt : Instant
  updatedAt : Instant
deriving DecidableEq

end OpenWrapper.Payments
