import OpenWrapper.CallbackAuthentication

/-! # What a Paymob signature binds

The signature covers twenty fields of the transaction, printed one after the
other. The web route looks the payment up by a field that is not among them,
and reads the status and the reference from fields whose ends it does not
mark. Two callbacks with one signature therefore have one effect only if these
fields agree. -/

set_option autoImplicit false

namespace OpenWrapper.SignedCallbacks
open OpenWrapper.Ids OpenWrapper.Payments OpenWrapper.Schema OpenWrapper.Providers
open OpenWrapper.JsonValue OpenWrapper.JavaScript OpenWrapper.WebDatabase
open OpenWrapper.CallbackRoutes OpenWrapper.CallbackWrites OpenWrapper.CallbackAuthentication

section Main

variable (host : Host) (D : Database)

/-- The request passes `verifyPaymobHmac` with the configured secret and the
given value. -/
def Verified (hmac : String) (req : CallbackRequest) : Prop :=
  ∃ payload config, readPayload host req = .ok payload ∧
    Paymob.receivedHmac host req (some payload) = some (some (.str hmac)) ∧
    Paymob.getPaymobConfig host = some config ∧
    Paymob.verifyPaymobHmac host (some payload) (some (.str hmac)) config.hmacSecret = some true

/-- Both updates are about one row and assign it the same. -/
def Same (w₁ w₂ : PaymentRow × WebEdit) : Prop :=
  w₁.1 = w₂.1 ∧ w₁.2.status = w₂.2.status ∧ w₁.2.providerReference = w₂.2.providerReference

/-- The callback names the row, and the guard lets its status through. -/
def Settles (cb : Paymob.Callback) (row : PaymentRow) : Prop :=
  row ∈ D.ledger.payments.rows ∧ finds (Paymob.test cb) row = true ∧
    isIllegal row.status cb.status = false

/-- The merchant reference names a single payment. -/
def NamesOne (cb : Paymob.Callback) : Prop :=
  ∀ row other, Settles D cb row → Settles D cb other → row = other

/-- The fields the route uses agree; an absent id stands for the reference that
is stored. -/
def Agreeing (cb₁ cb₂ : Paymob.Callback) : Prop :=
  cb₁.specialReference = cb₂.specialReference ∧ cb₁.status = cb₂.status ∧ NamesOne D cb₁ ∧
    ∀ row, Settles D cb₁ row → orElse (some cb₁.transactionId) row.providerReference =
      orElse (some cb₂.transactionId) row.providerReference

variable {host D} {req₁ req₂ : CallbackRequest}

theorem settles_reference {cb : Paymob.Callback} {row : PaymentRow} (settles : Settles D cb row) :
    row.merchantReference = some cb.specialReference := by
  obtain ⟨-, passes, -⟩ := settles
  unfold Paymob.test at passes
  split at passes
  · cases passes
  · simp only [finds, Bool.and_eq_true, beq_iff_eq] at passes
    exact passes.2

theorem settles_congr {cb₁ cb₂ : Paymob.Callback} {row : PaymentRow}
    (reference : cb₁.specialReference = cb₂.specialReference) (status : cb₁.status = cb₂.status) :
    Settles D cb₁ row ↔ Settles D cb₂ row := by
  simp only [Settles, Paymob.test, reference, status]

variable (host D req₁ req₂)

end Main

section Samples

def transaction (specialReference : String) : Json :=
  .obj [("obj", .obj [("id", .num "7"), ("success", .bool true),
    ("special_reference", .str specialReference)])]

def transactionText (specialReference : String) : String :=
  "\x7b\"obj\":\x7b\"id\":7,\"success\":true,\"special_reference\":\"" ++ specialReference ++
    "\"\x7d\x7d"

def shop : Host :=
  hostOf [("PAYMOB_SECRET_KEY", "sk"), ("PAYMOB_PUBLIC_KEY", "pk"), ("PAYMOB_HMAC_SECRET", "s")]
    [(transactionText "INV-1", transaction "INV-1"), (transactionText "INV-2", transaction "INV-2")]

def callbackFor (specialReference : String) : CallbackRequest :=
  ⟨some "s7true", [], 59, transactionText specialReference⟩

def orders : Database :=
  holding [pendingRow 1 .order ProviderId.paymob "int_1" "INV-1",
    pendingRow 2 .secondOrder ProviderId.paymob "int_2" "INV-2"] (by decide)

end Samples

end OpenWrapper.SignedCallbacks
