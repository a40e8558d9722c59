import OpenWrapper.PaymentStore

/-! # The statements an operation issues

Which statements the Postgres store may issue for an operation, whatever it is
answered meanwhile. -/

set_option autoImplicit false

namespace OpenWrapper.IssuedStatements
open OpenWrapper.Ids OpenWrapper.Payments OpenWrapper.Schema OpenWrapper.PaymentStore
open OpenWrapper.Suspended OpenWrapper.Suspended.Prog

/-- A statement that changes nothing and opens nothing. -/
def Reads : Stmt → Prop
  | .beginTransaction => False
  | .commit => False
  | .write _ => False
  | .transaction _ => False
  | _ => True

/-- An update of the one payment, at any time. -/
def Updates (id : Text PaymentId) (guarded : Bool) (edit : Instant → PaymentEdit) : Stmt → Prop
  | .write w => ∃ now, w = .updatePayment id guarded (edit now)
  | _ => False

/-- What an operation writes. -/
def Writes (fp : PaymentRequest → String) : StoreOp → Stmt → Prop
  | .beginPaymentWithOwner request owner, e => ∃ id now,
    e = .write (.insertPayment (newRow fp request owner id now))
  | .recordCreationResult id reference status action, e =>
    Updates (.stored id) false (creationEdit reference status action) e
  | .applyWebhookEvent event, e => ∃ id, (∃ now, e = .write (.insertWebhookEvent
      ⟨event.eventId, event.provider, id, now⟩)) ∨
    Updates id false (statusEdit event.reportedStatus) e
  | .markTerminalWithoutProviderReference id status, e =>
    Updates (.stored id) false (statusEdit status) e
  | .markUnknown id, e => Updates (.stored id) false (statusEdit .unknown) e
  | .applyReconciliationResult id resolved, e =>
    Updates (.stored id) false (statusEdit resolved) e
  | .touchReconciliationAttempt id, e => Updates (.stored id) true touchEdit e
  | .recordRefund refund status, e => ∃ now, e = .transaction [.insertRefund refund.toRow,
    .updatePayment (.stored refund.paymentId) false (refundEdit status now)]
  | _, _ => False

def Issues (fp : PaymentRequest → String) (op : StoreOp) (e : Stmt) : Prop :=
  Reads e ∨ Writes fp op e

variable {fp : PaymentRequest → String}

theorem issues_updateStatusOnly {op : StoreOp} {id : PaymentId} {t : PaymentStatus}
    (writes : ∀ e, Updates (.stored id) false (statusEdit t) e → Writes fp op e) :
    Confined (Issues fp op) (PostgresStore.updateStatusOnly id t) := by
  refine ⟨.inl trivial, fun now => ⟨.inr (writes _ ⟨now, rfl⟩), fun r => ?_⟩⟩
  cases r <;> trivial

theorem issues_getPayment (op : StoreOp) (id : PaymentId) :
    Confined (Issues fp op) (PaymentStore.getPayment id) := by
  refine ⟨.inl trivial, fun r => ?_⟩
  cases r <;> trivial

theorem issues_begin (request : PaymentRequest) (owner : Option ApiKeyInfo) :
    Confined (Issues fp (.beginPaymentWithOwner request owner))
      (PaymentStore.beginPaymentWithOwner fp request owner) := by
  refine ⟨.inl trivial, fun id => ⟨.inl trivial, fun now => ⟨.inr ⟨id, now, rfl⟩, fun r => ?_⟩⟩⟩
  cases r with
  | ok count => trivial
  | error e =>
    cases e with
    | failed => trivial
    | constraint =>
      refine ⟨.inl trivial, fun found => ?_⟩
      cases found with
      | error e => trivial
      | ok row =>
        cases row with
        | none => trivial
        | some row =>
          simp only [bind_eq, done_bind]
          cases row.toPayment with
          | none => trivial
          | some payment =>
            simp only
            split <;> trivial

theorem issues_webhook (event : WebhookReport) :
    Confined (Issues fp (.applyWebhookEvent event)) (PostgresStore.applyWebhookEvent event) := by
  refine ⟨.inl trivial, fun r => ?_⟩
  cases r with
  | error e => trivial
  | ok found =>
    cases found with
    | none => trivial
    | some row =>
      refine ⟨.inl trivial, fun received =>
        ⟨.inr ⟨row.id, .inl ⟨received, rfl⟩⟩, fun inserted => ?_⟩⟩
      cases inserted with
      | error e => cases e <;> trivial
      | ok count =>
        simp only [bind_eq, done_bind]
        cases row.status.parse with
        | none => trivial
        | some current =>
          simp only
          split
          · trivial
          · cases current.validateTransition event.reportedStatus with
            | error illegal => trivial
            | ok legal =>
              refine ⟨.inl trivial, fun now =>
                ⟨.inr ⟨row.id, .inr ⟨now, rfl⟩⟩, fun r => ?_⟩⟩
              cases r with
              | error e => trivial
              | ok count =>
                simp only [bind_eq, done_bind]
                cases row.id.parse <;> trivial

theorem issues_reconciliation (id : PaymentId) (t : PaymentStatus) :
    Confined (Issues fp (.applyReconciliationResult id t))
      (PostgresStore.applyReconciliationResult id t) := by
  apply confined_bind (issues_getPayment _ id)
  intro r
  cases r with
  | error e => trivial
  | ok found =>
    cases found with
    | none => trivial
    | some payment =>
      simp only
      cases payment.status.validateTransition t with
      | error illegal => trivial
      | ok legal =>
        have once : Confined (Issues fp (.applyReconciliationResult id t))
            (PostgresStore.updateStatusOnly id t) := issues_updateStatusOnly fun _ writes => writes
        apply confined_bind once
        intro r
        cases r <;> trivial

/-- The one spec of the operations' statements. -/
theorem program_issues (fp : PaymentRequest → String) (op : StoreOp) :
    Confined (Issues fp op) (program fp .postgres op) := by
  cases op with
  | beginPaymentWithOwner request owner => exact issues_begin request owner
  | recordCreationResult id reference status action =>
    refine ⟨.inl trivial, fun now => ⟨.inr ⟨now, rfl⟩, fun r => ?_⟩⟩
    cases r <;> trivial
  | applyWebhookEvent event => exact issues_webhook event
  | markTerminalWithoutProviderReference id status =>
    exact issues_updateStatusOnly fun _ writes => writes
  | markUnknown id => exact issues_updateStatusOnly fun _ writes => writes
  | applyReconciliationResult id t => exact issues_reconciliation id t
  | getPayment id => exact issues_getPayment _ id
  | findPaymentByReference reference =>
    refine ⟨.inl trivial, fun r => ?_⟩
    cases r <;> trivial
  | getNextAction id =>
    refine ⟨.inl trivial, fun r => ?_⟩
    cases r with
    | error e => trivial
    | ok row =>
      simp only [bind_eq, done_bind]
      cases row.bind PaymentRow.nextActionJson with
      | none => trivial
      | some text => cases text <;> trivial
  | listStaleUnknownPayments minAge limit =>
    refine ⟨.inl trivial, fun now => ⟨.inl trivial, fun r => ?_⟩⟩
    cases r with
    | error e => trivial
    | ok rows =>
      simp only [bind_eq, done_bind]
      cases collect PaymentRow.toPayment rows <;> trivial
  | touchReconciliationAttempt id =>
    refine ⟨.inl trivial, fun now => ⟨.inr ⟨now, rfl⟩, fun r => ?_⟩⟩
    cases r <;> trivial
  | recordRefund record status =>
    refine ⟨.inl trivial, fun now => ⟨.inr ⟨now, rfl⟩, fun r => ?_⟩⟩
    cases r <;> trivial
  | getTotalRefundedMinorUnits id =>
    refine ⟨.inl trivial, fun r => ?_⟩
    cases r <;> trivial
  | listRefundsForPayment id =>
    refine ⟨.inl trivial, fun r => ?_⟩
    cases r with
    | error e => trivial
    | ok rows =>
      simp only [bind_eq, done_bind]
      cases collect toRefundRecord rows <;> trivial

end OpenWrapper.IssuedStatements
