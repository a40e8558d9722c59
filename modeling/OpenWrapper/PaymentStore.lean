import OpenWrapper.Schema

/-! # The store contract and its two backends

Each operation is a program over the statements of its source function, in
the source's order. Where the two sources issue the same statements the
program is written once. The SQLite connection is locked for a whole
operation; Postgres statements go to a pool, one by one. -/

set_option autoImplicit false

namespace OpenWrapper.PaymentStore
open OpenWrapper.Ids OpenWrapper.Amounts OpenWrapper.Payments
open OpenWrapper.Schema OpenWrapper.Suspended OpenWrapper.Suspended.Prog

structure ApiKeyInfo where
  id : ℤ
  userId : Option String
  environment : Option String
deriving DecidableEq, Repr

structure RefundRecord where
  id : String
  paymentId : PaymentId
  amountMinorUnits : ℤ
  currency : Currency
  status : RefundStatus
  reason : Option String
  providerRefundRef : Option String
  createdAt : ℤ
deriving DecidableEq, Repr

inductive BeginOutcome where
  | proceed (paymentId : PaymentId)
  | returnExisting (payment : Payment)
  | conflict
deriving DecidableEq

inductive TransitionOutcome where
  | applied (paymentId : PaymentId) (source target : PaymentStatus)
  | noOp
  | illegal (source target : PaymentStatus)
  | amountMismatch (stored reported : ℤ)
deriving DecidableEq, Repr

inductive WebhookApplyOutcome where
  | duplicate
  | paymentNotFound
  | transition (outcome : TransitionOutcome)
deriving DecidableEq, Repr

/-- A store call ends in `Internal`, or panics. -/
inductive StoreError where
  | internal
  | panicked
deriving DecidableEq, Repr

abbrev StoreResult (α : Type) := Except StoreError α

abbrev Sql : Type → Type := Prog Stmt.Response

namespace Sql

@[simp] def now : Sql Instant := perform Stmt.now

@[simp] def newPaymentId : Sql PaymentId := perform Stmt.newPaymentId

@[simp] def beginTransaction : Sql (Except SqlError Unit) := perform Stmt.beginTransaction

@[simp] def commit : Sql (Except SqlError Unit) := perform Stmt.commit

@[simp] def write (w : Write) : Sql (Except SqlError ℕ) := perform (Stmt.write w)

@[simp] def transaction (ws : List Write) : Sql (Except SqlError Unit) :=
  perform (Stmt.transaction ws)

@[simp] def selectPayment (id : PaymentId) : Sql (Except SqlError (Option PaymentRow)) :=
  perform (Stmt.selectPayment id)

@[simp] def selectByKey (key : IdempotencyKey) :
    Sql (Except SqlError (Option PaymentRow)) := perform (Stmt.selectByKey key)

@[simp] def selectByProviderReference (provider : ProviderId) (reference : String) :
    Sql (Except SqlError (Option PaymentRow)) :=
  perform (Stmt.selectByProviderReference provider reference)

@[simp] def selectByReference (reference : Text PaymentId) :
    Sql (Except SqlError (Option PaymentRow)) :=
  perform (Stmt.selectByReference reference)

@[simp] def selectStale (cutoff : Instant) (limit : ℤ) :
    Sql (Except SqlError (List PaymentRow)) := perform (Stmt.selectStale cutoff limit)

@[simp] def sumRefunds (id : PaymentId) : Sql (Except SqlError ℤ) :=
  perform (Stmt.sumRefunds id)

@[simp] def selectRefunds (id : PaymentId) : Sql (Except SqlError (List RefundRow)) :=
  perform (Stmt.selectRefunds id)

end Sql

/-- A verified event, as `apply_webhook_event` receives it. -/
structure WebhookReport where
  eventId : String
  provider : ProviderId
  providerReference : String
  reportedStatus : PaymentStatus
  reportedAmountMinorUnits : Option ℤ
deriving DecidableEq

def internalErr {α : Type} : Sql (StoreResult α) := pure (.error .internal)

def newRow (fingerprint : PaymentRequest → String) (request : PaymentRequest)
    (owner : Option ApiKeyInfo) (id : PaymentId) (now : Instant) : PaymentRow where
  id := .stored id
  idempotencyKey := .stored request.idempotencyKey
  requestFingerprint := fingerprint request
  provider := .stored request.provider
  providerReference := none
  status := .stored .pending
  amountMinorUnits := request.amount.minorUnits
  currency := .stored request.amount.currency
  merchantReference := request.merchantReference
  nextActionJson := none
  userId := owner.bind ApiKeyInfo.userId
  apiKeyId := owner.map ApiKeyInfo.id
  environment := (owner.bind ApiKeyInfo.environment).getD "live"
  createdAt := now
  updatedAt := now

/-- The status columns of `UPDATE payments SET status = …`; a terminal status
also clears the next action. -/
def statusEdit (status : PaymentStatus) (now : Instant) : PaymentEdit where
  providerReference := none
  status := some status
  nextActionJson := if status.isTerminal then some none else none
  updatedAt := now

def refundEdit (status : PaymentStatus) (now : Instant) : PaymentEdit where
  providerReference := none
  status := some status
  nextActionJson := none
  updatedAt := now

def creationEdit (reference : String) (status : PaymentStatus)
    (nextAction : Option PaymentNextAction) (now : Instant) : PaymentEdit where
  providerReference := some reference
  status := some status
  nextActionJson := some nextAction
  updatedAt := now

def touchEdit (now : Instant) : PaymentEdit where
  providerReference := none
  status := none
  nextActionJson := none
  updatedAt := now

def RefundRecord.toRow (r : RefundRecord) : RefundRow where
  id := r.id
  paymentId := .stored r.paymentId
  amountMinorUnits := r.amountMinorUnits
  currency := .stored r.currency
  status := .stored r.status
  reason := r.reason
  providerRefundRef := r.providerRefundRef
  createdAt := r.createdAt

/-- `row_to_refund`: an unrecognised status reads as failed. -/
def toRefundRecord (row : RefundRow) : Option RefundRecord :=
  match row.paymentId.parse, row.currency.parse with
  | some paymentId, some currency =>
    some ⟨row.id, paymentId, row.amountMinorUnits, currency,
      row.status.parse.getD .failed, row.reason, row.providerRefundRef, row.createdAt⟩
  | _, _ => none

section Shared

def beginPaymentWithOwner (fingerprint : PaymentRequest → String)
    (request : PaymentRequest) (owner : Option ApiKeyInfo) : Sql (StoreResult BeginOutcome) := do
  let paymentId ← Sql.newPaymentId
  let now ← Sql.now
  match ← Sql.write (.insertPayment (newRow fingerprint request owner paymentId now)) with
  | .ok _ => pure (.ok (.proceed paymentId))
  | .error .constraint =>
    match ← Sql.selectByKey request.idempotencyKey with
    | .ok (some row) =>
      match row.toPayment with
      | some payment =>
        if row.requestFingerprint = fingerprint request then
          pure (.ok (.returnExisting payment))
        else pure (.ok .conflict)
      | none => internalErr
    | .ok none => internalErr
    | .error _ => internalErr
  | .error .failed => internalErr

def readPayment : Option PaymentRow → StoreResult (Option Payment)
  | none => .ok none
  | some row =>
    match row.toPayment with
    | some payment => .ok (some payment)
    | none => .error .internal

def getPayment (id : PaymentId) : Sql (StoreResult (Option Payment)) := do
  match ← Sql.selectPayment id with
  | .ok row => pure (readPayment row)
  | .error _ => internalErr

def findPaymentByReference (reference : Text PaymentId) : Sql (StoreResult (Option Payment)) := do
  match ← Sql.selectByReference reference with
  | .ok row => pure (readPayment row)
  | .error _ => internalErr

def getNextAction (id : PaymentId) : Sql (StoreResult (Option PaymentNextAction)) := do
  match ← Sql.selectPayment id with
  | .ok row =>
    match row.bind PaymentRow.nextActionJson with
    | none => pure (.ok none)
    | some (.stored action) => pure (.ok (some action))
    | some (.corrupt _) => internalErr
  | .error _ => internalErr

def collect {α β : Type} (f : α → Option β) : List α → Option (List β)
  | [] => some []
  | a :: rest =>
    match f a, collect f rest with
    | some b, some bs => some (b :: bs)
    | _, _ => none

def listStaleUnknownPayments (minAge : ℤ) (limit : ℤ) : Sql (StoreResult (List Payment)) := do
  let now ← Sql.now
  match ← Sql.selectStale (now.minus minAge) limit with
  | .ok rows =>
    match collect PaymentRow.toPayment rows with
    | some payments => pure (.ok payments)
    | none => internalErr
  | .error _ => internalErr

def touchReconciliationAttempt (id : PaymentId) : Sql (StoreResult Unit) := do
  let now ← Sql.now
  match ← Sql.write (.updatePayment (.stored id) true (touchEdit now)) with
  | .ok _ => pure (.ok ())
  | .error _ => internalErr

def getTotalRefundedMinorUnits (id : PaymentId) : Sql (StoreResult ℤ) := do
  match ← Sql.sumRefunds id with
  | .ok total => pure (.ok total)
  | .error _ => internalErr

def listRefundsForPayment (id : PaymentId) : Sql (StoreResult (List RefundRecord)) := do
  match ← Sql.selectRefunds id with
  | .ok rows =>
    match collect toRefundRecord rows with
    | some refunds => pure (.ok refunds)
    | none => internalErr
  | .error _ => internalErr

end Shared

namespace SqliteStore

def recordCreationResult (id : PaymentId) (reference : String) (status : PaymentStatus)
    (nextAction : Option PaymentNextAction) : Sql (StoreResult Unit) := do
  let now ← Sql.now
  match ← Sql.selectPayment id with
  | .ok (some row) =>
    match row.status.parse with
    | none => internalErr
    | some current =>
      match current.validateTransition status with
      | .error _ => internalErr
      | .ok () =>
        if row.providerReference.any (· != reference) then internalErr
        else
          match ← Sql.write (.updatePayment (.stored id) false
              (creationEdit reference status nextAction now)) with
          | .ok rows => if rows = 1 then pure (.ok ()) else internalErr
          | .error _ => internalErr
  | .ok none => internalErr
  | .error _ => internalErr

def applySqliteTransition (id : Text PaymentId) (current reported : PaymentStatus)
    (now : Instant) : Sql (StoreResult TransitionOutcome) := do
  if current = reported then pure (.ok .noOp)
  else
    match current.validateTransition reported with
    | .ok () =>
      match ← Sql.write (.updatePayment id false (statusEdit reported now)) with
      | .ok rows =>
        if rows ≠ 1 then internalErr
        else
          match id.parse with
          | some paymentId => pure (.ok (.applied paymentId current reported))
          | none => internalErr
      | .error _ => internalErr
    | .error illegal => pure (.ok (.illegal illegal.source illegal.target))

def judge (row : PaymentRow) (event : WebhookReport) (current : PaymentStatus)
    (now : Instant) : Sql (StoreResult TransitionOutcome) :=
  match event.reportedAmountMinorUnits with
  | some reported =>
    if reported ≠ row.amountMinorUnits then
      pure (.ok (.amountMismatch row.amountMinorUnits reported))
    else applySqliteTransition row.id current event.reportedStatus now
  | none => applySqliteTransition row.id current event.reportedStatus now

def applyWebhookEvent (event : WebhookReport) : Sql (StoreResult WebhookApplyOutcome) := do
  let now ← Sql.now
  match ← Sql.beginTransaction with
  | .error _ => internalErr
  | .ok () =>
    match ← Sql.selectByProviderReference event.provider event.providerReference with
    | .error _ => internalErr
    | .ok none => pure (.ok .paymentNotFound)
    | .ok (some row) =>
      match ← Sql.write (.insertWebhookEvent
          ⟨event.eventId, event.provider, row.id, now⟩) with
      | .error .constraint => pure (.ok .duplicate)
      | .error .failed => internalErr
      | .ok _ =>
        match row.status.parse with
        | none => internalErr
        | some current =>
          match ← judge row event current now with
          | .error e => pure (.error e)
          | .ok outcome =>
            match ← Sql.commit with
            | .ok () => pure (.ok (.transition outcome))
            | .error _ => internalErr

def updateStatusOnly (id : PaymentId) (status : PaymentStatus) : Sql (StoreResult Unit) := do
  let now ← Sql.now
  match ← Sql.selectPayment id with
  | .error _ => internalErr
  | .ok none => internalErr
  | .ok (some row) =>
    match row.status.parse with
    | none => internalErr
    | some current =>
      match current.validateTransition status with
      | .error _ => internalErr
      | .ok () =>
        match ← Sql.write (.updatePayment (.stored id) false (statusEdit status now)) with
        | .ok _ => pure (.ok ())
        | .error _ => internalErr

/-- The assertion holds in every build; Postgres has a debug assertion only. -/
def markTerminalWithoutProviderReference (id : PaymentId) (status : PaymentStatus) :
    Sql (StoreResult Unit) :=
  if status.isTerminal then updateStatusOnly id status else pure (.error .panicked)

def markUnknown (id : PaymentId) : Sql (StoreResult Unit) := updateStatusOnly id .unknown

def applyReconciliationResult (id : PaymentId) (resolved : PaymentStatus) :
    Sql (StoreResult TransitionOutcome) := do
  let now ← Sql.now
  match ← Sql.selectPayment id with
  | .error _ => internalErr
  | .ok none => internalErr
  | .ok (some row) =>
    match row.status.parse with
    | none => internalErr
    | some current =>
      match current.validateTransition resolved with
      | .error illegal => pure (.ok (.illegal illegal.source illegal.target))
      | .ok () =>
        if current = resolved then pure (.ok .noOp)
        else
          match ← Sql.write (.updatePayment (.stored id) false
              (statusEdit resolved now)) with
          | .ok _ => pure (.ok (.applied id current resolved))
          | .error _ => internalErr

/-- Two statements with no transaction around them. -/
def recordRefund (refund : RefundRecord) (status : PaymentStatus) : Sql (StoreResult Unit) := do
  let now ← Sql.now
  match ← Sql.write (.insertRefund refund.toRow) with
  | .error _ => internalErr
  | .ok _ =>
    match ← Sql.write (.updatePayment (.stored refund.paymentId) false
        (refundEdit status now)) with
    | .ok _ => pure (.ok ())
    | .error _ => internalErr

end SqliteStore

namespace PostgresStore

def recordCreationResult (id : PaymentId) (reference : String) (status : PaymentStatus)
    (nextAction : Option PaymentNextAction) : Sql (StoreResult Unit) := do
  let now ← Sql.now
  match ← Sql.write (.updatePayment (.stored id) false
      (creationEdit reference status nextAction now)) with
  | .ok _ => pure (.ok ())
  | .error _ => internalErr

def applyWebhookEvent (event : WebhookReport) : Sql (StoreResult WebhookApplyOutcome) := do
  match ← Sql.selectByProviderReference event.provider event.providerReference with
  | .error _ => internalErr
  | .ok none => pure (.ok .paymentNotFound)
  | .ok (some row) =>
    let receivedAt ← Sql.now
    match ← Sql.write (.insertWebhookEvent
        ⟨event.eventId, event.provider, row.id, receivedAt⟩) with
    | .error .constraint => pure (.ok .duplicate)
    | .error .failed => internalErr
    | .ok _ =>
      match row.status.parse with
      | none => internalErr
      | some current =>
        if event.reportedAmountMinorUnits.any (· ≠ row.amountMinorUnits) then
          pure (.ok (.transition (.amountMismatch row.amountMinorUnits
            (event.reportedAmountMinorUnits.getD row.amountMinorUnits))))
        else
          match current.validateTransition event.reportedStatus with
          | .error illegal =>
            pure (.ok (.transition (.illegal illegal.source illegal.target)))
          | .ok () =>
            let now ← Sql.now
            match ← Sql.write (.updatePayment row.id false
                (statusEdit event.reportedStatus now)) with
            | .error _ => internalErr
            | .ok _ =>
              match row.id.parse with
              | some paymentId =>
                pure (.ok (.transition (.applied paymentId current event.reportedStatus)))
              | none => internalErr

def updateStatusOnly (id : PaymentId) (status : PaymentStatus) : Sql (StoreResult Unit) := do
  let now ← Sql.now
  match ← Sql.write (.updatePayment (.stored id) false (statusEdit status now)) with
  | .ok _ => pure (.ok ())
  | .error _ => internalErr

def markTerminalWithoutProviderReference (id : PaymentId) (status : PaymentStatus) :
    Sql (StoreResult Unit) :=
  updateStatusOnly id status

def markUnknown (id : PaymentId) : Sql (StoreResult Unit) := updateStatusOnly id .unknown

def applyReconciliationResult (id : PaymentId) (resolved : PaymentStatus) :
    Sql (StoreResult TransitionOutcome) := do
  match ← getPayment id with
  | .error e => pure (.error e)
  | .ok none => internalErr
  | .ok (some payment) =>
    match payment.status.validateTransition resolved with
    | .error illegal => pure (.ok (.illegal illegal.source illegal.target))
    | .ok () =>
      match ← updateStatusOnly id resolved with
      | .error e => pure (.error e)
      | .ok () => pure (.ok (.applied id payment.status resolved))

def recordRefund (refund : RefundRecord) (status : PaymentStatus) : Sql (StoreResult Unit) := do
  let now ← Sql.now
  match ← Sql.transaction [.insertRefund refund.toRow,
      .updatePayment (.stored refund.paymentId) false (refundEdit status now)] with
  | .ok () => pure (.ok ())
  | .error _ => internalErr

end PostgresStore

/-- The operations of the trait that touch payments, webhook events or refunds. -/
inductive StoreOp where
  | beginPaymentWithOwner (request : PaymentRequest) (owner : Option ApiKeyInfo)
  | recordCreationResult (id : PaymentId) (reference : String) (status : PaymentStatus)
      (nextAction : Option PaymentNextAction)
  | applyWebhookEvent (event : WebhookReport)
  | markTerminalWithoutProviderReference (id : PaymentId) (status : PaymentStatus)
  | markUnknown (id : PaymentId)
  | applyReconciliationResult (id : PaymentId) (resolved : PaymentStatus)
  | getPayment (id : PaymentId)
  | findPaymentByReference (reference : Text PaymentId)
  | getNextAction (id : PaymentId)
  | listStaleUnknownPayments (minAge limit : ℤ)
  | touchReconciliationAttempt (id : PaymentId)
  | recordRefund (refund : RefundRecord) (status : PaymentStatus)
  | getTotalRefundedMinorUnits (id : PaymentId)
  | listRefundsForPayment (id : PaymentId)

abbrev StoreOp.Value : StoreOp → Type
  | beginPaymentWithOwner _ _ => BeginOutcome
  | recordCreationResult _ _ _ _ => Unit
  | applyWebhookEvent _ => WebhookApplyOutcome
  | markTerminalWithoutProviderReference _ _ => Unit
  | markUnknown _ => Unit
  | applyReconciliationResult _ _ => TransitionOutcome
  | getPayment _ => Option Payment
  | findPaymentByReference _ => Option Payment
  | getNextAction _ => Option PaymentNextAction
  | listStaleUnknownPayments _ _ => List Payment
  | touchReconciliationAttempt _ => Unit
  | recordRefund _ _ => Unit
  | getTotalRefundedMinorUnits _ => ℤ
  | listRefundsForPayment _ => List RefundRecord

abbrev StoreOp.Result (op : StoreOp) : Type := StoreResult op.Value

def program (fingerprint : PaymentRequest → String) :
    Backend → (op : StoreOp) → Sql op.Result
  | _, .beginPaymentWithOwner request owner =>
    PaymentStore.beginPaymentWithOwner fingerprint request owner
  | .sqlite, .recordCreationResult id reference status nextAction =>
    SqliteStore.recordCreationResult id reference status nextAction
  | .postgres, .recordCreationResult id reference status nextAction =>
    PostgresStore.recordCreationResult id reference status nextAction
  | .sqlite, .applyWebhookEvent event => SqliteStore.applyWebhookEvent event
  | .postgres, .applyWebhookEvent event => PostgresStore.applyWebhookEvent event
  | .sqlite, .markTerminalWithoutProviderReference id status =>
    SqliteStore.markTerminalWithoutProviderReference id status
  | .postgres, .markTerminalWithoutProviderReference id status =>
    PostgresStore.markTerminalWithoutProviderReference id status
  | .sqlite, .markUnknown id => SqliteStore.markUnknown id
  | .postgres, .markUnknown id => PostgresStore.markUnknown id
  | .sqlite, .applyReconciliationResult id resolved =>
    SqliteStore.applyReconciliationResult id resolved
  | .postgres, .applyReconciliationResult id resolved =>
    PostgresStore.applyReconciliationResult id resolved
  | _, .getPayment id => PaymentStore.getPayment id
  | _, .findPaymentByReference reference => PaymentStore.findPaymentByReference reference
  | _, .getNextAction id => PaymentStore.getNextAction id
  | _, .listStaleUnknownPayments minAge limit =>
    PaymentStore.listStaleUnknownPayments minAge limit
  | _, .touchReconciliationAttempt id => PaymentStore.touchReconciliationAttempt id
  | .sqlite, .recordRefund refund status => SqliteStore.recordRefund refund status
  | .postgres, .recordRefund refund status => PostgresStore.recordRefund refund status
  | _, .getTotalRefundedMinorUnits id => PaymentStore.getTotalRefundedMinorUnits id
  | _, .listRefundsForPayment id => PaymentStore.listRefundsForPayment id

/-- A whole operation, with no other statement between its own. -/
def execOp (fingerprint : PaymentRequest → String) (b : Backend) (d : Draw)
    (L : Ledger) (op : StoreOp) : Ledger × op.Result :=
  let done := serial (exec b d) 0 (Session.on L) (program fingerprint b op)
  (done.1.close, done.2)

end OpenWrapper.PaymentStore
