import OpenWrapper.ConstraintTable
import OpenWrapper.Payments
import OpenWrapper.Suspended
import Mathlib.Algebra.Ring.Int.Defs
import Mathlib.Data.List.Sort

/-! # The payment tables and the statements on them

`payments`, `webhook_events` and `refunds` with the constraints both schemas
declare. A statement is answered by `exec`, under a draw that stands for what
the statement text leaves open: the clock, the identifier generator, the order
in which an unordered query visits rows, and which statements fail. The two
database engines differ in how they keep and compare timestamps. -/

set_option autoImplicit false

namespace OpenWrapper.Schema
open OpenWrapper.Ids OpenWrapper.Amounts OpenWrapper.Payments
open OpenWrapper.ConstraintTable OpenWrapper.Suspended

inductive Backend where
  | sqlite | postgres
deriving DecidableEq, Repr

inductive RefundStatus where
  | succeeded | pending | failed
deriving DecidableEq, Repr

def RefundStatus.display : RefundStatus → String
  | .succeeded => "succeeded"
  | .pending => "pending"
  | .failed => "failed"

structure PaymentRow where
  id : Text PaymentId
  idempotencyKey : Text IdempotencyKey
  requestFingerprint : String
  provider : Text ProviderId
  providerReference : Option String
  status : Text PaymentStatus
  amountMinorUnits : ℤ
  currency : Text Currency
  merchantReference : Option String
  nextActionJson : Option (Text PaymentNextAction)
  userId : Option String
  apiKeyId : Option ℤ
  environment : String
  createdAt : Instant
  updatedAt : Instant
deriving DecidableEq

structure WebhookEventRow where
  eventId : String
  provider : ProviderId
  paymentId : Text PaymentId
  receivedAt : Instant
deriving DecidableEq

structure RefundRow where
  id : String
  paymentId : Text PaymentId
  amountMinorUnits : ℤ
  currency : Text Currency
  status : Text RefundStatus
  reason : Option String
  providerRefundRef : Option String
  createdAt : ℤ
deriving DecidableEq

/-! `id` is the primary key of each table; `idempotency_key` is unique. -/

def PaymentClash (a b : PaymentRow) : Prop :=
  a.id = b.id ∨ a.idempotencyKey = b.idempotencyKey

def EventClash (a b : WebhookEventRow) : Prop := a.eventId = b.eventId

def RefundClash (a b : RefundRow) : Prop := a.id = b.id

instance : DecidableRel PaymentClash := fun a b =>
  inferInstanceAs (Decidable (a.id = b.id ∨ a.idempotencyKey = b.idempotencyKey))

instance : DecidableRel EventClash := fun a b =>
  inferInstanceAs (Decidable (a.eventId = b.eventId))

instance : DecidableRel RefundClash := fun a b =>
  inferInstanceAs (Decidable (a.id = b.id))

instance : Std.Symm PaymentClash := ⟨fun _ _ clash => clash.imp Eq.symm Eq.symm⟩

instance : Std.Symm EventClash := ⟨fun _ _ clash => Eq.symm clash⟩

instance : Std.Symm RefundClash := ⟨fun _ _ clash => Eq.symm clash⟩

structure Ledger where
  payments : Table PaymentRow PaymentClash
  webhookEvents : Table WebhookEventRow EventClash
  refunds : Table RefundRow RefundClash

def Ledger.empty : Ledger := ⟨Table.empty, Table.empty, Table.empty⟩

/-- `row_to_payment`: every column must parse. -/
def PaymentRow.toPayment (row : PaymentRow) : Option Payment :=
  match row.currency.parse, row.id.parse, row.idempotencyKey.parse,
    row.provider.parse, row.status.parse with
  | some currency, some id, some key, some provider, some status =>
    match Money.fromMinorUnits row.amountMinorUnits currency with
    | .ok amount =>
      some ⟨id, key, provider, row.providerReference, status, amount, currency,
        row.merchantReference, row.createdAt, row.updatedAt⟩
    | .error _ => none
  | _, _, _, _, _ => none

/-- The row a payment was read from, column by column. -/
structure ReadFrom (p : Payment) (row : PaymentRow) : Prop where
  id : row.id = .stored p.id
  idempotencyKey : row.idempotencyKey = .stored p.idempotencyKey
  provider : row.provider = .stored p.provider
  providerReference : row.providerReference = p.providerReference
  status : row.status = .stored p.status
  amount : row.amountMinorUnits = p.amount.minorUnits
  merchantReference : row.merchantReference = p.merchantReference
  createdAt : row.createdAt = p.createdAt
  updatedAt : row.updatedAt = p.updatedAt

theorem readFrom_of_toPayment {row : PaymentRow} {p : Payment}
    (parsed : row.toPayment = some p) : ReadFrom p row := by
  unfold PaymentRow.toPayment at parsed
  split at parsed
  next currency id key provider status _ is named from_ stored =>
    split at parsed
    next amount bounded =>
      cases parsed
      exact ⟨Text.parse_eq_some.mp is, Text.parse_eq_some.mp named,
        Text.parse_eq_some.mp from_, rfl, Text.parse_eq_some.mp stored,
        (Money.fromMinorUnits_eq_ok bounded).1.symm, rfl, rfl, rfl⟩
    · cases parsed
  · cases parsed

/-- The columns of `UPDATE payments SET …` that a statement assigns. -/
structure PaymentEdit where
  providerReference : Option String
  status : Option PaymentStatus
  nextActionJson : Option (Option PaymentNextAction)
  updatedAt : Instant

def PaymentEdit.apply (edit : PaymentEdit) (row : PaymentRow) : PaymentRow :=
  { row with
    providerReference := edit.providerReference.orElse fun _ => row.providerReference
    status := (edit.status.map Text.stored).getD row.status
    nextActionJson := (edit.nextActionJson.map (Option.map Text.stored)).getD
      row.nextActionJson
    updatedAt := edit.updatedAt }

theorem PaymentEdit.keeps (edit : PaymentEdit) : Keeps PaymentClash edit.apply :=
  fun _ _ => ⟨Iff.rfl, Iff.rfl⟩

/-- Rows whose status column reads `unknown` or `pending`. -/
def PaymentRow.unresolved (row : PaymentRow) : Bool :=
  row.status == .stored .unknown || row.status == .stored .pending

inductive Write where
  | insertPayment (row : PaymentRow)
  | updatePayment (id : Text PaymentId) (onlyUnresolved : Bool) (edit : PaymentEdit)
  | insertWebhookEvent (row : WebhookEventRow)
  | insertRefund (row : RefundRow)

inductive SqlError where
  | constraint | failed
deriving DecidableEq, Repr

namespace Backend

/-- The resolution of a stored timestamp: the full text, or microseconds. -/
def keep : Backend → Instant → Instant
  | sqlite, t => t
  | postgres, t => t.toMicros

/-- The order of stored timestamps: that of their texts, or that of time. -/
def before : Backend → Instant → Instant → Bool
  | sqlite, s, t => s.rfc3339Before t
  | postgres, s, t => s.nanoseconds < t.nanoseconds

/-- `LIMIT`: a negative one is no limit to SQLite and an error to Postgres. -/
def limited {α : Type} : Backend → ℤ → List α → Except SqlError (List α)
  | sqlite, n, rows => .ok (if n < 0 then rows else rows.take n.toNat)
  | postgres, n, rows => if n < 0 then .error .failed else .ok (rows.take n.toNat)

end Backend

def PaymentRow.kept (b : Backend) (row : PaymentRow) : PaymentRow :=
  { row with createdAt := b.keep row.createdAt, updatedAt := b.keep row.updatedAt }

def WebhookEventRow.kept (b : Backend) (row : WebhookEventRow) : WebhookEventRow :=
  { row with receivedAt := b.keep row.receivedAt }

def PaymentEdit.kept (b : Backend) (edit : PaymentEdit) : PaymentEdit :=
  { edit with updatedAt := b.keep edit.updatedAt }

def targets (id : Text PaymentId) (onlyUnresolved : Bool) (row : PaymentRow) : Bool :=
  row.id == id && (!onlyUnresolved || row.unresolved)

def Ledger.updatePayment (L : Ledger) (id : Text PaymentId) (onlyUnresolved : Bool)
    (edit : PaymentEdit) : Ledger :=
  { L with payments := L.payments.update (targets id onlyUnresolved) edit.apply edit.keeps }

/-- A writing statement, answered by the number of rows it affected. -/
def Write.perform (b : Backend) (L : Ledger) : Write → Except SqlError (Ledger × ℕ)
  | insertPayment row =>
    match L.payments.insert (row.kept b) with
    | some payments => .ok ({ L with payments }, 1)
    | none => .error .constraint
  | updatePayment id onlyUnresolved edit =>
    .ok (L.updatePayment id onlyUnresolved (edit.kept b),
      L.payments.affected (targets id onlyUnresolved))
  | insertWebhookEvent row =>
    match L.webhookEvents.insert (row.kept b) with
    | some webhookEvents => .ok ({ L with webhookEvents }, 1)
    | none => .error .constraint
  | insertRefund row =>
    match L.refunds.insert row with
    | some refunds => .ok ({ L with refunds }, 1)
    | none => .error .constraint

/-- The writes of one committed transaction: all of them, or none. -/
def performAll (b : Backend) : Ledger → List Write → Except SqlError Ledger
  | L, [] => .ok L
  | L, w :: rest =>
    match w.perform b L with
    | .ok (L', _) => performAll b L' rest
    | .error e => .error e

inductive Stmt where
  | now
  | newPaymentId
  | beginTransaction
  | commit
  | write (w : Write)
  | transaction (ws : List Write)
  | selectPayment (id : PaymentId)
  | selectByKey (key : IdempotencyKey)
  | selectByProviderReference (provider : ProviderId) (reference : String)
  | selectByReference (reference : Text PaymentId)
  | selectStale (cutoff : Instant) (limit : ℤ)
  | sumRefunds (payment : PaymentId)
  | selectRefunds (payment : PaymentId)

abbrev Stmt.Response : Stmt → Type
  | now => Instant
  | newPaymentId => PaymentId
  | beginTransaction | commit | transaction _ => Except SqlError Unit
  | write _ => Except SqlError ℕ
  | selectPayment _ | selectByKey _ | selectByProviderReference _ _
  | selectByReference _ => Except SqlError (Option PaymentRow)
  | selectStale _ _ => Except SqlError (List PaymentRow)
  | sumRefunds _ => Except SqlError ℤ
  | selectRefunds _ => Except SqlError (List RefundRow)

/-- What a run of statements may meet, by the number of the statement. -/
structure Draw where
  clock : ℕ → Instant
  fresh : PaymentId
  visit : PaymentRow → ℕ
  fails : ℕ → Bool

/-- A connection: the tables as it sees them, and while a transaction is open
the tables a rollback returns to. -/
structure Session where
  ledger : Ledger
  saved : Option Ledger

def Session.on (L : Ledger) : Session := ⟨L, none⟩

/-- The guard of an open transaction rolls back when it is dropped. -/
def Session.close (s : Session) : Ledger := s.saved.getD s.ledger

/-- The rows in the order in which the engine happens to visit them. -/
def scan (d : Draw) (rows : List PaymentRow) : List PaymentRow :=
  rows.insertionSort fun a b => d.visit a ≤ d.visit b

def refers (reference : Text PaymentId) (row : PaymentRow) : Bool :=
  row.id == reference ||
    match reference with
    | .stored _ => false
    | .corrupt raw => row.merchantReference == some raw || row.providerReference == some raw

def stale (b : Backend) (cutoff : Instant) (row : PaymentRow) : Bool :=
  row.unresolved && b.before row.updatedAt (b.keep cutoff) && row.providerReference.isSome

/-- `ORDER BY updated_at ASC` over the stale rows. -/
def staleRows (b : Backend) (d : Draw) (cutoff : Instant) (rows : List PaymentRow) :
    List PaymentRow :=
  ((scan d rows).filter (stale b cutoff)).insertionSort fun r s =>
    !b.before s.updatedAt r.updatedAt

def newestFirst (b : Backend) (rows : List PaymentRow) : List PaymentRow :=
  rows.insertionSort fun r s => !b.before r.createdAt s.createdAt

def counted (payment : PaymentId) (row : RefundRow) : Bool :=
  row.paymentId == .stored payment && row.status == .stored .succeeded

def Ledger.sumRefunds (L : Ledger) (payment : PaymentId) : ℤ :=
  ((L.refunds.rows.filter (counted payment)).map RefundRow.amountMinorUnits).sum

def refundsOf (L : Ledger) (payment : PaymentId) : List RefundRow :=
  (L.refunds.rows.filter fun row => row.paymentId == .stored payment).insertionSort
    fun r s => r.createdAt ≤ s.createdAt

/-- What the statement does when it is executed. -/
def Stmt.run (b : Backend) (d : Draw) (n : ℕ) (s : Session) :
    (e : Stmt) → Session × e.Response
  | now => (s, d.clock n)
  | newPaymentId => (s, d.fresh)
  | beginTransaction => ({ s with saved := some s.ledger }, .ok ())
  | commit => ({ s with saved := none }, .ok ())
  | write w =>
    match w.perform b s.ledger with
    | .ok (L, rows) => ({ s with ledger := L }, .ok rows)
    | .error e => (s, .error e)
  | transaction ws =>
    match performAll b s.ledger ws with
    | .ok L => ({ s with ledger := L }, .ok ())
    | .error e => (s, .error e)
  | selectPayment id =>
    (s, .ok (s.ledger.payments.rows.find? fun row => row.id == .stored id))
  | selectByKey key =>
    (s, .ok (s.ledger.payments.rows.find? fun row => row.idempotencyKey == .stored key))
  | selectByProviderReference provider reference =>
    (s, .ok ((scan d s.ledger.payments.rows).find? fun row =>
      row.provider == .stored provider && row.providerReference == some reference))
  | selectByReference reference =>
    (s, .ok (newestFirst b ((scan d s.ledger.payments.rows).filter
      (refers reference))).head?)
  | selectStale cutoff limit =>
    (s, b.limited limit (staleRows b d cutoff s.ledger.payments.rows))
  | sumRefunds payment => (s, .ok (s.ledger.sumRefunds payment))
  | selectRefunds payment => (s, .ok (refundsOf s.ledger payment))

/-- The answer of a statement that fails; the clock and the generator are the
process's own and do not fail. -/
def Stmt.refused : (e : Stmt) → Option e.Response
  | now | newPaymentId => none
  | beginTransaction | commit | transaction _ => some (.error .failed)
  | write _ => some (.error .failed)
  | selectPayment _ | selectByKey _ | selectByProviderReference _ _
  | selectByReference _ => some (.error .failed)
  | selectStale _ _ => some (.error .failed)
  | sumRefunds _ => some (.error .failed)
  | selectRefunds _ => some (.error .failed)

/-- A statement is executed, or fails and has no effect. -/
def exec (b : Backend) (d : Draw) (n : ℕ) (s : Session) (e : Stmt) : Session × e.Response :=
  match d.fails n, e.refused with
  | true, some r => (s, r)
  | _, _ => e.run b d n s

end OpenWrapper.Schema
