import OpenWrapper.Effects
import OpenWrapper.JavaScript

/-! # What the web application awaits

The web application and the gateway share one Postgres table of payments. A
database is the gateway's tables with, for each payment, the columns that only
the web application reads and writes. A handler of the web application awaits
statements on it, and calls of the gateway and of Stripe. -/

set_option autoImplicit false

namespace OpenWrapper.WebDatabase
open OpenWrapper.Ids OpenWrapper.Amounts OpenWrapper.Payments OpenWrapper.Schema
open OpenWrapper.ConstraintTable OpenWrapper.Effects
open OpenWrapper.Suspended OpenWrapper.Suspended.Prog

structure WebColumns where
  description : Option String
  customerPhone : Option String
  customerEmail : Option String
  customerName : Option String
  nextActionType : Option String
  nextActionPayload : Option String
  metadataJson : Option String
deriving DecidableEq

/-- The columns of a row that the gateway inserted. -/
def WebColumns.unset : WebColumns := ⟨none, none, none, none, none, none, none⟩

structure Database where
  ledger : Ledger
  web : Text PaymentId → WebColumns

/-- `payments.$inferSelect`. -/
structure SharedRow where
  payment : PaymentRow
  web : WebColumns
deriving DecidableEq

def Database.row (D : Database) (row : PaymentRow) : SharedRow := ⟨row, D.web row.id⟩

/-- The text of an `id` column. -/
def idText : Text PaymentId → String
  | .stored id => id.display
  | .corrupt raw => raw

/-- The columns that `db.update(payments).set(…)` assigns. -/
structure WebEdit where
  status : Text PaymentStatus
  providerReference : Option (Option String)
  nextAction : Option (Option String × Option String)

def WebEdit.apply (edit : WebEdit) (now : Instant) (row : PaymentRow) : PaymentRow :=
  { row with
    status := edit.status
    providerReference := edit.providerReference.getD row.providerReference
    updatedAt := Backend.postgres.keep now }

def WebEdit.applyWeb (edit : WebEdit) (web : WebColumns) : WebColumns :=
  match edit.nextAction with
  | some (type, payload) => { web with nextActionType := type, nextActionPayload := payload }
  | none => web

theorem WebEdit.keeps (edit : WebEdit) (now : Instant) : Keeps PaymentClash (edit.apply now) :=
  fun _ _ => ⟨Iff.rfl, Iff.rfl⟩

/-- `PersistPaymentInput`. -/
structure PersistInput where
  id : Text PaymentId
  userId : String
  apiKeyId : ℤ
  idempotencyKey : Text IdempotencyKey
  requestFingerprint : String
  provider : Text ProviderId
  providerReference : Option String
  status : Text PaymentStatus
  amountMinorUnits : ℤ
  currency : Text Currency
  merchantReference : Option String
  environment : String
  web : WebColumns
deriving DecidableEq

namespace PersistInput

def inserted (input : PersistInput) (now : Instant) : PaymentRow where
  id := input.id
  idempotencyKey := input.idempotencyKey
  requestFingerprint := input.requestFingerprint
  provider := input.provider
  providerReference := input.providerReference
  status := input.status
  amountMinorUnits := input.amountMinorUnits
  currency := input.currency
  merchantReference := input.merchantReference
  nextActionJson := none
  userId := some input.userId
  apiKeyId := some input.apiKeyId
  environment := input.environment
  createdAt := Backend.postgres.keep now
  updatedAt := Backend.postgres.keep now

/-- `onConflictDoUpdate`: key, provider, amount and currency stay. -/
def assigned (input : PersistInput) (now : Instant) (row : PaymentRow) : PaymentRow :=
  { row with
    userId := some input.userId
    apiKeyId := some input.apiKeyId
    requestFingerprint := input.requestFingerprint
    providerReference := input.providerReference
    status := input.status
    merchantReference := input.merchantReference
    environment := input.environment
    updatedAt := Backend.postgres.keep now }

theorem keeps (input : PersistInput) (now : Instant) : Keeps PaymentClash (input.assigned now) :=
  fun _ _ => ⟨Iff.rfl, Iff.rfl⟩

end PersistInput

namespace Database

def setWeb (D : Database) (id : Text PaymentId) (web : WebColumns) : Database :=
  { D with web := fun other => if other = id then web else D.web other }

def update (D : Database) (id : Text PaymentId) (edit : WebEdit) (now : Instant) : Database :=
  { ledger := { D.ledger with
      payments := D.ledger.payments.update (targets id false) (edit.apply now) (edit.keeps now) }
    web := (D.setWeb id (edit.applyWeb (D.web id))).web }

/-- `INSERT … ON CONFLICT (id) DO UPDATE … RETURNING *`: another row with the
idempotency key makes the insertion fail. -/
def upsert (D : Database) (input : PersistInput) (now : Instant) :
    Except SqlError (Database × SharedRow) :=
  match D.ledger.payments.rows.find? fun row => row.id == input.id with
  | some row =>
    let payments := D.ledger.payments.update (targets input.id false) (input.assigned now)
      (input.keeps now)
    .ok ({ ledger := { D.ledger with payments }, web := (D.setWeb input.id input.web).web },
      ⟨input.assigned now row, input.web⟩)
  | none =>
    match D.ledger.payments.insert (input.inserted now) with
    | some payments =>
      .ok ({ ledger := { D.ledger with payments }, web := (D.setWeb input.id input.web).web },
        ⟨input.inserted now, input.web⟩)
    | none => .error .constraint

theorem rows_update (D : Database) (id : Text PaymentId) (edit : WebEdit) (now : Instant) :
    (D.update id edit now).ledger.payments.rows =
      D.ledger.payments.rows.map (Table.change (targets id false) (edit.apply now)) := rfl

/-- An upsert assigns to the row with the id, or inserts one that clashes with
no other. -/
theorem upsert_cases {D D' : Database} {input : PersistInput} {now : Instant} {found : SharedRow}
    (stored : D.upsert input now = .ok (D', found)) :
    (∃ row ∈ D.ledger.payments.rows, row.id = input.id ∧
      found = ⟨input.assigned now row, input.web⟩ ∧ D'.ledger.payments.rows =
        D.ledger.payments.rows.map (Table.change (targets input.id false) (input.assigned now))) ∨
    ((∀ row ∈ D.ledger.payments.rows, ¬ PaymentClash row (input.inserted now)) ∧
      found = ⟨input.inserted now, input.web⟩ ∧
      D'.ledger.payments.rows = D.ledger.payments.rows ++ [input.inserted now]) := by
  unfold upsert at stored
  split at stored
  next row search =>
    cases stored
    have is := List.find?_some search
    exact .inl ⟨row, List.mem_of_find?_eq_some search, by simpa using is, rfl, rfl⟩
  · split at stored
    next payments inserted =>
      cases stored
      obtain ⟨fresh, rows⟩ := Table.insert_eq_some.mp inserted
      exact .inr ⟨fresh, rfl, rows⟩
    · cases stored

end Database

/-- A row of `api_keys`, as the web application selects it. -/
structure WebApiKey where
  id : ℤ
  userId : String
  environment : String
  keyPrefix : String
deriving DecidableEq

structure GatewayRequest where
  provider : String
  amountMinorUnits : ℤ
  currency : String
  phone : String
  email : Option String
  fullName : Option String
  merchantReference : Option String
  description : String
  returnUrl : Option String
  metadata : List (String × String)
deriving DecidableEq

/-- What comes back from the gateway: an answer, an error with the message and
the code of its body, or nothing (no connection, a timeout, a torn body). -/
inductive GatewayAnswer where
  | ok (view : PaymentView)
  | error (status : ℕ) (message code : Option String)
  | lost (reason : String)

structure Session where
  sessionId : String
  url : Option String
deriving DecidableEq

structure SessionStatus where
  paymentStatus : String
  status : Option String
deriving DecidableEq

inductive WebEffect where
  | select (test : PaymentRow → Bool)
  | update (id : Text PaymentId) (edit : WebEdit)
  | upsert (input : PersistInput) (now : Instant)
  | recordEvent (eventId provider : String) (paymentId : Option (Text PaymentId))
  | findApiKey (keyHash : String)
  | randomUUID
  | now
  | forward (request : GatewayRequest) (idempotencyKey : String)
  | fetch (id : String)
  | createSession (request : GatewayRequest) (idempotencyKey : String)
  | retrieveSession (reference : String)
  /-- A statement of the gateway on the shared tables. -/
  | gateway (statement : Stmt)

abbrev WebEffect.Response : WebEffect → Type
  | select _ => Except SqlError (Option SharedRow)
  | update _ _ => Except SqlError Unit
  | upsert _ _ => Except SqlError SharedRow
  | recordEvent _ _ _ => Except SqlError Unit
  | findApiKey _ => Except SqlError (Option WebApiKey)
  | randomUUID => String
  | now => Instant
  | forward _ _ => GatewayAnswer
  | fetch _ => GatewayAnswer
  | createSession _ _ => Except String Session
  | retrieveSession _ => Except String SessionStatus
  | gateway statement => statement.Response

abbrev Web : Type → Type := Prog WebEffect.Response

namespace Web

@[simp] def select (test : PaymentRow → Bool) : Web (Except SqlError (Option SharedRow)) :=
  perform (WebEffect.select test)

@[simp] def update (id : Text PaymentId) (edit : WebEdit) : Web (Except SqlError Unit) :=
  perform (WebEffect.update id edit)

@[simp] def upsert (input : PersistInput) (now : Instant) : Web (Except SqlError SharedRow) :=
  perform (WebEffect.upsert input now)

@[simp] def recordEvent (eventId provider : String) (paymentId : Option (Text PaymentId)) :
    Web (Except SqlError Unit) :=
  perform (WebEffect.recordEvent eventId provider paymentId)

@[simp] def findApiKey (keyHash : String) : Web (Except SqlError (Option WebApiKey)) :=
  perform (WebEffect.findApiKey keyHash)

@[simp] def randomUUID : Web String := perform WebEffect.randomUUID

@[simp] def now : Web Instant := perform WebEffect.now

@[simp] def forward (request : GatewayRequest) (idempotencyKey : String) : Web GatewayAnswer :=
  perform (WebEffect.forward request idempotencyKey)

@[simp] def fetch (id : String) : Web GatewayAnswer := perform (WebEffect.fetch id)

@[simp] def createSession (request : GatewayRequest) (idempotencyKey : String) :
    Web (Except String Session) :=
  perform (WebEffect.createSession request idempotencyKey)

@[simp] def retrieveSession (reference : String) : Web (Except String SessionStatus) :=
  perform (WebEffect.retrieveSession reference)

end Web

abbrev WebEvent := Event WebEffect.Response

/-- What one effect of the web application may meet. -/
structure WebDraw where
  clock : Instant
  visit : PaymentRow → ℕ
  fails : Bool
  fresh : PaymentId
  uuid : String
  apiKey : Option WebApiKey
  gateway : GatewayAnswer
  session : Except String Session
  sessionStatus : Except String SessionStatus

/-- The first row that passes the test, in the order the engine visits rows. -/
def Database.selectOne (D : Database) (visit : PaymentRow → ℕ) (test : PaymentRow → Bool) :
    Option SharedRow :=
  (((D.ledger.payments.rows.insertionSort fun a b => visit a ≤ visit b).find? test).map D.row)

/-- What a statement of the gateway may meet. -/
def WebDraw.draw (d : WebDraw) : Draw := ⟨fun _ => d.clock, d.fresh, d.visit, fun _ => d.fails⟩

/-- A statement of the gateway, outside of any open transaction. -/
def Database.exec (D : Database) (d : WebDraw) (statement : Stmt) :
    Database × statement.Response :=
  let done := Schema.exec .postgres d.draw 0 (Session.on D.ledger) statement
  ({ D with ledger := done.1.close }, done.2)

/-- What a statement of the gateway does to the tables. -/
theorem Database.exec_cases (D : Database) (d : WebDraw) (statement : Stmt) :
    (D.exec d statement).1 = D ∨
    (∃ w L affected, statement = .write w ∧ w.perform .postgres D.ledger = .ok (L, affected) ∧
      (D.exec d statement).1 = { D with ledger := L }) ∨
    (∃ ws L, statement = .transaction ws ∧ performAll .postgres D.ledger ws = .ok L ∧
      (D.exec d statement).1 = { D with ledger := L }) := by
  cases fails : d.draw.fails 0 with
  | true =>
    left
    cases statement <;> simp only [exec, Schema.exec, Stmt.refused, fails] <;> rfl
  | false =>
    cases statement with
    | write w =>
      simp only [exec, Schema.exec, Stmt.run, fails]
      cases performed : w.perform .postgres D.ledger with
      | error e =>
        left
        simp only [Session.on, performed]
        rfl
      | ok result =>
        right; left
        simp only [Session.on, performed]
        exact ⟨w, result.1, result.2, rfl, performed, rfl⟩
    | transaction ws =>
      simp only [exec, Schema.exec, Stmt.run, fails]
      cases performed : performAll .postgres D.ledger ws with
      | error e =>
        left
        simp only [Session.on, performed]
        rfl
      | ok L =>
        right; right
        simp only [Session.on, performed]
        exact ⟨ws, L, rfl, performed, rfl⟩
    | _ =>
      left
      simp only [exec, Schema.exec, Stmt.run, fails]
      rfl

def respond (d : WebDraw) (D : Database) : (e : WebEffect) → Database × e.Response
  | .select test => (D, if d.fails then .error .failed else .ok (D.selectOne d.visit test))
  | .update id edit =>
    if d.fails then (D, .error .failed) else (D.update id edit d.clock, .ok ())
  | .upsert input now =>
    if d.fails then (D, .error .failed)
    else match D.upsert input now with
      | .ok (D', row) => (D', .ok row)
      | .error e => (D, .error e)
  | .recordEvent _ _ _ => (D, if d.fails then .error .failed else .ok ())
  | .findApiKey _ => (D, if d.fails then .error .failed else .ok d.apiKey)
  | .randomUUID => (D, d.uuid)
  | .now => (D, d.clock)
  | .forward _ _ => (D, d.gateway)
  | .fetch _ => (D, d.gateway)
  | .createSession _ _ => (D, d.session)
  | .retrieveSession _ => (D, d.sessionStatus)
  | .gateway statement => D.exec d statement

end OpenWrapper.WebDatabase
