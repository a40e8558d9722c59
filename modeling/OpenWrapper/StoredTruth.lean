import OpenWrapper.CreationAmbiguity

/-! # What a creation tells

A creation runs by itself from any tables, its statements may fail, and the
provider answers anything. The client is told what is stored, except where the
handler answers from what it holds itself, or where it ignores an error of the
store.
-/

set_option autoImplicit false

namespace OpenWrapper.StoredTruth
open OpenWrapper.Ids OpenWrapper.Errors OpenWrapper.Amounts OpenWrapper.Payments
open OpenWrapper.Schema OpenWrapper.ConstraintTable OpenWrapper.PaymentStore
open OpenWrapper.Providers OpenWrapper.Headers OpenWrapper.Stateless OpenWrapper.Effects
open OpenWrapper.HttpExchange OpenWrapper.Adapters
open OpenWrapper.Evolution OpenWrapper.StoreContract OpenWrapper.StatementRules
open OpenWrapper.Claimants OpenWrapper.WorkingStore OpenWrapper.CreationAmbiguity
open OpenWrapper.Suspended OpenWrapper.Suspended.Prog

inductive CreateCall where
  | http (headers : HeaderMap) (body : Handlers.CreatePaymentBody)
  | grpc (req : Grpc.CreatePaymentRequest)

namespace CreateCall

def program (app : App) : CreateCall → Gw Reply
  | http headers body => Handlers.createPayment app headers body
  | grpc req => Grpc.createPayment app req

def transport : CreateCall → Transport
  | http _ _ => .http
  | grpc _ => .grpc

/-- The request that the store is asked to begin, with its owner. -/
def accepted (app : App) : CreateCall → Option (PaymentRequest × Option ApiKeyInfo)
  | http headers body =>
    match Handlers.parseCreatePayment headers body with
    | .error _ => none
    | .ok request =>
      match resolvePaymentProvider app.env app.providers request.provider.asStr headers with
      | .error _ => none
      | .ok _ => some (request, Handlers.owner headers)
  | grpc req =>
    match Grpc.parseCreatePayment req with
    | .error _ => none
    | .ok request => (app.providers request.provider.asStr).map fun _ => (request, none)

end CreateCall

/-- Each effect has a draw of its own; the provider's answer is given. -/
def answer (fp : PaymentRequest → String) (b : Backend) (draws : ℕ → Draw)
    (returned : Except OpenWrapperError PaymentResult) (n : ℕ) (L : Ledger) :
    (e : Effect) → Ledger × e.Response
  | .store op => execOp fp b (draws n) L op
  | .createPayment _ _ _ => (L, returned)
  | .now => (L, (draws n).clock 0)
  | e => (L, idle e)

def served (app : App) (b : Backend) (draws : ℕ → Draw)
    (returned : Except OpenWrapperError PaymentResult) (call : CreateCall) (L : Ledger) :
    Ledger × Reply :=
  serial (answer app.fingerprint b draws returned) 0 L (call.program app)

/-- The view has what the row has. -/
structure ViewTold (view : PaymentView) (row : PaymentRow) : Prop where
  id : row.id = .stored view.paymentId
  status : row.status = .stored view.status
  providerReference : row.providerReference = view.providerReference
  nextAction : row.nextActionJson = view.nextAction.map .stored
  merchantReference : row.merchantReference = view.merchantReference
  amount : row.amountMinorUnits = view.amountMinorUnits
  currency : ∃ c, row.currency = .stored c ∧ c.code = view.currency

structure ResponseTold (response : GrpcPayment) (row : PaymentRow) : Prop where
  id : row.id = .stored response.payment.id
  status : row.status = .stored response.payment.status
  providerReference : row.providerReference = response.payment.providerReference
  nextAction : row.nextActionJson = response.nextAction.map .stored
  merchantReference : row.merchantReference = response.payment.merchantReference
  amount : row.amountMinorUnits = response.payment.amount.minorUnits
  currency : row.currency = .stored response.payment.currency
  createdAt : row.createdAt = response.payment.createdAt
  updatedAt : row.updatedAt = response.payment.updatedAt

/-- A success response is what is stored. -/
def Truthful (L : Ledger) : Reply → Prop
  | .http _ (.payment view) => ∃ row ∈ L.payments.rows, ViewTold view row
  | .grpc (.ok response) => ∃ row ∈ L.payments.rows, ResponseTold response row
  | _ => True

/-- The statements of a write after the first are executed: Postgres has one,
SQLite reads the row before. -/
def Executed : Backend → Draw → Prop
  | .sqlite, d => d.fails 1 = false ∧ d.fails 2 = false
  | .postgres, d => d.fails 1 = false

/-- The row has the instant for both of its timestamps. -/
def Dated (b : Backend) (draws : ℕ → Draw) (instant : Instant) : Prop :=
  b.keep ((draws 0).clock 1) = instant ∧ b.keep ((draws 2).clock 0) = instant

/-- What the answer to a new payment depends on. -/
def Fresh (b : Backend) (draws : ℕ → Draw) (request : PaymentRequest) :
    Transport → Except OpenWrapperError PaymentResult → Prop
  | .http, .ok result => Executed b (draws 2) → result.amount = request.amount
  | .http, .error _ => True
  | .grpc, .ok result => Executed b (draws 2) → Dated b draws result.createdAt
  | .grpc, .error e => e.isDefiniteNonOccurrence = false →
    Executed b (draws 2) ∧ Dated b draws ((draws 3).clock 0)

/-- The next action of a payment that exists is none, or is read. -/
def ActionRead (d : Draw) (row : PaymentRow) : Prop :=
  row.nextActionJson = none ∨
    (d.fails 0 = false ∧ ∃ action, row.nextActionJson = some (.stored action))

/-- From what the store makes of the idempotency key. -/
def Begun (app : App) (b : Backend) (draws : ℕ → Draw)
    (returned : Except OpenWrapperError PaymentResult) (t : Transport) (L : Ledger)
    (request : PaymentRequest) (owner : Option ApiKeyInfo) : Prop :=
  match (execOp app.fingerprint b (draws 0) L (.beginPaymentWithOwner request owner)).2 with
  | .ok (.proceed _) => Fresh b draws request t returned
  | .ok (.returnExisting payment) =>
    ∀ row ∈ L.payments.rows, row.id = .stored payment.id → ActionRead (draws 1) row
  | _ => True

def Told (app : App) (b : Backend) (draws : ℕ → Draw)
    (returned : Except OpenWrapperError PaymentResult) (call : CreateCall) (L : Ledger) : Prop :=
  match call.accepted app with
  | none => True
  | some (request, owner) => Begun app b draws returned call.transport L request owner

section Statements

variable {fp : PaymentRequest → String} {b : Backend} {d : Draw} {L : Ledger} {id : PaymentId}
  {request : PaymentRequest} {owner : Option ApiKeyInfo} {row : PaymentRow}

/-- The row that a claim inserts, with the second reading of its clock. -/
theorem begin_proceed
    (began : (execOp fp b d L (.beginPaymentWithOwner request owner)).2 = .ok (.proceed id)) :
    (newRow fp request owner id (d.clock 1)).kept b ∈
      (execOp fp b d L (.beginPaymentWithOwner request owner)).1.payments.rows := by
  have ends : Ends (exec b d) (fun s r => r = .ok (.proceed id) →
      (newRow fp request owner id (d.clock 1)).kept b ∈ s.close.payments.rows) 0 (Session.on L)
      (PaymentStore.beginPaymentWithOwner fp request owner) := by
    simp only [PaymentStore.beginPaymentWithOwner, Sql.newPaymentId, Sql.now, Sql.write,
      Sql.selectByKey, perform_bind]
    apply ends_newPaymentId
    apply ends_now
    have failed (e : StoreError) :
        (.error e : StoreResult BeginOutcome) ≠ .ok (.proceed id) := by
      intro proceeded
      cases proceeded
    refine ends_write (fun proceeded => absurd proceeded (failed _)) (fun _ => ?_)
      (fun L' rows performed => ?_)
    · refine ends_selectByKey (fun proceeded => absurd proceeded (failed _)) (fun row _ _ => ?_)
        (fun _ proceeded => absurd proceeded (failed _))
      dsimp only
      cases row.toPayment with
      | none => exact fun proceeded => absurd proceeded (failed _)
      | some payment =>
        dsimp only
        split
        · intro existing
          cases existing
        · intro conflict
          cases conflict
    · intro proceeded
      cases proceeded
      simp only [Write.perform] at performed
      split at performed
      next payments inserted =>
        cases performed
        have rows := (Table.insert_eq_some.mp inserted).2
        show _ ∈ payments.rows
        rw [rows]
        exact List.mem_append_right _ (List.mem_singleton_self _)
      · cases performed
  exact ends began

/-- The clock does not fail. -/
theorem exec_now (n : ℕ) (s : Session) : exec b d n s .now = (s, d.clock n) := by
  cases fails : d.fails n <;> simp [exec, Stmt.refused, Stmt.run, fails]

theorem exec_run {n : ℕ} (executed : d.fails n = false) (s : Session) (e : Stmt) :
    exec b d n s e = e.run b d n s := by
  unfold exec
  rw [executed]

theorem exec_refused {n : ℕ} {s : Session} {e : Stmt} {r : e.Response} (fails : d.fails n = true)
    (refused : e.refused = some r) : exec b d n s e = (s, r) := by
  unfold exec
  rw [fails, refused]

/-- The row of a claim. -/
structure Claim (L : Ledger) (id : PaymentId) (row : PaymentRow) : Prop where
  mem : row ∈ L.payments.rows
  is : row.id = .stored id
  pending : row.status = .stored .pending
  unnamed : row.providerReference = none

theorem Claim.found (claim : Claim L id row) :
    (L.payments.rows.find? fun row => row.id == .stored id) = some row :=
  find_payment claim.mem claim.is

/-- A write of both stores: SQLite reads the row, and then both update it. -/
theorem record_executed (claim : Claim L id row) (executed : Executed b d) (reference : String)
    (u : CreationStatus) (action : Option PaymentNextAction) :
    execOp fp b d L (.recordCreationResult id reference u.toStatus action) =
      (L.updatePayment (.stored id) false
        ((creationEdit reference u.toStatus action (d.clock 0)).kept b), .ok ()) := by
  have legal : PaymentStatus.Legal .pending u.toStatus := by cases u <;> rfl
  cases b with
  | sqlite =>
    obtain ⟨read, written⟩ := executed
    simp [execOp, program, SqliteStore.recordCreationResult, exec_now, exec_run read,
      exec_run written, Stmt.run, Session.on, claim.found, claim.pending, Text.parse, legal,
      claim.unnamed, Write.perform, Session.close, affected_of_mem claim.mem claim.is]
  | postgres =>
    have written : d.fails 1 = false := executed
    simp [execOp, program, PostgresStore.recordCreationResult, exec_now, exec_run written,
      Stmt.run, Session.on, Write.perform, Session.close]

theorem record_failed (fp : PaymentRequest → String) (claim : Claim L id row)
    (failed : ¬ Executed b d) (reference : String) (u : CreationStatus)
    (action : Option PaymentNextAction) :
    (execOp fp b d L (.recordCreationResult id reference u.toStatus action)).2 =
      .error .internal := by
  have legal : PaymentStatus.Legal .pending u.toStatus := by cases u <;> rfl
  cases b with
  | sqlite =>
    cases read : d.fails 1 with
    | true =>
      simp [execOp, program, SqliteStore.recordCreationResult, exec_now,
        exec_refused (b := .sqlite) (e := .selectPayment id) read rfl, internalErr]
    | false =>
      have written : d.fails 2 = true := by
        by_contra run
        exact failed ⟨read, by simpa using run⟩
      simp [execOp, program, SqliteStore.recordCreationResult, exec_now, exec_run read, Stmt.run,
        Session.on, claim.found, claim.pending, Text.parse, legal, claim.unnamed, internalErr,
        exec_refused (b := .sqlite) (e := .write _) written rfl]
  | postgres =>
    have written : d.fails 1 = true := by
      by_contra run
      exact failed (by simpa [Executed] using run)
    simp [execOp, program, PostgresStore.recordCreationResult, exec_now, internalErr,
      exec_refused (b := .postgres) (e := .write _) written rfl]

theorem mark_executed (claim : Claim L id row) (executed : Executed b d) :
    execOp fp b d L (.markUnknown id) =
      (L.updatePayment (.stored id) false ((statusEdit .unknown (d.clock 0)).kept b), .ok ()) := by
  have legal : PaymentStatus.Legal .pending .unknown := rfl
  cases b with
  | sqlite =>
    obtain ⟨read, written⟩ := executed
    simp [execOp, program, SqliteStore.markUnknown, SqliteStore.updateStatusOnly, exec_now,
      exec_run read, exec_run written, Stmt.run, Session.on, claim.found, claim.pending,
      Text.parse, legal, Write.perform, Session.close]
  | postgres =>
    have written : d.fails 1 = false := executed
    simp [execOp, program, PostgresStore.markUnknown, PostgresStore.updateStatusOnly, exec_now,
      exec_run written, Stmt.run, Session.on, Write.perform, Session.close]

theorem mark_failed (claim : Claim L id row) (failed : ¬ Executed b d) :
    execOp fp b d L (.markUnknown id) = (L, .error .internal) := by
  have legal : PaymentStatus.Legal .pending .unknown := rfl
  cases b with
  | sqlite =>
    cases read : d.fails 1 with
    | true =>
      simp [execOp, program, SqliteStore.markUnknown, SqliteStore.updateStatusOnly, exec_now,
        exec_refused (b := .sqlite) (e := .selectPayment id) read rfl, internalErr, Session.on,
        Session.close]
    | false =>
      have written : d.fails 2 = true := by
        by_contra run
        exact failed ⟨read, by simpa using run⟩
      simp [execOp, program, SqliteStore.markUnknown, SqliteStore.updateStatusOnly, exec_now,
        exec_run read, Stmt.run, Session.on, claim.found, claim.pending, Text.parse, legal,
        internalErr, exec_refused (b := .sqlite) (e := .write _) written rfl, Session.close]
  | postgres =>
    have written : d.fails 1 = true := by
      by_contra run
      exact failed (by simpa [Executed] using run)
    simp [execOp, program, PostgresStore.markUnknown, PostgresStore.updateStatusOnly, exec_now,
      internalErr, exec_refused (b := .postgres) (e := .write _) written rfl, Session.on,
      Session.close]

end Statements

section Rows

variable {fp : PaymentRequest → String} {b : Backend} {d : Draw} {L : Ledger} {id : PaymentId}
  {request : PaymentRequest} {owner : Option ApiKeyInfo} {row : PaymentRow} {payment : Payment}

theorem Claim.updated (claim : Claim L id row) (edit : PaymentEdit) :
    edit.apply row ∈ (L.updatePayment (.stored id) false edit).payments.rows := by
  have changed : Table.change (targets (.stored id) false) edit.apply row = edit.apply row :=
    Table.change_of_pos (by simp [targets, claim.is])
  rw [← changed]
  exact List.mem_map_of_mem claim.mem

/-- The row is the only one with its identifier. -/
theorem truthful_view (view : PaymentView) (code : ℕ) (mem : row ∈ L.payments.rows)
    (is : row.id = .stored view.paymentId) :
    Truthful L (.http code (.payment view)) ↔ ViewTold view row := by
  constructor
  · rintro ⟨other, mem', told⟩
    rw [row_eq_of_id mem mem' (is.trans told.id.symm)]
    exact told
  · intro told
    exact ⟨row, mem, told⟩

theorem truthful_response (response : GrpcPayment) (mem : row ∈ L.payments.rows)
    (is : row.id = .stored response.payment.id) :
    Truthful L (.grpc (.ok response)) ↔ ResponseTold response row := by
  constructor
  · rintro ⟨other, mem', told⟩
    rw [row_eq_of_id mem mem' (is.trans told.id.symm)]
    exact told
  · intro told
    exact ⟨row, mem, told⟩

theorem code_injective {c c' : Currency} (same : c.code = c'.code) : c = c' := by
  have parsed := Currency.parse_code c
  rw [same, Currency.parse_code c'] at parsed
  exact (Except.ok.inj parsed).symm

theorem amount_ext {m m' : Money} (units : m.minorUnits = m'.minorUnits)
    (currency : m.currency = m'.currency) : m = m' := by
  cases m
  cases m'
  cases units
  cases currency
  rfl

/-- The row of a claim with the provider's result. -/
def createdRow (fp : PaymentRequest → String) (b : Backend) (request : PaymentRequest)
    (owner : Option ApiKeyInfo) (id : PaymentId) (began recorded : Instant)
    (result : PaymentResult) : PaymentRow :=
  ((creationEdit result.providerReference result.status.toStatus result.nextAction recorded).kept
    b).apply ((newRow fp request owner id began).kept b)

def unknownRow (fp : PaymentRequest → String) (b : Backend) (request : PaymentRequest)
    (owner : Option ApiKeyInfo) (id : PaymentId) (began marked : Instant) : PaymentRow :=
  ((statusEdit .unknown marked).kept b).apply ((newRow fp request owner id began).kept b)

variable {began now : Instant} {result : PaymentResult}

theorem fresh_view : ViewTold (.fromFresh id result request.merchantReference)
    (createdRow fp b request owner id began now result) ↔ result.amount = request.amount := by
  constructor
  · intro told
    obtain ⟨c, stored, code⟩ := told.currency
    have same : request.amount.currency = c := Text.stored.inj stored
    have currency : c = result.amount.currency := code_injective code
    exact amount_ext told.amount.symm (same.trans currency).symm
  · intro same
    refine ⟨rfl, rfl, rfl, rfl, rfl, ?_, request.amount.currency, rfl, ?_⟩
    · exact congrArg Money.minorUnits same.symm
    · exact congrArg (fun m => Currency.code m.currency) same.symm

theorem fresh_response {instant : Instant} : ResponseTold
      ⟨Grpc.freshPayment request id (some result.providerReference) result.status.toStatus instant,
        result.nextAction⟩ (createdRow fp b request owner id began now result) ↔
    b.keep began = instant ∧ b.keep now = instant := by
  constructor
  · intro told
    exact ⟨told.createdAt, told.updatedAt⟩
  · rintro ⟨created, updated⟩
    exact ⟨rfl, rfl, rfl, rfl, rfl, rfl, rfl, created, updated⟩

theorem unknown_response {instant : Instant} : ResponseTold
      ⟨Grpc.freshPayment request id none .unknown instant, none⟩
      (unknownRow fp b request owner id began now) ↔
    b.keep began = instant ∧ b.keep now = instant := by
  constructor
  · intro told
    exact ⟨told.createdAt, told.updatedAt⟩
  · rintro ⟨created, updated⟩
    exact ⟨rfl, rfl, rfl, rfl, rfl, rfl, rfl, created, updated⟩

theorem currency_of_toPayment (parsed : row.toPayment = some payment) :
    row.currency = .stored payment.currency := by
  unfold PaymentRow.toPayment at parsed
  split at parsed
  next currency id key provider status is named from_ keyed stored =>
    split at parsed
    next amount bounded =>
      cases parsed
      exact Text.parse_eq_some.mp is
    · cases parsed
  · cases parsed

/-- A payment that was read is told but for its next action. -/
theorem read_view (parsed : row.toPayment = some payment) (action : Option PaymentNextAction) :
    ViewTold { PaymentView.ofPayment payment with nextAction := action } row ↔
      row.nextActionJson = action.map .stored := by
  have from_ := readFrom_of_toPayment parsed
  constructor
  · intro told
    exact told.nextAction
  · intro same
    exact ⟨from_.id, from_.status, from_.providerReference, same, from_.merchantReference,
      from_.amount, payment.currency, currency_of_toPayment parsed, rfl⟩

theorem read_response (parsed : row.toPayment = some payment) (action : Option PaymentNextAction) :
    ResponseTold ⟨payment, action⟩ row ↔ row.nextActionJson = action.map .stored := by
  have from_ := readFrom_of_toPayment parsed
  constructor
  · intro told
    exact told.nextAction
  · intro same
    exact ⟨from_.id, from_.status, from_.providerReference, same, from_.merchantReference,
      from_.amount, currency_of_toPayment parsed, from_.createdAt, from_.updatedAt⟩

/-- An action that is not read is told as none. -/
theorem action_told (fp : PaymentRequest → String) (b : Backend) (d : Draw)
    (mem : row ∈ L.payments.rows) (is : row.id = .stored id) :
    (execOp fp b d L (.getNextAction id)).1 = L ∧
      (row.nextActionJson =
          (Grpc.okOrNone (execOp fp b d L (.getNextAction id)).2).map .stored ↔
        ActionRead d row) := by
  have found := find_payment mem is
  unfold ActionRead
  cases fails : d.fails 0 with
  | true =>
    simp [execOp, program, PaymentStore.getNextAction, internalErr, Session.on, Session.close,
      exec_refused (b := b) (e := .selectPayment id) fails rfl, Grpc.okOrNone]
  | false =>
    cases stored : row.nextActionJson with
    | none =>
      simp [execOp, program, PaymentStore.getNextAction, Session.on, Session.close, exec_run fails,
        Stmt.run, found, stored, Grpc.okOrNone]
    | some text =>
      cases text <;> simp [execOp, program, PaymentStore.getNextAction, Session.on, Session.close,
        exec_run fails, Stmt.run, found, stored, Grpc.okOrNone, internalErr]

end Rows

section Answers

variable {fp : PaymentRequest → String} {b : Backend} {draws : ℕ → Draw} {L : Ledger}
  {id : PaymentId} {request : PaymentRequest} {owner : Option ApiKeyInfo} {provider : Provider}
  {returned : Except OpenWrapperError PaymentResult}

/-- What the run of a program from its `n`th effect on ends in. -/
def Tells (fp : PaymentRequest → String) (b : Backend) (draws : ℕ → Draw)
    (returned : Except OpenWrapperError PaymentResult) (n : ℕ) (L : Ledger) (p : Gw Reply) : Prop :=
  Ends (answer fp b draws returned) Truthful n L p

theorem ends_silent {n : ℕ} {r : Reply} (silent : ∀ L, Truthful L r) :
    Ends (answer fp b draws returned) Truthful n L (pure r) := silent L

theorem apiError_silent (e : OpenWrapperError) (L : Ledger) :
    Truthful L (Handlers.apiError e) := by
  unfold Handlers.apiError
  split <;> trivial

theorem storeError_silent (e : StoreError) (L : Ledger) : Truthful L (Handlers.storeError e) :=
  apiError_silent _ L

theorem storeStatus_silent (e : StoreError) (L : Ledger) :
    Truthful L (Grpc.storeStatus e) := trivial

theorem getPayment_read {d : Draw} {payment : Payment}
    (read : (execOp fp b d L (.getPayment id)).2 = .ok (some payment)) :
    ∃ row ∈ L.payments.rows, row.id = .stored id ∧ row.toPayment = some payment := by
  have outcome := execOp_outcome fp b d L (.getPayment id)
  rw [read, getPayment_ledger] at outcome
  cases outcome with
  | found _ row payment mem is parsed => exact ⟨row, mem, is, parsed⟩

theorem http_new (claim : Claim L id ((newRow fp request owner id ((draws 0).clock 1)).kept b)) :
    Tells fp b draws returned 1 L (Handlers.createClaimed provider request id) ↔
      Fresh b draws request .http returned := by
  unfold Tells
  simp only [Handlers.createClaimed, Gw.createPayment, Gw.recordCreationResult, Gw.markFailed,
    Gw.markUnknown, Gw.getPayment, perform_bind]
  rw [ends_call]
  simp only [answer]
  cases returned with
  | ok result =>
    simp only [ends_call, answer]
    by_cases executed : Executed b (draws 2)
    · rw [record_executed claim executed]
      have mem := claim.updated ((creationEdit result.providerReference result.status.toStatus
        result.nextAction ((draws 2).clock 0)).kept b)
      have told := truthful_view (.fromFresh id result request.merchantReference) 201 mem rfl
      exact told.trans (fresh_view.trans ⟨fun same _ => same, fun same => same executed⟩)
    · have refused := record_failed fp claim executed result.providerReference result.status
        result.nextAction
      split
      next recorded =>
        rw [refused] at recorded
        cases recorded
      next e _ =>
        exact iff_of_true (storeError_silent e _) fun written => absurd written executed
  | error e =>
    refine iff_of_true ?_ trivial
    dsimp only
    split
    · simp only [ends_call, answer]
      split
      · exact apiError_silent _ _
      next s _ => exact storeError_silent s _
    · simp only [ends_call, answer]
      by_cases executed : Executed b (draws 2)
      · rw [mark_executed claim executed]
        simp only [ends_call, answer, getPayment_ledger]
        have mem := claim.updated ((statusEdit .unknown ((draws 2).clock 0)).kept b)
        split
        next s _ => exact ends_silent (storeError_silent s)
        · exact ends_silent (apiError_silent _)
        next payment read =>
          obtain ⟨row, mem', is, parsed⟩ := getPayment_read read
          have same := row_eq_of_id mem mem' is.symm
          refine ⟨row, mem', (read_view parsed none).mpr ?_⟩
          rw [← same]
          rfl
      · rw [mark_failed claim executed]
        exact ends_silent (storeError_silent .internal)

theorem grpc_new (claim : Claim L id ((newRow fp request owner id ((draws 0).clock 1)).kept b)) :
    Tells fp b draws returned 1 L (Grpc.createClaimed provider request id) ↔
      Fresh b draws request .grpc returned := by
  unfold Tells
  simp only [Grpc.createClaimed, Gw.createPayment, Gw.recordCreationResult, Gw.markFailed,
    Gw.markUnknown, Gw.now, perform_bind]
  rw [ends_call]
  simp only [answer]
  cases returned with
  | ok result =>
    simp only [ends_call, answer]
    by_cases executed : Executed b (draws 2)
    · rw [record_executed claim executed]
      have mem := claim.updated ((creationEdit result.providerReference result.status.toStatus
        result.nextAction ((draws 2).clock 0)).kept b)
      have told := truthful_response ⟨Grpc.freshPayment request id (some result.providerReference)
        result.status.toStatus result.createdAt, result.nextAction⟩ mem rfl
      exact told.trans (fresh_response.trans ⟨fun dated _ => dated, fun dated => dated executed⟩)
    · have refused := record_failed fp claim executed result.providerReference result.status
        result.nextAction
      split
      next e _ => exact iff_of_true (storeStatus_silent e _) fun written => absurd written executed
      next recorded =>
        rw [refused] at recorded
        cases recorded
  | error e =>
    dsimp only
    split
    next definite =>
      refine iff_of_true trivial fun indefinite => ?_
      rw [definite] at indefinite
      cases indefinite
    next indefinite =>
      have ambiguous : e.isDefiniteNonOccurrence = false := by simpa using indefinite
      simp only [ends_call, answer]
      by_cases executed : Executed b (draws 2)
      · rw [mark_executed claim executed]
        have mem := claim.updated ((statusEdit .unknown ((draws 2).clock 0)).kept b)
        have told := truthful_response ⟨Grpc.freshPayment request id none .unknown
          ((draws 3).clock 0), none⟩ mem rfl
        exact told.trans (unknown_response.trans
          ⟨fun dated _ => ⟨executed, dated⟩, fun fresh => (fresh ambiguous).2⟩)
      · rw [mark_failed claim executed]
        refine iff_of_false ?_ fun fresh => executed (fresh ambiguous).1
        intro truthful
        have told := (truthful_response _ claim.mem rfl).mp truthful
        cases told.status

/-- A payment that exists is told with the action that is read. -/
theorem existing_told (fp : PaymentRequest → String) (b : Backend) (draws : ℕ → Draw)
    {payment : Payment} {row : PaymentRow} (mem : row ∈ L.payments.rows)
    (parsed : row.toPayment = some payment) :
    (Truthful (execOp fp b (draws 1) L (.getNextAction payment.id)).1
        (.http 200 (.payment { PaymentView.ofPayment payment with
          nextAction := Grpc.okOrNone (execOp fp b (draws 1) L (.getNextAction payment.id)).2 })) ↔
      ActionRead (draws 1) row) ∧
    (Truthful (execOp fp b (draws 1) L (.getNextAction payment.id)).1
        (.grpc (.ok ⟨payment,
          Grpc.okOrNone (execOp fp b (draws 1) L (.getNextAction payment.id)).2⟩)) ↔
      ActionRead (draws 1) row) := by
  have is := (readFrom_of_toPayment parsed).id
  obtain ⟨same, told⟩ := action_told fp b (draws 1) mem is
  rw [same]
  exact ⟨(truthful_view _ _ mem is).trans ((read_view parsed _).trans told),
    (truthful_response _ mem is).trans ((read_response parsed _).trans told)⟩

/-- The row of an existing payment is the one with its identifier. -/
theorem actionRead_iff {payment : Payment} {row : PaymentRow} {d : Draw}
    (mem : row ∈ L.payments.rows) (is : row.id = .stored payment.id) :
    ActionRead d row ↔
      ∀ row ∈ L.payments.rows, row.id = .stored payment.id → ActionRead d row := by
  constructor
  · intro read other mem' is'
    rw [← row_eq_of_id mem mem' (is.trans is'.symm)]
    exact read
  · intro read
    exact read row mem is

end Answers

section Claim

variable {app : App} {b : Backend} {draws : ℕ → Draw}
  {returned : Except OpenWrapperError PaymentResult} {call : CreateCall} {L : Ledger}
  {request : PaymentRequest} {owner : Option ApiKeyInfo} {id : PaymentId} {payment : Payment}

theorem begun_claim
    (began : (execOp app.fingerprint b (draws 0) L (.beginPaymentWithOwner request owner)).2 =
      .ok (.proceed id)) :
    Claim (execOp app.fingerprint b (draws 0) L (.beginPaymentWithOwner request owner)).1 id
      ((newRow app.fingerprint request owner id ((draws 0).clock 1)).kept b) :=
  ⟨begin_proceed began, rfl, rfl, rfl⟩

theorem begun_existing
    (began : (execOp app.fingerprint b (draws 0) L (.beginPaymentWithOwner request owner)).2 =
      .ok (.returnExisting payment)) :
    (execOp app.fingerprint b (draws 0) L (.beginPaymentWithOwner request owner)).1 = L ∧
      ∃ row ∈ L.payments.rows, row.toPayment = some payment := by
  have outcome :=
    execOp_outcome app.fingerprint b (draws 0) L (.beginPaymentWithOwner request owner)
  generalize (execOp app.fingerprint b (draws 0) L (.beginPaymentWithOwner request owner)).1 = L'
    at outcome
  rw [began] at outcome
  cases outcome with
  | existing _ _ row payment mem _ parsed _ => exact ⟨rfl, row, mem, parsed⟩

theorem http_told {headers : HeaderMap} {body : Handlers.CreatePaymentBody} {provider : Provider}
    (parsed : Handlers.parseCreatePayment headers body = .ok request)
    (resolved : resolvePaymentProvider app.env app.providers request.provider.asStr headers =
      .ok provider) :
    Ends (answer app.fingerprint b draws returned) Truthful 0 L
        (Handlers.createPayment app headers body) ↔
      Begun app b draws returned .http L request (Handlers.owner headers) := by
  unfold Handlers.createPayment Begun
  simp only [parsed, resolved, Gw.begin, Gw.getNextAction, perform_bind]
  rw [ends_call]
  simp only [answer]
  cases began : (execOp app.fingerprint b (draws 0) L
      (.beginPaymentWithOwner request (Handlers.owner headers))).2 with
  | error e => exact iff_of_true (ends_silent (storeError_silent e)) trivial
  | ok outcome =>
    cases outcome with
    | conflict => exact iff_of_true (ends_silent (apiError_silent _)) trivial
    | proceed id => exact http_new (begun_claim began)
    | returnExisting payment =>
      obtain ⟨same, row, mem, read⟩ := begun_existing began
      have told := (existing_told app.fingerprint b draws mem read).1
      rw [same]
      refine Iff.trans ?_ (told.trans (actionRead_iff mem (readFrom_of_toPayment read).id))
      rw [ends_call]
      simp only [answer]
      cases (execOp app.fingerprint b (draws 1) L (.getNextAction payment.id)).2 with
      | error e => exact Iff.rfl
      | ok found => cases found <;> exact Iff.rfl

theorem grpc_told {req : Grpc.CreatePaymentRequest} {provider : Provider}
    (parsed : Grpc.parseCreatePayment req = .ok request)
    (resolved : app.providers request.provider.asStr = some provider) :
    Ends (answer app.fingerprint b draws returned) Truthful 0 L (Grpc.createPayment app req) ↔
      Begun app b draws returned .grpc L request none := by
  unfold Grpc.createPayment Grpc.createValidated Begun
  simp only [parsed, resolved, Gw.begin, Gw.getNextAction, perform_bind]
  rw [ends_call]
  simp only [answer]
  cases began : (execOp app.fingerprint b (draws 0) L
      (.beginPaymentWithOwner request none)).2 with
  | error e => exact iff_of_true (ends_silent (storeStatus_silent e)) trivial
  | ok outcome =>
    cases outcome with
    | conflict => exact iff_of_true trivial trivial
    | proceed id => exact grpc_new (begun_claim began)
    | returnExisting payment =>
      obtain ⟨same, row, mem, read⟩ := begun_existing began
      have told := (existing_told app.fingerprint b draws mem read).2
      rw [same]
      exact told.trans (actionRead_iff mem (readFrom_of_toPayment read).id)

theorem stored_truth_iff (app : App) (b : Backend) (draws : ℕ → Draw)
    (returned : Except OpenWrapperError PaymentResult) (call : CreateCall) (L : Ledger) :
    Truthful (served app b draws returned call L).1 (served app b draws returned call L).2 ↔
      Told app b draws returned call L := by
  show Ends (answer app.fingerprint b draws returned) Truthful 0 L (call.program app) ↔ _
  unfold Told
  cases call with
  | http headers body =>
    cases parsed : Handlers.parseCreatePayment headers body with
    | error e =>
      have refused : (CreateCall.http headers body).accepted app = none := by
        simp only [CreateCall.accepted, parsed]
      rw [refused, CreateCall.program, Handlers.createPayment, parsed]
      exact iff_of_true (ends_silent (apiError_silent e)) trivial
    | ok request =>
      cases resolved : resolvePaymentProvider app.env app.providers request.provider.asStr
        headers with
      | error e =>
        have refused : (CreateCall.http headers body).accepted app = none := by
          simp only [CreateCall.accepted, parsed, resolved]
        simp only [refused, CreateCall.program, Handlers.createPayment, parsed, resolved]
        exact iff_of_true (ends_silent (apiError_silent e)) trivial
      | ok provider =>
        have accepted : (CreateCall.http headers body).accepted app =
            some (request, Handlers.owner headers) := by
          simp only [CreateCall.accepted, parsed, resolved]
        rw [accepted]
        exact http_told parsed resolved
  | grpc req =>
    cases parsed : Grpc.parseCreatePayment req with
    | error e =>
      have refused : (CreateCall.grpc req).accepted app = none := by
        simp only [CreateCall.accepted, parsed]
      rw [refused, CreateCall.program, Grpc.createPayment, parsed]
      exact iff_of_true trivial trivial
    | ok request =>
      cases resolved : app.providers request.provider.asStr with
      | none =>
        have refused : (CreateCall.grpc req).accepted app = none := by
          simp only [CreateCall.accepted, parsed, resolved, Option.map_none]
        simp only [refused, CreateCall.program, Grpc.createPayment, parsed, resolved]
        exact iff_of_true trivial trivial
      | some provider =>
        have accepted : (CreateCall.grpc req).accepted app = some (request, none) := by
          simp only [CreateCall.accepted, parsed, resolved, Option.map_some]
        rw [accepted]
        exact grpc_told parsed resolved

end Claim

section Echoes

variable {a : Adapter} {id : PaymentId} {request : PaymentRequest} {x : Exchange} {now : Instant}
  {result : PaymentResult}

/-- A result is of the amount asked for. -/
def Echoes (request : PaymentRequest) (returned : Except OpenWrapperError PaymentResult) : Prop :=
  ∀ result, returned = .ok result → result.amount = request.amount

theorem echoes_error (e : OpenWrapperError) : Echoes request (.error e) := by
  intro result is
  cases is

theorem echoes_ok (same : result.amount = request.amount) : Echoes request (.ok result) := by
  intro result' is
  cases is
  exact same

/-- Whatever the provider answers, and whenever. -/
theorem createPayment_echoes (a : Adapter) (id : PaymentId) (h : History Outcall.Response) :
    Always (fun _ _ => True) (fun _ returned => Echoes request returned)
      (a.createPayment id request) h := by
  cases a with
  | paymob config =>
    rw [Adapter.createPayment, Paymob.createPayment]
    split
    · exact echoes_error _
    · apply always_bind _ _ (always_true _ h)
      intro h' read _ _
      cases read with
      | error e => exact echoes_error e
      | ok intention => exact ⟨trivial, fun now => echoes_ok rfl⟩
  | fawry config =>
    rw [Adapter.createPayment, Fawry.createPayment]
    split
    · exact echoes_error _
    · apply always_bind _ _ (always_true _ h)
      intro h' read _ _
      cases read with
      | error e => exact echoes_error e
      | ok charge =>
        cases given : charge.referenceNumber with
        | none =>
          simp only [given]
          exact echoes_error _
        | some reference =>
          simp only [given]
          exact ⟨trivial, fun now => echoes_ok rfl⟩
  | stripe config =>
    rw [Adapter.createPayment, Stripe.createPayment]
    split
    · exact echoes_error _
    · apply always_bind _ _ (always_true _ h)
      intro h' read _ _
      cases read with
      | error e => exact echoes_error e
      | ok session =>
        cases given : session.url with
        | none =>
          simp only [given]
          exact echoes_error _
        | some url =>
          simp only [given]
          exact ⟨trivial, fun now => echoes_ok rfl⟩

/-- An adapter's result has the amount of the request: over HTTP a new payment
is always told. -/
theorem asked_amount (made : (asked a id request x now).2 = .ok result) :
    result.amount = request.amount :=
  ends_of_always (outcall x now) (createPayment_echoes a id []) 0 false result made

end Echoes

section Samples

def order : Grpc.CreatePaymentRequest :=
  ⟨"order-1", "stripe", 100, "USD", some ⟨"0100", none, none⟩, none, none, none, []⟩

def ordered : PaymentRequest :=
  { purchase with
    provider := ProviderId.stripe
    amount := .hundred .usd }

theorem order_told (draws : ℕ → Draw) {returned : Except OpenWrapperError PaymentResult}
    (began : draws 0 = Gateway.quietDraw 1) :
    Truthful (served Gateway.shop .sqlite draws returned (.grpc order) .empty).1
        (served Gateway.shop .sqlite draws returned (.grpc order) .empty).2 ↔
      Fresh .sqlite draws ordered .grpc returned := by
  have parsed : Grpc.parseCreatePayment order = .ok ordered := by decide +kernel
  have resolved : Gateway.shop.providers ordered.provider.asStr = some Gateway.stripeAccount := by
    decide +kernel
  have proceeds : (execOp Gateway.shop.fingerprint .sqlite (draws 0) .empty
      (.beginPaymentWithOwner ordered none)).2 = .ok (.proceed ⟨1⟩) := by
    rw [began]
    decide +kernel
  have told : Ends (answer Gateway.shop.fingerprint .sqlite draws returned) Truthful 0 .empty
      (Grpc.createPayment Gateway.shop order) ↔
      Begun Gateway.shop .sqlite draws returned .grpc .empty ordered none :=
    grpc_told parsed resolved
  unfold Begun at told
  rw [proceeds] at told
  exact told

/-- After a timeout the store fails to mark the payment: the client is told
`Unknown` of a row that says `Pending`. -/
def unmarked (n : ℕ) : Draw :=
  if n = 2 then { Gateway.quietDraw 0 with fails := fun _ => true } else Gateway.quietDraw 1

/-- Also where nothing fails, the provider's time is not the row's. -/
theorem untold :
    ¬ Truthful (served Gateway.shop .sqlite unmarked (.error (.timeout "stripe" 10000))
          (.grpc order) .empty).1
        (served Gateway.shop .sqlite unmarked (.error (.timeout "stripe" 10000))
          (.grpc order) .empty).2 ∧
    ¬ Truthful (served Gateway.shop .sqlite (fun _ => Gateway.quietDraw 1)
          (.ok { Gateway.orderResult with createdAt := ⟨1⟩ }) (.grpc order) .empty).1
        (served Gateway.shop .sqlite (fun _ => Gateway.quietDraw 1)
          (.ok { Gateway.orderResult with createdAt := ⟨1⟩ }) (.grpc order) .empty).2 := by
  constructor
  · intro truthful
    have fresh := (order_told unmarked rfl).mp truthful
    have executed := (fresh rfl).1.1
    cases executed
  · intro truthful
    have fresh := (order_told (fun _ => Gateway.quietDraw 1) rfl).mp truthful
    have dated := (fresh ⟨rfl, rfl⟩).1
    exact absurd dated (by decide)

end Samples

end OpenWrapper.StoredTruth
