import OpenWrapper.ReadableRows
import OpenWrapper.Handlers

/-! # A creation at the gateway, on the shared table

The gateway handles one creation request to its end while nothing else uses
the tables and every statement is executed. Where no row has the request's key
it inserts one and calls the provider once; where a row has the key and the
request's fingerprint, it answers with that row's payment. -/

set_option autoImplicit false

namespace OpenWrapper.SharedCreation
open OpenWrapper.Ids OpenWrapper.Errors OpenWrapper.Amounts OpenWrapper.Payments
open OpenWrapper.Schema OpenWrapper.ConstraintTable OpenWrapper.PaymentStore OpenWrapper.Effects
open OpenWrapper.Headers OpenWrapper.Providers OpenWrapper.Stateless OpenWrapper.Handlers
open OpenWrapper.JavaScript OpenWrapper.PaymentRoutes OpenWrapper.ReadableRows
open OpenWrapper.Suspended OpenWrapper.Suspended.Prog

section Handling

/-- What the handling of one creation meets: the draw of its nth store call,
and what the provider answers. -/
structure Handling where
  draw : ℕ → Draw
  provided : Except OpenWrapperError PaymentResult

def Handling.Executed (c : Handling) : Prop := ∀ n m, (c.draw n).fails m = false

/-- The handling of one creation to its end: the tables, how often the provider
was called, and the reply. A creation awaits nothing else. -/
def handle (app : App) (c : Handling) : ℕ → Ledger → Gw Reply → Option (Ledger × ℕ × Reply)
  | _, L, .done reply => some (L, 0, reply)
  | n, L, .call (.store op) k =>
    handle app c (n + 1) (execOp app.fingerprint .postgres (c.draw n) L op).1
      (k (execOp app.fingerprint .postgres (c.draw n) L op).2)
  | n, L, .call (.createPayment _ _ _) k =>
    (handle app c n L (k c.provided)).map fun done => (done.1, done.2.1 + 1, done.2.2)
  | _, _, .call _ _ => none

end Handling

section Rows

variable {key : IdempotencyKey} {p : PaymentId} {L L' : Ledger} {row : PaymentRow}

/-- No row has the key. -/
def Vacant (key : IdempotencyKey) (L : Ledger) : Prop :=
  ∀ row ∈ L.payments.rows, keyText row.idempotencyKey ≠ key.asStr

/-- The row of the payment is the only one with the key, and can be read. -/
structure Holds (key : IdempotencyKey) (p : PaymentId) (L : Ledger) (row : PaymentRow) : Prop where
  mem : row ∈ L.payments.rows
  id : row.id = .stored p
  keyed : row.idempotencyKey = .stored key
  readable : row.toPayment.isSome = true
  sole : ∀ other ∈ L.payments.rows, keyText other.idempotencyKey = key.asStr → other = row

theorem Holds.map {test : PaymentRow → Bool} {f : PaymentRow → PaymentRow}
    (holds : Holds key p L row)
    (rows : L'.payments.rows = L.payments.rows.map (Table.change test f))
    (ids : ∀ row, (f row).id = row.id)
    (keys : ∀ row, (f row).idempotencyKey = row.idempotencyKey)
    (readable : test row = true → (f row).toPayment.isSome = true) :
    Holds key p L' (Table.change test f row) where
  mem := by
    rw [rows]
    exact List.mem_map_of_mem holds.mem
  id := (Table.change_proj PaymentRow.id ids row).trans holds.id
  keyed := (Table.change_proj PaymentRow.idempotencyKey keys row).trans holds.keyed
  readable := by
    by_cases hit : test row = true
    · rw [Table.change_of_pos hit]
      exact readable hit
    · rw [Table.change_of_neg (Bool.eq_false_iff.mpr hit)]
      exact holds.readable
  sole := by
    intro other mem named
    rw [rows] at mem
    obtain ⟨before, before_mem, rfl⟩ := List.mem_map.mp mem
    rw [Table.change_proj PaymentRow.idempotencyKey keys before] at named
    rw [holds.sole before before_mem named]

/-- A statement of the gateway that assigns a status, or none, keeps the row
readable. -/
theorem Holds.updatePayment {id : Text PaymentId} {guarded : Bool} {edit : PaymentEdit}
    (holds : Holds key p L row) : Holds key p (L.updatePayment id guarded edit)
      (Table.change (targets id guarded) edit.apply row) := by
  have rows : (L.updatePayment id guarded edit).payments.rows =
    L.payments.rows.map (Table.change (targets id guarded) edit.apply) := rfl
  apply holds.map rows (fun row => rfl) (fun row => rfl)
  intro _
  obtain ⟨⟨is, keyed, provider, status, stored⟩, amount⟩ := toPayment_isSome_iff.mp holds.readable
  refine toPayment_isSome_iff.mpr ⟨⟨is, keyed, provider, ?_⟩, amount⟩
  cases assigned : edit.status with
  | none => exact ⟨status, by simp only [PaymentEdit.apply, assigned]; exact stored⟩
  | some t => exact ⟨t, by simp only [PaymentEdit.apply, assigned]; rfl⟩

/-- The row that a begun payment is inserted as. -/
theorem Vacant.holds {request : PaymentRequest} {fingerprint : PaymentRequest → String}
    {owner : Option ApiKeyInfo} {now : Instant} (vacant : Vacant key L)
    (under : request.idempotencyKey = key)
    (rows : L'.payments.rows =
      L.payments.rows ++ [(newRow fingerprint request owner p now).kept .postgres]) :
    Holds key p L' ((newRow fingerprint request owner p now).kept .postgres) where
  mem := by
    rw [rows]
    exact List.mem_append_right _ (List.mem_singleton_self _)
  id := rfl
  keyed := congrArg Text.stored under
  readable := toPayment_isSome_iff.mpr ⟨⟨⟨p, rfl⟩, ⟨request.idempotencyKey, rfl⟩,
    ⟨request.provider, rfl⟩, .pending, rfl⟩, request.amount.currency, request.amount, rfl,
    Money.fromMinorUnits_minorUnits request.amount⟩
  sole := by
    intro other mem named
    rw [rows] at mem
    rcases List.mem_append.mp mem with old | new
    · exact absurd named (vacant other old)
    · exact List.mem_singleton.mp new

theorem Holds.find_id (holds : Holds key p L row) :
    (L.payments.rows.find? fun other => other.id == .stored p) = some row :=
  L.payments.find_eq holds.mem (by simp [holds.id]) fun other same =>
    .inl ((beq_iff_eq.mp same).trans holds.id.symm)

theorem Holds.find_key (holds : Holds key p L row) :
    (L.payments.rows.find? fun other => other.idempotencyKey == .stored key) = some row :=
  L.payments.find_eq holds.mem (by simp [holds.keyed]) fun other same =>
    .inr ((beq_iff_eq.mp same).trans holds.keyed.symm)

end Rows

section Operations

variable {fp : PaymentRequest → String} {d : Draw} {L : Ledger} {key : IdempotencyKey}
variable {p : PaymentId} {row : PaymentRow} {request : PaymentRequest}

/-- A request whose key a row has is pointed to it. -/
theorem begin_existing {payment : Payment} (owner : Option ApiKeyInfo) (holds : Holds key p L row)
    (executed : ∀ n, d.fails n = false) (under : request.idempotencyKey = key)
    (same : row.requestFingerprint = fp request) (read : row.toPayment = some payment) :
    execOp fp .postgres d L (.beginPaymentWithOwner request owner) =
      (L, .ok (.returnExisting payment)) := by
  have clash : L.payments.insert ((newRow fp request owner d.fresh (d.clock 1)).kept .postgres) =
      none := by
    refine Table.insert_eq_none.mpr ⟨row, holds.mem, .inr ?_⟩
    rw [holds.keyed, ← under]
    rfl
  have found := holds.find_key
  rw [← under] at found
  simp only [execOp, program, PaymentStore.beginPaymentWithOwner, Sql.newPaymentId, Sql.now,
    Sql.write, Sql.selectByKey, perform_bind, serial_call, exec, Stmt.refused, Stmt.run,
    executed, Session.on, Nat.zero_add, Write.perform, clash, found, read, same, if_true,
    pure_eq, serial_done]
  rfl

/-- A request whose key no row has claims it. -/
theorem begin_vacant (owner : Option ApiKeyInfo) (vacant : Vacant key L)
    (executed : ∀ n, d.fails n = false) (under : request.idempotencyKey = key)
    (fresh : ∀ row ∈ L.payments.rows, row.id ≠ .stored d.fresh) :
    ∃ L' now, execOp fp .postgres d L (.beginPaymentWithOwner request owner) =
        (L', .ok (.proceed d.fresh)) ∧ L'.payments.rows =
          L.payments.rows ++ [(newRow fp request owner d.fresh now).kept .postgres] := by
  have apart : ∀ row ∈ L.payments.rows,
      ¬ PaymentClash row ((newRow fp request owner d.fresh (d.clock 1)).kept .postgres) := by
    rintro row mem (same | same)
    · exact fresh row mem same
    · have named : keyText row.idempotencyKey = key.asStr := by
        rw [same, ← under]
        rfl
      exact vacant row mem named
  obtain ⟨payments, inserted⟩ : ∃ payments,
      L.payments.insert ((newRow fp request owner d.fresh (d.clock 1)).kept .postgres) =
        some payments := ⟨_, dif_pos apart⟩
  refine ⟨{ L with payments }, d.clock 1, ?_, (Table.insert_eq_some.mp inserted).2⟩
  simp only [execOp, program, PaymentStore.beginPaymentWithOwner, Sql.newPaymentId, Sql.now,
    Sql.write, perform_bind, serial_call, exec, Stmt.refused, Stmt.run,
    executed, Session.on, Nat.zero_add, Write.perform, inserted, pure_eq, serial_done]
  rfl

/-- The operations that end a creation update the payment's row. -/
theorem exec_recordCreationResult (reference : String) (status : PaymentStatus)
    (action : Option PaymentNextAction) (executed : ∀ n, d.fails n = false) :
    ∃ edit, execOp fp .postgres d L (.recordCreationResult p reference status action) =
      (L.updatePayment (.stored p) false edit, .ok ()) := by
  refine ⟨(creationEdit reference status action (d.clock 0)).kept .postgres, ?_⟩
  simp only [execOp, program, PostgresStore.recordCreationResult, Sql.now, Sql.write, perform_bind,
    serial_call, exec, Stmt.refused, Stmt.run, executed, Session.on, Nat.zero_add, Write.perform,
    pure_eq, serial_done]
  rfl

theorem serial_updateStatusOnly (status : PaymentStatus) (executed : ∀ n, d.fails n = false) :
    serial (exec .postgres d) 0 (Session.on L) (PostgresStore.updateStatusOnly p status) =
      (Session.on (L.updatePayment (.stored p) false
        ((statusEdit status (d.clock 0)).kept .postgres)), .ok ()) := by
  simp only [PostgresStore.updateStatusOnly, Sql.now, Sql.write, perform_bind, serial_call, exec,
    Stmt.refused, Stmt.run, executed, Session.on, Nat.zero_add, Write.perform, pure_eq,
    serial_done]

theorem exec_markTerminal (status : PaymentStatus) (executed : ∀ n, d.fails n = false) :
    ∃ edit, execOp fp .postgres d L (.markTerminalWithoutProviderReference p status) =
      (L.updatePayment (.stored p) false edit, .ok ()) := by
  refine ⟨(statusEdit status (d.clock 0)).kept .postgres, ?_⟩
  simp only [execOp, program, PostgresStore.markTerminalWithoutProviderReference,
    serial_updateStatusOnly status executed]
  rfl

theorem exec_markUnknown (executed : ∀ n, d.fails n = false) :
    ∃ edit, execOp fp .postgres d L (.markUnknown p) =
      (L.updatePayment (.stored p) false edit, .ok ()) := by
  refine ⟨(statusEdit .unknown (d.clock 0)).kept .postgres, ?_⟩
  simp only [execOp, program, PostgresStore.markUnknown, serial_updateStatusOnly .unknown executed]
  rfl

theorem exec_getPayment {payment : Payment} (holds : Holds key p L row)
    (executed : ∀ n, d.fails n = false) (read : row.toPayment = some payment) :
    execOp fp .postgres d L (.getPayment p) = (L, .ok (some payment)) := by
  simp only [execOp, program, PaymentStore.getPayment, Sql.selectPayment, perform_bind,
    serial_call, exec, Stmt.refused, Stmt.run, executed, Session.on, holds.find_id, readPayment,
    read, pure_eq, serial_done]
  rfl

/-- A next action is only looked up. -/
theorem exec_getNextAction (id : PaymentId) (executed : ∀ n, d.fails n = false) :
    ∃ r, execOp fp .postgres d L (.getNextAction id) = (L, r) := by
  simp only [execOp, program, PaymentStore.getNextAction, Sql.selectPayment, perform_bind,
    serial_call, exec, Stmt.refused, Stmt.run, executed, Session.on]
  split <;> exact ⟨_, rfl⟩

end Operations

section Handler

variable {app : App} {c : Handling} {headers : HeaderMap} {body : CreatePaymentBody}
variable {request : PaymentRequest} {provider : Provider} {key : IdempotencyKey} {L : Ledger}
variable {p : PaymentId} {row : PaymentRow}

/-- A request is accepted under the key of its header. -/
theorem parsed_keyed (parsed : parseCreatePayment headers body = .ok request) :
    headers.getStr "idempotency-key" = some request.idempotencyKey.asStr := by
  unfold parseCreatePayment at parsed
  split at parsed
  · cases parsed
  next raw header =>
    split at parsed
    · cases parsed
    next idempotencyKey keyed =>
      split at parsed
      · cases parsed
      · split at parsed
        · cases parsed
        · split at parsed
          · cases parsed
          · dsimp only at parsed
            split at parsed
            · cases parsed
            · cases parsed
              rw [header, IdempotencyKey.asStr_of_parse keyed]

/-- The gateway accepts the request, under the key, and knows its provider. -/
structure Servable (app : App) (headers : HeaderMap) (body : CreatePaymentBody)
    (request : PaymentRequest) : Prop where
  parsed : parseCreatePayment headers body = .ok request
  resolved : ∃ provider, resolvePaymentProvider app.env app.providers request.provider.asStr headers =
    .ok provider

/-- The row has an unknown status and names nothing at the provider. -/
def Blank (row : PaymentRow) : Prop :=
  row.status = .stored .unknown ∧ (nonEmpty row.providerReference).isNone = true

theorem blank_of_empty {payment : Payment} (read : row.toPayment = some payment)
    {view : PaymentView} (status : view.status = payment.status)
    (reference : view.providerReference = payment.providerReference)
    (empty : isEmptyUnknown view = true) : Blank row := by
  simp only [isEmptyUnknown, Bool.and_eq_true, beq_iff_eq] at empty
  have from_ := readFrom_of_toPayment read
  constructor
  · rw [from_.status, ← status, empty.1.1]
  · rw [from_.providerReference, ← reference]
    exact empty.1.2

/-- A repetition is answered with the payment, and calls no provider. -/
theorem handle_existing (holds : Holds key p L row) (executed : c.Executed)
    (servable : Servable app headers body request) (under : request.idempotencyKey = key)
    (same : row.requestFingerprint = app.fingerprint request) :
    ∃ view, view.paymentId = p ∧ (isEmptyUnknown view = true → Blank row) ∧
      handle app c 0 L (Handlers.createPayment app headers body) =
        some (L, 0, .http 200 (.payment view)) := by
  obtain ⟨payment, read⟩ := Option.isSome_iff_exists.mp holds.readable
  obtain ⟨provider, resolved⟩ := servable.resolved
  have is : payment.id = p :=
    Text.stored.inj ((readFrom_of_toPayment read).id.symm.trans holds.id)
  obtain ⟨r, action⟩ : ∃ r, execOp app.fingerprint .postgres (c.draw 1) L
    (.getNextAction payment.id) = (L, r) := exec_getNextAction payment.id (executed 1)
  have begun := begin_existing (owner headers) holds (executed 0) under same read
  simp only [Handlers.createPayment, servable.parsed, resolved, Gw.begin, Gw.getNextAction,
    perform_bind, handle, begun, Nat.zero_add, action]
  match r with
  | .ok (some found) =>
    exact ⟨{ PaymentView.ofPayment payment with nextAction := some found }, is,
      blank_of_empty read rfl rfl, rfl⟩
  | .ok none => exact ⟨PaymentView.ofPayment payment, is, blank_of_empty read rfl rfl, rfl⟩
  | .error e => exact ⟨PaymentView.ofPayment payment, is, blank_of_empty read rfl rfl, rfl⟩

/-- The row has the fingerprint and the owner it was begun with. -/
structure AsBegun (fp : PaymentRequest → String) (request : PaymentRequest)
    (owner : Option ApiKeyInfo) (row : PaymentRow) : Prop where
  fingerprint : row.requestFingerprint = fp request
  userId : row.userId = owner.bind ApiKeyInfo.userId
  environment : row.environment = (owner.bind ApiKeyInfo.environment).getD "live"

theorem AsBegun.updated {fp : PaymentRequest → String} {owner : Option ApiKeyInfo}
    {test : PaymentRow → Bool} {edit : PaymentEdit} (begun : AsBegun fp request owner row) :
    AsBegun fp request owner (Table.change test edit.apply row) := by
  by_cases hit : test row = true
  · rw [Table.change_of_pos hit]
    exact ⟨begun.fingerprint, begun.userId, begun.environment⟩
  · rw [Table.change_of_neg (Bool.eq_false_iff.mpr hit)]
    exact begun

/-- The provider's answer says what became of the creation. -/
def Handling.conclusive (c : Handling) : Bool :=
  match c.provided with
  | .ok result => !(result.status == .unknown && result.providerReference == "" &&
      result.nextAction.isNone)
  | .error e => e.isDefiniteNonOccurrence

/-- A reply with the payment, or with an error of the gateway. -/
def Replies (c : Handling) (p : PaymentId) (reply : Reply) : Prop :=
  (∃ status view, reply = .http status (.payment view) ∧ view.paymentId = p ∧
    (c.conclusive = true → isEmptyUnknown view = false)) ∨ ∃ e, reply = Handlers.apiError e

theorem fresh_not_empty {result : PaymentResult} {reference : Option String}
    (provided : c.provided = .ok result) (conclusive : c.conclusive = true) :
    isEmptyUnknown (.fromFresh p result reference) = false := by
  simp only [Handling.conclusive, provided] at conclusive
  by_cases blank : result.providerReference = ""
  · cases status : result.status with
    | pending => simp [isEmptyUnknown, PaymentView.fromFresh, status, CreationStatus.toStatus]
    | unknown =>
      have action : result.nextAction.isNone = false := by simpa [blank, status] using conclusive
      simp [isEmptyUnknown, PaymentView.fromFresh, action]
  · have named : (nonEmpty (some result.providerReference)).isNone = false := by
      simp [nonEmpty, blank]
    simp [isEmptyUnknown, PaymentView.fromFresh, named]

/-- The rest of a creation whose key is claimed: the provider is called, and
the row keeps what it was begun with. -/
theorem handle_claimed (provider : Provider) (request : PaymentRequest) (holds : Holds key p L row)
    (executed : c.Executed) {fp : PaymentRequest → String} {begunFor : PaymentRequest}
    {owner : Option ApiKeyInfo} (begun : AsBegun fp begunFor owner row) :
    ∃ L' reply row', handle app c 1 L (createClaimed provider request p) = some (L', 1, reply) ∧
      Holds key p L' row' ∧ AsBegun fp begunFor owner row' ∧ Replies c p reply := by
  have after (edit : PaymentEdit) : Holds key p (L.updatePayment (.stored p) false edit)
      (Table.change (targets (.stored p) false) edit.apply row) := holds.updatePayment
  cases provided : c.provided with
  | ok result =>
    obtain ⟨edit, recorded⟩ : ∃ edit, execOp app.fingerprint .postgres (c.draw 1) L
        (.recordCreationResult p result.providerReference result.status.toStatus
          result.nextAction) = (L.updatePayment (.stored p) false edit, .ok ()) :=
      exec_recordCreationResult _ _ _ (executed 1)
    refine ⟨_, .http 201 (.payment (.fromFresh p result request.merchantReference)), _, ?_,
      after edit, begun.updated, .inl ⟨201, _, rfl, rfl, fresh_not_empty provided⟩⟩
    simp only [createClaimed, Gw.createPayment, Gw.recordCreationResult, perform_bind, handle,
      provided, recorded]
    rfl
  | error e =>
    cases definite : e.isDefiniteNonOccurrence with
    | true =>
      obtain ⟨edit, marked⟩ : ∃ edit, execOp app.fingerprint .postgres (c.draw 1) L
          (.markTerminalWithoutProviderReference p .failed) =
            (L.updatePayment (.stored p) false edit, .ok ()) :=
        exec_markTerminal .failed (executed 1)
      refine ⟨_, Handlers.apiError e, _, ?_, after edit, begun.updated, .inr ⟨e, rfl⟩⟩
      simp only [createClaimed, Gw.createPayment, Gw.markFailed, perform_bind, handle, provided,
        definite, if_true, marked]
      rfl
    | false =>
      obtain ⟨edit, marked⟩ : ∃ edit, execOp app.fingerprint .postgres (c.draw 1) L
          (.markUnknown p) = (L.updatePayment (.stored p) false edit, .ok ()) :=
        exec_markUnknown (executed 1)
      obtain ⟨payment, read⟩ := Option.isSome_iff_exists.mp (after edit).readable
      have is : payment.id = p :=
        Text.stored.inj ((readFrom_of_toPayment read).id.symm.trans (after edit).id)
      have fetched : execOp app.fingerprint .postgres (c.draw 2)
          (L.updatePayment (.stored p) false edit) (.getPayment p) =
            (L.updatePayment (.stored p) false edit, .ok (some payment)) :=
        exec_getPayment (after edit) (executed 2) read
      refine ⟨_, .http 200 (.payment (.ofPayment payment)), _, ?_, after edit, begun.updated,
        .inl ⟨200, _, rfl, is, fun conclusive => ?_⟩⟩
      · simp only [createClaimed, Gw.createPayment, Gw.markUnknown, Gw.getPayment, perform_bind,
          handle, provided, definite, marked, fetched, Bool.false_eq_true, if_false]
        rfl
      · simp only [Handling.conclusive, provided, definite, Bool.false_eq_true] at conclusive

/-- The first creation under a key inserts a row and calls the provider once. -/
theorem handle_vacant (vacant : Vacant key L) (executed : c.Executed)
    (servable : Servable app headers body request) (under : request.idempotencyKey = key)
    (fresh : ∀ row ∈ L.payments.rows, row.id ≠ .stored (c.draw 0).fresh) :
    ∃ L' reply row', handle app c 0 L (Handlers.createPayment app headers body) =
        some (L', 1, reply) ∧ Holds key (c.draw 0).fresh L' row' ∧
      AsBegun app.fingerprint request (owner headers) row' ∧
      Replies c (c.draw 0).fresh reply := by
  obtain ⟨provider, resolved⟩ := servable.resolved
  obtain ⟨L₁, now, begun, rows⟩ :=
    begin_vacant (owner headers) vacant (executed 0) under fresh
  have holds := vacant.holds under rows
  have asBegun : AsBegun app.fingerprint request (owner headers)
      ((newRow app.fingerprint request (owner headers) (c.draw 0).fresh now).kept .postgres) :=
    ⟨rfl, rfl, rfl⟩
  obtain ⟨L', reply, row', handled, held, kept, replies⟩ :=
    handle_claimed provider request holds executed asBegun
  refine ⟨L', reply, row', ?_, held, kept, replies⟩
  simp only [Handlers.createPayment, servable.parsed, resolved, Gw.begin, perform_bind, handle,
    begun, Nat.zero_add]
  exact handled

end Handler

end OpenWrapper.SharedCreation
