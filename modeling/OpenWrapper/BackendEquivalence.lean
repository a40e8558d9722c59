import OpenWrapper.ReconcilerStore
import OpenWrapper.SqliteLedger
import OpenWrapper.WorkingStore

/-! # One contract, two backends

The two stores are given the same calls. Without their times the tables stay
the same and so do the results, as long as every call meets what SQLite checks
before it writes and Postgres does not. -/

set_option autoImplicit false

namespace OpenWrapper.BackendEquivalence
open OpenWrapper.Ids OpenWrapper.Payments OpenWrapper.ConstraintTable
open OpenWrapper.Schema OpenWrapper.PaymentStore OpenWrapper.StatementRules
open OpenWrapper.StoreContract OpenWrapper.Evolution OpenWrapper.WorkingStore
open OpenWrapper.Suspended OpenWrapper.Suspended.Prog

section Times

def epoch : Instant := ⟨0⟩

def timelessRow (row : PaymentRow) : PaymentRow := { row with createdAt := epoch, updatedAt := epoch }

def timelessEvent (row : WebhookEventRow) : WebhookEventRow := { row with receivedAt := epoch }

def timelessPayment (p : Payment) : Payment := { p with createdAt := epoch, updatedAt := epoch }

/-- The tables are the same but for their times. -/
structure Same (L M : Ledger) : Prop where
  payments : L.payments.rows.map timelessRow = M.payments.rows.map timelessRow
  webhookEvents : L.webhookEvents.rows.map timelessEvent = M.webhookEvents.rows.map timelessEvent
  refunds : L.refunds.rows = M.refunds.rows

def timeless : (op : StoreOp) → op.Value → op.Value
  | .beginPaymentWithOwner _ _, .returnExisting payment => .returnExisting (timelessPayment payment)
  | .beginPaymentWithOwner _ _, outcome => outcome
  | .recordCreationResult _ _ _ _, () => ()
  | .applyWebhookEvent _, outcome => outcome
  | .markTerminalWithoutProviderReference _ _, () => ()
  | .markUnknown _, () => ()
  | .applyReconciliationResult _ _, outcome => outcome
  | .getPayment _, payment => payment.map timelessPayment
  | .findPaymentByReference _, payment => payment.map timelessPayment
  | .getNextAction _, action => action
  | .listStaleUnknownPayments _ _, payments => payments.map timelessPayment
  | .touchReconciliationAttempt _, () => ()
  | .recordRefund _ _, () => ()
  | .getTotalRefundedMinorUnits _, total => total
  | .listRefundsForPayment _, refunds => refunds

def SameResult (op : StoreOp) (r r' : op.Result) : Prop :=
  r.map (timeless op) = r'.map (timeless op)

end Times

section Calls

/-- The operations that both backends are asked for. -/
def Listed : StoreOp → Prop
  | .findPaymentByReference _ => False
  | .listRefundsForPayment _ => False
  | _ => True

/-- One call of the store, with what the statements of each backend meet; the
identifiers that are generated are the same. -/
structure Call where
  op : StoreOp
  draw : Backend → Draw
  listed : Listed op
  fresh : (draw .sqlite).fresh = (draw .postgres).fresh

/-- No statement fails. -/
def serve (fp : PaymentRequest → String) (b : Backend) (L : Ledger) (c : Call) :
    Ledger × c.op.Result :=
  execOp fp b (working (c.draw b)) L c.op

/-- Whether the two backends select the same payments, in one order. -/
structure SelectsAlike (L M : Ledger) (cutoff cutoff' : Instant) : Prop where
  selected : ∀ r ∈ L.payments.rows, ∀ r' ∈ M.payments.rows, r.id = r'.id →
    stale .sqlite cutoff r = stale .postgres cutoff' r'
  ordered : ∀ r ∈ L.payments.rows, ∀ r' ∈ M.payments.rows, r.id = r'.id →
    ∀ s ∈ L.payments.rows, ∀ s' ∈ M.payments.rows, s.id = s'.id →
      stale .sqlite cutoff r = true → stale .sqlite cutoff s = true →
      Backend.before .sqlite r.updatedAt s.updatedAt =
        Backend.before .postgres r'.updatedAt s'.updatedAt
  apart : ∀ r ∈ L.payments.rows, ∀ s ∈ L.payments.rows, stale .sqlite cutoff r = true →
    stale .sqlite cutoff s = true → r.id ≠ s.id →
      Backend.before .sqlite r.updatedAt s.updatedAt = true ∨
        Backend.before .sqlite s.updatedAt r.updatedAt = true

/-- The reference of the event is that of one payment at most. -/
def Unambiguous (L : Ledger) (event : WebhookReport) : Prop :=
  ∀ row ∈ L.payments.rows, ∀ row' ∈ L.payments.rows,
    Matches event.provider event.providerReference row →
    Matches event.provider event.providerReference row' → row = row'

/-- What a call has to meet for the backends to do the same. -/
def Meets (L M : Ledger) (c : Call) : Prop :=
  match c.op with
  | .recordCreationResult id reference status _ => CreationChecked L id reference status
  | .applyWebhookEvent event =>
    (∀ e ∈ L.webhookEvents.rows, e.eventId ≠ event.eventId) → Unambiguous L event ∧
      ∀ row ∈ L.payments.rows, Matches event.provider event.providerReference row →
        AmountAgrees event row → row.status ≠ .stored event.reportedStatus
  | .markTerminalWithoutProviderReference id status =>
    status.isTerminal = true ∧ ∃ s, Validated L (.stored id) s status
  | .markUnknown id => ∃ s, Validated L (.stored id) s .unknown
  | .applyReconciliationResult id resolved =>
    ∀ row ∈ L.payments.rows, row.id = .stored id → row.status ≠ .stored resolved
  | .listStaleUnknownPayments minAge limit =>
    0 ≤ limit ∧ SelectsAlike L M (((c.draw .sqlite).clock 0).minus minAge)
      (((c.draw .postgres).clock 0).minus minAge)
  | _ => True

end Calls

section Blind

variable {α β : Type} {f : α → β} {p q : α → Bool} {l l' : List α}

theorem find_blind (same : l.map f = l'.map f) (alike : ∀ a ∈ l, ∀ b ∈ l', f a = f b → p a = q b) :
    (l.find? p).map f = (l'.find? q).map f := by
  induction l generalizing l' with
  | nil =>
    have empty : l' = [] := List.map_eq_nil_iff.mp same.symm
    rw [empty]
    rfl
  | cons a l ih =>
    cases l' with
    | nil => cases same
    | cons b l' =>
      obtain ⟨first, rest⟩ := List.cons.inj same
      have both := alike a List.mem_cons_self b List.mem_cons_self first
      have others := ih rest fun c mem d mem' =>
        alike c (List.mem_cons_of_mem a mem) d (List.mem_cons_of_mem b mem')
      rw [List.find?_cons, List.find?_cons, both]
      cases q b with
      | true => exact congrArg some first
      | false => exact others

theorem filter_blind (same : l.map f = l'.map f)
    (alike : ∀ a ∈ l, ∀ b ∈ l', f a = f b → p a = q b) :
    (l.filter p).map f = (l'.filter q).map f := by
  induction l generalizing l' with
  | nil =>
    have empty : l' = [] := List.map_eq_nil_iff.mp same.symm
    rw [empty]
    rfl
  | cons a l ih =>
    cases l' with
    | nil => cases same
    | cons b l' =>
      obtain ⟨first, rest⟩ := List.cons.inj same
      have both := alike a List.mem_cons_self b List.mem_cons_self first
      have others := ih rest fun c mem d mem' =>
        alike c (List.mem_cons_of_mem a mem) d (List.mem_cons_of_mem b mem')
      rw [List.filter_cons, List.filter_cons, both]
      split
      · rw [List.map_cons, List.map_cons, first, others]
      · exact others

/-- Every entry has its counterpart. -/
theorem counterpart (same : l.map f = l'.map f) {a : α} (mem : a ∈ l) : ∃ b ∈ l', f b = f a := by
  have listed : f a ∈ l'.map f := same ▸ List.mem_map_of_mem mem
  exact List.mem_map.mp listed

variable {Clash : α → α → Prop} [DecidableRel Clash] {t u : Table α Clash} {a b : α}

/-- Two tables of the same entries take two of the same entries, or neither. -/
theorem insert_blind (same : t.rows.map f = u.rows.map f) (entry : f a = f b)
    (alike : ∀ c d, f c = f d → (Clash c a ↔ Clash d b)) :
    (t.insert a = none ∧ u.insert b = none) ∨
      ∃ t' u', t.insert a = some t' ∧ u.insert b = some u' ∧ t'.rows.map f = u'.rows.map f := by
  cases first : t.insert a with
  | none =>
    obtain ⟨c, mem, clash⟩ := Table.insert_eq_none.mp first
    obtain ⟨d, mem', is⟩ := counterpart same mem
    exact .inl ⟨rfl, Table.insert_eq_none.mpr ⟨d, mem', (alike c d is.symm).mp clash⟩⟩
  | some t' =>
    obtain ⟨fresh, rows⟩ := Table.insert_eq_some.mp first
    cases second : u.insert b with
    | none =>
      obtain ⟨d, mem, clash⟩ := Table.insert_eq_none.mp second
      obtain ⟨c, mem', is⟩ := counterpart same.symm mem
      exact absurd ((alike c d is).mpr clash) (fresh c mem')
    | some u' =>
      refine .inr ⟨t', u', rfl, rfl, ?_⟩
      rw [rows, (Table.insert_eq_some.mp second).2, List.map_append, List.map_append, same,
        List.map_singleton, List.map_singleton, entry]

end Blind

section Rows

variable {L M : Ledger} {r r' : PaymentRow} {edit edit' : PaymentEdit}

/-- What rows have in common that only differ in their times. -/
structure Alike (r r' : PaymentRow) : Prop where
  id : r.id = r'.id
  idempotencyKey : r.idempotencyKey = r'.idempotencyKey
  requestFingerprint : r.requestFingerprint = r'.requestFingerprint
  provider : r.provider = r'.provider
  providerReference : r.providerReference = r'.providerReference
  status : r.status = r'.status
  amountMinorUnits : r.amountMinorUnits = r'.amountMinorUnits
  nextActionJson : r.nextActionJson = r'.nextActionJson

theorem alike_of_timeless (same : timelessRow r = timelessRow r') : Alike r r' := by
  have column {β : Type} (proj : PaymentRow → β) : proj (timelessRow r) = proj (timelessRow r') :=
    congrArg proj same
  constructor
  · exact column PaymentRow.id
  · exact column PaymentRow.idempotencyKey
  · exact column PaymentRow.requestFingerprint
  · exact column PaymentRow.provider
  · exact column PaymentRow.providerReference
  · exact column PaymentRow.status
  · exact column PaymentRow.amountMinorUnits
  · exact column PaymentRow.nextActionJson

theorem toPayment_timeless (r : PaymentRow) :
    (timelessRow r).toPayment = r.toPayment.map timelessPayment := by
  unfold PaymentRow.toPayment timelessRow
  cases r.currency.parse <;> cases r.id.parse <;> cases r.idempotencyKey.parse <;>
    cases r.provider.parse <;> cases r.status.parse <;> try rfl
  simp only
  split
  · rfl
  · rfl

theorem toPayment_alike (same : timelessRow r = timelessRow r') :
    r.toPayment.map timelessPayment = r'.toPayment.map timelessPayment := by
  rw [← toPayment_timeless, same, toPayment_timeless]

/-- The update of the times is left out. -/
def timelessEdit (edit : PaymentEdit) : PaymentEdit := { edit with updatedAt := epoch }

theorem timeless_change (id : Text PaymentId) (guarded : Bool) (edit : PaymentEdit)
    (r : PaymentRow) : timelessRow (Table.change (targets id guarded) edit.apply r) =
      Table.change (targets id guarded) (timelessEdit edit).apply (timelessRow r) := by
  have aim : targets id guarded (timelessRow r) = targets id guarded r := rfl
  unfold Table.change
  rw [aim]
  split
  · rfl
  · rfl

theorem Same.updatePayment (same : Same L M) (id : Text PaymentId) (guarded : Bool)
    (edits : timelessEdit edit = timelessEdit edit') :
    Same (L.updatePayment id guarded edit) (M.updatePayment id guarded edit') := by
  have changed (N : Ledger) (e : PaymentEdit) :
      (N.updatePayment id guarded e).payments.rows.map timelessRow =
        (N.payments.rows.map timelessRow).map
          (Table.change (targets id guarded) (timelessEdit e).apply) := by
    rw [Ledger.updatePayment, Table.rows_update, List.map_map, List.map_map]
    apply List.map_congr_left
    intro row _
    exact timeless_change id guarded e row
  constructor
  · rw [changed, changed, same.payments, edits]
  · exact same.webhookEvents
  · exact same.refunds

theorem find_id (same : Same L M) (id : PaymentId) :
    (L.payments.rows.find? fun row => row.id == .stored id).map timelessRow =
      (M.payments.rows.find? fun row => row.id == .stored id).map timelessRow :=
  find_blind same.payments fun r _ r' _ is => by rw [(alike_of_timeless is).id]

/-- The row with an identifier, on both sides. -/
theorem found_alike (same : Same L M) {row : PaymentRow} {id : PaymentId}
    (mem : row ∈ L.payments.rows) (is : row.id = .stored id) :
    ∃ row' ∈ M.payments.rows, row'.id = .stored id ∧ timelessRow row = timelessRow row' := by
  obtain ⟨row', mem', same'⟩ := counterpart same.payments mem
  exact ⟨row', mem', (alike_of_timeless same').id.trans is, same'.symm⟩

end Rows

section Steps

variable {fp : PaymentRequest → String} {b : Backend} {d e : Draw} {L M : Ledger}

/-- The results are the same, and so are the tables that are left. -/
structure Stays (fp : PaymentRequest → String) (d e : Draw) (L M : Ledger) (op : StoreOp) :
    Prop where
  result : SameResult op (execOp fp .sqlite (working d) L op).2
    (execOp fp .postgres (working e) M op).2
  tables : Same (execOp fp .sqlite (working d) L op).1 (execOp fp .postgres (working e) M op).1

theorem begin_inserted {request : PaymentRequest}
    {owner : Option ApiKeyInfo} {payments : Table PaymentRow PaymentClash}
    (inserted : L.payments.insert ((newRow fp request owner d.fresh (d.clock 1)).kept b) =
      some payments) :
    execOp fp b (working d) L (.beginPaymentWithOwner request owner) =
      ({ L with payments }, .ok (.proceed d.fresh)) := by
  simp [execOp, program, PaymentStore.beginPaymentWithOwner, exec, Stmt.run, Session.on,
    Write.perform, inserted, Session.close]

/-- What a claim is answered that is not the first. -/
def claimed (fp : PaymentRequest → String) (request : PaymentRequest) :
    Option PaymentRow → StoreResult BeginOutcome
  | none => .error .internal
  | some row =>
    match row.toPayment with
    | none => .error .internal
    | some payment =>
      if row.requestFingerprint = fp request then .ok (.returnExisting payment) else .ok .conflict

theorem begin_claimed {request : PaymentRequest}
    {owner : Option ApiKeyInfo}
    (inserted : L.payments.insert ((newRow fp request owner d.fresh (d.clock 1)).kept b) = none) :
    execOp fp b (working d) L (.beginPaymentWithOwner request owner) =
      (L, claimed fp request (L.payments.rows.find? fun row =>
        row.idempotencyKey == .stored request.idempotencyKey)) := by
  cases found : L.payments.rows.find? fun row =>
      row.idempotencyKey == .stored request.idempotencyKey with
  | none =>
    simp [execOp, program, PaymentStore.beginPaymentWithOwner, exec, Stmt.run, Session.on,
      Write.perform, inserted, found, internalErr, claimed, Session.close]
  | some row =>
    cases read : row.toPayment with
    | none =>
      simp [execOp, program, PaymentStore.beginPaymentWithOwner, exec, Stmt.run, Session.on,
        Write.perform, inserted, found, read, internalErr, claimed, Session.close]
    | some payment =>
      by_cases same : row.requestFingerprint = fp request
      · simp [execOp, program, PaymentStore.beginPaymentWithOwner, exec, Stmt.run, Session.on,
          Write.perform, inserted, found, read, same, claimed, Session.close]
      · simp [execOp, program, PaymentStore.beginPaymentWithOwner, exec, Stmt.run, Session.on,
          Write.perform, inserted, found, read, same, claimed, Session.close]

theorem claimed_timeless (request : PaymentRequest) (owner : Option ApiKeyInfo)
    {found found' : Option PaymentRow} (same : found.map timelessRow = found'.map timelessRow) :
    SameResult (.beginPaymentWithOwner request owner) (claimed fp request found)
      (claimed fp request found') := by
  cases found with
  | none =>
    cases found' with
    | none => rfl
    | some row' => cases same
  | some row =>
    cases found' with
    | none => cases same
    | some row' =>
      have same' := Option.some.inj same
      have read := toPayment_alike same'
      have marked := (alike_of_timeless same').requestFingerprint
      unfold SameResult claimed
      cases first : row.toPayment with
      | none =>
        rw [first] at read
        have second : row'.toPayment = none := Option.map_eq_none_iff.mp read.symm
        simp only [first, second]
      | some payment =>
        rw [first] at read
        obtain ⟨payment', second, is⟩ := Option.map_eq_some_iff.mp read.symm
        simp only [first, second, marked]
        split
        · simp [Except.map, timeless, is]
        · rfl

theorem stays_begin (same : Same L M) (fresh : d.fresh = e.fresh) (request : PaymentRequest)
    (owner : Option ApiKeyInfo) : Stays fp d e L M (.beginPaymentWithOwner request owner) := by
  have entry : timelessRow ((newRow fp request owner d.fresh (d.clock 1)).kept .sqlite) =
      timelessRow ((newRow fp request owner e.fresh (e.clock 1)).kept .postgres) := by
    rw [fresh]
    rfl
  have clashes : ∀ r r', timelessRow r = timelessRow r' →
      (PaymentClash r ((newRow fp request owner d.fresh (d.clock 1)).kept .sqlite) ↔
        PaymentClash r' ((newRow fp request owner e.fresh (e.clock 1)).kept .postgres)) := by
    intro r r' is
    have alike := alike_of_timeless is
    have alike' := alike_of_timeless entry
    unfold PaymentClash
    rw [alike.id, alike.idempotencyKey, alike'.id, alike'.idempotencyKey]
  rcases insert_blind same.payments entry clashes with ⟨first, second⟩ |
    ⟨payments, payments', first, second, rows⟩
  · have found := find_blind (p := fun row => row.idempotencyKey == .stored request.idempotencyKey)
      same.payments fun r _ r' _ is => by rw [(alike_of_timeless is).idempotencyKey]
    constructor
    · rw [begin_claimed first, begin_claimed second]
      exact claimed_timeless request owner found
    · rw [begin_claimed first, begin_claimed second]
      exact same
  · constructor
    · rw [begin_inserted first, begin_inserted second, fresh]
      rfl
    · rw [begin_inserted first, begin_inserted second]
      exact ⟨rows, same.webhookEvents, same.refunds⟩

theorem creation_sqlite {id : PaymentId} {reference : String} {status : PaymentStatus}
    (action : Option PaymentNextAction) (checked : CreationChecked L id reference status) :
    execOp fp .sqlite (working d) L (.recordCreationResult id reference status action) =
      (L.updatePayment (.stored id) false
        ((creationEdit reference status action (d.clock 0)).kept .sqlite), .ok ()) := by
  obtain ⟨row, mem, is, ⟨s, stored, legal⟩, agrees⟩ := checked.row
  have agrees' : row.providerReference.any (· != reference) = false := by
    rcases agrees with none_ | some_
    · simp [none_]
    · simp [some_]
  simp [execOp, program, SqliteStore.recordCreationResult, exec, Stmt.run, Session.on,
    find_payment mem is, stored, Text.parse, legal, agrees', Write.perform, Session.close,
    affected_of_mem mem is]

theorem creation_postgres (id : PaymentId) (reference : String) (status : PaymentStatus)
    (action : Option PaymentNextAction) :
    execOp fp .postgres (working e) M (.recordCreationResult id reference status action) =
      (M.updatePayment (.stored id) false
        ((creationEdit reference status action (e.clock 0)).kept .postgres), .ok ()) := by
  simp [execOp, program, PostgresStore.recordCreationResult, exec, Stmt.run, Session.on,
    Write.perform, Session.close]

theorem stays_creation (same : Same L M) {id : PaymentId} {reference : String}
    {status : PaymentStatus} (action : Option PaymentNextAction)
    (checked : CreationChecked L id reference status) :
    Stays fp d e L M (.recordCreationResult id reference status action) := by
  constructor
  · rw [creation_sqlite action checked, creation_postgres]
    rfl
  · rw [creation_sqlite action checked, creation_postgres]
    exact same.updatePayment (.stored id) false rfl

/-- What a status update leaves on a backend that validates it, and on one that
does not. -/
theorem update_sqlite {id : PaymentId} {s t : PaymentStatus}
    (validated : Validated L (.stored id) s t) :
    serial (exec .sqlite (working d)) 0 (Session.on L) (SqliteStore.updateStatusOnly id t) =
      (Session.on (L.updatePayment (.stored id) false ((statusEdit t (d.clock 0)).kept .sqlite)),
        .ok ()) := by
  obtain ⟨row, mem, is, stored⟩ := validated.stored
  have legal := validated.legal
  simp [SqliteStore.updateStatusOnly, exec, Stmt.run, Session.on, find_payment mem is, stored,
    Text.parse, legal, Write.perform]

theorem update_postgres (id : PaymentId) (t : PaymentStatus) :
    serial (exec .postgres (working e)) 0 (Session.on M) (PostgresStore.updateStatusOnly id t) =
      (Session.on (M.updatePayment (.stored id) false ((statusEdit t (e.clock 0)).kept .postgres)),
        .ok ()) := by
  simp [PostgresStore.updateStatusOnly, exec, Stmt.run, Session.on, Write.perform]

theorem stays_terminal (same : Same L M) {id : PaymentId} {s t : PaymentStatus}
    (terminal : t.isTerminal = true) (validated : Validated L (.stored id) s t) :
    Stays fp d e L M (.markTerminalWithoutProviderReference id t) := by
  have left : execOp fp .sqlite (working d) L (.markTerminalWithoutProviderReference id t) =
      (L.updatePayment (.stored id) false ((statusEdit t (d.clock 0)).kept .sqlite), .ok ()) := by
    simp only [execOp, program, SqliteStore.markTerminalWithoutProviderReference, terminal, if_true,
      update_sqlite validated]
    rfl
  have right : execOp fp .postgres (working e) M (.markTerminalWithoutProviderReference id t) =
      (M.updatePayment (.stored id) false ((statusEdit t (e.clock 0)).kept .postgres), .ok ()) := by
    simp only [execOp, program, PostgresStore.markTerminalWithoutProviderReference,
      update_postgres]
    rfl
  constructor
  · rw [left, right]
    rfl
  · rw [left, right]
    exact same.updatePayment (.stored id) false rfl

theorem stays_unknown (same : Same L M) {id : PaymentId} {s : PaymentStatus}
    (validated : Validated L (.stored id) s .unknown) : Stays fp d e L M (.markUnknown id) := by
  have left : execOp fp .sqlite (working d) L (.markUnknown id) =
      (L.updatePayment (.stored id) false ((statusEdit .unknown (d.clock 0)).kept .sqlite),
        .ok ()) := by
    simp only [execOp, program, SqliteStore.markUnknown, update_sqlite validated]
    rfl
  have right : execOp fp .postgres (working e) M (.markUnknown id) =
      (M.updatePayment (.stored id) false ((statusEdit .unknown (e.clock 0)).kept .postgres),
        .ok ()) := by
    simp only [execOp, program, PostgresStore.markUnknown, update_postgres]
    rfl
  constructor
  · rw [left, right]
    rfl
  · rw [left, right]
    exact same.updatePayment (.stored id) false rfl

theorem stays_touch (same : Same L M) (id : PaymentId) :
    Stays fp d e L M (.touchReconciliationAttempt id) := by
  have served (b : Backend) (d : Draw) (N : Ledger) :
      execOp fp b (working d) N (.touchReconciliationAttempt id) =
        (N.updatePayment (.stored id) true ((touchEdit (d.clock 0)).kept b), .ok ()) := by
    simp [execOp, program, PaymentStore.touchReconciliationAttempt, exec, Stmt.run, Session.on,
      Write.perform, Session.close]
  constructor
  · rw [served, served]
    rfl
  · rw [served, served]
    exact same.updatePayment (.stored id) true rfl

theorem stays_total (same : Same L M) (id : PaymentId) :
    Stays fp d e L M (.getTotalRefundedMinorUnits id) := by
  have served (b : Backend) (d : Draw) (N : Ledger) :
      execOp fp b (working d) N (.getTotalRefundedMinorUnits id) = (N, .ok (N.sumRefunds id)) := by
    simp [execOp, program, PaymentStore.getTotalRefundedMinorUnits, exec, Stmt.run, Session.on,
      Session.close]
  constructor
  · rw [served, served, Ledger.sumRefunds, same.refunds]
    rfl
  · rw [served, served]
    exact same

theorem readPayment_timeless (id : PaymentId) {found found' : Option PaymentRow}
    (same : found.map timelessRow = found'.map timelessRow) :
    SameResult (.getPayment id) (readPayment found) (readPayment found') := by
  cases found with
  | none =>
    cases found' with
    | none => rfl
    | some row' => cases same
  | some row =>
    cases found' with
    | none => cases same
    | some row' =>
      have read := toPayment_alike (Option.some.inj same)
      unfold SameResult readPayment
      cases first : row.toPayment with
      | none =>
        rw [first] at read
        have second : row'.toPayment = none := Option.map_eq_none_iff.mp read.symm
        simp only [first, second]
      | some payment =>
        rw [first] at read
        obtain ⟨payment', second, is⟩ := Option.map_eq_some_iff.mp read.symm
        simp only [first, second]
        simp [Except.map, timeless, is]

theorem stays_getPayment (same : Same L M) (id : PaymentId) :
    Stays fp d e L M (.getPayment id) := by
  have served (b : Backend) (d : Draw) (N : Ledger) :
      execOp fp b (working d) N (.getPayment id) =
        (N, readPayment (N.payments.rows.find? fun row => row.id == .stored id)) := by
    simp [execOp, program, PaymentStore.getPayment, exec, Stmt.run, Session.on, Session.close]
  constructor
  · rw [served, served]
    exact readPayment_timeless id (find_id same id)
  · rw [served, served]
    exact same

/-- The next action a row holds. -/
def actionOf (found : Option PaymentRow) : StoreResult (Option PaymentNextAction) :=
  match found.bind PaymentRow.nextActionJson with
  | none => .ok none
  | some (.stored action) => .ok (some action)
  | some (.corrupt _) => .error .internal

theorem stays_nextAction (same : Same L M) (id : PaymentId) :
    Stays fp d e L M (.getNextAction id) := by
  have served (b : Backend) (d : Draw) (N : Ledger) :
      execOp fp b (working d) N (.getNextAction id) =
        (N, actionOf (N.payments.rows.find? fun row => row.id == .stored id)) := by
    cases found : (N.payments.rows.find? fun row => row.id == .stored id).bind
        PaymentRow.nextActionJson with
    | none =>
      simp [execOp, program, PaymentStore.getNextAction, exec, Stmt.run, Session.on, found,
        actionOf, Session.close]
    | some text =>
      cases text with
      | stored action =>
        simp [execOp, program, PaymentStore.getNextAction, exec, Stmt.run, Session.on, found,
          actionOf, Session.close]
      | corrupt raw =>
        simp [execOp, program, PaymentStore.getNextAction, exec, Stmt.run, Session.on, found,
          actionOf, internalErr, Session.close]
  have column {found found' : Option PaymentRow}
      (is : found.map timelessRow = found'.map timelessRow) :
      found.bind PaymentRow.nextActionJson = found'.bind PaymentRow.nextActionJson := by
    have both := congrArg (Option.bind · PaymentRow.nextActionJson) is
    simpa [Option.bind_map, Function.comp_def, timelessRow] using both
  constructor
  · rw [served, served, actionOf, actionOf, column (find_id same id)]
    rfl
  · rw [served, served]
    exact same

theorem table_ext {α : Type} {Clash : α → α → Prop} {t u : Table α Clash}
    (same : t.rows = u.rows) : t = u := by
  cases t
  cases u
  cases same
  rfl

theorem stays_refund (same : Same L M) (refund : RefundRecord) (status : PaymentStatus) :
    Stays fp d e L M (.recordRefund refund status) := by
  have taken : M.refunds = L.refunds := (table_ext same.refunds).symm
  cases inserted : L.refunds.insert refund.toRow with
  | none =>
    have left : execOp fp .sqlite (working d) L (.recordRefund refund status) =
        (L, .error .internal) := by
      simp [execOp, program, SqliteStore.recordRefund, exec, Stmt.run, Session.on, Write.perform,
        inserted, internalErr, Session.close]
    have right : execOp fp .postgres (working e) M (.recordRefund refund status) =
        (M, .error .internal) := by
      simp [execOp, program, PostgresStore.recordRefund, exec, Stmt.run, Session.on, performAll,
        Write.perform, taken, inserted, internalErr, Session.close]
    constructor
    · rw [left, right]
      rfl
    · rw [left, right]
      exact same
  | some refunds =>
    have left : execOp fp .sqlite (working d) L (.recordRefund refund status) =
        (Ledger.updatePayment { L with refunds } (.stored refund.paymentId) false
          ((refundEdit status (d.clock 0)).kept .sqlite), .ok ()) := by
      simp [execOp, program, SqliteStore.recordRefund, exec, Stmt.run, Session.on, Write.perform,
        inserted, Session.close]
    have right : execOp fp .postgres (working e) M (.recordRefund refund status) =
        (Ledger.updatePayment { M with refunds } (.stored refund.paymentId) false
          ((refundEdit status (e.clock 0)).kept .postgres), .ok ()) := by
      simp [execOp, program, PostgresStore.recordRefund, exec, Stmt.run, Session.on, performAll,
        Write.perform, taken, inserted, Session.close]
    have booked : Same { L with refunds } { M with refunds } :=
      ⟨same.payments, same.webhookEvents, rfl⟩
    constructor
    · rw [left, right]
      rfl
    · rw [left, right]
      exact booked.updatePayment (.stored refund.paymentId) false rfl

theorem stays_reconciled (same : Same L M) (intact : AllIntact L) (intact' : AllIntact M)
    {id : PaymentId} {resolved : PaymentStatus}
    (moves : ∀ row ∈ L.payments.rows, row.id = .stored id → row.status ≠ .stored resolved) :
    Stays fp d e L M (.applyReconciliationResult id resolved) := by
  have found := find_id same id
  cases first : L.payments.rows.find? fun row => row.id == .stored id with
  | none =>
    rw [first] at found
    have second : (M.payments.rows.find? fun row => row.id == .stored id) = none :=
      Option.map_eq_none_iff.mp found.symm
    have left : execOp fp .sqlite (working d) L (.applyReconciliationResult id resolved) =
        (L, .error .internal) := by
      simp [execOp, program, SqliteStore.applyReconciliationResult, exec, Stmt.run, Session.on,
        first, internalErr, Session.close]
    have right : execOp fp .postgres (working e) M (.applyReconciliationResult id resolved) =
        (M, .error .internal) := by
      simp [execOp, program, PostgresStore.applyReconciliationResult, PaymentStore.getPayment, exec,
        Stmt.run, Session.on, second, readPayment, internalErr, Session.close]
    constructor
    · rw [left, right]
      rfl
    · rw [left, right]
      exact same
  | some row =>
    have mem := List.mem_of_find?_eq_some first
    have is : row.id = .stored id := by simpa using List.find?_some first
    obtain ⟨row', mem', is', alike⟩ := found_alike same mem is
    obtain ⟨current, stored⟩ := (intact row mem).status
    have stored' : row'.status = .stored current :=
      (alike_of_timeless alike).status.symm.trans stored
    obtain ⟨payment, read⟩ := (intact' row' mem').toPayment
    have status : payment.status = current := by
      have column := (readFrom_of_toPayment read).status.symm.trans stored'
      exact Text.stored.inj column
    have apart : current ≠ resolved := by
      rintro rfl
      exact moves row mem is stored
    cases judged : current.validateTransition resolved with
    | error illegal =>
      have left : execOp fp .sqlite (working d) L (.applyReconciliationResult id resolved) =
          (L, .ok (.illegal illegal.source illegal.target)) := by
        simp [execOp, program, SqliteStore.applyReconciliationResult, exec, Stmt.run, Session.on,
          first, stored, Text.parse, judged, Session.close]
      have right : execOp fp .postgres (working e) M (.applyReconciliationResult id resolved) =
          (M, .ok (.illegal illegal.source illegal.target)) := by
        simp [execOp, program, PostgresStore.applyReconciliationResult, PaymentStore.getPayment,
          exec, Stmt.run, Session.on, find_payment mem' is', readPayment, read, status, judged,
          Session.close]
      constructor
      · rw [left, right]
        rfl
      · rw [left, right]
        exact same
    | ok legal =>
      have left : execOp fp .sqlite (working d) L (.applyReconciliationResult id resolved) =
          (L.updatePayment (.stored id) false ((statusEdit resolved (d.clock 0)).kept .sqlite),
            .ok (.applied id current resolved)) := by
        simp [execOp, program, SqliteStore.applyReconciliationResult, exec, Stmt.run, Session.on,
          first, stored, Text.parse, judged, apart, Write.perform, Session.close]
      have right : execOp fp .postgres (working e) M (.applyReconciliationResult id resolved) =
          (M.updatePayment (.stored id) false ((statusEdit resolved (e.clock 1)).kept .postgres),
            .ok (.applied id current resolved)) := by
        simp [execOp, program, PostgresStore.applyReconciliationResult, PaymentStore.getPayment,
          PostgresStore.updateStatusOnly, exec, Stmt.run, Session.on, find_payment mem' is',
          readPayment, read, status, judged, Write.perform, Session.close]
      constructor
      · rw [left, right]
        rfl
      · rw [left, right]
        exact same.updatePayment (.stored id) false rfl

end Steps

section Webhooks

variable {fp : PaymentRequest → String} {d e : Draw} {L M : Ledger} {event : WebhookReport}
  {row row' : PaymentRow} {events events' : Table WebhookEventRow EventClash}

/-- What `SELECT … WHERE provider = … AND provider_reference = …` finds. -/
def matching (d : Draw) (L : Ledger) (event : WebhookReport) : Option PaymentRow :=
  (scan d L.payments.rows).find? fun row =>
    row.provider == .stored event.provider && row.providerReference == some event.providerReference

theorem matching_none
    (unmatched : ∀ row ∈ L.payments.rows, ¬ Matches event.provider event.providerReference row) :
    matching d L event = none := by
  rw [matching, List.find?_eq_none]
  intro row mem found
  have inRows := (List.mem_insertionSort _).mp mem
  exact unmatched row inRows (by simpa [Matches] using found)

theorem matching_mem (found : matching d L event = some row) :
    row ∈ L.payments.rows ∧ Matches event.provider event.providerReference row := by
  have held : Matches event.provider event.providerReference row := by
    simpa [Matches] using List.find?_some found
  exact ⟨(List.mem_insertionSort _).mp (List.mem_of_find?_eq_some found), held⟩

theorem matching_found (mem : row ∈ L.payments.rows)
    (matched : Matches event.provider event.providerReference row) :
    ∃ other, matching d L event = some other := by
  have listed : row ∈ scan d L.payments.rows := (List.mem_insertionSort _).mpr mem
  have found : (matching d L event).isSome = true := by
    rw [matching, List.find?_isSome]
    exact ⟨row, listed, by simpa [Matches] using matched⟩
  exact Option.isSome_iff_exists.mp found

theorem matching_some (mem : row ∈ L.payments.rows)
    (matched : Matches event.provider event.providerReference row)
    (unambiguous : Unambiguous L event) : matching d L event = some row := by
  obtain ⟨other, is⟩ := matching_found mem matched
  obtain ⟨mem', matched'⟩ := matching_mem is
  rw [is, unambiguous other mem' row mem matched' matched]

theorem scan_working (d : Draw) (rows : List PaymentRow) : scan (working d) rows = scan d rows :=
  rfl

theorem unmatched_sqlite (none_ : matching d L event = none) :
    execOp fp .sqlite (working d) L (.applyWebhookEvent event) = (L, .ok .paymentNotFound) := by
  unfold matching at none_
  simp [execOp, program, SqliteStore.applyWebhookEvent, exec, Stmt.run, Session.on, scan_working,
    none_, Session.close]

theorem unmatched_postgres (none_ : matching e M event = none) :
    execOp fp .postgres (working e) M (.applyWebhookEvent event) = (M, .ok .paymentNotFound) := by
  unfold matching at none_
  simp [execOp, program, PostgresStore.applyWebhookEvent, exec, Stmt.run, Session.on, scan_working,
    none_, Session.close]

theorem duplicate_sqlite (found : matching d L event = some row)
    (taken : L.webhookEvents.insert ((⟨event.eventId, event.provider, row.id, d.clock 0⟩ :
      WebhookEventRow).kept .sqlite) = none) :
    execOp fp .sqlite (working d) L (.applyWebhookEvent event) = (L, .ok .duplicate) := by
  unfold matching at found
  simp [execOp, program, SqliteStore.applyWebhookEvent, exec, Stmt.run, Session.on, scan_working,
    found, Write.perform, taken, Session.close]

theorem duplicate_postgres (found : matching e M event = some row)
    (taken : M.webhookEvents.insert ((⟨event.eventId, event.provider, row.id, e.clock 1⟩ :
      WebhookEventRow).kept .postgres) = none) :
    execOp fp .postgres (working e) M (.applyWebhookEvent event) = (M, .ok .duplicate) := by
  unfold matching at found
  simp [execOp, program, PostgresStore.applyWebhookEvent, exec, Stmt.run, Session.on, scan_working,
    found, Write.perform, taken, Session.close]

/-- What becomes of a new event that does not report the status that is stored. -/
def judgement (b : Backend) (now : Instant) (L : Ledger) (event : WebhookReport) (row : PaymentRow)
    (id : PaymentId) (current : PaymentStatus) : Ledger × StoreResult WebhookApplyOutcome :=
  if event.reportedAmountMinorUnits.any (· ≠ row.amountMinorUnits) then
    (L, .ok (.transition (.amountMismatch row.amountMinorUnits
      (event.reportedAmountMinorUnits.getD row.amountMinorUnits))))
  else
    match current.validateTransition event.reportedStatus with
    | .error illegal => (L, .ok (.transition (.illegal illegal.source illegal.target)))
    | .ok () => (L.updatePayment row.id false ((statusEdit event.reportedStatus now).kept b),
        .ok (.transition (.applied id current event.reportedStatus)))

theorem judged_sqlite {id : PaymentId} {current : PaymentStatus}
    (found : matching d L event = some row)
    (new : L.webhookEvents.insert ((⟨event.eventId, event.provider, row.id, d.clock 0⟩ :
      WebhookEventRow).kept .sqlite) = some events) (mem : row ∈ L.payments.rows)
    (named : row.id = .stored id) (stored : row.status = .stored current)
    (apart : AmountAgrees event row → current ≠ event.reportedStatus) :
    execOp fp .sqlite (working d) L (.applyWebhookEvent event) =
      judgement .sqlite (d.clock 0) { L with webhookEvents := events } event row id current := by
  have one (L' : Ledger) (is : L'.payments = L.payments) :
      L'.payments.affected (targets (.stored id) false) = 1 := by
    rw [is]
    exact affected_of_mem mem named
  have affected := one { L with webhookEvents := events } rfl
  rw [named] at new
  unfold matching at found
  cases amount : event.reportedAmountMinorUnits with
  | none =>
    have other := apart (.inl amount)
    cases judged : current.validateTransition event.reportedStatus with
    | error illegal =>
      simp [execOp, program, SqliteStore.applyWebhookEvent, SqliteStore.judge,
        SqliteStore.applySqliteTransition, exec, Stmt.run, Session.on, scan_working, found,
        Write.perform, new, named, stored, Text.parse, amount, other, judged, judgement, Session.close]
    | ok legal =>
      simp [execOp, program, SqliteStore.applyWebhookEvent, SqliteStore.judge,
        SqliteStore.applySqliteTransition, exec, Stmt.run, Session.on, scan_working, found,
        Write.perform, new, named, stored, Text.parse, amount, other, judged, judgement, affected,
        Session.close]
  | some reported =>
    by_cases same : reported = row.amountMinorUnits
    · have other := apart (.inr (amount.trans (congrArg some same)))
      cases judged : current.validateTransition event.reportedStatus with
      | error illegal =>
        simp [execOp, program, SqliteStore.applyWebhookEvent, SqliteStore.judge,
          SqliteStore.applySqliteTransition, exec, Stmt.run, Session.on, scan_working, found,
          Write.perform, new, named, stored, Text.parse, amount, same, other, judged, judgement,
          Session.close]
      | ok legal =>
        simp [execOp, program, SqliteStore.applyWebhookEvent, SqliteStore.judge,
          SqliteStore.applySqliteTransition, exec, Stmt.run, Session.on, scan_working, found,
          Write.perform, new, named, stored, Text.parse, amount, same, other, judged, judgement,
          affected, Session.close]
    · simp [execOp, program, SqliteStore.applyWebhookEvent, SqliteStore.judge, exec, Stmt.run,
        Session.on, scan_working, found, Write.perform, new, named, stored, Text.parse, amount, same,
        judgement, Session.close]

theorem judged_postgres {id : PaymentId} {current : PaymentStatus}
    (found : matching e M event = some row)
    (new : M.webhookEvents.insert ((⟨event.eventId, event.provider, row.id, e.clock 1⟩ :
      WebhookEventRow).kept .postgres) = some events)
    (named : row.id = .stored id) (stored : row.status = .stored current) :
    execOp fp .postgres (working e) M (.applyWebhookEvent event) =
      judgement .postgres (e.clock 3) { M with webhookEvents := events } event row id current := by
  rw [named] at new
  unfold matching at found
  cases amount : event.reportedAmountMinorUnits with
  | none =>
    cases judged : current.validateTransition event.reportedStatus with
    | error illegal =>
      simp [execOp, program, PostgresStore.applyWebhookEvent, exec, Stmt.run, Session.on,
        scan_working, found, Write.perform, new, named, stored, Text.parse, amount, judged,
        judgement, Session.close]
    | ok legal =>
      simp [execOp, program, PostgresStore.applyWebhookEvent, exec, Stmt.run, Session.on,
        scan_working, found, Write.perform, new, named, stored, Text.parse, amount, judged,
        judgement, Session.close]
  | some reported =>
    by_cases same : reported = row.amountMinorUnits
    · cases judged : current.validateTransition event.reportedStatus with
      | error illegal =>
        simp [execOp, program, PostgresStore.applyWebhookEvent, exec, Stmt.run, Session.on,
          scan_working, found, Write.perform, new, named, stored, Text.parse, amount, same, judged,
          judgement, Session.close]
      | ok legal =>
        simp [execOp, program, PostgresStore.applyWebhookEvent, exec, Stmt.run, Session.on,
          scan_working, found, Write.perform, new, named, stored, Text.parse, amount, same, judged,
          judgement, Session.close]
    · simp [execOp, program, PostgresStore.applyWebhookEvent, exec, Stmt.run, Session.on,
        scan_working, found, Write.perform, new, named, stored, Text.parse, amount, same,
        judgement, Session.close]

theorem judgement_stays (same : Same L M) (alike : Alike row row') (event : WebhookReport)
    (now now' : Instant) (id : PaymentId) (current : PaymentStatus) :
    (judgement .sqlite now L event row id current).2 =
        (judgement .postgres now' M event row' id current).2 ∧
      Same (judgement .sqlite now L event row id current).1
        (judgement .postgres now' M event row' id current).1 := by
  unfold judgement
  rw [alike.amountMinorUnits, alike.id]
  split
  · exact ⟨rfl, same⟩
  · cases current.validateTransition event.reportedStatus with
    | error illegal => exact ⟨rfl, same⟩
    | ok legal => exact ⟨rfl, same.updatePayment row'.id false rfl⟩

/-- Only rows that are the same match on either side. -/
theorem matches_alike {provider : ProviderId} {reference : String} (alike : Alike row row') :
    Matches provider reference row ↔ Matches provider reference row' := by
  unfold Matches
  rw [alike.provider, alike.providerReference]

theorem unambiguous_alike (same : Same L M) (unambiguous : Unambiguous L event) :
    Unambiguous M event := by
  intro row mem row' mem' matched matched'
  obtain ⟨old, here, is⟩ := counterpart same.payments.symm mem
  obtain ⟨old', here', is'⟩ := counterpart same.payments.symm mem'
  have alike := alike_of_timeless is
  have alike' := alike_of_timeless is'
  have one := unambiguous old here old' here' ((matches_alike alike).mpr matched)
    ((matches_alike alike').mpr matched')
  apply row_eq_of_id mem mem'
  rw [← alike.id, ← alike'.id, one]

theorem stays_unmatched (same : Same L M)
    (none_ : ∀ row ∈ L.payments.rows, ¬ Matches event.provider event.providerReference row) :
    Stays fp d e L M (.applyWebhookEvent event) := by
  have none' : ∀ row ∈ M.payments.rows,
      ¬ Matches event.provider event.providerReference row := by
    intro row mem matched
    obtain ⟨found, here, is⟩ := counterpart same.payments.symm mem
    exact none_ found here ((matches_alike (alike_of_timeless is)).mpr matched)
  have left : execOp fp .sqlite (working d) L (.applyWebhookEvent event) =
      (L, .ok .paymentNotFound) := unmatched_sqlite (matching_none none_)
  have right : execOp fp .postgres (working e) M (.applyWebhookEvent event) =
      (M, .ok .paymentNotFound) := unmatched_postgres (matching_none none')
  constructor
  · rw [left, right]
    rfl
  · rw [left, right]
    exact same

/-- An event that is recorded is a duplicate, whichever payment is found. -/
theorem stays_recorded (same : Same L M) (mem : row ∈ L.payments.rows)
    (matched : Matches event.provider event.providerReference row)
    (recorded : ∃ e ∈ L.webhookEvents.rows, e.eventId = event.eventId) :
    Stays fp d e L M (.applyWebhookEvent event) := by
  obtain ⟨row', mem', is⟩ := counterpart same.payments mem
  obtain ⟨found, left⟩ := matching_found mem matched
  obtain ⟨found', right⟩ :=
    matching_found mem' ((matches_alike (alike_of_timeless is.symm)).mp matched)
  obtain ⟨old, here, named⟩ := recorded
  obtain ⟨old', here', is'⟩ := counterpart same.webhookEvents here
  have named' : (timelessEvent old').eventId = event.eventId := by rw [is']; exact named
  have taken : L.webhookEvents.insert ((⟨event.eventId, event.provider, found.id, d.clock 0⟩ :
      WebhookEventRow).kept .sqlite) = none := Table.insert_eq_none.mpr ⟨old, here, named⟩
  have taken' : M.webhookEvents.insert ((⟨event.eventId, event.provider, found'.id, e.clock 1⟩ :
      WebhookEventRow).kept .postgres) = none := Table.insert_eq_none.mpr ⟨old', here', named'⟩
  constructor
  · rw [duplicate_sqlite left taken, duplicate_postgres right taken']
    rfl
  · rw [duplicate_sqlite left taken, duplicate_postgres right taken']
    exact same

/-- A new event is recorded and judged, on either side alike. -/
theorem stays_judged (same : Same L M) (intact : AllIntact L) (mem : row ∈ L.payments.rows)
    (matched : Matches event.provider event.providerReference row)
    (unseen : ∀ e ∈ L.webhookEvents.rows, e.eventId ≠ event.eventId)
    (unambiguous : Unambiguous L event)
    (moves : AmountAgrees event row → row.status ≠ .stored event.reportedStatus) :
    Stays fp d e L M (.applyWebhookEvent event) := by
  obtain ⟨row', mem', is⟩ := counterpart same.payments mem
  have alike := alike_of_timeless is.symm
  have left : matching d L event = some row := matching_some mem matched unambiguous
  have right : matching e M event = some row' :=
    matching_some mem' ((matches_alike alike).mp matched) (unambiguous_alike same unambiguous)
  have entry : timelessEvent ((⟨event.eventId, event.provider, row.id, d.clock 0⟩ :
        WebhookEventRow).kept .sqlite) =
      timelessEvent ((⟨event.eventId, event.provider, row'.id, e.clock 1⟩ :
        WebhookEventRow).kept .postgres) := by
    rw [alike.id]
    rfl
  have clashes (c c' : WebhookEventRow) (same' : timelessEvent c = timelessEvent c') :
      EventClash c ((⟨event.eventId, event.provider, row.id, d.clock 0⟩ :
          WebhookEventRow).kept .sqlite) ↔
        EventClash c' ((⟨event.eventId, event.provider, row'.id, e.clock 1⟩ :
          WebhookEventRow).kept .postgres) := by
    have named : (timelessEvent c).eventId = (timelessEvent c').eventId := congrArg _ same'
    show (timelessEvent c).eventId = event.eventId ↔ (timelessEvent c').eventId = event.eventId
    rw [named]
  rcases insert_blind same.webhookEvents entry clashes with ⟨taken, -⟩ |
    ⟨events, events', new, new', rows⟩
  · obtain ⟨old, here, clash⟩ := Table.insert_eq_none.mp taken
    exact absurd clash (unseen old here)
  · obtain ⟨id, named⟩ := (intact row mem).id
    obtain ⟨current, stored⟩ := (intact row mem).status
    have apart (agrees : AmountAgrees event row) : current ≠ event.reportedStatus := by
      intro held
      exact moves agrees (stored.trans (congrArg Text.stored held))
    have booked : Same { L with webhookEvents := events } { M with webhookEvents := events' } :=
      ⟨same.payments, rows, same.refunds⟩
    have judged := judgement_stays booked alike event (d.clock 0) (e.clock 3) id current
    have stored' := alike.status.symm.trans stored
    have named' := alike.id.symm.trans named
    constructor
    · rw [judged_sqlite left new mem named stored apart, judged_postgres right new' named' stored',
        judged.1]
      rfl
    · rw [judged_sqlite left new mem named stored apart, judged_postgres right new' named' stored']
      exact judged.2

theorem stays_webhook (same : Same L M) (intact : AllIntact L)
    (meets : (∀ e ∈ L.webhookEvents.rows, e.eventId ≠ event.eventId) → Unambiguous L event ∧
      ∀ row ∈ L.payments.rows, Matches event.provider event.providerReference row →
        AmountAgrees event row → row.status ≠ .stored event.reportedStatus) :
    Stays fp d e L M (.applyWebhookEvent event) := by
  by_cases some_ : ∃ row ∈ L.payments.rows, Matches event.provider event.providerReference row
  · obtain ⟨row, mem, matched⟩ := some_
    by_cases recorded : ∃ e ∈ L.webhookEvents.rows, e.eventId = event.eventId
    · exact stays_recorded same mem matched recorded
    · have unseen : ∀ e ∈ L.webhookEvents.rows, e.eventId ≠ event.eventId :=
        fun old here named => recorded ⟨old, here, named⟩
      obtain ⟨unambiguous, moves⟩ := meets unseen
      exact stays_judged same intact mem matched unseen unambiguous (moves row mem matched)
  · exact stays_unmatched same fun row mem matched => some_ ⟨row, mem, matched⟩

end Webhooks

section Lists

variable {fp : PaymentRequest → String} {d e : Draw} {L M : Ledger} {cutoff cutoff' : Instant}

/-- No backend lists a row behind one that is younger to it. -/
theorem staleRows_before (b : Backend) (d : Draw) (cutoff : Instant) (rows : List PaymentRow) :
    (staleRows b d cutoff rows).Pairwise fun r s => b.before s.updatedAt r.updatedAt = false := by
  cases b with
  | sqlite =>
    apply ReconcilerStore.staleRows_sorted.imp
    intro r s ranked
    exact (ReconcilerStore.not_before_iff _ _).mpr ranked
  | postgres =>
    have sorted : (staleRows .postgres d cutoff rows).Pairwise fun r s =>
        r.updatedAt.nanoseconds ≤ s.updatedAt.nanoseconds :=
      ReconcilerStore.insertionSort_ranked (fun row : PaymentRow => row.updatedAt.nanoseconds)
        (fun r s => by simp [Backend.before]) _
    apply sorted.imp
    intro r s ranked
    simpa [Backend.before] using ranked

/-- SQLite lists the second of two stale rows no earlier than the first, as far
as the rows can be told without their times. -/
def Follows (L : Ledger) (cutoff : Instant) (u v : PaymentRow) : Prop :=
  ∀ r ∈ L.payments.rows, ∀ s ∈ L.payments.rows, timelessRow r = u → timelessRow s = v →
    stale .sqlite cutoff r = true → stale .sqlite cutoff s = true →
      Backend.before .sqlite s.updatedAt r.updatedAt = false

theorem mem_staleRows {b : Backend} {rows : List PaymentRow} {row : PaymentRow} :
    row ∈ staleRows b d cutoff rows ↔ row ∈ rows ∧ stale b cutoff row = true := by
  rw [(ReconcilerStore.staleRows_perm b d cutoff rows).mem_iff, List.mem_filter]

theorem follows_sqlite : ((staleRows .sqlite d cutoff L.payments.rows).map timelessRow).Pairwise
    (Follows L cutoff) := by
  rw [List.pairwise_map]
  apply (staleRows_before .sqlite d cutoff L.payments.rows).imp_of_mem
  intro r s mem mem' before u here v there first second _ _
  have is := row_eq_of_id here (mem_staleRows.mp mem).1 (alike_of_timeless first).id
  have is' := row_eq_of_id there (mem_staleRows.mp mem').1 (alike_of_timeless second).id
  rw [is, is']
  exact before

theorem follows_postgres (alike : SelectsAlike L M cutoff cutoff') :
    ((staleRows .postgres e cutoff' M.payments.rows).map timelessRow).Pairwise
      (Follows L cutoff) := by
  rw [List.pairwise_map]
  apply (staleRows_before .postgres e cutoff' M.payments.rows).imp_of_mem
  intro r' s' mem mem' before r here s there first second due due'
  rw [alike.ordered s there s' (mem_staleRows.mp mem').1 (alike_of_timeless second).id r here r'
    (mem_staleRows.mp mem).1 (alike_of_timeless first).id due' due]
  exact before

/-- Both list the same rows in one order. -/
theorem staleRows_timeless (same : Same L M) (alike : SelectsAlike L M cutoff cutoff') :
    (staleRows .sqlite d cutoff L.payments.rows).map timelessRow =
      (staleRows .postgres e cutoff' M.payments.rows).map timelessRow := by
  have selected := filter_blind same.payments fun r mem r' mem' is =>
    alike.selected r mem r' mem' (alike_of_timeless is).id
  have perm : ((staleRows .sqlite d cutoff L.payments.rows).map timelessRow).Perm
      ((staleRows .postgres e cutoff' M.payments.rows).map timelessRow) := by
    have left := (ReconcilerStore.staleRows_perm .sqlite d cutoff L.payments.rows).map timelessRow
    have right :=
      (ReconcilerStore.staleRows_perm .postgres e cutoff' M.payments.rows).map timelessRow
    rw [selected] at left
    exact left.trans right.symm
  refine perm.eq_of_pairwise ?_ follows_sqlite (follows_postgres alike)
  intro u v mem mem' forward backward
  obtain ⟨r, listed, rfl⟩ := List.mem_map.mp mem
  obtain ⟨s, listed', rfl⟩ := List.mem_map.mp (perm.mem_iff.mpr mem')
  obtain ⟨here, due⟩ := mem_staleRows.mp listed
  obtain ⟨there, due'⟩ := mem_staleRows.mp listed'
  have forward' := forward r here s there rfl rfl due due'
  have backward' := backward s there r here rfl rfl due' due
  by_cases one : r.id = s.id
  · rw [row_eq_of_id here there one]
  · rcases alike.apart r here s there due due' one with before | before
    · rw [before] at backward'
      cases backward'
    · rw [before] at forward'
      cases forward'

theorem collect_timeless {rows rows' : List PaymentRow}
    (same : rows.map timelessRow = rows'.map timelessRow) :
    (collect PaymentRow.toPayment rows).map (List.map timelessPayment) =
      (collect PaymentRow.toPayment rows').map (List.map timelessPayment) := by
  induction rows generalizing rows' with
  | nil =>
    have empty : rows' = [] := List.map_eq_nil_iff.mp same.symm
    rw [empty]
  | cons row rows ih =>
    cases rows' with
    | nil => cases same
    | cons row' rows' =>
      obtain ⟨first, rest⟩ := List.cons.inj same
      have read := toPayment_alike first
      have others := ih rest
      simp only [collect]
      cases one : row.toPayment with
      | none =>
        rw [one] at read
        rw [Option.map_eq_none_iff.mp read.symm]
      | some payment =>
        rw [one] at read
        obtain ⟨payment', one', is⟩ := Option.map_eq_some_iff.mp read.symm
        rw [one']
        cases more : collect PaymentRow.toPayment rows with
        | none =>
          rw [more] at others
          rw [Option.map_eq_none_iff.mp others.symm]
        | some payments =>
          rw [more] at others
          obtain ⟨payments', more', are⟩ := Option.map_eq_some_iff.mp others.symm
          rw [more']
          simp [is, are]

theorem stays_stale (same : Same L M) {minAge limit : ℤ} (bounded : 0 ≤ limit)
    (alike : SelectsAlike L M ((d.clock 0).minus minAge) ((e.clock 0).minus minAge)) :
    Stays fp d e L M (.listStaleUnknownPayments minAge limit) := by
  have limited (b : Backend) (rows : List PaymentRow) :
      b.limited limit rows = .ok (rows.take limit.toNat) := by
    cases b <;> simp [Backend.limited, Int.not_lt.mpr bounded]
  have served (b : Backend) (d : Draw) (N : Ledger) :
      execOp fp b (working d) N (.listStaleUnknownPayments minAge limit) =
        (N, (collect PaymentRow.toPayment ((staleRows b d ((d.clock 0).minus minAge)
          N.payments.rows).take limit.toNat)).elim (.error .internal) .ok) := by
    have visits : staleRows b (working d) ((d.clock 0).minus minAge) N.payments.rows =
        staleRows b d ((d.clock 0).minus minAge) N.payments.rows := rfl
    cases read : collect PaymentRow.toPayment
        ((staleRows b d ((d.clock 0).minus minAge) N.payments.rows).take limit.toNat) with
    | none =>
      simp [execOp, program, PaymentStore.listStaleUnknownPayments, exec, Stmt.run, Session.on,
        limited, visits, read, internalErr, Session.close]
    | some payments =>
      simp [execOp, program, PaymentStore.listStaleUnknownPayments, exec, Stmt.run, Session.on,
        limited, visits, read, Session.close]
  have rows := congrArg (List.take limit.toNat) (staleRows_timeless (d := d) (e := e) same alike)
  rw [← List.map_take, ← List.map_take] at rows
  have read := collect_timeless rows
  constructor
  · rw [served, served]
    unfold SameResult
    cases left : collect PaymentRow.toPayment ((staleRows .sqlite d ((d.clock 0).minus minAge)
        L.payments.rows).take limit.toNat) with
    | none =>
      rw [left] at read
      rw [Option.map_eq_none_iff.mp read.symm]
    | some payments =>
      rw [left] at read
      obtain ⟨payments', right, are⟩ := Option.map_eq_some_iff.mp read.symm
      rw [right]
      simp [Except.map, timeless, are]
  · rw [served, served]
    exact same

end Lists

section Runs

variable {fp : PaymentRequest → String} {L M : Ledger}

/-- What is seen of a payment. -/
def shown (row : PaymentRow) :
    Text PaymentId × Text PaymentStatus × Option String × Option (Text PaymentNextAction) :=
  (row.id, row.status, row.providerReference, row.nextActionJson)

/-- Call by call the two backends give the same result and leave the same of
every payment. -/
def Equivalent (fp : PaymentRequest → String) : Ledger → Ledger → List Call → Prop
  | _, _, [] => True
  | L, M, c :: calls =>
    SameResult c.op (serve fp .sqlite L c).2 (serve fp .postgres M c).2 ∧
      (serve fp .sqlite L c).1.payments.rows.map shown =
        (serve fp .postgres M c).1.payments.rows.map shown ∧
      Equivalent fp (serve fp .sqlite L c).1 (serve fp .postgres M c).1 calls

/-- Every call of the run meets its condition where it is made. -/
def MeetsAll (fp : PaymentRequest → String) : Ledger → Ledger → List Call → Prop
  | _, _, [] => True
  | L, M, c :: calls =>
    Meets L M c ∧ MeetsAll fp (serve fp .sqlite L c).1 (serve fp .postgres M c).1 calls

theorem stays_call (same : Same L M) (intact : AllIntact L) (intact' : AllIntact M) {c : Call}
    (meets : Meets L M c) : Stays fp (c.draw .sqlite) (c.draw .postgres) L M c.op := by
  obtain ⟨op, draw, listed, fresh⟩ := c
  cases op with
  | beginPaymentWithOwner request owner => exact stays_begin same fresh request owner
  | recordCreationResult id reference status action => exact stays_creation same action meets
  | applyWebhookEvent event => exact stays_webhook same intact meets
  | markTerminalWithoutProviderReference id status =>
    obtain ⟨terminal, s, validated⟩ := meets
    exact stays_terminal same terminal validated
  | markUnknown id =>
    obtain ⟨s, validated⟩ := meets
    exact stays_unknown same validated
  | applyReconciliationResult id resolved => exact stays_reconciled same intact intact' meets
  | getPayment id => exact stays_getPayment same id
  | findPaymentByReference reference => exact listed.elim
  | getNextAction id => exact stays_nextAction same id
  | listStaleUnknownPayments minAge limit => exact stays_stale same meets.1 meets.2
  | touchReconciliationAttempt id => exact stays_touch same id
  | recordRefund refund status => exact stays_refund same refund status
  | getTotalRefundedMinorUnits id => exact stays_total same id
  | listRefundsForPayment id => exact listed.elim

theorem Same.shown (same : Same L M) :
    L.payments.rows.map shown = M.payments.rows.map shown := by
  have blind : BackendEquivalence.shown = BackendEquivalence.shown ∘ timelessRow := rfl
  rw [blind, ← List.map_map, ← List.map_map, same.payments]

theorem serve_intact (fp : PaymentRequest → String) (b : Backend) (c : Call)
    (intact : AllIntact L) : AllIntact (serve fp b L c).1 :=
  outcome_intact (execOp_outcome fp b (working (c.draw b)) L c.op) intact

theorem equivalent_of_same {calls : List Call} (same : Same L M) (intact : AllIntact L)
    (intact' : AllIntact M) (meets : MeetsAll fp L M calls) : Equivalent fp L M calls := by
  induction calls generalizing L M with
  | nil => trivial
  | cons c calls ih =>
    obtain ⟨met, rest⟩ := meets
    have stays : Stays fp (c.draw .sqlite) (c.draw .postgres) L M c.op :=
      stays_call same intact intact' met
    exact ⟨stays.result, stays.tables.shown, ih stays.tables (serve_intact fp .sqlite c intact)
      (serve_intact fp .postgres c intact') rest⟩

def still (_ : Backend) : Draw := Gateway.quietDraw 1

def settled (eventId : String) : Call :=
  ⟨.applyWebhookEvent ⟨eventId, Providers.ProviderId.stripe, "cs_1", .succeeded, some 100⟩, still,
    trivial, rfl⟩

def settlement : List Call :=
  [⟨.beginPaymentWithOwner SqliteLedger.claim none, still, trivial, rfl⟩,
    ⟨.recordCreationResult ⟨1⟩ "cs_1" .pending none, still, trivial, rfl⟩, settled "evt_1"]

end Runs

end OpenWrapper.BackendEquivalence
