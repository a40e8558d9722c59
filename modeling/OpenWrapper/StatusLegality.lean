import OpenWrapper.SqliteLedger
import OpenWrapper.StatementRuns

/-! # The state machine over whole runs

Handlers, consumers and the reconciler of any number of replicas write the
statuses of payments. On SQLite a store operation is one step, on Postgres a
statement is. A status is left by a transition of the state machine as long as
nothing came between what a task was shown of the payment and its write. -/

set_option autoImplicit false

namespace OpenWrapper.StatusLegality
open OpenWrapper.Ids OpenWrapper.Payments OpenWrapper.ConstraintTable OpenWrapper.Schema
open OpenWrapper.PaymentStore OpenWrapper.StoreContract OpenWrapper.Effects OpenWrapper.Gateway
open OpenWrapper.Contracts OpenWrapper.Evolution OpenWrapper.StatementRules
open OpenWrapper.Suspended OpenWrapper.Interleaving
open OpenWrapper.SqliteLedger (statusOf statusOf_some)
open OpenWrapper.StatementRuns (Await SqlWorld Record Refundable Justified seen latest)

section Changes

/-- A step of the state machine to another status. -/
structure Transition (s t : PaymentStatus) : Prop where
  legal : PaymentStatus.Legal s t
  left : s ≠ .failed ∧ s ≠ .refunded
  settled : s = .succeeded → t = .partiallyRefunded ∨ t = .refunded

/-- Every payment is still there, with its status or one that follows it. -/
def Lawful (L L' : Ledger) : Prop :=
  ∀ row ∈ L.payments.rows, ∃ row' ∈ L'.payments.rows, row'.id = row.id ∧
    (row'.status ≠ row.status →
      ∃ s t, row.status = .stored s ∧ row'.status = .stored t ∧ Transition s t)

variable {ε : Type} {ρ : ε → Type}

/-- The step changes statuses by transitions only. -/
def LawfulStep (S : Setting ρ Origin Reply Shared Choice) (w : World ρ Origin Reply Shared)
    (a : GwAction) : Prop :=
  ∀ w', step S w a = some w' → Lawful w.shared.ledger w'.shared.ledger

/-- No task performs an effect that the test finds spoilt. -/
def Undisturbed (spoilt : Ledger → History ρ → ε → Bool) (w : World ρ Origin Reply Shared) :
    GwAction → Prop
  | .advance i _ => ∀ t ∈ w.tasks[i]?, t.awaiting (spoilt w.shared.ledger t.history) = false
  | .spawn _ => True
  | .cancel _ => True

instance (spoilt : Ledger → History ρ → ε → Bool) (w : World ρ Origin Reply Shared) :
    (a : GwAction) → Decidable (Undisturbed spoilt w a)
  | .advance i _ => inferInstanceAs
    (Decidable (∀ t ∈ w.tasks[i]?, t.awaiting (spoilt w.shared.ledger t.history) = false))
  | .spawn _ => .isTrue trivial
  | .cancel _ => .isTrue trivial

/-- A partial refund that the table takes, of a payment that is refunded. -/
def overtaken (L : Ledger) (refund : RefundRow) (t : PaymentStatus) : Bool :=
  t == .partiallyRefunded && (L.refunds.rows.all fun other => other.id != refund.id) &&
    L.payments.rows.any fun row => row.id == refund.paymentId && row.status == .stored .refunded

def spoiltOperation (L : Ledger) (_ : Past) : Effect → Bool
  | .store (.recordRefund record t) => overtaken L record.toRow t
  | _ => false

/-- A status is changed that is another than the task was last shown, or a
partial refund is written over a whole one. -/
def spoiltStatement (L : Ledger) (h : Record) : Await → Bool
  | .stmt (.write (.updatePayment id _ edit)) => edit.status.any fun t =>
    L.payments.rows.any fun row =>
      row.id == id && row.status != .stored t && latest id h != some row.status
  | .stmt (.transaction [.insertRefund refund, .updatePayment _ _ edit]) =>
    edit.status.any fun t => overtaken L refund t
  | _ => false

end Changes

section Lawful

variable {L L' : Ledger} {id : Text PaymentId} {s t : PaymentStatus}

theorem transition_of_legal (legal : PaymentStatus.Legal s t) (apart : s ≠ t) : Transition s t := by
  refine ⟨legal, ⟨?_, ?_⟩, ?_⟩
  · rintro rfl
    revert legal apart
    cases t <;> decide
  · rintro rfl
    revert legal apart
    cases t <;> decide
  · rintro rfl
    revert legal apart
    cases t <;> decide

theorem lawful_kept (same : L'.payments = L.payments) : Lawful L L' := by
  intro row mem
  exact ⟨row, by rw [same]; exact mem, rfl, fun apart => absurd rfl apart⟩

theorem lawful_insert {row : PaymentRow} {payments : Table PaymentRow PaymentClash}
    (inserted : L.payments.insert row = some payments) : Lawful L { L with payments } := by
  intro old mem
  have rows := (Table.insert_eq_some.mp inserted).2
  exact ⟨old, by simp [rows, mem], rfl, fun apart => absurd rfl apart⟩

theorem lawful_update {guarded : Bool} {edit : PaymentEdit}
    (legal : ∀ t, edit.status = some t → ∀ row ∈ L.payments.rows, row.id = id →
      ∃ s, row.status = .stored s ∧ PaymentStatus.Legal s t) :
    Lawful L (L.updatePayment id guarded edit) := by
  intro row mem
  refine ⟨_, List.mem_map_of_mem mem, Table.change_proj (f := edit.apply) PaymentRow.id
    (fun _ => rfl) row, fun apart => ?_⟩
  by_cases targeted : targets id guarded row = true
  · have is : row.id = id := by
      simp only [targets, Bool.and_eq_true, beq_iff_eq] at targeted
      exact targeted.1
    rw [Table.change_of_pos targeted] at apart ⊢
    cases sets : edit.status with
    | none => exact absurd (by simp [PaymentEdit.apply, sets]) apart
    | some t =>
      obtain ⟨s, stored, legal_⟩ := legal t sets row mem is
      have written : (edit.apply row).status = .stored t := by simp [PaymentEdit.apply, sets]
      refine ⟨s, t, stored, written, transition_of_legal legal_ ?_⟩
      rintro rfl
      exact apart (written.trans stored.symm)
  · rw [Table.change_of_neg (by simpa using targeted)] at apart
    exact absurd rfl apart

/-- The payment has been paid, and maybe refunded. -/
def Captured (L : Ledger) (id : Text PaymentId) : Prop :=
  ∃ row ∈ L.payments.rows, row.id = id ∧
    (row.status = .stored .succeeded ∨ row.status = .stored .partiallyRefunded ∨
      row.status = .stored .refunded)

/-- A payment that was paid stays so. -/
theorem Captured.lawful (captured : Captured L id) (lawful : Lawful L L') : Captured L' id := by
  obtain ⟨row, mem, is, status⟩ := captured
  obtain ⟨row', mem', is', moves⟩ := lawful row mem
  refine ⟨row', mem', is'.trans is, ?_⟩
  by_cases same : row'.status = row.status
  · rw [same]
    exact status
  · obtain ⟨s, t, stored, stored', transition⟩ := moves same
    rw [stored] at status
    rw [stored']
    have legal := transition.legal
    rcases status with is | is | is
    · cases Text.stored.inj is
      rcases transition.settled rfl with rfl | rfl
      · exact .inr (.inl rfl)
      · exact .inr (.inr rfl)
    · cases Text.stored.inj is
      revert legal
      cases t <;> decide
    · exact absurd (Text.stored.inj is) transition.left.2

/-- A refund of a paid payment is recorded by a legal step, unless a partial
one comes after a whole one. -/
theorem legal_refund {refund : RefundRow} (captured : Captured L refund.paymentId)
    (kind : t = .refunded ∨ t = .partiallyRefunded) (timely : overtaken L refund t = false)
    (unrecorded : ∀ other ∈ L.refunds.rows, other.id ≠ refund.id) :
    ∀ row ∈ L.payments.rows, row.id = refund.paymentId →
      ∃ s, row.status = .stored s ∧ PaymentStatus.Legal s t := by
  intro row mem is
  obtain ⟨row', mem', is', status⟩ := captured
  obtain rfl : row = row' := row_eq_of_id mem mem' (is.trans is'.symm)
  rcases status with stored | stored | stored
  · refine ⟨.succeeded, stored, ?_⟩
    rcases kind with rfl | rfl <;> rfl
  · refine ⟨.partiallyRefunded, stored, ?_⟩
    rcases kind with rfl | rfl <;> rfl
  · refine ⟨.refunded, stored, ?_⟩
    rcases kind with rfl | rfl
    · rfl
    · have late : overtaken L refund .partiallyRefunded = true := by
        simp only [overtaken, beq_self_eq_true, Bool.true_and, Bool.and_eq_true, List.all_eq_true,
          List.any_eq_true, bne_iff_ne]
        exact ⟨unrecorded, row, mem, by simp [is], by simp [stored]⟩
      rw [late] at timely
      cases timely

/-- The row that was checked is the one that is updated. -/
theorem lawful_checked {guarded : Bool} {edit : PaymentEdit} {row : PaymentRow}
    (mem : row ∈ L.payments.rows) (is : row.id = id) (stored : row.status = .stored s)
    (legal : PaymentStatus.Legal s t) (sets : edit.status = some t) :
    Lawful L (L.updatePayment id guarded edit) := by
  refine lawful_update fun t' sets' other mem' is' => ?_
  obtain rfl : other = row := row_eq_of_id mem' mem (is'.trans is.symm)
  cases sets.symm.trans sets'
  exact ⟨s, stored, legal⟩

theorem unrecorded_of_insert {refund : RefundRow} {refunds : Table RefundRow RefundClash}
    (inserted : L.refunds.insert refund = some refunds) :
    ∀ other ∈ L.refunds.rows, other.id ≠ refund.id := by
  intro other mem same
  exact (Table.insert_eq_some.mp inserted).1 other mem same

end Lawful

section Operations

variable {app : App} {w w' : GwWorld} {a : GwAction}

/-- What a refund is recorded under. -/
structure Timely (L : Ledger) (record : RefundRecord) (t : PaymentStatus) : Prop where
  captured : Captured L (.stored record.paymentId)
  kind : t = .refunded ∨ t = .partiallyRefunded
  first : overtaken L record.toRow t = false

theorem Timely.lawful {L : Ledger} {record : RefundRecord} {t : PaymentStatus}
    (timely : Timely L record t) {refunds : Table RefundRow RefundClash}
    (inserted : L.refunds.insert record.toRow = some refunds) (b : Backend) (now : Instant) :
    Lawful L (Ledger.updatePayment { L with refunds } (.stored record.paymentId) false
      ((refundEdit t now).kept b)) := by
  refine lawful_update (L := { L with refunds }) fun t' sets => ?_
  cases sets
  exact legal_refund timely.captured timely.kind timely.first (unrecorded_of_insert inserted)

/-- An operation on SQLite validates what it writes, but for a refund. -/
theorem outcome_lawful {fp : PaymentRequest → String} {d : Draw} {L L' : Ledger} {op : StoreOp}
    {r : op.Result} (outcome : Outcome fp .sqlite d L op L' r)
    (refunds : ∀ record t, op = .recordRefund record t → Timely L record t) : Lawful L L' := by
  cases outcome with
  | begun request owner now payments inserted => exact lawful_insert inserted
  | created id reference t nextAction now checked =>
    obtain ⟨row, mem, is, ⟨s, stored, legal⟩, -⟩ := (checked rfl).row
    exact lawful_checked mem is stored legal rfl
  | applied event row current id received now webhookEvents mem matching stored is inserted agrees
      legal =>
    exact lawful_checked (L := { L with webhookEvents }) mem rfl stored legal rfl
  | appliedUnnamed event row current received now webhookEvents postgres => cases postgres
  | marked id t now validated =>
    obtain ⟨s, legal, row, mem, is, stored⟩ := validated rfl
    exact lawful_checked mem is stored legal rfl
  | markedUnknown id now validated =>
    obtain ⟨s, legal, row, mem, is, stored⟩ := validated rfl
    exact lawful_checked mem is stored legal rfl
  | reconciled id s t now validated =>
    obtain ⟨legal, row, mem, is, stored⟩ := validated
    exact lawful_checked mem is stored legal rfl
  | touched id now =>
    refine lawful_update fun t' sets => ?_
    cases sets
  | refundRecorded record t now refunds_ inserted =>
    exact (refunds record t rfl).lawful inserted .sqlite now
  | _ => exact lawful_kept rfl

end Operations

section Steps

variable {ε : Type} {ρ : ε → Type} {S : Setting ρ Origin Reply Shared Choice}
  {w w' : World ρ Origin Reply Shared} {a : GwAction} {i : ℕ} {c : Choice}

/-- Only an advance touches the tables. -/
theorem lawfulStep_of_advances (advances : ∀ i c w', a = .advance i c → Advanced S w i c w' →
    Lawful w.shared.ledger w'.shared.ledger) : LawfulStep S w a := by
  intro w' stepped
  obtain ⟨o, -, rfl⟩ | ⟨i, c, is, ⟨adv⟩⟩ | ⟨i, t, -, found, rfl⟩ := step_cases stepped
  · exact lawful_kept rfl
  · exact advances i c w' is adv
  · exact lawful_kept rfl

theorem undisturbed_effect {spoilt : Ledger → History ρ → ε → Bool}
    (undisturbed : Undisturbed spoilt w (.advance i c)) (adv : Advanced S w i c w') :
    spoilt w.shared.ledger adv.task.history adv.effect = false := by
  have idle := undisturbed adv.task adv.found
  cases spoils : spoilt w.shared.ledger adv.task.history adv.effect with
  | false => rfl
  | true =>
    rw [Task.awaiting_iff.mpr ⟨adv.live, adv.effect, adv.resume, adv.suspended, spoils⟩] at idle
    cases idle

end Steps

section Sqlite

variable {app : App} {w w' : GwWorld} {a : GwAction} {i : ℕ} {c : Choice}

/-- A payment that was read as paid stays so. -/
def PaidKept (s : Shared) (ev : GwEvent) : Prop :=
  ∀ id payment, ev = told (.getPayment id) (some payment) →
    payment.status = .succeeded ∨ payment.status = .partiallyRefunded →
    Captured s.ledger (.stored id)

theorem captured_of_row {L : Ledger} {row : PaymentRow} {id : Text PaymentId} {s : PaymentStatus}
    (mem : row ∈ L.payments.rows) (is : row.id = id) (stored : row.status = .stored s)
    (refundable : Refundable s) : Captured L id := by
  refine ⟨row, mem, is, ?_⟩
  rcases refundable with rfl | rfl
  · exact .inl stored
  · exact .inr (.inl stored)

theorem captured_of_found {fp : PaymentRequest → String} {d : Draw} {L L' : Ledger}
    {id : PaymentId} {payment : Payment}
    (outcome : Outcome fp .sqlite d L (.getPayment id) L' (.ok (some payment)))
    (refundable : Refundable payment.status) : Captured L (.stored id) := by
  cases outcome with
  | found id row payment mem is parsed =>
    exact captured_of_row mem is (readFrom_of_toPayment parsed).status refundable

theorem react_paidKept {s s' : Shared} {e : Effect} {r : e.Response}
    (reacted : Gateway.react .sqlite app s e c = some (s', r))
    (lawful : Lawful s.ledger s'.ledger) : PaidKept s' ⟨e, r⟩ := by
  intro id payment event refundable
  cases event
  obtain ⟨d, -, answer⟩ := react_store reacted
  have outcome := execOp_outcome app.fingerprint .sqlite d s.ledger (.getPayment id)
  rw [← answer] at outcome
  exact (captured_of_found outcome refundable).lawful lawful

theorem react_lawful {s s' : Shared} {e : Effect} {r : e.Response}
    (reacted : Gateway.react .sqlite app s e c = some (s', r))
    (refunds : ∀ record t, e = .store (.recordRefund record t) → Timely s.ledger record t) :
    Lawful s.ledger s'.ledger := by
  cases e with
  | store op =>
    obtain ⟨d, same, -⟩ := react_store reacted
    rw [same]
    refine outcome_lawful (execOp_outcome app.fingerprint .sqlite d s.ledger op) ?_
    rintro record t rfl
    exact refunds record t rfl
  | _ => exact lawful_kept (by rw [react_other reacted (by simp)])

structure SqliteInvariant (app : App) (w : GwWorld) : Prop where
  sane : Sane app w
  paid : Recorded PaidKept w

theorem SqliteInvariant.lawful (inv : SqliteInvariant app w)
    (undisturbed : Undisturbed spoiltOperation w (.advance i c))
    (adv : Advanced (Gateway.setting .sqlite app) w i c w') :
    Lawful w.shared.ledger w'.shared.ledger := by
  rw [adv.shared_eq]
  refine react_lawful adv.reacted fun record t is => ?_
  have licensed := adv.licensed inv.sane.follows
  have idle := undisturbed_effect undisturbed adv
  rw [is] at licensed idle
  obtain ⟨now, generated, p, payment, reference, result, previously, rest, history, checked, -, -,
    status⟩ := licensed.answered
  obtain ⟨earlier, read⟩ := checked.read
  refine ⟨?_, ?_, idle⟩
  · refine inv.paid adv.task adv.mem (told (.getPayment record.paymentId) (some payment)) ?_
      record.paymentId payment rfl checked.refundable
    rw [history, read]
    simp
  · rw [status]
    exact Handlers.statusAfterRefund_cases _ _ _

theorem SqliteInvariant.lawfulStep (inv : SqliteInvariant app w)
    (undisturbed : Undisturbed spoiltOperation w a) :
    LawfulStep (Gateway.setting .sqlite app) w a := by
  apply lawfulStep_of_advances
  rintro i c w' rfl adv
  exact inv.lawful undisturbed adv

theorem SqliteInvariant.step (inv : SqliteInvariant app w)
    (undisturbed : Undisturbed spoiltOperation w a)
    (stepped : Interleaving.step (Gateway.setting .sqlite app) w a = some w') :
    SqliteInvariant app w' := by
  have lawful := inv.lawfulStep undisturbed w' stepped
  refine ⟨inv.sane.step stepped, recorded_step ?_ ?_ inv.paid stepped⟩
  · intro i c adv
    rw [adv.shared_eq] at lawful
    exact react_paidKept adv.reacted lawful
  · intro i c adv ev paid id payment event refundable
    rw [adv.shared_eq] at lawful
    exact (paid id payment event refundable).lawful lawful

theorem sqliteInvariant_start (apiKeys : List ApiKeyRow) :
    SqliteInvariant app (Gateway.start apiKeys) :=
  ⟨sane_start apiKeys, by simp [Gateway.start, Recorded]⟩

end Sqlite

section Postgres

variable {app : App} {w w' : SqlWorld} {a : GwAction} {i : ℕ} {c : Choice} {L : Ledger}
  {h : Record} {d : Draw}

/-- A payment that a statement showed as paid stays so. -/
def PaidSeen (s : Shared) (ev : Event Await.Response) : Prop :=
  ∀ id status, seen ev = some (id, .stored status) → Refundable status → Captured s.ledger id

theorem fresh_update {id : Text PaymentId} {guarded : Bool} {edit : PaymentEdit}
    (justified : Justified h (.stmt (.write (.updatePayment id guarded edit))))
    (fresh : spoiltStatement L h (.stmt (.write (.updatePayment id guarded edit))) = false) :
    Lawful L (L.updatePayment id guarded (edit.kept .postgres)) := by
  refine lawful_update fun t sets row mem is => ?_
  have written : edit.status = some t := sets
  by_cases same : row.status = .stored t
  · exact ⟨t, same, PaymentStatus.validateTransition_self t⟩
  · obtain ⟨s, shown, legal⟩ := justified t written
    simp only [spoiltStatement, written, Option.any_some, List.any_eq_false, Bool.and_eq_true,
      beq_iff_eq, bne_iff_ne, not_and, not_not] at fresh
    have last := fresh row mem ⟨is, same⟩
    rw [shown] at last
    exact ⟨s, (Option.some.inj last).symm, legal⟩

theorem performAll_lawful {ws : List Write} {L' : Ledger}
    (justified : Justified h (.stmt (.transaction ws)))
    (fresh : spoiltStatement L h (.stmt (.transaction ws)) = false)
    (paid : ∀ ev ∈ h, ∀ id status, seen ev = some (id, .stored status) → Refundable status →
      Captured L id) (performed : performAll .postgres L ws = .ok L') : Lawful L L' := by
  obtain ⟨refund, t, now, rfl, kind, ev, mem, s, shown, refundable⟩ := justified
  have captured := paid ev mem _ s shown refundable
  simp only [performAll, Write.perform] at performed
  cases inserted : L.refunds.insert refund.toRow with
  | none => simp [inserted] at performed
  | some refunds =>
    simp only [inserted, Except.ok.injEq] at performed
    rw [← performed]
    have first : overtaken L refund.toRow t = false := by
      simpa [spoiltStatement, refundEdit] using fresh
    exact (Timely.mk captured kind first).lawful inserted .postgres now

/-- A statement that is justified by what its task was shown, while that still
holds, changes statuses by transitions only. -/
theorem statement_lawful {e : Stmt} (justified : Justified h (.stmt e))
    (fresh : spoiltStatement L h (.stmt e) = false)
    (paid : ∀ ev ∈ h, ∀ id status, seen ev = some (id, .stored status) → Refundable status →
      Captured L id) : Lawful L (exec .postgres d 0 (Session.on L) e).1.ledger := by
  cases fails : d.fails 0 with
  | true =>
    apply lawful_kept
    cases e <;> simp [exec, Stmt.refused, Stmt.run, fails, Session.on]
  | false =>
    simp only [exec, fails]
    cases e with
    | write write =>
      cases write with
      | insertPayment row =>
        simp only [Stmt.run, Write.perform, Session.on]
        cases inserted : L.payments.insert (row.kept .postgres) with
        | none => exact lawful_kept rfl
        | some payments => exact lawful_insert inserted
      | updatePayment id guarded edit => exact fresh_update justified fresh
      | insertWebhookEvent row =>
        simp only [Stmt.run, Write.perform, Session.on]
        cases L.webhookEvents.insert (row.kept .postgres) <;> exact lawful_kept rfl
      | insertRefund row =>
        simp only [Stmt.run, Write.perform, Session.on]
        cases L.refunds.insert row <;> exact lawful_kept rfl
    | transaction ws =>
      simp only [Stmt.run, Session.on]
      cases performed : performAll .postgres L ws with
      | error e => exact lawful_kept rfl
      | ok L' => exact performAll_lawful justified fresh paid performed
    | _ => exact lawful_kept rfl

/-- What a statement shows as paid is paid. -/
theorem statement_seen {e : Stmt} {id : Text PaymentId} {status : PaymentStatus}
    (shown : seen ⟨.stmt e, (exec .postgres d 0 (Session.on L) e).2⟩ = some (id, .stored status))
    (refundable : Refundable status) :
    Captured (exec .postgres d 0 (Session.on L) e).1.ledger id := by
  cases fails : d.fails 0 with
  | true =>
    cases e with
    | write write => cases write <;> simp [exec, Stmt.refused, fails, seen] at shown
    | _ => simp [exec, Stmt.refused, fails, seen] at shown
  | false =>
    simp only [exec, fails] at shown ⊢
    cases e with
    | write write =>
      cases write with
      | insertPayment row =>
        simp only [Stmt.run, Write.perform, Session.on] at shown ⊢
        cases inserted : L.payments.insert (row.kept .postgres) with
        | none => simp [inserted, seen] at shown
        | some payments =>
          simp only [inserted, seen, Option.some.injEq, Prod.mk.injEq] at shown ⊢
          have mem : row.kept .postgres ∈ payments.rows := by
            simp [(Table.insert_eq_some.mp inserted).2]
          exact captured_of_row mem shown.1 shown.2 refundable
      | _ => simp [seen] at shown
    | selectPayment id' =>
      simp only [Stmt.run, Session.on] at shown ⊢
      cases search : L.payments.rows.find? fun row => row.id == .stored id' with
      | none => simp [search, seen] at shown
      | some row =>
        simp only [search, seen, Option.some.injEq, Prod.mk.injEq] at shown
        have is : row.id = .stored id' := by simpa using List.find?_some search
        exact captured_of_row (List.mem_of_find?_eq_some search) (is.trans shown.1) shown.2
          refundable
    | selectByProviderReference provider reference =>
      simp only [Stmt.run, Session.on] at shown ⊢
      cases search : (scan d L.payments.rows).find? fun row =>
          row.provider == .stored provider && row.providerReference == some reference with
      | none => simp [search, seen] at shown
      | some row =>
        simp only [search, seen, Option.some.injEq, Prod.mk.injEq] at shown
        have mem := mem_scan.mp (List.mem_of_find?_eq_some search)
        exact captured_of_row mem shown.1 shown.2 refundable
    | _ => simp [seen] at shown

structure PostgresInvariant (w : SqlWorld) : Prop where
  follows : ∀ t ∈ w.tasks, Follows (fun _ => Justified) (fun _ _ _ => True) t
  paid : Recorded PaidSeen w

theorem PostgresInvariant.lawful (inv : PostgresInvariant w)
    (undisturbed : Undisturbed spoiltStatement w (.advance i c))
    (adv : Advanced (StatementRuns.setting app) w i c w') :
    Lawful w.shared.ledger w'.shared.ledger := by
  rw [adv.shared_eq]
  have justified := adv.licensed inv.follows
  have fresh := undisturbed_effect undisturbed adv
  have paid := inv.paid adv.task adv.mem
  obtain ⟨task, effect, resume, shared, response, found, live, suspended, reacted, result⟩ := adv
  cases effect with
  | stmt e =>
    obtain ⟨d, same, -⟩ := StatementRuns.react_stmt reacted
    simp only [same]
    exact statement_lawful justified fresh paid
  | other e => exact lawful_kept (by rw [StatementRuns.react_rest reacted])

theorem react_paidSeen {s s' : Shared} {e : Await} {r : e.Response}
    (reacted : StatementRuns.react app s e c = some (s', r)) : PaidSeen s' ⟨e, r⟩ := by
  intro id status shown refundable
  cases e with
  | stmt e =>
    obtain ⟨d, same, rfl⟩ := StatementRuns.react_stmt reacted
    rw [same]
    exact statement_seen shown refundable
  | other e => cases shown

theorem PostgresInvariant.lawfulStep (inv : PostgresInvariant w)
    (undisturbed : Undisturbed spoiltStatement w a) :
    LawfulStep (StatementRuns.setting app) w a := by
  apply lawfulStep_of_advances
  rintro i c w' rfl adv
  exact inv.lawful undisturbed adv

theorem PostgresInvariant.step (inv : PostgresInvariant w)
    (undisturbed : Undisturbed spoiltStatement w a)
    (stepped : Interleaving.step (StatementRuns.setting app) w a = some w') :
    PostgresInvariant w' := by
  have lawful := inv.lawfulStep undisturbed w' stepped
  refine ⟨follows_step (StatementRuns.body_justified app) inv.follows stepped,
    recorded_step ?_ ?_ inv.paid stepped⟩
  · intro i c adv
    exact react_paidSeen adv.reacted
  · intro i c adv ev paid id status shown refundable
    rw [adv.shared_eq] at lawful
    exact (paid id status shown refundable).lawful lawful

theorem postgresInvariant_start (apiKeys : List ApiKeyRow) :
    PostgresInvariant (StatementRuns.start apiKeys) :=
  ⟨by simp [StatementRuns.start], by simp [StatementRuns.start, Recorded]⟩

end Postgres

/-- In every run in which no write comes after what its task was shown has
changed, every change of a status is one of the state machine. -/
theorem statuses_lawful (app : App) (apiKeys : List ApiKeyRow) (actions : List GwAction) :
    (Meets (Gateway.setting .sqlite app) (Undisturbed spoiltOperation)
        (Gateway.start apiKeys) actions →
      Meets (Gateway.setting .sqlite app) (LawfulStep (Gateway.setting .sqlite app))
        (Gateway.start apiKeys) actions) ∧
    (Meets (StatementRuns.setting app) (Undisturbed spoiltStatement)
        (StatementRuns.start apiKeys) actions →
      Meets (StatementRuns.setting app) (LawfulStep (StatementRuns.setting app))
        (StatementRuns.start apiKeys) actions) := by
  constructor
  · intro undisturbed
    exact meets_of_invariant (fun _ _ _ inv calm stepped => inv.step calm stepped)
      (fun _ _ inv calm => inv.lawfulStep calm) (sqliteInvariant_start apiKeys) undisturbed
  · intro undisturbed
    exact meets_of_invariant (fun _ _ _ inv calm stepped => inv.step calm stepped)
      (fun _ _ inv calm => inv.lawfulStep calm) (postgresInvariant_start apiKeys) undisturbed

/-- A refund of 30 of 100, and then one of the rest. -/
def refundedInTurn : List GwAction :=
  paid ++ [.spawn (refundRequest 30)] ++ refundAsked 2 ++ refundBooked 2 "re_1" 30 ++
    [.spawn (refundRequest 70)] ++ refundAsked 3 ++ refundBooked 3 "re_2" 70

def drawn (i : ℕ) : GwAction := .advance i (.draw (quietDraw 0))

/-- The first task creates payment 1, in five statements. -/
def orderedByStatement : List GwAction :=
  [.spawn order, .advance 0 (.acquired true), .advance 0 (.draw (quietDraw 1)), drawn 0, drawn 0,
    .advance 0 (.created (.ok orderResult)), drawn 0, drawn 0]

/-- A GET up to the status it means to move from. -/
def inquired (i : ℕ) (status : PaymentStatus) : List GwAction :=
  [.spawn (.http ⟨[]⟩ (.getPayment (.stored ⟨1⟩))), .advance i (.acquired true), drawn i,
    .advance i (.inquired (.ok status)), drawn i]

theorem statuses_lawful_in_turn :
    Meets (Gateway.setting .sqlite shop) (LawfulStep (Gateway.setting .sqlite shop))
      (Gateway.start []) refundedInTurn ∧
    Meets (StatementRuns.setting shop) (LawfulStep (StatementRuns.setting shop))
      (StatementRuns.start [])
      (orderedByStatement ++ inquired 1 .succeeded ++ [drawn 1, drawn 1]) :=
  ⟨(statuses_lawful shop [] refundedInTurn).1 (by decide +kernel),
    (statuses_lawful shop [] (orderedByStatement ++ inquired 1 .succeeded ++
      [drawn 1, drawn 1])).2 (by decide +kernel)⟩

section Overtaken

theorem Lawful.transition {L L' : Ledger} (lawful : Lawful L L') {id : PaymentId}
    {s t : PaymentStatus} (was : statusOf id L = some (.stored s))
    (is : statusOf id L' = some (.stored t)) (apart : s ≠ t) : Transition s t := by
  obtain ⟨row, mem, named, stored⟩ := statusOf_some was
  obtain ⟨row', mem', named', stored'⟩ := statusOf_some is
  obtain ⟨row'', mem'', same, moves⟩ := lawful row mem
  obtain rfl : row'' = row' := row_eq_of_id mem'' mem' (same.trans (named.trans named'.symm))
  rw [stored, stored'] at moves
  obtain ⟨s', t', source, target, transition⟩ := moves fun one => apart (Text.stored.inj one).symm
  cases source
  cases target
  exact transition

variable {ε : Type} {ρ : ε → Type}

/-- The last step of a run changes a status as the state machine forbids. -/
theorem unlawful_run {S : Setting ρ Origin Reply Shared Choice} {w : World ρ Origin Reply Shared}
    {as : List GwAction} {a : GwAction} {id : PaymentId} {s t : PaymentStatus}
    (ends_in : ((run S w as).bind fun w' => (step S w' a).map fun w'' =>
      (statusOf id w'.shared.ledger, statusOf id w''.shared.ledger)) =
        some (some (.stored s), some (.stored t)))
    (apart : s ≠ t) (illegal : ¬ PaymentStatus.Legal s t) :
    ¬ Meets S (LawfulStep S) w (as ++ [a]) := by
  intro met
  obtain ⟨w', ran, last⟩ := Option.bind_eq_some_iff.mp ends_in
  obtain ⟨w'', stepped, statuses⟩ := Option.map_eq_some_iff.mp last
  obtain ⟨was, is⟩ := Prod.mk.inj statuses
  exact illegal ((met.last ran w'' stepped).transition was is apart).legal

/-- Refunds of 30 and of 100 that both read that nothing is refunded yet; the
whole one is recorded first. -/
def refundsOvertaken : List GwAction :=
  paid ++ [.spawn (refundRequest 30), .spawn (refundRequest 100)] ++ refundAsked 2 ++
    refundAsked 3 ++ refundBooked 3 "re_2" 100 ++
    [.advance 2 (refundDone "re_1" 30), .advance 2 (.generated ⟨8⟩), .advance 2 (.clock ⟨0⟩)]

/-- Two GETs read the pending payment; the first then records a failure. -/
def inquiriesOvertaken : List GwAction :=
  orderedByStatement ++ inquired 1 .failed ++ inquired 2 .succeeded ++
    [drawn 1, drawn 1, drawn 2]

theorem statuses_not_lawful :
    (¬ ∀ (app : App) (apiKeys : List ApiKeyRow) (actions : List GwAction),
      Meets (Gateway.setting .sqlite app) (LawfulStep (Gateway.setting .sqlite app))
        (Gateway.start apiKeys) actions) ∧
    ¬ ∀ (app : App) (apiKeys : List ApiKeyRow) (actions : List GwAction),
      Meets (StatementRuns.setting app) (LawfulStep (StatementRuns.setting app))
        (StatementRuns.start apiKeys) actions := by
  constructor
  · intro claim
    have refunded : ((run (Gateway.setting .sqlite shop) (Gateway.start []) refundsOvertaken).bind
        fun w' => (step (Gateway.setting .sqlite shop) w' (drawn 2)).map fun w'' =>
          (statusOf ⟨1⟩ w'.shared.ledger, statusOf ⟨1⟩ w''.shared.ledger)) =
        some (some (.stored .refunded), some (.stored .partiallyRefunded)) := by decide +kernel
    exact unlawful_run refunded (by decide) (by decide) (claim shop [] _)
  · intro claim
    have failed : ((run (StatementRuns.setting shop) (StatementRuns.start [])
        inquiriesOvertaken).bind
        fun w' => (step (StatementRuns.setting shop) w' (drawn 2)).map fun w'' =>
          (statusOf ⟨1⟩ w'.shared.ledger, statusOf ⟨1⟩ w''.shared.ledger)) =
        some (some (.stored .failed), some (.stored .succeeded)) := by decide +kernel
    exact unlawful_run failed (by decide) (by decide) (claim shop [] _)

end Overtaken

end OpenWrapper.StatusLegality
