import OpenWrapper.StatusProvenance

/-! # The refunds on record

A refund is recorded after the provider answered the call for it, in one
transaction. Refund requests interleave, and any may be dropped between the
answer and the record, so money may go back unrecorded; what is on record was
answered, and no answer is recorded twice. -/

set_option autoImplicit false

namespace OpenWrapper.RefundLedger
open OpenWrapper.Ids OpenWrapper.Payments OpenWrapper.Schema OpenWrapper.ConstraintTable
open OpenWrapper.PaymentStore OpenWrapper.Providers OpenWrapper.Effects OpenWrapper.Gateway
open OpenWrapper.Contracts OpenWrapper.StatementRuns OpenWrapper.IssuedStatements
open OpenWrapper.StatementLedger OpenWrapper.StatusProvenance OpenWrapper.UniqueEvents
open OpenWrapper.Lowerings OpenWrapper.Suspended OpenWrapper.Suspended.Prog
open OpenWrapper.Interleaving

section Contract

/-- The provider has just answered the refund that is going to be recorded. -/
structure Answered (h : Record) (record : RefundRecord) (id : PaymentId) : Prop where
  latest : ∃ now now' generated p reference result rest, h = ⟨.stmt .now, now⟩ ::
    ⟨.other .now, now'⟩ :: ⟨.other .ulid, generated⟩ ::
    ⟨.other (.refund p id reference record.amountMinorUnits record.reason), .ok result⟩ :: rest ∧
    record.status = result.status
  positive : 0 < record.amountMinorUnits
  read : ∃ row, (⟨.stmt (.selectPayment record.paymentId), .ok (some row)⟩ :
    Event Await.Response) ∈ h ∧ row.id = .stored id

/-- Refunds are recorded by one transaction, each after its answer. -/
def Recording (h : Record) : Await → Prop
  | .stmt (.write (.insertRefund _)) => False
  | .stmt (.transaction ws) => ∃ record target guarded edit id,
    ws = [.insertRefund (RefundRecord.toRow record), .updatePayment target guarded edit] ∧
    Answered h record id
  | _ => True

variable {app : App} {o : Origin} {past : Past} {h : Record}

theorem recording_of_issues {op : StoreOp} {e : Stmt} (issues : Issues app.fingerprint op e)
    (other : ∀ record t, op ≠ .recordRefund record t) : Recording h (.stmt e) := by
  rcases issues with reads | writes
  · cases e <;> trivial
  · cases op with
    | recordRefund record t => exact absurd rfl (other record t)
    | beginPaymentWithOwner request owner =>
      obtain ⟨id, now, rfl⟩ := writes
      trivial
    | applyWebhookEvent event =>
      obtain ⟨id, ⟨now, rfl⟩ | updates⟩ := writes
      · trivial
      · cases e <;> first | (obtain ⟨now, rfl⟩ := updates; trivial) | cases updates
    | _ => cases e <;> first | (obtain ⟨now, rfl⟩ := writes; trivial) | cases writes

theorem answered_of_licensed {record : RefundRecord} {t : PaymentStatus}
    (answered : RefundAnswered past record t) (lowers : Lowers (lower app) past h) (now : Instant) :
    ∃ id, Answered (⟨.stmt .now, now⟩ :: h) record id := by
  obtain ⟨now', generated, p, payment, reference, result, previously, rest, rfl, checked, -, status,
    -⟩ := answered.answered
  obtain ⟨earlier, rfl⟩ := checked.read
  obtain ⟨part₁, h₁, rfl, lowers₁, ran₁⟩ := lowers_cons lowers
  obtain ⟨part₂, h₂, rfl, lowers₂, ran₂⟩ := lowers_cons lowers₁
  obtain ⟨part₃, h₃, rfl, lowers₃, ran₃⟩ := lowers_cons lowers₂
  obtain ⟨part, ran, inside⟩ := lowers_mem lowers₃
    (told (.getPayment record.paymentId) (some payment)) (by simp)
  obtain ⟨row, parsed, rfl⟩ := runs_read ran
  obtain rfl : part₁ = [⟨.other .now, now'⟩] := runs_perform ran₁
  obtain rfl : part₂ = [⟨.other .ulid, generated⟩] := runs_perform ran₂
  obtain rfl : part₃ = [⟨.other (.refund p payment.id reference record.amountMinorUnits
    record.reason), .ok result⟩] := runs_perform ran₃
  refine ⟨payment.id, ⟨now, now', generated, p, reference, result, h₃, rfl, status⟩,
    checked.positive, row, ?_, (readFrom_of_toPayment parsed).id⟩
  simp [inside List.mem_cons_self]

theorem lower_recording {e : Effect} (licensed : Licensed app o past e)
    (lowers : Lowers (lower app) past h) :
    Always Recording (fun _ _ => True) (lower app e) h := by
  cases e with
  | store op =>
    by_cases refund : ∃ record t, op = .recordRefund record t
    · obtain ⟨record, t, rfl⟩ := refund
      refine ⟨trivial, fun now => ⟨?_, fun r => ?_⟩⟩
      · obtain ⟨id, answered⟩ := answered_of_licensed licensed lowers now
        exact ⟨record, _, _, _, id, rfl, answered⟩
      · cases r <;> trivial
    · apply always_confined (program_issues app.fingerprint op)
      intro h' e _ issues
      exact recording_of_issues issues fun record t is => refund ⟨record, t, is⟩
  | _ => exact ⟨trivial, fun _ => trivial⟩

theorem body_recording (app : App) (o : Origin) :
    Always Recording (fun _ _ => True) ((StatementRuns.setting app).body o) [] := by
  have lowered_ := always_translate (body_always app o) (Lowers.nil (f := lower app))
    fun past h e license lowers => lower_recording license lowers
  exact lowered_.mono (fun _ _ held => held) fun _ _ _ => trivial

end Contract

section Worth

variable {id : PaymentId} {t : RefundStatus}

/-- The money of a refund row of the payment in this status. -/
def worth (id : PaymentId) (t : RefundStatus) (row : RefundRow) : ℕ :=
  if row.paymentId = .stored id ∧ row.status = .stored t then row.amountMinorUnits.toNat else 0

/-- The money of such rows. -/
def onRecord (id : PaymentId) (t : RefundStatus) (L : Ledger) : ℕ :=
  (L.refunds.rows.map (worth id t)).sum

def inserts (id : PaymentId) (t : RefundStatus) : Write → ℕ
  | .insertRefund row => worth id t row
  | _ => 0

/-- What a statement records. -/
def records (id : PaymentId) (t : RefundStatus) : Await → ℕ
  | .stmt (.transaction ws) => (ws.map (inserts id t)).sum
  | _ => 0

/-- What a provider answered with this status. -/
def answers (id : PaymentId) (t : RefundStatus) : Event Await.Response → ℕ
  | ⟨.other (.refund _ of_ _ amount _), .ok result⟩ =>
    if of_ = id ∧ result.status = t then amount.toNat else 0
  | _ => 0

/-- A record stands on the answer just before it. -/
theorem pays_records {h : Record} {e : Await} (recording : Recording h e)
    (truthful : ∀ ev ∈ h, Truthful ev) : Pays (answers id t) (records id t) h e := by
  cases e with
  | other e => exact .inl rfl
  | stmt e =>
    cases e with
    | transaction ws =>
      obtain ⟨record, target, guarded, edit, of_, rfl, answered⟩ := recording
      obtain ⟨now, now', generated, p, reference, result, rest, is, status⟩ := answered.latest
      obtain ⟨row, read, named⟩ := answered.read
      have asked : row.id = .stored record.paymentId := truthful _ read
      obtain rfl : record.paymentId = of_ := Text.stored.inj (asked.symm.trans named)
      right
      refine ⟨[⟨.stmt .now, now⟩, ⟨.other .now, now'⟩, ⟨.other .ulid, generated⟩], _, rest, is,
        by simp [records], rfl, ?_⟩
      simp [records, inserts, worth, answers, RefundRecord.toRow, status]
    | _ => exact .inl rfl

end Worth

section Runs

variable {app : App} {w w' : SqlWorld} {a : GwAction} {c : Choice} {id : PaymentId}
  {t : RefundStatus} {L L' : Ledger} {h : Record}

theorem makes_refunds {e : Stmt} (makes : Makes L e L') (recording : Recording h (.stmt e)) :
    L'.refunds.rows = L.refunds.rows ∨ ∃ record target guarded edit id,
      e = .transaction [.insertRefund (RefundRecord.toRow record),
        .updatePayment target guarded edit] ∧ Answered h record id ∧
      L'.refunds.rows = L.refunds.rows ++ [record.toRow] := by
  cases makes with
  | kept => exact .inl rfl
  | committed ws L' performed =>
    obtain ⟨record, target, guarded, edit, id, rfl, answered⟩ := recording
    simp only [performAll, Write.perform] at performed
    split at performed
    next L₁ rows inserted =>
      split at inserted
      next refunds added =>
        cases inserted
        cases performed
        exact .inr ⟨record, target, guarded, edit, id, rfl, answered,
          (Table.insert_eq_some.mp added).2⟩
      · cases inserted
    · cases performed
  | wrote w L' rows performed =>
    left
    cases w with
    | insertRefund row => cases recording
    | updatePayment target guarded edit =>
      cases performed
      rfl
    | insertPayment row =>
      simp only [Write.perform] at performed
      split at performed <;> cases performed
      rfl
    | insertWebhookEvent row =>
      simp only [Write.perform] at performed
      split at performed <;> cases performed
      rfl

/-- The answer that a refund row was recorded from. -/
def Heard (w : SqlWorld) (row : RefundRow) : Prop :=
  0 < row.amountMinorUnits ∧ ∃ p id reference result, row.paymentId = .stored id ∧
    row.status = .stored result.status ∧
    Said w (.refund p id reference row.amountMinorUnits row.reason) (.ok result)

theorem Heard.step {row : RefundRow} (heard : Heard w row)
    (stepped : step (StatementRuns.setting app) w a = some w') : Heard w' row := by
  obtain ⟨positive, p, id, reference, result, is, status, said⟩ := heard
  exact ⟨positive, p, id, reference, result, is, status, said.step stepped⟩

structure Covered (app : App) (w : SqlWorld) : Prop where
  provenance : Provenance app w
  follows : ∀ t ∈ w.tasks, Follows (fun _ => Recording) (fun _ _ _ => True) t
  bounded : ∀ id t, onRecord id t w.shared.ledger ≤ total (fun ev => records id t ev.1) w
  heard : ∀ row ∈ w.shared.ledger.refunds.rows, Heard w row

theorem Answered.heard {record : RefundRecord} (answered : Answered h record id)
    {task : Task Await.Response Origin Reply} (mem : task ∈ w.tasks) (is : task.history = h)
    (truthful : ∀ ev ∈ h, Truthful ev) : Heard w record.toRow := by
  obtain ⟨now, now', generated, p, reference, result, rest, latest, status⟩ := answered.latest
  obtain ⟨row, read, named⟩ := answered.read
  have asked : row.id = .stored record.paymentId := truthful _ read
  obtain rfl : record.paymentId = id := Text.stored.inj (asked.symm.trans named)
  refine ⟨answered.positive, p, record.paymentId, reference, result, rfl,
    congrArg Text.stored status, task.origin, task, mem, rfl, ?_⟩
  rw [is, latest]
  simp [RefundRecord.toRow]

/-- What a reaction does to the refund rows. -/
theorem react_refunds {s s' : Shared} {e : Await} {r : e.Response}
    (reacted : StatementRuns.react app s e c = some (s', r)) (recording : Recording h e) :
    s'.ledger.refunds.rows = s.ledger.refunds.rows ∨ ∃ record id, Answered h record id ∧
      s'.ledger.refunds.rows = s.ledger.refunds.rows ++ [record.toRow] ∧
      ∀ id t, records id t e = worth id t record.toRow := by
  cases e with
  | other e => exact .inl (by rw [react_rest reacted])
  | stmt e =>
    obtain ⟨d, same, -⟩ := react_stmt reacted
    have makes : Makes s.ledger e s'.ledger := by
      rw [same]
      exact exec_makes
    rcases makes_refunds makes recording with kept | ⟨record, target, guarded, edit, id, rfl,
      answered, rows⟩
    · exact .inl kept
    · exact .inr ⟨record, id, answered, rows, fun id t => by simp [records, inserts]⟩

theorem Covered.step (covered : Covered app w)
    (stepped : Interleaving.step (StatementRuns.setting app) w a = some w') : Covered app w' := by
  have provenance := covered.provenance.step stepped
  have follows := follows_step (body_recording app) covered.follows stepped
  have heard : ∀ row ∈ w.shared.ledger.refunds.rows, Heard w' row :=
    fun row mem => (covered.heard row mem).step stepped
  obtain ⟨o, -, rfl⟩ | ⟨i, c, -, ⟨adv⟩⟩ | ⟨i, t, -, found, rfl⟩ := step_cases stepped
  · refine ⟨provenance, follows, fun id t => ?_, heard⟩
    rw [total_spawn]
    exact covered.bounded id t
  · have truthful : ∀ ev ∈ adv.task.history, Truthful ev :=
      fun ev mem => (covered.provenance.told _ adv.mem ev mem).truthful
    rcases react_refunds adv.reacted (adv.licensed covered.follows) with kept | ⟨record, id,
      answered, rows, weighs⟩
    · refine ⟨provenance, follows, fun id t => ?_, fun row mem => ?_⟩
      · rw [total_advance _ adv, adv.shared_eq, onRecord, kept]
        exact (covered.bounded id t).trans (Nat.le_add_left _ _)
      · rw [adv.shared_eq, kept] at mem
        exact heard row mem
    · refine ⟨provenance, follows, fun id t => ?_, fun row mem => ?_⟩
      · have before := covered.bounded id t
        rw [onRecord] at before
        rw [total_advance _ adv, adv.shared_eq, onRecord, rows, List.map_append, List.sum_append,
          weighs]
        simp only [List.map_cons, List.map_nil, List.sum_cons, List.sum_nil]
        omega
      · rw [adv.shared_eq, rows] at mem
        rcases List.mem_append.mp mem with old | new
        · exact heard row old
        · rw [List.mem_singleton.mp new]
          exact (answered.heard adv.mem rfl truthful).step stepped
  · refine ⟨provenance, follows, fun id t => ?_, heard⟩
    rw [total_cancel _ w found]
    exact covered.bounded id t

theorem covered_start (apiKeys : List ApiKeyRow) : Covered app (StatementRuns.start apiKeys) where
  provenance := provenance_start apiKeys
  follows := by simp [StatementRuns.start]
  bounded := by simp [StatementRuns.start, Shared.start, Ledger.empty, onRecord]
  heard := by simp [StatementRuns.start, Shared.start, Ledger.empty]

/-- A refund of 30 of the settled payment, up to its record. -/
def refundedByStatement : List GwAction :=
  settledByStatement ++ [.spawn (refundRequest 30), .advance 2 (.acquired true),
    StatusLegality.drawn 2, StatusLegality.drawn 2, .advance 2 (refundDone "re_1" 30),
    .advance 2 (.generated ⟨9⟩), .advance 2 (.clock ⟨0⟩), StatusLegality.drawn 2,
    StatusLegality.drawn 2]

end Runs

end OpenWrapper.RefundLedger
