import OpenWrapper.WebhookAtomicity
import OpenWrapper.SqliteLedger
import OpenWrapper.Traces

/-! # The order of deliveries

Deliveries for one payment, in any order and each any number of times. The
row stays as open as it was until a decisive report is recorded, and from then
on every other report repeats the stored status or is illegal. -/

set_option autoImplicit false

namespace OpenWrapper.WebhookOrder
open OpenWrapper.Ids OpenWrapper.Payments OpenWrapper.Schema OpenWrapper.ConstraintTable
open OpenWrapper.PaymentStore OpenWrapper.StatementRules OpenWrapper.StoreContract
open OpenWrapper.Evolution OpenWrapper.WebhookAtomicity OpenWrapper.Traces
open OpenWrapper.Suspended OpenWrapper.Suspended.Prog

/-- One delivery, with what its statements meet. -/
structure Delivery where
  draw : Draw
  event : WebhookReport

def deliver (fp : PaymentRequest → String) (L : Ledger) (c : Delivery) : Ledger :=
  (execOp fp .sqlite c.draw L (.applyWebhookEvent c.event)).1

/-- The lookup of the event finds this payment and no other. -/
def Addresses (L : Ledger) (event : WebhookReport) (id : PaymentId) : Prop :=
  ∀ row ∈ L.payments.rows,
    Matches event.provider event.providerReference row ↔ row.id = .stored id

def Open (s : PaymentStatus) : Prop := s = .pending ∨ s = .unknown

def Conclusive (s : PaymentStatus) : Prop := s = .succeeded ∨ s = .failed

/-- The reports about a payment that is not resolved yet. -/
structure Reported (L : Ledger) (id : PaymentId) (t : PaymentStatus)
    (events : List WebhookReport) : Prop where
  payment : ∃ row ∈ L.payments.rows, row.id = .stored id ∧
    (∃ s, row.status = .stored s ∧ Open s) ∧ ∀ e ∈ events, AmountAgrees e row
  addressed : ∀ e ∈ events, Addresses L e id
  distinct : (events.map WebhookReport.eventId).Nodup
  conclusive : Conclusive t
  agreed : ∀ e ∈ events, Open e.reportedStatus ∨ e.reportedStatus = t

/-- Every report is delivered, at least once to a store that works. -/
structure Delivers (calls : List Delivery) (events : List WebhookReport) : Prop where
  only : ∀ c ∈ calls, c.event ∈ events
  each : ∀ e ∈ events, ∃ c ∈ calls, c.event = e ∧ c.draw.fails = fun _ => false

/-- The payment has the agreed status and asks nothing more of the customer,
and each report was recorded once. -/
structure Concluded (L : Ledger) (id : PaymentId) (t : PaymentStatus)
    (events : List WebhookReport) : Prop where
  payment : ∃ row ∈ L.payments.rows, row.id = .stored id ∧ row.status = .stored t ∧
    row.nextActionJson = none
  recorded : ∀ e ∈ events,
    (L.webhookEvents.rows.filter fun row => row.eventId == e.eventId).length = 1

section Progress

/-- How far a payment has come: as open as it was while no conclusive report
is recorded that was not recorded before, or concluded. -/
inductive Stage (L₀ L : Ledger) (t : PaymentStatus) (events : List WebhookReport)
    (row : PaymentRow) : Prop
  | waiting (s : PaymentStatus) : row.status = .stored s → Open s →
      (∀ e ∈ events, e.reportedStatus = t → Recorded L e → Recorded L₀ e) →
      Stage L₀ L t events row
  | concluded : row.status = .stored t → row.nextActionJson = none → Stage L₀ L t events row

structure Progress (L₀ : Ledger) (id : PaymentId) (t : PaymentStatus)
    (events : List WebhookReport) (L : Ledger) : Prop where
  payment : ∃ row ∈ L.payments.rows, row.id = .stored id ∧
    (∀ e ∈ events, AmountAgrees e row) ∧ Stage L₀ L t events row
  addressed : ∀ e ∈ events, Addresses L e id

variable {fp : PaymentRequest → String} {L₀ L L' : Ledger} {id : PaymentId} {t : PaymentStatus}
  {events : List WebhookReport} {event : WebhookReport}

theorem open_legal {s : PaymentStatus} (opened : Open s) (conclusive : Conclusive t) :
    PaymentStatus.Legal s t := by
  rcases opened with rfl | rfl <;> rcases conclusive with rfl | rfl <;> rfl

theorem open_apart {s : PaymentStatus} (opened : Open s) (conclusive : Conclusive t) : s ≠ t := by
  rcases opened with rfl | rfl <;> rcases conclusive with rfl | rfl <;> decide

/-- A concluded status is left for neither an open one nor itself. -/
theorem not_left {s : PaymentStatus} (conclusive : Conclusive t) (reported : Open s ∨ s = t)
    (legal : PaymentStatus.Legal t s) : t = s := by
  by_contra apart
  have settled : t ≠ .pending ∧ t ≠ .unknown := by
    rcases conclusive with rfl | rfl <;> decide
  have refunds := PaymentStatus.legal_from_settled legal apart settled
  rcases reported with (rfl | rfl) | rfl
  · simp at refunds
  · simp at refunds
  · exact apart rfl

theorem same_event {e e' : WebhookReport} (distinct : (events.map WebhookReport.eventId).Nodup)
    (mem : e ∈ events) (mem' : e' ∈ events) (same : e.eventId = e'.eventId) : e = e' :=
  List.inj_on_of_nodup_map distinct mem mem' same

theorem recorded_inserted {row : WebhookEventRow} {webhookEvents : Table WebhookEventRow EventClash}
    (inserted : L.webhookEvents.insert row = some webhookEvents)
    (recorded : Recorded { L with webhookEvents } event) :
    Recorded L event ∨ row.eventId = event.eventId := by
  obtain ⟨e, mem, same⟩ := recorded
  rw [(Table.insert_eq_some.mp inserted).2, List.mem_append, List.mem_singleton] at mem
  rcases mem with old | rfl
  · exact .inl ⟨e, old, same⟩
  · exact .inr same

theorem addresses_updatePayment {target : Text PaymentId} {edit : PaymentEdit}
    (names : edit.providerReference = none)
    (addressed : Addresses L event id) :
    Addresses (L.updatePayment target false edit) event id := by
  intro row' mem
  obtain ⟨row, was, rfl⟩ := List.mem_map.mp mem
  have same := addressed row was
  unfold Table.change
  split
  · simpa [PaymentEdit.apply, names, Matches] using same
  · exact same

/-- An update of the status leaves the lookup and the amount of the row. -/
theorem progress_updated {row : PaymentRow} {now : Instant} {s : PaymentStatus}
    (mem : row ∈ L.payments.rows) (is : row.id = .stored id)
    (agrees : ∀ e ∈ events, AmountAgrees e row)
    (addressed : ∀ e ∈ events, Addresses L e id)
    (stage : Stage L₀ (L.updatePayment row.id false ((statusEdit s now).kept .sqlite)) t events
      (((statusEdit s now).kept .sqlite).apply row)) :
    Progress L₀ id t events
      (L.updatePayment row.id false ((statusEdit s now).kept .sqlite)) where
  payment := by
    refine ⟨_, List.mem_map_of_mem mem, ?_⟩
    rw [Table.change_of_pos (by simp [targets])]
    exact ⟨is, agrees, stage⟩
  addressed := fun e mem => addresses_updatePayment rfl (addressed e mem)

/-- One delivery, whatever its statements meet. -/
theorem progress_step {d : Draw} {r : StoreResult WebhookApplyOutcome}
    (outcome : Outcome fp .sqlite d L (.applyWebhookEvent event) L' r)
    (distinct : (events.map WebhookReport.eventId).Nodup) (conclusive : Conclusive t)
    (agreed : ∀ e ∈ events, Open e.reportedStatus ∨ e.reportedStatus = t)
    (mem : event ∈ events) (progress : Progress L₀ id t events L) :
    Progress L₀ id t events L' := by
  obtain ⟨⟨row, inTable, is, agrees, stage⟩, addressed⟩ := progress
  have found : ∀ other ∈ L.payments.rows,
      Matches event.provider event.providerReference other → other = row := by
    intro other inTable' matching
    exact row_eq_of_id inTable' inTable (((addressed event mem other inTable').mp matching).trans is.symm)
  -- what the insertion of an event that is not conclusive leaves undecided
  have undecided : ∀ {inserted : WebhookEventRow} {webhookEvents : Table WebhookEventRow EventClash},
      L.webhookEvents.insert inserted = some webhookEvents → inserted.eventId = event.eventId →
      event.reportedStatus ≠ t →
      (∀ e ∈ events, e.reportedStatus = t → Recorded L e → Recorded L₀ e) →
      ∀ e ∈ events, e.reportedStatus = t → Recorded { L with webhookEvents } e → Recorded L₀ e := by
    intro inserted webhookEvents wrote names differs before e mem' concludes recorded
    rcases recorded_inserted wrote recorded with old | same
    · exact before e mem' concludes old
    · rw [same_event distinct mem mem' (names.symm.trans same)] at differs
      exact absurd concludes differs
  cases outcome with
  | failed => exact ⟨⟨row, inTable, is, agrees, stage⟩, addressed⟩
  | notFound => exact ⟨⟨row, inTable, is, agrees, stage⟩, addressed⟩
  | duplicate => exact ⟨⟨row, inTable, is, agrees, stage⟩, addressed⟩
  | recordedOnly event row' received webhookEvents postgres => cases postgres
  | appliedUnnamed event row' current received now webhookEvents postgres => cases postgres
  | judged _ row' current result received webhookEvents mem' matching stored wrote judged =>
    have same := found row' mem' matching
    subst same
    refine ⟨⟨row', inTable, is, agrees, ?_⟩, addressed⟩
    cases stage with
    | concluded reads cleared => exact .concluded reads cleared
    | waiting s reads opened before =>
      have now_ : current = s := Text.stored.inj (stored.symm.trans reads)
      subst now_
      have differs : event.reportedStatus ≠ t := by
        intro concludes
        cases judged with
        | mismatch reported amount apart =>
          rcases agrees event mem with none_ | some_
          · rw [none_] at amount
            cases amount
          · rw [some_] at amount
            exact apart (Option.some.inj amount).symm
        | noOp sqlite amount repeats =>
          exact open_apart opened conclusive (repeats.trans concludes)
        | illegal amount refused =>
          rw [concludes] at refused
          exact refused (open_legal opened conclusive)
      exact .waiting current reads opened (undecided wrote rfl differs before)
  | applied _ row' current paymentId received now webhookEvents mem' matching stored is' wrote amount
      legal apart =>
    have same := found row' mem' matching
    subst same
    refine progress_updated (L := { L with webhookEvents }) inTable is agrees addressed ?_
    cases stage with
    | concluded reads cleared =>
      have now_ : current = t := Text.stored.inj (stored.symm.trans reads)
      subst now_
      exact absurd (not_left conclusive (agreed event mem) legal) (apart rfl)
    | waiting s reads opened before =>
      rcases agreed event mem with stays | concludes
      · exact .waiting event.reportedStatus rfl stays
          (undecided wrote rfl (open_apart stays conclusive) before)
      · rw [concludes]
        have terminal : t.isTerminal = true := by rcases conclusive with rfl | rfl <;> rfl
        exact .concluded rfl (by simp [PaymentEdit.apply, PaymentEdit.kept, statusEdit, terminal])

theorem deliver_progress {c : Delivery} (distinct : (events.map WebhookReport.eventId).Nodup)
    (conclusive : Conclusive t)
    (agreed : ∀ e ∈ events, Open e.reportedStatus ∨ e.reportedStatus = t)
    (mem : c.event ∈ events) (progress : Progress L₀ id t events L) :
    Progress L₀ id t events (deliver fp L c) :=
  progress_step (execOp_outcome fp .sqlite c.draw L (.applyWebhookEvent c.event)) distinct
    conclusive agreed mem progress

end Progress

section Recording

variable {fp : PaymentRequest → String} {L : Ledger} {id : PaymentId} {event : WebhookReport}

theorem scan_finds {d : Draw} {row : PaymentRow} (mem : row ∈ L.payments.rows)
    (is : row.id = .stored id) (addressed : Addresses L event id) :
    ((scan d L.payments.rows).find? fun row =>
      row.provider == .stored event.provider &&
        row.providerReference == some event.providerReference) = some row := by
  have matching := (addressed row mem).mpr is
  cases search : (scan d L.payments.rows).find? fun row =>
      row.provider == .stored event.provider &&
        row.providerReference == some event.providerReference with
  | none =>
    have unseen := List.find?_eq_none.mp search row (mem_scan.mpr mem)
    simp [matching.1, matching.2] at unseen
  | some other =>
    have inTable := mem_scan.mp (List.mem_of_find?_eq_some search)
    have found : Matches event.provider event.providerReference other := by
      simpa [Matches] using List.find?_some search
    rw [row_eq_of_id inTable mem (((addressed other inTable).mp found).trans is.symm)]

theorem judge_agreed {row : PaymentRow} {current : PaymentStatus} {now : Instant}
    (agrees : AmountAgrees event row) :
    SqliteStore.judge row event current now =
      SqliteStore.applySqliteTransition row.id current event.reportedStatus now := by
  rcases agrees with amount | amount <;> simp [SqliteStore.judge, amount]

/-- A store that works records what is delivered for the payment. -/
theorem deliver_recorded {c : Delivery} {row : PaymentRow} {s : PaymentStatus}
    (works : c.draw.fails = fun _ => false) (mem : row ∈ L.payments.rows)
    (is : row.id = .stored id) (stored : row.status = .stored s)
    (agrees : AmountAgrees c.event row) (addressed : Addresses L c.event id) :
    Recorded (deliver fp L c) c.event := by
  have finds := scan_finds (d := c.draw) mem is addressed
  cases wrote : L.webhookEvents.insert
      ((⟨c.event.eventId, c.event.provider, row.id, c.draw.clock 0⟩ : WebhookEventRow).kept
        .sqlite) with
  | none =>
    have known : Recorded L c.event := Table.insert_eq_none.mp wrote
    simpa [deliver, execOp, program, SqliteStore.applyWebhookEvent, exec, Stmt.run, works,
      Session.on, finds, Write.perform, wrote, Session.close] using known
  | some webhookEvents =>
    have recorded : Recorded { L with webhookEvents } c.event :=
      (recorded_insert { L with webhookEvents } wrote rfl rfl).2
    have present : row ∈ ({ L with webhookEvents } : Ledger).payments.rows := mem
    have one : Table.affected L.payments (targets row.id false) = 1 := affected_of_mem mem rfl
    have parsed : row.id.parse = some id := by rw [is]; rfl
    by_cases repeats : s = c.event.reportedStatus
    · simpa [deliver, execOp, program, SqliteStore.applyWebhookEvent, exec, Stmt.run, works,
        Session.on, finds, Write.perform, wrote, stored, Text.parse, judge_agreed agrees,
        SqliteStore.applySqliteTransition, repeats, Session.close] using recorded
    · cases legal : s.validateTransition c.event.reportedStatus with
      | error e =>
        simpa [deliver, execOp, program, SqliteStore.applyWebhookEvent, exec, Stmt.run, works,
          Session.on, finds, Write.perform, wrote, stored, Text.parse, judge_agreed agrees,
          SqliteStore.applySqliteTransition, repeats, legal, Session.close] using recorded
      | ok _ =>
        have kept : Recorded (({ L with webhookEvents } : Ledger).updatePayment row.id false
            ((statusEdit c.event.reportedStatus (c.draw.clock 0)).kept .sqlite)) c.event := recorded
        simpa [deliver, execOp, program, SqliteStore.applyWebhookEvent, exec, Stmt.run, works,
          Session.on, finds, Write.perform, wrote, stored, judge_agreed agrees,
          SqliteStore.applySqliteTransition, repeats, legal, one, parsed, Session.close] using kept

end Recording

section Confluence

variable {fp : PaymentRequest → String} {L L' : Ledger} {id : PaymentId} {t : PaymentStatus}
  {events : List WebhookReport} {calls : List Delivery} {event : WebhookReport}

theorem recorded_kept (c : Delivery) (recorded : Recorded L event) :
    Recorded (deliver fp L c) event := by
  obtain ⟨e, mem, same⟩ := recorded
  exact ⟨e, (outcome_evolves (execOp_outcome fp .sqlite c.draw L
    (.applyWebhookEvent c.event))).webhookEvents mem, same⟩

theorem recorded_once (recorded : Recorded L event) :
    (L.webhookEvents.rows.filter fun row => row.eventId == event.eventId).length = 1 := by
  obtain ⟨e, mem, same⟩ := recorded
  exact L.webhookEvents.affected_eq_one mem (by simp [same])
    fun other is => (by simpa using is : other.eventId = event.eventId).trans same.symm

theorem progress_started (reported : Reported L id t events) : Progress L id t events L where
  payment := by
    obtain ⟨row, mem, is, ⟨s, stored, opened⟩, agrees⟩ := reported.payment
    exact ⟨row, mem, is, agrees, .waiting s stored opened fun _ _ _ recorded => recorded⟩
  addressed := reported.addressed

theorem progress_recorded {L₀ : Ledger} {c : Delivery} (works : c.draw.fails = fun _ => false)
    (mem : c.event ∈ events) (progress : Progress L₀ id t events L) :
    Recorded (deliver fp L c) c.event := by
  obtain ⟨⟨row, inTable, is, agrees, stage⟩, addressed⟩ := progress
  obtain ⟨s, stored⟩ : ∃ s, row.status = .stored s := by
    cases stage with
    | waiting s reads opened before => exact ⟨s, reads⟩
    | concluded reads cleared => exact ⟨t, reads⟩
  exact deliver_recorded works inTable is stored (agrees c.event mem) (addressed c.event mem)

theorem deliveries_progress (reported : Reported L id t events) (delivers : Delivers calls events) :
    Progress L id t events (calls.foldl (deliver fp) L) :=
  foldl_invariant (P := fun c => c.event ∈ events)
    (fun _ _ progress mem => deliver_progress reported.distinct reported.conclusive
      reported.agreed mem progress)
    (progress_started reported) delivers.only

theorem deliveries_recorded (reported : Reported L id t events) (delivers : Delivers calls events) :
    ∀ e ∈ events, Recorded (calls.foldl (deliver fp) L) e := by
  intro e mem
  obtain ⟨c, called, rfl, works⟩ := delivers.each e mem
  exact foldl_established (I := Progress L id t events) (P := fun c => c.event ∈ events)
    (Q := fun L => Recorded L c.event)
    (fun _ _ progress mem => deliver_progress reported.distinct reported.conclusive
      reported.agreed mem progress)
    (fun _ c recorded => recorded_kept c recorded)
    (fun _ progress => progress_recorded works mem progress)
    (progress_started reported) delivers.only called

/-- The order and the number of deliveries do not matter once one conclusive
report is new to the store. -/
theorem deliveries_concluded (fp : PaymentRequest → String) (L : Ledger) (id : PaymentId)
    (t : PaymentStatus) (events : List WebhookReport) (calls : List Delivery)
    (reported : Reported L id t events)
    (decisive : ∃ e ∈ events, e.reportedStatus = t ∧ ¬ Recorded L e)
    (delivers : Delivers calls events) :
    Concluded (calls.foldl (deliver fp) L) id t events where
  payment := by
    obtain ⟨e, mem, concludes, unseen⟩ := decisive
    have progress : Progress L id t events (calls.foldl (deliver fp) L) :=
      deliveries_progress reported delivers
    obtain ⟨row, inTable, is, agrees, stage⟩ := progress.payment
    cases stage with
    | waiting s reads opened before =>
      have seen : Recorded (calls.foldl (deliver fp) L) e :=
        deliveries_recorded reported delivers e mem
      exact absurd (before e mem concludes seen) unseen
    | concluded reads cleared => exact ⟨row, inTable, is, reads, cleared⟩
  recorded := fun e mem => recorded_once (deliveries_recorded reported delivers e mem)

end Confluence

section Samples

/-- Two payments of the mock provider. -/
def claimed (key : IdempotencyKey) : PaymentRequest :=
  ⟨key, Providers.ProviderId.mock, .hundred .usd,
    ⟨"0100", none, none⟩, none, none, none, []⟩

def pendingCalls : List SqliteLedger.Call :=
  [⟨Gateway.quietDraw 1, .beginPaymentWithOwner (claimed .order) none⟩,
    ⟨Gateway.quietDraw 0, .recordCreationResult ⟨1⟩ "mock_1" .pending none⟩,
    ⟨Gateway.quietDraw 2, .beginPaymentWithOwner (claimed .secondOrder) none⟩,
    ⟨Gateway.quietDraw 0, .recordCreationResult ⟨2⟩ "mock_2" .pending none⟩]

def applying (e : WebhookReport) : SqliteLedger.Call :=
  ⟨Gateway.quietDraw 0, .applyWebhookEvent e⟩

/-- Both are pending, and the given events were applied before. -/
def pending (earlier : List WebhookReport) : Ledger :=
  (pendingCalls ++ earlier.map applying).foldl (SqliteLedger.serve fun _ => "") Ledger.empty

def pendingRow (n : ℕ) (key : IdempotencyKey) (reference : String) : PaymentRow :=
  { newRow (fun _ => "") (claimed key) none ⟨n⟩ ⟨0⟩ with providerReference := some reference }

def pendingRows : List PaymentRow :=
  [pendingRow 1 .order "mock_1", pendingRow 2 .secondOrder "mock_2"]

def report (eventId reference : String) (s : PaymentStatus) : WebhookReport :=
  ⟨eventId, Providers.ProviderId.mock, reference, s, none⟩

def quietly (events : List WebhookReport) : List Delivery :=
  events.map fun e => ⟨Gateway.quietDraw 0, e⟩

theorem quietly_delivers {events calls : List WebhookReport} (only : ∀ e ∈ calls, e ∈ events)
    (each : ∀ e ∈ events, e ∈ calls) : Delivers (quietly calls) events where
  only := by
    intro c mem
    obtain ⟨e, called, rfl⟩ := List.mem_map.mp mem
    exact only e called
  each := fun e mem => ⟨⟨Gateway.quietDraw 0, e⟩, List.mem_map_of_mem (each e mem), rfl, rfl⟩

theorem pending_reported {earlier events : List WebhookReport}
    (rows : (pending earlier).payments.rows = pendingRows)
    (distinct : (events.map WebhookReport.eventId).Nodup)
    (agreed : ∀ e ∈ events, ∃ eventId s, e = report eventId "mock_1" s ∧
      (Open s ∨ s = .succeeded)) :
    Reported (pending earlier) ⟨1⟩ .succeeded events where
  payment := by
    refine ⟨pendingRow 1 .order "mock_1", by simp [rows, pendingRows], rfl,
      ⟨.pending, rfl, .inl rfl⟩, fun e mem => ?_⟩
    obtain ⟨eventId, s, rfl, -⟩ := agreed e mem
    exact .inl rfl
  addressed := by
    intro e mem row inTable
    obtain ⟨eventId, s, rfl, -⟩ := agreed e mem
    rw [rows] at inTable
    rcases List.mem_pair.mp inTable with rfl | rfl <;>
      simp [Matches, report, pendingRow, newRow, claimed]
  distinct := distinct
  conclusive := .inl rfl
  agreed := by
    intro e mem
    obtain ⟨eventId, s, rfl, reported⟩ := agreed e mem
    exact reported

/-- The success first, then a late pending report, then the success again. -/
theorem deliveries_concluded_late :
    Concluded ((quietly [report "evt_2" "mock_1" .succeeded, report "evt_1" "mock_1" .pending,
      report "evt_2" "mock_1" .succeeded]).foldl (deliver fun _ => "") (pending [])) ⟨1⟩ .succeeded
      [report "evt_1" "mock_1" .pending, report "evt_2" "mock_1" .succeeded] := by
  have reported : Reported (pending []) ⟨1⟩ .succeeded
      [report "evt_1" "mock_1" .pending, report "evt_2" "mock_1" .succeeded] :=
    pending_reported (by decide +kernel) (by decide) (by
      simp only [List.forall_mem_cons]
      exact ⟨⟨_, _, rfl, .inl (.inl rfl)⟩, ⟨_, _, rfl, .inr rfl⟩, by simp⟩)
  have unseen : (pending []).webhookEvents.rows = [] := by decide +kernel
  exact deliveries_concluded (fun _ => "") (pending []) ⟨1⟩ .succeeded _ _ reported
    ⟨report "evt_2" "mock_1" .succeeded, by simp, rfl, by simp [Recorded, unseen]⟩
    (quietly_delivers (by simp) (by simp))

/-- An event id that was recorded for another payment silences the report. -/
theorem order_not_immaterial : ¬ ∀ (fp : PaymentRequest → String)
    (before : List SqliteLedger.Call) (id : PaymentId) (t : PaymentStatus)
    (events : List WebhookReport) (calls : List Delivery),
    Reported (before.foldl (SqliteLedger.serve fp) Ledger.empty) id t events →
    (∃ e ∈ events, e.reportedStatus = t) → Delivers calls events →
    Concluded (calls.foldl (deliver fp) (before.foldl (SqliteLedger.serve fp) Ledger.empty)) id t
      events := by
  intro claim
  have reported : Reported (pending [report "evt_1" "mock_2" .pending]) ⟨1⟩ .succeeded
      [report "evt_1" "mock_1" .succeeded] :=
    pending_reported (by decide +kernel) (by decide) (by
      simp only [List.forall_mem_cons]
      exact ⟨⟨_, _, rfl, .inr rfl⟩, by simp⟩)
  have concluded := claim (fun _ => "")
    (pendingCalls ++ [report "evt_1" "mock_2" .pending].map applying) ⟨1⟩ .succeeded _
    (quietly [report "evt_1" "mock_1" .succeeded]) reported (by simp [report])
    (quietly_delivers (by simp) (by simp))
  obtain ⟨row, mem, is, stored, -⟩ := concluded.payment
  have rows : ((quietly [report "evt_1" "mock_1" .succeeded]).foldl (deliver fun _ => "")
      (pending [report "evt_1" "mock_2" .pending])).payments.rows = pendingRows := by
    decide +kernel
  rw [pending] at rows
  rw [rows] at mem
  rcases List.mem_pair.mp mem with rfl | rfl <;> cases stored

end Samples

end OpenWrapper.WebhookOrder
