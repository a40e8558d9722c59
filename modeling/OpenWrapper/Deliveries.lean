import OpenWrapper.Queues
import OpenWrapper.References

/-! # Deliveries, from the provider to the store

What the handler and the bus hand on is what an adapter accepted. Every report
the store is given therefore stems from a verified delivery of the run, and
every recorded event from a report. -/

set_option autoImplicit false

namespace OpenWrapper.Deliveries
open OpenWrapper.Ids OpenWrapper.Payments OpenWrapper.ConstraintTable OpenWrapper.Schema
open OpenWrapper.PaymentStore OpenWrapper.StoreContract OpenWrapper.Effects OpenWrapper.Gateway
open OpenWrapper.Contracts OpenWrapper.Evolution OpenWrapper.References
open OpenWrapper.Suspended OpenWrapper.Interleaving

/-- A delivery with this event, accepted by its adapter, came in at the route
of this provider. -/
def Arrived (app : App) (w : GwWorld) (m : WebhookQueueMessage) : Prop :=
  ∃ t ∈ w.tasks, Verified app t.origin m.provider m.event

/-- What the store is told of a delivery. -/
def Reports (m : WebhookQueueMessage) (report : WebhookReport) : Prop :=
  ∃ providerId, ProviderId.parse m.provider = .ok providerId ∧
    report = Handlers.WebhookEvent.report m.event providerId

theorem Reports.unique {m : WebhookQueueMessage} {report report' : WebhookReport}
    (reports : Reports m report) (reports' : Reports m report') : report = report' := by
  obtain ⟨providerId, parsed, rfl⟩ := reports
  obtain ⟨providerId', parsed', rfl⟩ := reports'
  rw [parsed] at parsed'
  cases parsed'
  rfl

/-- The task about to give the store a report, and what its statements meet. -/
def applying (w : GwWorld) : GwAction → Option (Origin × WebhookReport × Choice)
  | .advance i c =>
    match w.tasks[i]? with
    | some t =>
      match t.rest with
      | .call (.store (.applyWebhookEvent report)) _ => some (t.origin, report, c)
      | _ => none
    | none => none
  | _ => none

/-- An answer that leaves the event recorded, if any does. -/
def Judges (r : StoreResult WebhookApplyOutcome) : Prop :=
  r ≠ .ok .duplicate ∧ r ≠ .ok .paymentNotFound

variable {b : Backend} {app : App} {w w' : GwWorld} {a : GwAction} {i : ℕ} {c : Choice}
variable {m : WebhookQueueMessage} {report : WebhookReport}

theorem applying_eq (adv : Advanced (setting b app) w i c w')
    {r : StoreResult WebhookApplyOutcome}
    (event : (⟨adv.effect, adv.response⟩ : GwEvent) = ⟨.store (.applyWebhookEvent report), r⟩) :
    applying w (.advance i c) = some (adv.task.origin, report, c) := by
  obtain ⟨k, suspended⟩ := (adv.of_event event).2
  simp only [applying, adv.found, suspended]

theorem arrived_step (arrived : Arrived app w m) (stepped : step (setting b app) w a = some w') :
    Arrived app w' m := by
  obtain ⟨t, mem, verified⟩ := arrived
  obtain ⟨t', mem', same⟩ := origin_step mem stepped
  exact ⟨t', mem', by rw [same]; exact verified⟩

section Bus

variable {s s' : Shared} {e : Effect} {r : e.Response}

/-- A reaction leaves the webhook queue as it is, appends what was published,
or takes out what is acknowledged. -/
theorem react_webhookQueue (reacted : react b app s e c = some (s', r)) :
    (∃ m, e = .publishWebhook m ∧
      s'.webhookQueue = s.webhookQueue ++ [⟨s.nextTag, m⟩] ∧ s'.nextTag = s.nextTag + 1) ∨
    (s'.webhookQueue = s.webhookQueue ∧ s.nextTag ≤ s'.nextTag) ∨
    (∃ tag, e = .ackWebhook tag ∧
      s'.webhookQueue = s.webhookQueue.filter (fun d => d.tag != tag) ∧
      s'.nextTag = s.nextTag) := by
  obtain ⟨m, rfl, rfl⟩ | ⟨m, -, rfl⟩ | ⟨tag, rfl, rfl⟩ | ⟨tag, -, rfl⟩ | same := react_queues reacted
  · exact .inl ⟨m, rfl, rfl, rfl⟩
  · exact .inr (.inl ⟨rfl, Nat.le_succ _⟩)
  · exact .inr (.inr ⟨tag, rfl, rfl, rfl⟩)
  · exact .inr (.inl ⟨rfl, le_rfl⟩)
  · rw [same]
    exact .inr (.inl ⟨rfl, le_rfl⟩)

/-- What is queued was queued before, or is published now. -/
theorem queued_cases (reacted : react b app s e c = some (s', r))
    {d : Delivery WebhookQueueMessage} (queued : d ∈ s'.webhookQueue) :
    d ∈ s.webhookQueue ∨ e = .publishWebhook d.message := by
  obtain ⟨m, is, same, -⟩ | ⟨same, -⟩ | ⟨tag, -, same, -⟩ := react_webhookQueue reacted
  · rw [same, List.mem_append, List.mem_singleton] at queued
    rcases queued with old | rfl
    · exact .inl old
    · exact .inr is
  · rw [same] at queued
    exact .inl queued
  · rw [same] at queued
    exact .inl (List.mem_filter.mp queued).1

theorem received_queued {d : Delivery WebhookQueueMessage}
    (reacted : react b app s .receiveWebhook c = some (s', d)) : d ∈ s.webhookQueue ∧ s' = s := by
  cases c with
  | received index =>
    obtain ⟨d', found, same⟩ := Option.map_eq_some_iff.mp reacted
    obtain ⟨rfl, rfl⟩ := Prod.mk.inj same
    exact ⟨List.mem_of_getElem? found, rfl⟩
  | _ => cases reacted

end Bus

section Posted

/-- The message stems from a delivery and can be told to the store. -/
def Genuine (app : App) (w : GwWorld) (m : WebhookQueueMessage) : Prop :=
  Arrived app w m ∧ ∃ report, Reports m report

/-- What the bus holds, and what its consumers hold, is genuine. -/
structure Posted (app : App) (w : GwWorld) : Prop where
  sane : Sane app w
  queued : ∀ d ∈ w.shared.webhookQueue, Genuine app w d.message
  received : ∀ o d, Happened w o ⟨.receiveWebhook, d⟩ → Genuine app w d.message

theorem posted_start (apiKeys : List ApiKeyRow) : Posted app (start apiKeys) where
  sane := sane_start apiKeys
  queued := by simp [start, Shared.start]
  received := by simp [Happened, start]

theorem Genuine.step (genuine : Genuine app w m)
    (stepped : step (setting b app) w a = some w') : Genuine app w' m :=
  ⟨arrived_step genuine.1 stepped, genuine.2⟩

/-- What a task publishes is genuine. -/
theorem genuine_published (sane : Sane app w) (adv : Advanced (setting b app) w i c w')
    (publishes : adv.effect = .publishWebhook m) : Genuine app w m := by
  have licensed := adv.licensed sane.follows
  rw [publishes] at licensed
  obtain ⟨verified, providerId, parsed⟩ := licensed
  exact ⟨⟨adv.task, adv.mem, verified⟩, _, providerId, parsed, rfl⟩

theorem posted_step (posted : Posted app w) (stepped : step (setting b app) w a = some w') :
    Posted app w' := by
  have sane := posted.sane.step stepped
  obtain ⟨o, -, rfl⟩ | ⟨i, c, -, ⟨adv⟩⟩ | ⟨i, t, -, found, rfl⟩ := step_cases stepped
  · constructor
    · exact sane
    · exact fun d mem => (posted.queued d mem).step stepped
    · intro o' d happened
      exact (posted.received o' d (happened_spawn happened)).step stepped
  · constructor
    · exact sane
    · intro d mem
      rw [adv.shared_eq] at mem
      rcases queued_cases adv.reacted mem with old | published
      · exact (posted.queued d old).step stepped
      · exact (genuine_published posted.sane adv published).step stepped
    · intro o d happened
      rcases adv.happened_cases happened with ⟨event, -⟩ | earlier
      · have held := received_queued (adv.of_event event.symm).1
        exact (posted.queued d held.1).step stepped
      · exact (posted.received o d earlier).step stepped
  · constructor
    · exact sane
    · exact fun d mem => (posted.queued d mem).step stepped
    · intro o d happened
      exact (posted.received o d (happened_cancel found happened)).step stepped

/-- What a task may tell the store is what a delivery says. -/
theorem arrived_of_licensed (posted : Posted app w) {t : GwTask} (mem : t ∈ w.tasks) {h : Past}
    (within : h <:+ t.history)
    (licensed : Licensed app t.origin h (.store (.applyWebhookEvent report))) :
    ∃ m, Arrived app w m ∧ Reports m report := by
  rcases licensed with ⟨name, event, providerId, verified, -, parsed, is⟩ |
    ⟨d, providerId, ⟨-, received⟩, parsed, is⟩
  · exact ⟨⟨name, event⟩, ⟨t, mem, verified⟩, providerId, parsed, is⟩
  · have known : (⟨.receiveWebhook, d⟩ : GwEvent) ∈ t.history := by
      apply within.subset
      rw [received]
      exact List.mem_cons_self
    have genuine := posted.received t.origin d ⟨t, mem, rfl, known⟩
    exact ⟨d.message, genuine.1, providerId, parsed, is⟩

/-- Every report the store was given stems from a delivery. -/
theorem arrived_of_applied (posted : Posted app w) {o : Origin}
    {r : StoreResult WebhookApplyOutcome}
    (applied : Happened w o ⟨.store (.applyWebhookEvent report), r⟩) :
    ∃ m, Arrived app w m ∧ Reports m report := by
  obtain ⟨t, mem, rfl, known⟩ := applied
  obtain ⟨h, suffix, licensed⟩ := (posted.sane.follows t mem).2.of_mem known
  exact arrived_of_licensed posted mem ((List.suffix_cons _ h).trans suffix) licensed

end Posted

section Recording

/-- The row that recorded an event, and the report it was recorded for. -/
def RecordedFor (w : GwWorld) (e : WebhookEventRow) (report : WebhookReport) : Prop :=
  (∃ o r, Happened w o ⟨.store (.applyWebhookEvent report), r⟩ ∧ Judges r) ∧
    e.eventId = report.eventId ∧ e.provider = report.provider

/-- A recorded event was recorded before, or for the report that is judged. -/
theorem outcome_recorded {fp : PaymentRequest → String} {d : Draw} {L L' : Ledger} {op : StoreOp}
    {r : op.Result} (outcome : Outcome fp b d L op L' r) {e : WebhookEventRow}
    (mem : e ∈ L'.webhookEvents.rows) : e ∈ L.webhookEvents.rows ∨
      ∃ report r', (⟨.store op, r⟩ : GwEvent) = ⟨.store (.applyWebhookEvent report), r'⟩ ∧
        Judges r' ∧ e.eventId = report.eventId ∧ e.provider = report.provider := by
  have inserted_ : ∀ {row : WebhookEventRow} {webhookEvents : Table WebhookEventRow EventClash},
      L.webhookEvents.insert row = some webhookEvents → e ∈ webhookEvents.rows →
        e ∈ L.webhookEvents.rows ∨ e = row := by
    intro row webhookEvents wrote mem
    rw [(Table.insert_eq_some.mp wrote).2, List.mem_append, List.mem_singleton] at mem
    exact mem
  cases outcome with
  | judged event row current result received webhookEvents inTable matching stored inserted =>
    rcases inserted_ inserted mem with old | rfl
    · exact .inl old
    · exact .inr ⟨event, _, rfl, ⟨by simp, by simp⟩, rfl, rfl⟩
  | applied event row current id received now webhookEvents inTable matching stored is inserted =>
    rcases inserted_ inserted mem with old | rfl
    · exact .inl old
    · exact .inr ⟨event, _, rfl, ⟨by simp, by simp⟩, rfl, rfl⟩
  | recordedOnly event row received webhookEvents postgres inTable matching inserted =>
    rcases inserted_ inserted mem with old | rfl
    · exact .inl old
    · exact .inr ⟨event, _, rfl, ⟨by simp, by simp⟩, rfl, rfl⟩
  | appliedUnnamed event row current received now webhookEvents pg inTable matching stored is
      inserted =>
    rcases inserted_ inserted mem with old | rfl
    · exact .inl old
    · exact .inr ⟨event, _, rfl, ⟨by simp, by simp⟩, rfl, rfl⟩
  | _ => exact .inl mem

theorem react_recorded {s s' : Shared} {e : Effect} {r : e.Response}
    (reacted : react b app s e c = some (s', r)) {row : WebhookEventRow}
    (mem : row ∈ s'.ledger.webhookEvents.rows) : row ∈ s.ledger.webhookEvents.rows ∨
      ∃ report r', (⟨e, r⟩ : GwEvent) = ⟨.store (.applyWebhookEvent report), r'⟩ ∧
        Judges r' ∧ row.eventId = report.eventId ∧ row.provider = report.provider := by
  cases e with
  | store op =>
    obtain ⟨d, same, rfl⟩ := react_store reacted
    rw [same] at mem
    exact outcome_recorded (execOp_outcome app.fingerprint b d s.ledger op) mem
  | _ =>
    rw [react_other reacted (by simp)] at mem
    exact .inl mem

def AllRecorded (w : GwWorld) : Prop :=
  ∀ e ∈ w.shared.ledger.webhookEvents.rows, ∃ report, RecordedFor w e report

theorem RecordedFor.step {e : WebhookEventRow} (recorded : RecordedFor w e report)
    (stepped : step (setting b app) w a = some w') : RecordedFor w' e report := by
  obtain ⟨⟨o, r, happened, judges⟩, same, at_⟩ := recorded
  exact ⟨⟨o, r, happened_step happened stepped, judges⟩, same, at_⟩

theorem allRecorded_step (all : AllRecorded w) (stepped : step (setting b app) w a = some w') :
    AllRecorded w' := by
  intro e mem
  have kept : e ∈ w.shared.ledger.webhookEvents.rows → ∃ report, RecordedFor w' e report := by
    intro old
    obtain ⟨report, recorded⟩ := all e old
    exact ⟨report, recorded.step stepped⟩
  obtain ⟨o, -, rfl⟩ | ⟨i, c, -, ⟨adv⟩⟩ | ⟨i, t, -, found, rfl⟩ := step_cases stepped
  · exact kept mem
  · rw [adv.shared_eq] at mem
    rcases react_recorded adv.reacted mem with old | ⟨report, r, event, judges, same, at_⟩
    · exact kept old
    · refine ⟨report, ⟨adv.task.origin, r, ?_, judges⟩, same, at_⟩
      rw [← event]
      exact adv.happened
  · exact kept mem

theorem allRecorded_start (apiKeys : List ApiKeyRow) : AllRecorded (start apiKeys) := by
  simp [AllRecorded, start, Shared.start, Ledger.empty]

end Recording

end OpenWrapper.Deliveries
