import OpenWrapper.Deliveries
import OpenWrapper.EventIdentity
import OpenWrapper.WebhookOrder

/-! # What becomes of an acknowledged delivery

The handler answers 200 once the store has judged a delivery or the bus has
taken it; a consumer acknowledges its message whatever the store said. A
delivery that no payment waits for yet is answered like a judged one, and
nothing keeps it. -/

set_option autoImplicit false

namespace OpenWrapper.AcknowledgedWebhooks
open OpenWrapper.Ids OpenWrapper.Payments OpenWrapper.ConstraintTable OpenWrapper.Providers
open OpenWrapper.Headers OpenWrapper.Schema OpenWrapper.PaymentStore OpenWrapper.StatementRules
open OpenWrapper.StoreContract OpenWrapper.Effects OpenWrapper.Gateway OpenWrapper.Contracts
open OpenWrapper.Evolution OpenWrapper.References OpenWrapper.EventIdentity
open OpenWrapper.Deliveries OpenWrapper.Suspended OpenWrapper.Suspended.Prog
open OpenWrapper.Interleaving

section Conditions

/-- The store has judged a report under the event id, about the same payment. -/
def judgedAs (report : WebhookReport) : GwEvent → Bool
  | ⟨.store (.applyWebhookEvent report'), .ok (.transition _)⟩ =>
    report'.eventId == report.eventId && report'.provider == report.provider &&
      report'.providerReference == report.providerReference
  | _ => false

/-- The event is recorded, and its outcome is known. -/
def Concluded (w : GwWorld) (report : WebhookReport) : Prop :=
  (∃ t ∈ w.tasks, ∃ ev ∈ t.history, judgedAs report ev = true) ∧
    ∃ e ∈ w.shared.ledger.webhookEvents.rows,
      e.eventId = report.eventId ∧ e.provider = report.provider

instance (w : GwWorld) (report : WebhookReport) : Decidable (Concluded w report) :=
  inferInstanceAs (Decidable (_ ∧ _))

def queuedAs (w : GwWorld) (m : WebhookQueueMessage) : Prop :=
  ∃ d ∈ w.shared.webhookQueue, d.message = m

/-- The delivery is recorded with its outcome, or still queued. No message is
ever dead-lettered: a consumer acknowledges each. -/
def Accounted (w : GwWorld) (m : WebhookQueueMessage) : Prop :=
  queuedAs w m ∨ ∃ report, Reports m report ∧ Concluded w report

/-- Every delivery answered with 200 is accounted for. -/
def NoneLost (app : App) (w : GwWorld) : Prop :=
  ∀ t ∈ w.tasks, ∀ name raw reply, t.origin = .webhook name raw → t.rest = .done reply →
    isOk reply → ∃ event, Verified app t.origin name event ∧ Accounted w ⟨name, event⟩

/-- The six statements of a judgement are executed. -/
def Executes (d : Draw) : Prop := ∀ n < 6, d.fails n = false

instance (d : Draw) : Decidable (Executes d) := inferInstanceAs (Decidable (∀ n < 6, _))

def executed : Choice → Prop
  | .draw d => Executes d
  | _ => True

instance : (c : Choice) → Decidable (executed c)
  | .draw d => inferInstanceAs (Decidable (Executes d))
  | .lookup _ _ | .recorded _ | .events _ | .event _ | .endpoints _ | .deleted _ | .created _
  | .inquired _ | .refunded _ | .published _ | .received _ | .acked | .acquired _ | .clock _
  | .generated _ => .isTrue trivial

def isConsumer : Origin → Bool
  | .webhookConsumer => true
  | _ => false

/-- A report the store is given is concluded, or it is about a stored payment
and its event id is new; what a consumer then asks for is executed. -/
def Settles (w : GwWorld) (a : GwAction) : Prop :=
  ∀ p ∈ applying w a, Concluded w p.2.1 ∨
    (Carried w.shared.ledger p.2.1.provider p.2.1.providerReference ∧
      ¬ EventRecorded w.shared.ledger p.2.1.eventId ∧
      (isConsumer p.1 = true → executed p.2.2))

instance (w : GwWorld) (a : GwAction) : Decidable (Settles w a) :=
  inferInstanceAs (Decidable (∀ p ∈ applying w a, _ ∨ (_ ∧ _ ∧ (_ → _))))

end Conditions

section Store

variable {fp : PaymentRequest → String} {b : Backend} {d : Draw} {L L' : Ledger}
  {report : WebhookReport}

/-- What a judgement that meets no failure ends in. -/
def Decides (r : StoreResult WebhookApplyOutcome) : Prop := ∃ outcome, r = .ok (.transition outcome)

theorem disagrees_of_not {row : PaymentRow} (disagrees : ¬ AmountAgrees report row) :
    ∃ reported, report.reportedAmountMinorUnits = some reported ∧ reported ≠ row.amountMinorUnits := by
  cases amount : report.reportedAmountMinorUnits with
  | none => exact absurd (.inl amount) disagrees
  | some reported =>
    refine ⟨reported, rfl, fun same => disagrees (.inr ?_)⟩
    rw [amount, same]

/-- A judgement that meets no failure goes on with its outcome. -/
theorem judge_decides {α : Type} {f : StoreResult TransitionOutcome → Sql α} {s : Session}
    {row : PaymentRow} {current : PaymentStatus} {id : PaymentId} {now : Instant}
    (executes : Executes d) (is : row.id = .stored id)
    (one : s.ledger.payments.affected (targets row.id false) = 1) :
    ∃ outcome n s', n < 6 ∧
      serial (exec .sqlite d) 4 s (SqliteStore.judge row report current now >>= f) =
        serial (exec .sqlite d) n s' (f (.ok outcome)) := by
  have parsed : row.id.parse = some id := by rw [is]; rfl
  by_cases agrees : AmountAgrees report row
  · rw [WebhookOrder.judge_agreed agrees]
    by_cases same : current = report.reportedStatus
    · refine ⟨.noOp, 4, s, by omega, ?_⟩
      simp [SqliteStore.applySqliteTransition, same]
    · cases legal : current.validateTransition report.reportedStatus with
      | error e =>
        refine ⟨.illegal e.source e.target, 4, s, by omega, ?_⟩
        simp [SqliteStore.applySqliteTransition, same, legal]
      | ok _ =>
        refine ⟨.applied id current report.reportedStatus, 5, ⟨s.ledger.updatePayment row.id false
          ((statusEdit report.reportedStatus now).kept .sqlite), s.saved⟩, by omega, ?_⟩
        simp [SqliteStore.applySqliteTransition, same, legal, exec, Stmt.run,
          executes 4 (by omega), Write.perform, one, parsed]
  · obtain ⟨reported, amount, differs⟩ := disagrees_of_not agrees
    refine ⟨.amountMismatch row.amountMinorUnits reported, 4, s, by omega, ?_⟩
    simp [SqliteStore.judge, amount, differs]

theorem concluded_of_executed (intact : AllIntact L) (executes : Executes d)
    (carried : Carried L report.provider report.providerReference)
    (fresh : ¬ EventRecorded L report.eventId) :
    Decides (execOp fp b d L (.applyWebhookEvent report)).2 := by
  have first : d.fails 0 = false ∧ d.fails 1 = false ∧ d.fails 2 = false ∧ d.fails 3 = false :=
    ⟨executes 0 (by omega), executes 1 (by omega), executes 2 (by omega), executes 3 (by omega)⟩
  have fourth : d.fails 4 = false := executes 4 (by omega)
  obtain ⟨row, finds⟩ := scan_carried (d := d) carried
  have mem : row ∈ L.payments.rows := mem_scan.mp (List.mem_of_find?_eq_some finds)
  obtain ⟨id, is⟩ := (intact row mem).id
  obtain ⟨current, stored⟩ := (intact row mem).status
  have parsed : row.id.parse = some id := by rw [is]; rfl
  have reads : row.status.parse = some current := by rw [stored]; rfl
  have wrote (received : Instant) : ∃ webhookEvents, L.webhookEvents.insert
      ((⟨report.eventId, report.provider, row.id, received⟩ : WebhookEventRow).kept b) =
        some webhookEvents := by
    cases inserted : L.webhookEvents.insert
        ((⟨report.eventId, report.provider, row.id, received⟩ : WebhookEventRow).kept b) with
    | some webhookEvents => exact ⟨webhookEvents, rfl⟩
    | none =>
      obtain ⟨e, known, clash⟩ := Table.insert_eq_none.mp inserted
      exact absurd ⟨e, known, clash⟩ fresh
  cases b with
  | sqlite =>
    obtain ⟨webhookEvents, inserted⟩ := wrote (d.clock 0)
    have one : Table.affected L.payments (targets row.id false) = 1 := affected_of_mem mem rfl
    simp only [execOp, program, SqliteStore.applyWebhookEvent, exec, Stmt.run, first, Session.on,
      finds, Write.perform, inserted, reads, Sql.now, Sql.beginTransaction,
      Sql.selectByProviderReference, Sql.write, perform_bind, serial_call]
    obtain ⟨outcome, n, s', below, judged⟩ :=
      judge_decides (s := ⟨{ L with webhookEvents }, some L⟩) executes is one
    rw [judged]
    simp [Decides, exec, Stmt.run, executes n below]
  | postgres =>
    obtain ⟨webhookEvents, inserted⟩ := wrote (d.clock 1)
    by_cases agrees : AmountAgrees report row
    · have silent : (report.reportedAmountMinorUnits.any fun reported =>
          !decide (reported = row.amountMinorUnits)) = false := by
        rcases agrees with amount | amount <;> simp [amount]
      cases legal : current.validateTransition report.reportedStatus with
      | error e =>
        simp [Decides, execOp, program, PostgresStore.applyWebhookEvent, exec, Stmt.run, first,
          Session.on, finds, Write.perform, inserted, reads, silent, legal]
      | ok _ =>
        simp [Decides, execOp, program, PostgresStore.applyWebhookEvent, exec, Stmt.run, first,
          fourth, Session.on, finds, Write.perform, inserted, reads, silent, legal, parsed]
    · obtain ⟨reported, amount, differs⟩ := disagrees_of_not agrees
      simp [Decides, execOp, program, PostgresStore.applyWebhookEvent, exec, Stmt.run, first,
        Session.on, finds, Write.perform, inserted, reads, amount, differs]

/-- What a judged report leaves in `webhook_events`. -/
theorem recorded_of_judged {outcome : TransitionOutcome}
    (told_ : Outcome fp b d L (.applyWebhookEvent report) L' (.ok (.transition outcome))) :
    ∃ e ∈ L'.webhookEvents.rows, e.eventId = report.eventId ∧ e.provider = report.provider := by
  have inserted_ : ∀ {row : WebhookEventRow} {webhookEvents : Table WebhookEventRow EventClash},
      L.webhookEvents.insert row = some webhookEvents → row ∈ webhookEvents.rows := by
    intro row webhookEvents wrote
    rw [(Table.insert_eq_some.mp wrote).2]
    exact List.mem_append_right _ (List.mem_singleton_self _)
  cases told_ with
  | judged event row current result received webhookEvents inTable matching stored inserted =>
    exact ⟨_, inserted_ inserted, rfl, rfl⟩
  | applied event row current id received now webhookEvents inTable matching stored is inserted =>
    exact ⟨_, inserted_ inserted, rfl, rfl⟩

/-- A matching report under a new event id is answered by its outcome, if at all. -/
theorem judged_of_ok {v : WebhookApplyOutcome}
    (outcome : Outcome fp b d L (.applyWebhookEvent report) L' (.ok v))
    (carried : Carried L report.provider report.providerReference)
    (fresh : ¬ EventRecorded L report.eventId) : ∃ result, v = .transition result := by
  cases outcome with
  | notFound event unmatched =>
    obtain ⟨row, mem, matching⟩ := carried
    exact absurd matching (unmatched row mem)
  | duplicate event recorded => exact absurd recorded fresh
  | judged event row current result => exact ⟨result, rfl⟩
  | applied event row current id => exact ⟨_, rfl⟩

end Store

section Run

variable {b : Backend} {app : App} {w w' : GwWorld} {a : GwAction} {i : ℕ} {c : Choice}
variable {m : WebhookQueueMessage} {report : WebhookReport}

theorem concluded_step (concluded : Concluded w report)
    (stepped : step (setting b app) w a = some w') : Concluded w' report := by
  obtain ⟨⟨t, mem, ev, known, judges⟩, e, row, same, at_⟩ := concluded
  obtain ⟨t', mem', -, known'⟩ := happened_step ⟨t, mem, rfl, known⟩ stepped
  refine ⟨⟨t', mem', ev, known', judges⟩, e, ?_, same, at_⟩
  obtain ⟨o, -, rfl⟩ | ⟨i, c, -, ⟨adv⟩⟩ | ⟨i, t, -, found, rfl⟩ := step_cases stepped
  · exact row
  · rw [adv.shared_eq]
    exact (react_evolves adv.reacted).webhookEvents row
  · exact row

/-- What the run says of deliveries: what was published, held and applied. -/
structure Course (app : App) (w : GwWorld) : Prop where
  posted : Posted app w
  fresh : Queues.Fresh Delivery.tag w.shared.webhookQueue w.shared.nextTag
  received : ∀ o d, Happened w o ⟨.receiveWebhook, d⟩ →
    Queues.Issued Delivery.tag w.shared.webhookQueue w.shared.nextTag d
  applied : ∀ o report r, Happened w o ⟨.store (.applyWebhookEvent report), r⟩ →
    isConsumer o = true ∨ r.isOk = true → Concluded w report
  published : ∀ o m, Happened w o ⟨.publishWebhook m, .ok ()⟩ → Accounted w m

theorem course_start (apiKeys : List ApiKeyRow) : Course app (start apiKeys) where
  posted := posted_start apiKeys
  fresh := Queues.fresh_nil
  received := by simp [Happened, start]
  applied := by simp [Happened, start]
  published := by simp [Happened, start]

theorem issued_react (adv : Advanced (setting b app) w i c w')
    {d : Delivery WebhookQueueMessage}
    (issued : Queues.Issued Delivery.tag w.shared.webhookQueue w.shared.nextTag d) :
    Queues.Issued Delivery.tag w'.shared.webhookQueue w'.shared.nextTag d := by
  rw [adv.shared_eq]
  obtain ⟨m, -, same, next⟩ | ⟨same, later⟩ | ⟨tag, -, same, next⟩ :=
    react_webhookQueue adv.reacted
  · rw [same, next]
    exact Queues.issued_push issued rfl
  · rw [same]
    exact Queues.issued_mono issued (fun _ mem => mem) later
  · rw [same, next]
    exact Queues.issued_mono issued (List.filter_subset_self _) le_rfl

theorem fresh_react (adv : Advanced (setting b app) w i c w')
    (fresh : Queues.Fresh Delivery.tag w.shared.webhookQueue w.shared.nextTag) :
    Queues.Fresh Delivery.tag w'.shared.webhookQueue w'.shared.nextTag := by
  rw [adv.shared_eq]
  obtain ⟨m, -, same, next⟩ | ⟨same, later⟩ | ⟨tag, -, same, next⟩ :=
    react_webhookQueue adv.reacted
  · rw [same, next]
    exact Queues.fresh_push fresh rfl
  · rw [same]
    exact Queues.fresh_mono fresh (fun _ mem => mem) later
  · rw [same, next]
    exact Queues.fresh_mono fresh (List.filter_subset_self _) le_rfl

theorem received_step (course : Course app w) (adv : Advanced (setting b app) w i c w')
    {o : Origin} {d : Delivery WebhookQueueMessage}
    (happened : Happened w' o ⟨.receiveWebhook, d⟩) :
    Queues.Issued Delivery.tag w'.shared.webhookQueue w'.shared.nextTag d := by
  rcases adv.happened_cases happened with ⟨event, -⟩ | earlier
  · have held := received_queued (adv.of_event event.symm).1
    rw [adv.shared_eq, held.2]
    exact course.fresh d held.1
  · exact issued_react adv (course.received o d earlier)

/-- A report that is applied now, with an answer or by a consumer, is concluded. -/
theorem applied_step (course : Course app w) (adv : Advanced (setting b app) w i c w')
    (stepped : step (setting b app) w (.advance i c) = some w')
    (settles : Settles w (.advance i c)) {o : Origin} {r : StoreResult WebhookApplyOutcome}
    (happened : Happened w' o ⟨.store (.applyWebhookEvent report), r⟩)
    (counts : isConsumer o = true ∨ r.isOk = true) : Concluded w' report := by
  rcases adv.happened_cases happened with ⟨event, from_⟩ | earlier
  · rcases settles _ (applying_eq adv event.symm) with before | ⟨carried, fresh, executes⟩
    · exact concluded_step before stepped
    · obtain ⟨reacted, -⟩ := adv.of_event event.symm
      obtain ⟨d, rfl, written, answered⟩ := react_draw reacted
      have outcome := execOp_outcome app.fingerprint b d w.shared.ledger
        (.applyWebhookEvent report)
      have ok : ∃ v, r = .ok v := by
        rcases counts with consumes | fine
        · rw [from_] at consumes
          obtain ⟨result, is⟩ := concluded_of_executed (b := b) course.posted.sane.intact
            (executes consumes) carried fresh
          exact ⟨.transition result, answered.trans is⟩
        · cases r with
          | ok v => exact ⟨v, rfl⟩
          | error e => cases fine
      obtain ⟨v, rfl⟩ := ok
      rw [← answered, ← written] at outcome
      obtain ⟨result, rfl⟩ := judged_of_ok outcome carried fresh
      constructor
      · refine ⟨_, adv.mem_resumed, _, List.mem_cons_self, ?_⟩
        rw [← event]
        simp [judgedAs]
      · rw [adv.shared_eq]
        exact recorded_of_judged outcome
  · exact concluded_step (course.applied o report r earlier counts) stepped

/-- A message is acknowledged only when its report is concluded. -/
theorem acked_concluded (course : Course app w) (adv : Advanced (setting b app) w i c w')
    {d : Delivery WebhookQueueMessage} (queued : d ∈ w.shared.webhookQueue)
    (acks : adv.effect = .ackWebhook d.tag) :
    ∃ report, Reports d.message report ∧ Concluded w report := by
  have licensed := adv.licensed course.posted.sane.follows
  rw [acks] at licensed
  obtain ⟨d', same, ⟨received, e, refused⟩ | ⟨providerId, r, earlier, received, parsed, before⟩⟩ :=
    licensed
  · have known : Happened w adv.task.origin ⟨.receiveWebhook, d'⟩ := by
      refine ⟨adv.task, adv.mem, rfl, ?_⟩
      rw [received.2]
      exact List.mem_cons_self
    obtain rfl : d = d' := (course.received _ d' known).2 d queued same
    obtain ⟨-, report, providerId, parsed, -⟩ := course.posted.queued d queued
    rw [refused] at parsed
    cases parsed
  · have known : Happened w adv.task.origin ⟨.receiveWebhook, d'⟩ := by
      refine ⟨adv.task, adv.mem, rfl, ?_⟩
      rw [before, received.2]
      exact List.mem_cons_of_mem _ List.mem_cons_self
    obtain rfl : d = d' := (course.received _ d' known).2 d queued same
    refine ⟨_, ⟨providerId, parsed, rfl⟩, ?_⟩
    apply course.applied adv.task.origin _ r
    · refine ⟨adv.task, adv.mem, rfl, ?_⟩
      rw [before]
      exact List.mem_cons_self
    · rw [received.1]
      exact .inl rfl

theorem accounted_step (course : Course app w) (stepped : step (setting b app) w a = some w')
    (accounted : Accounted w m) : Accounted w' m := by
  rcases accounted with ⟨d, queued, is⟩ | ⟨report, reports, concluded⟩
  · obtain ⟨o, -, rfl⟩ | ⟨i, c, -, ⟨adv⟩⟩ | ⟨i, t, -, found, rfl⟩ := step_cases stepped
    · exact .inl ⟨d, queued, is⟩
    · rw [Accounted, queuedAs, adv.shared_eq]
      obtain ⟨m', -, same, -⟩ | ⟨same, -⟩ | ⟨tag, acks, same, -⟩ := react_webhookQueue adv.reacted
      · rw [same]
        exact .inl ⟨d, List.mem_append_left _ queued, is⟩
      · rw [same]
        exact .inl ⟨d, queued, is⟩
      · by_cases here : d.tag = tag
        · subst here
          obtain ⟨report, reports, concluded⟩ := acked_concluded course adv queued acks
          rw [is] at reports
          exact .inr ⟨report, reports, concluded_step concluded stepped⟩
        · rw [same]
          exact .inl ⟨d, List.mem_filter.mpr ⟨queued, by simpa using here⟩, is⟩
    · exact .inl ⟨d, queued, is⟩
  · exact .inr ⟨report, reports, concluded_step concluded stepped⟩

theorem published_step (course : Course app w) (adv : Advanced (setting b app) w i c w')
    (stepped : step (setting b app) w (.advance i c) = some w') {o : Origin}
    (happened : Happened w' o ⟨.publishWebhook m, .ok ()⟩) : Accounted w' m := by
  rcases adv.happened_cases happened with ⟨event, -⟩ | earlier
  · obtain ⟨reacted, -⟩ := adv.of_event event.symm
    left
    rw [queuedAs, adv.shared_eq]
    cases c with
    | published accepted =>
      cases accepted with
      | true =>
        obtain ⟨same, -⟩ := Prod.mk.inj (Option.some.inj reacted)
        rw [← same]
        exact ⟨⟨w.shared.nextTag, m⟩, List.mem_append_right _ (List.mem_singleton_self _), rfl⟩
      | false =>
        obtain ⟨-, refused⟩ := Prod.mk.inj (Option.some.inj reacted)
        cases refused
    | _ => cases reacted
  · exact accounted_step course stepped (course.published o m earlier)

theorem course_step (course : Course app w) (settles : Settles w a)
    (stepped : step (setting b app) w a = some w') : Course app w' := by
  have posted := posted_step course.posted stepped
  obtain ⟨o, -, rfl⟩ | ⟨i, c, rfl, ⟨adv⟩⟩ | ⟨i, t, -, found, rfl⟩ := step_cases stepped
  · constructor
    · exact posted
    · exact course.fresh
    · exact fun o d happened => course.received o d (happened_spawn happened)
    · intro o report r happened counts
      exact concluded_step (course.applied o report r (happened_spawn happened) counts) stepped
    · intro o m happened
      exact accounted_step course stepped (course.published o m (happened_spawn happened))
  · constructor
    · exact posted
    · exact fresh_react adv course.fresh
    · exact fun o d => received_step course adv
    · exact fun o report r => applied_step course adv stepped settles
    · exact fun o m => published_step course adv stepped
  · constructor
    · exact posted
    · exact course.fresh
    · exact fun o d happened => course.received o d (happened_cancel found happened)
    · intro o report r happened counts
      have before := happened_cancel found happened
      exact concluded_step (course.applied o report r before counts) stepped
    · intro o m happened
      exact accounted_step course stepped (course.published o m (happened_cancel found happened))

/-- What a delivery's own task told the store is what the delivery says. -/
theorem reports_of_told (sane : Sane app w) {t : GwTask} (mem : t ∈ w.tasks) {name : String}
    {raw : RawWebhookRequest} {event : WebhookEvent} {r : StoreResult WebhookApplyOutcome}
    (started : t.origin = .webhook name raw) (verified : Verified app t.origin name event)
    (applied : (⟨.store (.applyWebhookEvent report), r⟩ : GwEvent) ∈ t.history) :
    Reports ⟨name, event⟩ report := by
  obtain ⟨h, -, licensed⟩ := (sane.follows t mem).2.of_mem applied
  rcases licensed with ⟨name', event', providerId, verified', -, parsed, is⟩ |
    ⟨d, providerId, ⟨consumes, -⟩, -, -⟩
  · obtain ⟨raw', p', started', configured', accepted'⟩ := verified'
    obtain ⟨raw₀, p, started₀, configured, accepted⟩ := verified
    rw [started'] at started₀
    cases started₀
    rw [configured'] at configured
    cases configured
    rw [accepted'] at accepted
    cases accepted
    exact ⟨providerId, parsed, is⟩
  · rw [started] at consumes
    cases consumes

theorem noneLost_of_course (course : Course app w) : NoneLost app w := by
  intro t mem name raw reply started finished acknowledged
  have follows := course.posted.sane.follows t mem
  have answered : Answered app t.origin t.history reply := by
    have always := follows.1
    rw [finished] at always
    exact always
  obtain ⟨event, verified, taken⟩ := answered.taken name raw started acknowledged
  refine ⟨event, verified, ?_⟩
  rcases taken with published | ⟨providerId, outcome, applied⟩
  · exact course.published t.origin _ ⟨t, mem, rfl, published⟩
  · right
    refine ⟨_, reports_of_told course.posted.sane mem started verified applied, ?_⟩
    exact course.applied t.origin _ _ ⟨t, mem, rfl, applied⟩ (.inr rfl)

end Run

section Samples

def paidEvent : WebhookEvent := ⟨ProviderId.stripe, "evt_1", "cs_1", none, .succeeded, some 100⟩

/-- The shop, whose adapter accepts the event of the order's payment. -/
def listening (bus : Option BusConfig) : App :=
  { shop with verifyAndParseWebhook := fun _ _ => .ok paidEvent, messageBus := bus }

def delivery : Origin := .webhook "stripe" ⟨[], [], []⟩

/-- The delivery comes before the creation's result is stored. -/
def early : List GwAction :=
  ordered.take 4 ++ [.spawn delivery, .advance 1 (.draw (quietDraw 0))] ++ ordered.drop 4

/-- The delivery goes through the bus, after the creation. -/
def queued : List GwAction :=
  ordered ++ [.spawn delivery, .advance 1 (.published true), .spawn .webhookConsumer,
    .advance 2 (.received 0), .advance 2 (.draw (quietDraw 0)), .advance 2 .acked]

def acknowledged (t : GwTask) : Bool :=
  match t.origin, t.rest with
  | .webhook _ _, .done (.http 200 _) => true
  | _, _ => false

theorem acknowledged_cases {t : GwTask} (is : acknowledged t = true) : ∃ name raw reply,
    t.origin = .webhook name raw ∧ t.rest = .done reply ∧ isOk reply := by
  obtain ⟨origin, history, rest, live⟩ := t
  unfold acknowledged at is
  split at is
  next name raw body started finished => exact ⟨name, raw, _, started, finished, rfl⟩
  · cases is

end Samples

end OpenWrapper.AcknowledgedWebhooks
