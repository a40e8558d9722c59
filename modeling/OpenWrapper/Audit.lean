import OpenWrapper.AuditContracts
import OpenWrapper.ReconcilerStore
import OpenWrapper.SqliteLedger
import Mathlib.Data.List.Forall2

/-! # Changes of a payment's status, and the events about them

An event is stored after each refund that is recorded, and after nothing else.
The events of a payment tell its history as far as its status changed by
refunds, each to another status. -/

set_option autoImplicit false

namespace OpenWrapper.Audit
open OpenWrapper.Ids OpenWrapper.Payments OpenWrapper.ConstraintTable OpenWrapper.Schema
open OpenWrapper.PaymentStore OpenWrapper.StatementRules OpenWrapper.StoreContract
open OpenWrapper.Effects OpenWrapper.Gateway OpenWrapper.Contracts OpenWrapper.Evolution
open OpenWrapper.AuditContracts OpenWrapper.Providers
open OpenWrapper.Suspended OpenWrapper.Interleaving

/-- From one status to another. -/
abbrev Change := Text PaymentStatus × Text PaymentStatus

/-- The kind of event that a change to this status is. -/
def eventType : PaymentStatus → String
  | .pending => "payment.pending"
  | .unknown => "payment.unknown"
  | .succeeded => "payment.succeeded"
  | .failed => "payment.failed"
  | .partiallyRefunded | .refunded => "payment.refunded"

/-- The event names the change. -/
def Names (event : EventRecord) (change : Change) : Prop :=
  ∃ t, change.2 = .stored t ∧ event.eventType = eventType t

/-- One event for each change, and one change for each event. -/
def Corresponds (changes : List Change) (events : List EventRecord) : Prop :=
  ∃ arranged, arranged.Perm events ∧ List.Forall₂ Names arranged changes

section Runs

variable (b : Backend) (app : App) (id : PaymentId)

def changeOf (L L' : Ledger) : Option Change :=
  match SqliteLedger.statusOf id L, SqliteLedger.statusOf id L' with
  | some s, some t => if s = t then none else some (s, t)
  | _, _ => none

/-- The changes the status of the payment goes through, once it has a row. -/
def changes : GwWorld → List GwAction → List Change
  | _, [] => []
  | w, a :: rest =>
    match step (setting b app) w a with
    | some w' => (changeOf id w.shared.ledger w'.shared.ledger).toList ++ changes w' rest
    | none => []

/-- The rows of the payment in the table of events. -/
def eventsOf (w : GwWorld) : List EventRecord :=
  w.tasks.flatMap fun t => t.history.flatMap (noted id)

/-- No statement fails. -/
def Executed : GwAction → Prop
  | .advance _ (.draw d) => d.fails = fun _ => false
  | .advance _ (.lookup failed _) => failed = false
  | .advance _ (.recorded r) => r = .ok ()
  | _ => True

/-- The operation leaves the status of the payment, or records a refund that
changes it. -/
def Explained (L : Ledger) : StoreOp → Prop
  | .recordCreationResult of_ _ t _ => of_ = id →
    ∀ row ∈ L.payments.rows, row.id = .stored id → row.status = .stored t
  | .markTerminalWithoutProviderReference of_ t => of_ = id →
    ∀ row ∈ L.payments.rows, row.id = .stored id → row.status = .stored t
  | .markUnknown of_ => of_ = id →
    ∀ row ∈ L.payments.rows, row.id = .stored id → row.status = .stored .unknown
  | .applyWebhookEvent event => ∀ row ∈ L.payments.rows, row.id = .stored id →
    Matches event.provider event.providerReference row → AmountAgrees event row →
      (∀ e ∈ L.webhookEvents.rows, e.eventId ≠ event.eventId) →
        ¬ ReconcilerStore.Replaces event.reportedStatus row
  | .applyReconciliationResult of_ t => of_ = id →
    ∀ row ∈ L.payments.rows, row.id = .stored id → ¬ ReconcilerStore.Replaces t row
  | .recordRefund record t => record.paymentId = id →
    (∀ refund ∈ L.refunds.rows, refund.id ≠ record.id) →
      ∀ row ∈ L.payments.rows, row.id = .stored id → row.status ≠ .stored t
  | _ => True

instance (event : WebhookReport) (row : PaymentRow) : Decidable (AmountAgrees event row) :=
  inferInstanceAs (Decidable (_ ∨ _))

instance (provider : ProviderId) (reference : String) (row : PaymentRow) :
    Decidable (Matches provider reference row) := inferInstanceAs (Decidable (_ ∧ _))

instance (L : Ledger) (op : StoreOp) : Decidable (Explained id L op) := by
  unfold Explained
  split <;> infer_instance

/-- The store call the task is about to make. -/
def storeCall (t : GwTask) : Option StoreOp :=
  match t.rest with
  | .call (.store op) _ => some op
  | _ => none

/-- The store call of a step is explained. -/
def Accounted (w : GwWorld) : GwAction → Prop
  | .advance i _ => ∀ t ∈ w.tasks[i]?, ∀ op ∈ storeCall t, Explained id w.shared.ledger op
  | .spawn _ => True
  | .cancel _ => True

instance (w : GwWorld) : (a : GwAction) → Decidable (Accounted id w a)
  | .advance i _ => inferInstanceAs (Decidable (∀ t ∈ w.tasks[i]?, ∀ op ∈ storeCall t,
      Explained id w.shared.ledger op))
  | .spawn _ => .isTrue trivial
  | .cancel _ => .isTrue trivial

end Runs

section Status

variable {fp : PaymentRequest → String} {b : Backend} {d : Draw} {L L' : Ledger} {id : PaymentId}

/-- The payment has the same status as before, if it has a row. -/
def Same (id : PaymentId) (L L' : Ledger) : Prop :=
  ∀ row ∈ L.payments.rows, row.id = .stored id →
    ∃ row' ∈ L'.payments.rows, row'.id = .stored id ∧ row'.status = row.status

theorem same_refl (id : PaymentId) (L : Ledger) : Same id L L :=
  fun row mem is => ⟨row, mem, is, rfl⟩

theorem changeOf_same (same : Same id L L') : changeOf id L L' = none := by
  unfold changeOf
  cases before : SqliteLedger.statusOf id L with
  | none => rfl
  | some s =>
    obtain ⟨row, mem, is, rfl⟩ := SqliteLedger.statusOf_some before
    obtain ⟨row', mem', is', status⟩ := same row mem is
    rw [SqliteLedger.statusOf_eq mem' is', status]
    simp

theorem same_update {of_ : Text PaymentId} {guarded : Bool} {edit : PaymentEdit}
    (keeps : of_ = .stored id → ∀ row ∈ L.payments.rows, row.id = .stored id →
      (edit.apply row).status = row.status) : Same id L (L.updatePayment of_ guarded edit) := by
  intro row mem is
  refine ⟨_, List.mem_map_of_mem mem, ?_, ?_⟩
  · rw [Table.change_proj (f := edit.apply) PaymentRow.id (fun _ => rfl)]
    exact is
  · by_cases targeted : targets of_ guarded row = true
    · have about : of_ = .stored id := by
        simp only [targets, Bool.and_eq_true, beq_iff_eq] at targeted
        exact targeted.1.symm.trans is
      rw [Table.change_of_pos targeted]
      exact keeps about row mem is
    · rw [Table.change_of_neg (by simpa using targeted)]

theorem same_insert {row : PaymentRow} {payments : Table PaymentRow PaymentClash}
    (inserted : L.payments.insert row = some payments) : Same id L { L with payments } := by
  intro old mem is
  have rows := (Table.insert_eq_some.mp inserted).2
  exact ⟨old, by simp [rows, mem], is, rfl⟩

/-- A status that does not replace the stored one is that status, or illegal. -/
theorem status_kept {row : PaymentRow} {current t : PaymentStatus} {now : Instant} {b : Backend}
    (stored : row.status = .stored current) (legal : PaymentStatus.Legal current t)
    (stays : ¬ ReconcilerStore.Replaces t row) :
    (((statusEdit t now).kept b).apply row).status = row.status := by
  have same : current = t := by
    by_contra apart
    exact stays ⟨current, stored, legal, apart⟩
  rw [stored, same]
  rfl

/-- No operation but a refund's record changes the status. -/
theorem outcome_same {op : StoreOp} {r : op.Result} (outcome : Outcome fp b d L op L' r)
    (explained : Explained id L op)
    (other : ∀ record t, op = .recordRefund record t → record.paymentId = id → r.isOk = false) :
    Same id L L' := by
  cases outcome with
  | begun request owner now payments inserted => exact same_insert inserted
  | created of_ reference t nextAction now checked =>
    apply same_update
    intro about row mem is
    rw [explained (Text.stored.inj about) row mem is]
    rfl
  | marked of_ t now checked =>
    apply same_update
    intro about row mem is
    rw [explained (Text.stored.inj about) row mem is]
    rfl
  | markedUnknown of_ now checked =>
    apply same_update
    intro about row mem is
    rw [explained (Text.stored.inj about) row mem is]
    rfl
  | applied event row current of_ received now webhookEvents mem matching stored is inserted agrees legal =>
    have unrecorded := (Table.insert_eq_some.mp inserted).1
    refine same_update (L := { L with webhookEvents }) fun about row' mem' is' => ?_
    obtain rfl : row' = row := row_eq_of_id mem' mem (is'.trans about.symm)
    exact status_kept stored legal (explained row' mem' is' matching agrees unrecorded)
  | appliedUnnamed event row current received now webhookEvents pg mem matching stored unnamed =>
    refine same_update (L := { L with webhookEvents }) fun about => ?_
    rw [about] at unnamed
    cases unnamed
  | reconciled of_ s t now validated differs =>
    apply same_update
    intro about row mem is
    obtain ⟨row', mem', is', stored⟩ := validated.stored
    obtain rfl : row = row' := row_eq_of_id mem mem' (is.trans (about.symm.trans is'.symm))
    exact status_kept stored validated.legal (explained (Text.stored.inj about) row mem is)
  | touched of_ now => exact same_update fun _ _ _ _ => rfl
  | refundRecorded record t now refunds inserted =>
    refine same_update (L := { L with refunds }) fun about => ?_
    cases other record t rfl (Text.stored.inj about)
  | _ => exact fun row mem is => ⟨row, mem, is, rfl⟩

/-- A refund's record changes the status of a stored payment. -/
theorem outcome_refunded {record : RefundRecord} {t : PaymentStatus} {row : PaymentRow}
    (outcome : Outcome fp b d L (.recordRefund record t) L' (.ok ()))
    (explained : Explained id L (.recordRefund record t)) (about : record.paymentId = id)
    (mem : row ∈ L.payments.rows) (is : row.id = .stored id) :
    ∃ s, changeOf id L L' = some (s, .stored t) := by
  cases outcome with
  | refundRecorded record t now refunds inserted =>
    have differs := explained about (Table.insert_eq_some.mp inserted).1 row mem is
    have written : ∃ row' ∈ (({ L with refunds } : Ledger).updatePayment row.id false
        ((refundEdit t now).kept b)).payments.rows,
        row'.id = row.id ∧ row'.status = .stored t := updated_status mem rfl
    obtain ⟨row', mem', is', status⟩ := written
    rw [is, ← about] at mem'
    refine ⟨row.status, ?_⟩
    rw [changeOf, SqliteLedger.statusOf_eq mem is, SqliteLedger.statusOf_eq mem' (is'.trans is)]
    simp only [status]
    rw [if_neg differs]

end Status

section Trail

variable {b : Backend} {app : App} {w w' : GwWorld} {a : GwAction} {id : PaymentId}

structure Trail (w : GwWorld) : Prop where
  audits : ∀ t ∈ w.tasks, Follows (fun _ => Auditing) (fun _ h _ => Audited h) t
  untroubled : ∀ t ∈ w.tasks, Untroubled t.history
  observed : Recorded Observed w
  truthful : Recorded (fun _ => Truthful) w

theorem untroubled_step (trail : Trail w) (executed : Executed a)
    (stepped : step (setting b app) w a = some w') : ∀ t ∈ w'.tasks, Untroubled t.history := by
  intro t mem ev known event records_
  obtain ⟨o, -, rfl⟩ | ⟨i, c, rfl, ⟨adv⟩⟩ | ⟨i, t', -, found, rfl⟩ := step_cases stepped
  · rcases List.mem_append.mp mem with old | new
    · exact trail.untroubled t old ev known event records_
    · rw [List.mem_singleton.mp new] at known
      cases known
  · rcases adv.event_cases mem known with ⟨rfl, -⟩ | ⟨t₀, mem₀, -, earlier⟩
    · obtain ⟨task, effect, resume, shared, response, found, live, suspended, reacted, result⟩ := adv
      cases records_
      cases c with
      | recorded r =>
        have same : some (w.shared, r) = some (shared, response) := reacted
        have fine : response = .ok () :=
          (Prod.mk.inj (Option.some.inj same)).2.symm.trans executed
        show ∃ event', (⟨.recordEvent event, response⟩ : GwEvent) = ⟨.recordEvent event', .ok ()⟩
        rw [fine]
        exact ⟨event, rfl⟩
      | _ => cases reacted
    · exact trail.untroubled t₀ mem₀ ev earlier event records_
  · rcases List.mem_or_eq_of_mem_set mem with old | rfl
    · exact trail.untroubled t old ev known event records_
    · exact trail.untroubled t' (List.mem_of_getElem? found) ev known event records_

theorem trail_step (trail : Trail w) (executed : Executed a)
    (stepped : step (setting b app) w a = some w') : Trail w' where
  audits := follows_step (body_audited app) trail.audits stepped
  untroubled := untroubled_step trail executed stepped
  observed := by
    refine recorded_step (fun i c adv => react_observed adv.reacted) ?_ trail.observed stepped
    intro i c adv ev observed payment handed
    obtain ⟨row, still⟩ := observed payment handed
    exact still.evolves (react_evolves adv.reacted)
  truthful := recorded_step (fun i c adv => react_truthful adv.reacted)
    (fun _ _ _ _ said => said) trail.truthful stepped

theorem trail_start (idle : w.tasks = []) : Trail w := by
  have none_ : ∀ t, t ∉ w.tasks := by
    intro t
    rw [idle]
    exact List.not_mem_nil
  exact ⟨fun t mem => absurd mem (none_ t), fun t mem => absurd mem (none_ t),
    fun t mem => absurd mem (none_ t), fun t mem => absurd mem (none_ t)⟩

/-- The payment of a refund that is about to be recorded has a row. -/
theorem stored_of_told (trail : Trail w) {t : GwTask} (mem : t ∈ w.tasks) {payment : Payment}
    (known : told (.getPayment id) (some payment) ∈ t.history) :
    ∃ row ∈ w.shared.ledger.payments.rows, row.id = .stored id := by
  have named : payment.id = id := trail.truthful t mem _ known
  obtain ⟨row, still⟩ := trail.observed t mem _ known payment (List.mem_singleton_self _)
  exact ⟨row, still.mem, by rw [still.id, named]⟩

/-- A change to a refund status. -/
def Refunds (change : Change) : Prop :=
  change.2 = .stored .refunded ∨ change.2 = .stored .partiallyRefunded

theorem refund_of_written {op : StoreOp} {r : op.Result} (counts : written id ⟨.store op, r⟩ ≠ 0) :
    ∃ record t, op = .recordRefund record t ∧ record.paymentId = id ∧ r.isOk = true := by
  unfold written at counts
  split at counts
  next record t v event =>
    cases event
    by_cases about : record.paymentId = id
    · exact ⟨record, t, rfl, about, rfl⟩
    · exact absurd (if_neg about) counts
  · exact absurd rfl counts

/-- A step changes the status exactly when it records a refund. -/
theorem change_step (trail : Trail w) (accounted : Accounted id w a)
    (stepped : step (setting b app) w a = some w') :
    total (written id) w' = total (written id) w +
        (changeOf id w.shared.ledger w'.shared.ledger).toList.length ∧
      ∀ change ∈ changeOf id w.shared.ledger w'.shared.ledger, Refunds change := by
  obtain ⟨o, -, rfl⟩ | ⟨i, c, rfl, ⟨adv⟩⟩ | ⟨i, t, -, found, rfl⟩ := step_cases stepped
  · rw [total_spawn, changeOf_same (same_refl id _)]
    exact ⟨rfl, nofun⟩
  · have licensed := (adv.licensed trail.audits).1
    have observed : ∀ payment, told (.getPayment id) (some payment) ∈ adv.task.history →
        ∃ row ∈ w.shared.ledger.payments.rows, row.id = .stored id :=
      fun payment known => stored_of_told trail adv.mem known
    rw [total_advance _ adv, adv.shared_eq]
    obtain ⟨task, effect, resume, shared, response, found, live, suspended, reacted, result⟩ := adv
    dsimp only at licensed observed ⊢
    cases effect with
    | store op =>
      obtain ⟨d, written_, rfl⟩ := react_store reacted
      have outcome := execOp_outcome app.fingerprint b d w.shared.ledger op
      have explained : Explained id w.shared.ledger op := accounted task found op (by rw [storeCall, suspended]; rfl)
      rw [← written_] at outcome
      by_cases refund : ∃ record t, op = .recordRefund record t ∧ record.paymentId = id ∧
          (execOp app.fingerprint b d w.shared.ledger op).2.isOk = true
      · obtain ⟨record, t, rfl, about, ok⟩ := refund
        obtain ⟨-, kind, payment, known⟩ := licensed
        rw [about] at known
        obtain ⟨row, mem, is⟩ := observed payment known
        cases answer : (execOp app.fingerprint b d w.shared.ledger (.recordRefund record t)).2 with
        | error e =>
          rw [answer] at ok
          cases ok
        | ok v =>
          rw [answer] at outcome
          obtain ⟨s, changed⟩ := outcome_refunded outcome explained about mem is
          rw [changed]
          constructor
          · simp [written, about, Nat.add_comm]
          · intro change is_
            cases is_
            rcases kind with rfl | rfl
            · exact .inl rfl
            · exact .inr rfl
      · have same : Same id w.shared.ledger shared.ledger := by
          refine outcome_same outcome explained fun record t is about => ?_
          cases answer : (execOp app.fingerprint b d w.shared.ledger op).2.isOk with
          | false => rfl
          | true => exact absurd ⟨record, t, is, about, answer⟩ refund
        rw [changeOf_same same]
        constructor
        · have none_ : written id ⟨.store op, (execOp app.fingerprint b d w.shared.ledger op).2⟩ = 0 := by
            by_contra counts
            exact refund (refund_of_written counts)
          simp [none_]
        · nofun
    | _ =>
      rw [changeOf_same (by rw [react_other reacted (by simp)]; exact same_refl id _)]
      constructor
      · simp [written]
      · nofun
  · rw [total_cancel _ _ found, changeOf_same (same_refl id _)]
    exact ⟨rfl, nofun⟩

/-- Along a run there are as many changes as refunds recorded. -/
theorem changes_counted {as : List GwAction} (trail : Trail w)
    (executed : ∀ a ∈ as, Executed a) (accounted : Meets (setting b app) (Accounted id) w as)
    (ran : run (setting b app) w as = some w') :
    Trail w' ∧ total (written id) w' = total (written id) w + (changes b app id w as).length ∧
      ∀ change ∈ changes b app id w as, Refunds change := by
  induction as generalizing w with
  | nil =>
    cases ran
    exact ⟨trail, rfl, nofun⟩
  | cons a as ih =>
    simp only [run] at ran
    split at ran
    next v stepped =>
      have first : changes b app id w (a :: as) =
          (changeOf id w.shared.ledger v.shared.ledger).toList ++ changes b app id v as := by
        simp only [changes, stepped]
      rw [first]
      have here := change_step trail accounted.1 stepped
      have trail' := trail_step trail (executed a List.mem_cons_self) stepped
      obtain ⟨trail'', counts, kinds⟩ := ih trail'
        (fun a mem => executed a (List.mem_cons_of_mem _ mem)) (accounted.2 v stepped) ran
      refine ⟨trail'', ?_, fun change mem => ?_⟩
      · rw [counts, here.1, List.length_append]
        omega
      · rcases List.mem_append.mp mem with now | later
        · exact here.2 change (Option.mem_toList.mp now)
        · exact kinds change later
    · cases ran

theorem length_eventsOf (id : PaymentId) (w : GwWorld) :
    (eventsOf id w).length = total (fun ev => (noted id ev).length) w := by
  simp only [eventsOf, total, List.length_flatMap]

/-- Each event is the one a refund is followed by. -/
theorem eventType_of_mem (trail : Trail w) {event : EventRecord} (mem : event ∈ eventsOf id w) :
    event.eventType = refunded := by
  obtain ⟨t, inWorld, inTask⟩ := List.mem_flatMap.mp mem
  obtain ⟨ev, known, notes⟩ := List.mem_flatMap.mp inTask
  unfold noted at notes
  split at notes
  next event' v =>
    by_cases about : About id event'
    · rw [if_pos about] at notes
      rw [List.mem_singleton.mp notes]
      obtain ⟨h, -, noting, -⟩ := (trail.audits t inWorld).2.of_mem known
      obtain ⟨generated, record, t', earlier, tells, -, -⟩ := noting
      exact tells.eventType
    · rw [if_neg about] at notes
      cases notes
  · cases notes

/-- Where no task is between its refund and the event, there are as many of
one as of the other. -/
theorem trail_balanced (trail : Trail w) (settled : ∀ t ∈ w.tasks, between t.history = false)
    (id : PaymentId) : total (written id) w = (eventsOf id w).length := by
  rw [length_eventsOf]
  unfold total
  congr 1
  apply List.map_congr_left
  intro t mem
  have always := (trail.audits t mem).1
  cases rest : t.rest with
  | done reply =>
    rw [rest] at always
    exact always (trail.untroubled t mem) (settled t mem) id
  | call e k =>
    rw [rest] at always
    exact always.1.2 (settled t mem) id

theorem names_of_refunds {event : EventRecord} {change : Change}
    (kind : event.eventType = refunded) (refunds : Refunds change) : Names event change := by
  rcases refunds with is | is
  · exact ⟨.refunded, is, kind⟩
  · exact ⟨.partiallyRefunded, is, kind⟩

/-- A payment whose status changes by refunds only, each to another status, has
one event for each change. -/
theorem audit_complete {as : List GwAction} (idle : w.tasks = [])
    (executed : ∀ a ∈ as, Executed a) (ran : run (setting b app) w as = some w')
    (settled : ∀ t ∈ w'.tasks, between t.history = false)
    (accounted : Meets (setting b app) (Accounted id) w as) :
    Corresponds (changes b app id w as) (eventsOf id w') := by
  obtain ⟨trail, counts, kinds⟩ := changes_counted (trail_start idle) executed accounted ran
  have nothing : total (written id) w = 0 := by simp [total, idle]
  have lengths : (eventsOf id w').length = (changes b app id w as).length := by
    rw [← trail_balanced trail settled id, counts, nothing, Nat.zero_add]
  refine ⟨eventsOf id w', List.Perm.refl _, List.forall₂_iff_zip.mpr ⟨lengths, ?_⟩⟩
  intro event change mem
  have sides := List.of_mem_zip mem
  exact names_of_refunds (eventType_of_mem trail sides.1) (kinds change sides.2)

end Trail

section Samples

/-- A paid order of the shop. -/
def paidRow : PaymentRow where
  id := .stored ⟨1⟩
  idempotencyKey := .stored .order
  requestFingerprint := ""
  provider := .stored ProviderId.stripe
  providerReference := some "cs_1"
  status := .stored .succeeded
  amountMinorUnits := 100
  currency := .stored .usd
  merchantReference := none
  nextActionJson := none
  userId := none
  apiKeyId := none
  environment := "test"
  createdAt := ⟨0⟩
  updatedAt := ⟨0⟩

def paidWorld : GwWorld :=
  ⟨⟨⟨⟨[paidRow], List.pairwise_singleton _ _⟩, Table.empty, Table.empty⟩, [], [], [], 0⟩, []⟩

/-- The order is refunded in full. -/
def refundInFull : List GwAction :=
  [.spawn (refundRequest 100)] ++ refundAsked 0 ++ refundBooked 0 "re_1" 100 ++
    [.advance 0 (.generated ⟨10⟩), .advance 0 (.recorded (.ok ()))]

theorem executed_refundInFull : ∀ a ∈ refundInFull, Executed a := by
  simp [refundInFull, refundAsked, refundBooked, refundDone, quietDraw, Executed]

theorem executed_paid : ∀ a ∈ paid, Executed a := by
  simp [paid, ordered, quietDraw, Executed]

theorem audit_complete_refunded : ∃ w', run (setting .sqlite shop) paidWorld refundInFull = some w' ∧
    Corresponds (changes .sqlite shop ⟨1⟩ paidWorld refundInFull) (eventsOf ⟨1⟩ w') := by
  have ends_in : (run (setting .sqlite shop) paidWorld refundInFull).any
      (fun w => w.tasks.all fun t => !between t.history) = true := by decide +kernel
  obtain ⟨w', ran, settled⟩ := (Option.any_eq_true _ _).mp ends_in
  have settled : ∀ t ∈ w'.tasks, between t.history = false := by
    simpa using settled
  exact ⟨w', ran, audit_complete rfl executed_refundInFull ran settled (by decide +kernel)⟩

/-- The GET that finds the first order paid changes its status, and stores no
event. -/
theorem audit_incomplete : ¬ ∀ b app w w' as id, w.tasks = [] → (∀ a ∈ as, Executed a) →
    run (setting b app) w as = some w' → (∀ t ∈ w'.tasks, between t.history = false) →
      Corresponds (changes b app id w as) (eventsOf id w') := by
  intro all
  have ends_in : (run (setting .sqlite shop) (start []) paid).any
      (fun w => (eventsOf ⟨1⟩ w).isEmpty && w.tasks.all fun t => !between t.history) = true := by
    decide +kernel
  obtain ⟨w', ran, facts⟩ := (Option.any_eq_true _ _).mp ends_in
  rw [Bool.and_eq_true, List.isEmpty_iff] at facts
  have settled : ∀ t ∈ w'.tasks, between t.history = false := by
    simpa using facts.2
  obtain ⟨arranged, perm, names⟩ := all .sqlite shop (start []) w' paid ⟨1⟩ rfl executed_paid ran settled
  have changed : (changes .sqlite shop ⟨1⟩ (start []) paid).length = 1 := by decide +kernel
  have lengths := names.length_eq
  rw [perm.length_eq, facts.1, changed] at lengths
  cases lengths

end Samples

end OpenWrapper.Audit
