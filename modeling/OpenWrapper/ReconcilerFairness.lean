import OpenWrapper.Evolution
import OpenWrapper.ReconcilerContracts
import OpenWrapper.ReconcilerStore
import OpenWrapper.Queues

/-! # What passes of the reconciler leave behind

Where passes follow each other, each waits until the tasks of the one before
are done. What the earlier ones listed has then been inquired about, and where
each inquiry is followed by a write, it has moved behind the other payments. -/

set_option autoImplicit false

namespace OpenWrapper.ReconcilerFairness
open OpenWrapper.Ids OpenWrapper.Errors OpenWrapper.Payments OpenWrapper.Providers
open OpenWrapper.ConstraintTable
open OpenWrapper.Schema OpenWrapper.PaymentStore OpenWrapper.Effects OpenWrapper.Background
open OpenWrapper.Gateway OpenWrapper.Contracts OpenWrapper.ReconcilerContracts
open OpenWrapper.ReconcilerStore
open OpenWrapper.Suspended OpenWrapper.Suspended.Prog OpenWrapper.Interleaving

section Conditions

variable (app : App) (cutoff : Instant) (w : GwWorld)

/-- The task has finished, or waits for a message. -/
def atRest (t : GwTask) : Bool :=
  match t.rest with
  | .done _ => true
  | .call .receiveReconcile _ => true
  | .call _ _ => false

/-- A pass starts when all it published before is processed; statements are
executed, the bus accepts, and the clock does not return to the cutoff. -/
def Proceeds (i : ℕ) : Effect → Choice → Prop
  | .store (.listStaleUnknownPayments _ _), .draw d =>
    Works d ∧ ((d.clock 0).minus minAge).rfc3339Before cutoff = false ∧
      w.shared.reconcileQueue.isEmpty = true ∧ (w.tasks.eraseIdx i).all atRest = true
  | .store _, .draw d => Works d ∧ (d.clock 0).rfc3339Before cutoff = false
  | .publishReconcile _, .published accepted => accepted = true
  | _, _ => True

/-- The rows a pass asks for can be read. What an inquiry of the bus's consumer
returns is an answer, and an answer that is written replaces the status of an
unresolved payment. -/
def Moves : Effect → Choice → Prop
  | .store (.listStaleUnknownPayments _ _), .draw d =>
    ∀ row ∈ (listing d w.shared.ledger).take 100, row.toPayment.isSome = true
  | .inquireStatus _ _ _, .inquired r => app.messageBus = none ∨ r.isOk = true
  | .store (.applyReconciliationResult id t), .draw _ =>
    ∀ row ∈ w.shared.ledger.payments.rows, row.id = .stored id → row.unresolved = true →
      Replaces t row
  | _, _ => True

instance (i : ℕ) (e : Effect) (c : Choice) : Decidable (Proceeds cutoff w i e c) := by
  unfold Proceeds
  split <;> infer_instance

instance (e : Effect) (c : Choice) : Decidable (Moves app w e c) := by
  unfold Moves
  split <;> infer_instance

def performing : GwAction → Option (ℕ × Effect × Choice)
  | .advance i c =>
    match w.tasks[i]? with
    | some t =>
      match t.rest with
      | .call e _ => some (i, e, c)
      | .done _ => none
    | none => none
  | _ => none

/-- Nothing but the reconciler and its consumer is started, and nothing is
stopped. -/
def Alone : GwAction → Prop
  | .spawn o => reconciles o = true
  | .cancel _ => False
  | .advance _ _ => True

instance : (a : GwAction) → Decidable (Alone a)
  | .spawn o => inferInstanceAs (Decidable (reconciles o = true))
  | .cancel _ => .isFalse id
  | .advance _ _ => .isTrue trivial

/-- A step of passes that follow each other. -/
def Orderly (a : GwAction) : Prop :=
  Alone a ∧ ∀ p ∈ performing w a, Proceeds cutoff w p.1 p.2.1 p.2.2

/-- A step that leaves no payment it asked about in front. -/
def Forward (a : GwAction) : Prop := ∀ p ∈ performing w a, Moves app w p.2.1 p.2.2

instance (a : GwAction) : Decidable (Orderly cutoff w a) :=
  inferInstanceAs (Decidable (_ ∧ ∀ p ∈ performing w a, Proceeds cutoff w p.1 p.2.1 p.2.2))

instance (a : GwAction) : Decidable (Forward app w a) :=
  inferInstanceAs (Decidable (∀ p ∈ performing w a, Moves app w p.2.1 p.2.2))

def Fair (a : GwAction) : Prop := Orderly cutoff w a ∧ Forward app w a

end Conditions

section Counting

def isListing : GwEvent → ℕ
  | ⟨.store (.listStaleUnknownPayments _ _), _⟩ => 1
  | _ => 0

/-- The passes that have begun. -/
def passes (w : GwWorld) : ℕ := total isListing w

def InquiredAbout (w : GwWorld) (id : PaymentId) : Prop :=
  ∃ o ev, Happened w o ev ∧ isInquiry id ev = true

/-- The payment was inquired about, or is on the list of a pass. -/
def Reached (w : GwWorld) (id : PaymentId) : Prop :=
  ∃ o ev, Happened w o ev ∧ (isInquiry id ev || lists id ev) = true

/-- The payments that a pass with this cutoff finds stale. -/
def staleAt (cutoff : Instant) (L : Ledger) : Finset PaymentRow :=
  (L.payments.rows.filter (stale .sqlite cutoff)).toFinset

/-- All tasks rest and no message is left. -/
def Settled (w : GwWorld) : Prop :=
  w.tasks.all atRest = true ∧ w.shared.reconcileQueue = []

instance (w : GwWorld) : Decidable (Settled w) := inferInstanceAs (Decidable (_ ∧ _))

/-- The provider of the payment is configured and can be asked. -/
def Askable (app : App) (row : PaymentRow) : Prop :=
  ∃ provider p, row.provider = .stored provider ∧ app.providers provider.asStr = some p ∧
    .inquireStatus ∈ p.capabilities

end Counting

section Steps

variable {app : App} {cutoff : Instant} {w w' : GwWorld} {a : GwAction} {i : ℕ} {c : Choice}

abbrev Moved (app : App) (w : GwWorld) (i : ℕ) (c : Choice) (w' : GwWorld) :=
  Advanced (setting .sqlite app) w i c w'

theorem performing_eq (adv : Moved app w i c w') :
    performing w (.advance i c) = some (i, adv.effect, c) := by
  simp only [performing, adv.found, adv.suspended]

/-- An ordered step is a start of a pass or a turn, or an effect that meets the
conditions. -/
theorem orderly_cases (orderly : Orderly cutoff w a)
    (stepped : step (setting .sqlite app) w a = some w') :
    (∃ o, reconciles o = true ∧ w' = ⟨w.shared, w.tasks ++ [Task.start (setting .sqlite app) o]⟩) ∨
      ∃ i c, a = .advance i c ∧ ∃ adv : Moved app w i c w', Proceeds cutoff w i adv.effect c := by
  obtain ⟨o, rfl, is⟩ | ⟨i, c, rfl, ⟨adv⟩⟩ | ⟨i, t, rfl, -, -⟩ := step_cases stepped
  · exact .inl ⟨o, orderly.1, is⟩
  · exact .inr ⟨i, c, rfl, adv, orderly.2 _ (performing_eq adv)⟩
  · exact orderly.1.elim

theorem inquiredAbout_step {id : PaymentId} (asked : InquiredAbout w id)
    (stepped : step (setting .sqlite app) w a = some w') : InquiredAbout w' id := by
  obtain ⟨o, ev, happened, asks⟩ := asked
  exact ⟨o, ev, happened_step happened stepped, asks⟩

theorem reached_step {id : PaymentId} (reached : Reached w id)
    (stepped : step (setting .sqlite app) w a = some w') : Reached w' id := by
  obtain ⟨o, ev, happened, names⟩ := reached
  exact ⟨o, ev, happened_step happened stepped, names⟩

theorem InquiredAbout.reached {id : PaymentId} (asked : InquiredAbout w id) : Reached w id := by
  obtain ⟨o, ev, happened, asks⟩ := asked
  exact ⟨o, ev, happened, by simp [asks]⟩

/-- A task that follows its origin's contract, if the origin is a reconciler's. -/
abbrev Turns (app : App) (t : GwTask) : Prop :=
  Follows (fun o h e => reconciles o = true → Rotating app o h e)
    (fun o h _ => reconciles o = true → Passed app o h) t

theorem bodies_rotating (o : Origin) :
    Always (fun h e => reconciles o = true → Rotating app o h e)
      (fun h _ => reconciles o = true → Passed app o h) ((setting .sqlite app).body o) [] := by
  by_cases ours : reconciles o = true
  · apply (body_rotating ours).mono
    · intro h e held _
      exact held
    · intro h _ held _
      exact held
  · apply (always_true _ _).mono
    · intro h e _ yes
      exact absurd yes ours
    · intro h _ _ yes
      exact absurd yes ours

end Steps

section Queue

/-- A delivery is the only one of its tag. -/
def Issued (s : Shared) (d : Delivery ReconcileQueueMessage) : Prop :=
  d.tag < s.nextTag ∧ ∀ d' ∈ s.reconcileQueue, d'.tag = d.tag → d' = d

def Fresh (s : Shared) : Prop := ∀ d ∈ s.reconcileQueue, Issued s d

variable {s : Shared} {d : Delivery ReconcileQueueMessage}

theorem issued_publish (issued : Issued s d) (m : ReconcileQueueMessage) :
    Issued (s.publishReconcile m) d :=
  Queues.issued_push issued rfl

theorem issued_ack (issued : Issued s d) (tag : ℕ) : Issued (s.ackReconcile tag) d :=
  Queues.issued_mono issued (List.filter_subset_self _) le_rfl

theorem fresh_publish (fresh : Fresh s) (m : ReconcileQueueMessage) :
    Fresh (s.publishReconcile m) :=
  Queues.fresh_push fresh rfl

theorem fresh_ack (fresh : Fresh s) (tag : ℕ) : Fresh (s.ackReconcile tag) :=
  Queues.fresh_mono fresh (List.filter_subset_self _) le_rfl

/-- A reaction keeps what is known of a delivery. -/
theorem issued_react {app : App} {s' : Shared} {e : Effect} {c : Choice} {r : e.Response}
    (reacted : react .sqlite app s e c = some (s', r)) (issued : Issued s d) : Issued s' d := by
  obtain ⟨m, -, rfl⟩ | ⟨m, -, rfl⟩ | ⟨tag, -, rfl⟩ | ⟨tag, -, rfl⟩ | same := react_queues reacted
  · exact ⟨issued.1.trans (Nat.lt_succ_self _), issued.2⟩
  · exact issued_publish issued m
  · exact issued
  · exact issued_ack issued tag
  · rw [same]
    exact issued

theorem fresh_react {app : App} {s' : Shared} {e : Effect} {c : Choice} {r : e.Response}
    (reacted : react .sqlite app s e c = some (s', r)) (fresh : Fresh s) : Fresh s' := by
  obtain ⟨m, -, rfl⟩ | ⟨m, -, rfl⟩ | ⟨tag, -, rfl⟩ | ⟨tag, -, rfl⟩ | same := react_queues reacted
  · exact fun d mem => ⟨(fresh d mem).1.trans (Nat.lt_succ_self _), (fresh d mem).2⟩
  · exact fresh_publish fresh m
  · exact fresh
  · exact fresh_ack fresh tag
  · rw [same]
    exact fresh

end Queue

section Writes

variable {app : App} {cutoff : Instant} {w w' : GwWorld} {i : ℕ} {c : Choice}

/-- The tasks are those of the reconciler, and keep their contracts. -/
def Ours (app : App) (w : GwWorld) : Prop :=
  ∀ t ∈ w.tasks, Turns app t ∧ reconciles t.origin = true

theorem Ours.rotating (ours : Ours app w) (adv : Moved app w i c w') :
    Rotating app adv.task.origin adv.task.history adv.effect :=
  adv.licensed (fun t mem => (ours t mem).1) (ours _ adv.mem).2

/-- What the payments after an effect are, and that a write of the reconciler
leaves none it is about in front. -/
structure Written (app : App) (cutoff : Instant) (w : GwWorld) (h : Past) (e : Effect)
    (L : Ledger) (id : PaymentId) : Prop where
  known : Known h id
  rewritten : Rewritten cutoff id w.shared.ledger L
  about : ∀ id', rotates id' e = true → id' = id
  moves : ∀ row ∈ L.payments.rows, row.id = .stored id → row.unresolved = true → Late cutoff row

theorem ledger_cases (adv : Moved app w i c w') (ours : Ours app w)
    (proceeds : Proceeds cutoff w i adv.effect c) (moves : Moves app w adv.effect c) :
    (adv.shared.ledger = w.shared.ledger ∧ ∀ id, rotates id adv.effect = false) ∨
      ∃ id, Written app cutoff w adv.task.history adv.effect adv.shared.ledger id := by
  have licensed := (ours.rotating adv).1
  obtain ⟨task, effect, resume, shared, response, found, live, suspended, reacted, result⟩ := adv
  dsimp only at licensed proceeds moves ⊢
  cases effect with
  | store op =>
    obtain ⟨d, rfl, written, -⟩ := react_draw reacted
    cases op with
    | listStaleUnknownPayments age limit =>
      obtain ⟨-, -, rfl, rfl⟩ := licensed
      left
      rw [written, list_answer proceeds.1]
      exact ⟨rfl, fun _ => rfl⟩
    | touchReconciliationAttempt id =>
      right
      refine ⟨id, licensed, ?_, fun id' is => Eq.symm (by simpa [rotates] using is), ?_⟩
      · rw [written]
        exact touch_rewritten proceeds.1 proceeds.2
      · rw [written]
        exact touch_moves proceeds.1 proceeds.2
    | applyReconciliationResult id t =>
      right
      have asked : Inquired task.history id := licensed
      refine ⟨id, asked.known, ?_, fun id' is => Eq.symm (by simpa [rotates] using is), ?_⟩
      · rw [written]
        exact apply_rewritten proceeds.1 proceeds.2
      · rw [written]
        exact apply_moves proceeds.1 proceeds.2 moves
    | _ => exact licensed.elim
  | _ => exact .inl ⟨react_other reacted (by simp), fun _ => rfl⟩

end Writes

section Course

variable {app : App} {cutoff : Instant} {w w' : GwWorld} {a : GwAction} {i : ℕ} {c : Choice}

/-- What the events of the tasks say about the store and the queue. -/
structure Course (app : App) (cutoff : Instant) (w : GwWorld) : Prop where
  ours : Ours app w
  fresh : Fresh w.shared
  received : ∀ o d, Happened w o ⟨.receiveReconcile, d⟩ → Issued w.shared d
  published : ∀ o m r, Happened w o ⟨.publishReconcile m, r⟩ →
    (∃ d ∈ w.shared.reconcileQueue, d.message = m) ∨ ∀ id, Asks app m id → InquiredAbout w id
  answered : ∀ o p payment reference r,
    Happened w o ⟨.inquireStatus p payment reference, r⟩ → app.messageBus = none ∨ r.isOk = true
  moved : ∀ o ev id, Happened w o ev → rotates id ev.1 = true →
    ∀ row ∈ w.shared.ledger.payments.rows, row.id = .stored id → row.unresolved = true →
      Late cutoff row

theorem ours_step (ours : Ours app w) (alone : Alone a)
    (stepped : step (setting .sqlite app) w a = some w') : Ours app w' := by
  have turns := follows_step bodies_rotating (fun t mem => (ours t mem).1) stepped
  intro t mem
  refine ⟨turns t mem, ?_⟩
  obtain ⟨o, rfl, rfl⟩ | ⟨i, c, -, ⟨adv⟩⟩ | ⟨i, t', rfl, -, -⟩ := step_cases stepped
  · rcases List.mem_append.mp mem with old | new
    · exact (ours t old).2
    · rw [List.mem_singleton.mp new]
      exact alone
  · rcases adv.task_cases mem with rfl | ⟨j, -, found⟩
    · exact (ours _ adv.mem).2
    · exact (ours t (List.mem_of_getElem? found)).2
  · exact alone.elim

/-- What was published is in the queue until it is processed. -/
theorem published_step (course : Course app cutoff w) (adv : Moved app w i c w')
    (stepped : step (setting .sqlite app) w (.advance i c) = some w')
    (proceeds : Proceeds cutoff w i adv.effect c) {o : Origin} {m : ReconcileQueueMessage}
    {r : Except String Unit} (happened : Happened w' o ⟨.publishReconcile m, r⟩) :
    (∃ d ∈ w'.shared.reconcileQueue, d.message = m) ∨ ∀ id, Asks app m id → InquiredAbout w' id := by
  rcases adv.happened_cases happened with ⟨event, -⟩ | earlier
  · left
    obtain ⟨reacted, -⟩ := adv.of_event event.symm
    have published : adv.effect = .publishReconcile m := (congrArg Sigma.fst event).symm
    rw [published] at proceeds
    rw [adv.shared_eq]
    cases c with
    | published accepted =>
      obtain rfl : accepted = true := proceeds
      have same : some (w.shared.publishReconcile m, _) = some (adv.shared, r) := reacted
      rw [← (Prod.mk.inj (Option.some.inj same)).1]
      exact ⟨⟨w.shared.nextTag, m⟩, List.mem_append_right _ (List.mem_singleton_self _), rfl⟩
    | _ => cases reacted
  · rcases course.published o m r earlier with ⟨d, queued, is⟩ | all
    · rw [adv.shared_eq]
      obtain ⟨m', -, same⟩ | ⟨m', -, same⟩ | ⟨tag, -, same⟩ | ⟨tag, acks, same⟩ | same :=
        react_queues adv.reacted
      · rw [same]
        exact .inl ⟨d, queued, is⟩
      · rw [same]
        exact .inl ⟨d, List.mem_append_left _ queued, is⟩
      · rw [same]
        exact .inl ⟨d, queued, is⟩
      · rw [same]
        by_cases here : d.tag = tag
        · right
          have licensed := (course.ours.rotating adv).1
          rw [acks] at licensed
          obtain ⟨d', known, rfl, inquired⟩ := licensed
          have one : d = d' := (course.received adv.task.origin d'
            ⟨adv.task, adv.mem, rfl, known⟩).2 d queued here
          intro id asks
          rw [← is, one] at asks
          obtain ⟨ev, mem, inquires⟩ := inquired id asks
          exact inquiredAbout_step ⟨_, ev, ⟨adv.task, adv.mem, rfl, mem⟩, inquires⟩ stepped
        · left
          exact ⟨d, List.mem_filter.mpr ⟨queued, by simpa using here⟩, is⟩
      · rw [same]
        exact .inl ⟨d, queued, is⟩
    · exact .inr fun id asks => inquiredAbout_step (all id asks) stepped

theorem received_step (course : Course app cutoff w) (adv : Moved app w i c w') {o : Origin}
    {d : Delivery ReconcileQueueMessage} (happened : Happened w' o ⟨.receiveReconcile, d⟩) :
    Issued w'.shared d := by
  rw [adv.shared_eq]
  rcases adv.happened_cases happened with ⟨event, -⟩ | earlier
  · obtain ⟨reacted, -⟩ := adv.of_event event.symm
    cases c with
    | received index =>
      have taken : (w.shared.reconcileQueue[index]?).map (fun d => (w.shared, d)) =
        some (adv.shared, d) := reacted
      obtain ⟨d', found, same⟩ := Option.map_eq_some_iff.mp taken
      obtain ⟨unchanged, rfl⟩ := Prod.mk.inj same
      rw [← unchanged]
      exact course.fresh d' (List.mem_of_getElem? found)
    | _ => cases reacted
  · exact issued_react adv.reacted (course.received o d earlier)

theorem answered_step (course : Course app cutoff w) (adv : Moved app w i c w')
    (moves : Moves app w adv.effect c) {o : Origin} {p : Provider} {payment : Text PaymentId}
    {reference : String} {r : Except OpenWrapperError PaymentStatus}
    (happened : Happened w' o ⟨.inquireStatus p payment reference, r⟩) :
    app.messageBus = none ∨ r.isOk = true := by
  rcases adv.happened_cases happened with ⟨event, -⟩ | earlier
  · obtain ⟨reacted, -⟩ := adv.of_event event.symm
    have inquires : adv.effect = .inquireStatus p payment reference :=
      (congrArg Sigma.fst event).symm
    rw [inquires] at moves
    cases c with
    | inquired r' =>
      have same : some (w.shared, r') = some (adv.shared, r) := reacted
      rw [← (Prod.mk.inj (Option.some.inj same)).2]
      exact moves
    | _ => cases reacted
  · exact course.answered o p payment reference r earlier

theorem moved_step (course : Course app cutoff w) (adv : Moved app w i c w')
    (proceeds : Proceeds cutoff w i adv.effect c) (moves : Moves app w adv.effect c) {o : Origin}
    {ev : GwEvent} {id : PaymentId} (happened : Happened w' o ev)
    (writes : rotates id ev.1 = true) :
    ∀ row ∈ w'.shared.ledger.payments.rows, row.id = .stored id → row.unresolved = true →
      Late cutoff row := by
  rw [adv.shared_eq]
  rcases ledger_cases adv course.ours proceeds moves with ⟨same, none_⟩ | ⟨id', written⟩
  · rw [same]
    rcases adv.happened_cases happened with ⟨rfl, -⟩ | earlier
    · rw [none_ id] at writes
      cases writes
    · exact course.moved o ev id earlier writes
  · rcases adv.happened_cases happened with ⟨rfl, -⟩ | earlier
    · rw [written.about id writes]
      exact written.moves
    · intro row mem is unresolved
      rcases written.rewritten.back row mem with old | ⟨before, -, -, restamped⟩
      · exact course.moved o ev id earlier writes row old is unresolved
      · exact restamped.late

theorem course_step (course : Course app cutoff w) (fair : Fair app cutoff w a)
    (stepped : step (setting .sqlite app) w a = some w') : Course app cutoff w' := by
  have ours := ours_step course.ours fair.1.1 stepped
  rcases orderly_cases fair.1 stepped with ⟨o, -, rfl⟩ | ⟨i, c, rfl, adv, proceeds⟩
  · exact {
      ours
      fresh := course.fresh
      received := fun o d happened => course.received o d (happened_spawn happened)
      published := fun o m r happened => by
        rcases course.published o m r (happened_spawn happened) with queued | all
        · exact .inl queued
        · exact .inr fun id asks => inquiredAbout_step (all id asks) stepped
      answered := fun o p payment reference r happened =>
        course.answered o p payment reference r (happened_spawn happened)
      moved := fun o ev id happened => course.moved o ev id (happened_spawn happened) }
  · have moves : Moves app w adv.effect c := fair.2 _ (performing_eq adv)
    exact {
      ours
      fresh := by
        rw [adv.shared_eq]
        exact fresh_react adv.reacted course.fresh
      received := fun o d => received_step course adv
      published := fun o m r => published_step course adv stepped proceeds
      answered := fun o p payment reference r => answered_step course adv moves
      moved := fun o ev id => moved_step course adv proceeds moves }

end Course

section Quiet

variable {app : App} {cutoff : Instant} {w w' : GwWorld} {i : ℕ} {c : Choice} {id : PaymentId}

/-- No message is left, and no task is between its first and its last event. -/
def Quiet (w : GwWorld) : Prop :=
  w.shared.reconcileQueue = [] ∧ ∀ t ∈ w.tasks, t.history = [] ∨ ∃ reply, t.rest = .done reply

theorem atRest_cases {t : GwTask} (turns : Turns app t) (ours : reconciles t.origin = true)
    (rests : atRest t = true) : t.history = [] ∨ ∃ reply, t.rest = .done reply := by
  obtain ⟨origin, history, rest, live⟩ := t
  cases rest with
  | done reply => exact .inr ⟨reply, rfl⟩
  | call e k =>
    cases e with
    | receiveReconcile => exact .inl (turns.1.1 ours).1
    | _ => cases rests

theorem quiet_of_settled (ours : Ours app w) (settled : Settled w) : Quiet w := by
  refine ⟨settled.2, fun t mem => ?_⟩
  exact atRest_cases (ours t mem).1 (ours t mem).2 (List.all_eq_true.mp settled.1 t mem)

/-- A pass starts in a quiet world. -/
theorem quiet_of_listing (ours : Ours app w) (adv : Moved app w i c w') {age limit : ℤ}
    {r : StoreResult (List Payment)}
    (event : (⟨adv.effect, adv.response⟩ : GwEvent) =
      ⟨.store (.listStaleUnknownPayments age limit), r⟩)
    (proceeds : Proceeds cutoff w i adv.effect c) : Quiet w := by
  have licensed := (ours.rotating adv).1
  obtain ⟨reacted, -⟩ := adv.of_event event
  obtain ⟨d, rfl, -, -⟩ := react_draw reacted
  have effect_ : adv.effect = .store (.listStaleUnknownPayments age limit) :=
    congrArg Sigma.fst event
  rw [effect_] at proceeds licensed
  obtain ⟨-, -, empty, rests⟩ := proceeds
  refine ⟨List.isEmpty_iff.mp empty, fun t mem => ?_⟩
  obtain ⟨j, found⟩ := List.mem_iff_getElem?.mp mem
  by_cases here : j = i
  · rw [here, adv.found] at found
    rw [← Option.some.inj found]
    exact .inl licensed.2.1
  · have other : t ∈ w.tasks.eraseIdx i := List.mem_eraseIdx_iff_getElem?.mpr ⟨j, here, found⟩
    exact atRest_cases (ours t mem).1 (ours t mem).2 (List.all_eq_true.mp rests t other)

theorem suffix_next {α : Type} {l L : List α} (suffix : l <:+ L) :
    L = l ∨ ∃ x, (x :: l) <:+ L := by
  obtain ⟨front, rfl⟩ := suffix
  rcases List.eq_nil_or_concat front with rfl | ⟨front, x, rfl⟩
  · exact .inl rfl
  · exact .inr ⟨x, front, by simp⟩

/-- What was listed is inquired about once all is processed. -/
theorem inquired_of_reached (course : Course app cutoff w) (quiet : Quiet w)
    (capable : ∀ o age limit stale,
      Happened w o ⟨.store (.listStaleUnknownPayments age limit), .ok stale⟩ →
        ∀ payment ∈ stale, payment.id = id → Capable app payment)
    (reached : Reached w id) : InquiredAbout w id := by
  obtain ⟨o, ev, happened, names⟩ := reached
  rcases Bool.or_eq_true_iff.mp names with asks | listed
  · exact ⟨o, ev, happened, asks⟩
  · obtain ⟨t, mem, rfl, known⟩ := happened
    obtain ⟨turns, ours⟩ := course.ours t mem
    rcases quiet.2 t mem with none_ | ⟨reply, finished⟩
    · rw [none_] at known
      cases known
    · have passed : Passed app t.origin t.history := by
        have always := turns.1
        rw [finished] at always
        exact always ours
      unfold lists at listed
      split at listed
      next age limit stale =>
        obtain ⟨payment, inList, is⟩ := List.any_eq_true.mp listed
        rw [beq_iff_eq] at is
        obtain ⟨h, suffix, licensed⟩ := turns.2.of_mem known
        obtain ⟨origin, rfl, -, -⟩ := (licensed ours).1
        have able := capable _ age limit stale ⟨t, mem, rfl, known⟩ payment inList is
        rcases passed.2 origin age limit stale suffix payment inList able with
          ⟨ev, inHistory, asks⟩ | ⟨m, r, inHistory, asks⟩
        · rw [is] at asks
          exact ⟨_, ev, ⟨t, mem, rfl, inHistory⟩, asks⟩
        · rw [is] at asks
          rcases course.published _ m r ⟨t, mem, rfl, inHistory⟩ with ⟨d, queued, -⟩ | all
          · rw [quiet.1] at queued
            cases queued
          · exact all id asks
      · cases listed

/-- And its rows have moved behind the others. -/
theorem moved_of_inquired (course : Course app cutoff w) (quiet : Quiet w)
    (asked : InquiredAbout w id) :
    ∀ row ∈ w.shared.ledger.payments.rows, row.id = .stored id → row.unresolved = true →
      Late cutoff row := by
  obtain ⟨o, ev, ⟨t, mem, rfl, known⟩, asks⟩ := asked
  obtain ⟨turns, ours⟩ := course.ours t mem
  rcases quiet.2 t mem with none_ | ⟨reply, finished⟩
  · rw [none_] at known
    cases known
  · have passed : Passed app t.origin t.history := by
      have always := turns.1
      rw [finished] at always
      exact always ours
    unfold isInquiry at asks
    split at asks
    next p of_ reference r =>
      rw [beq_iff_eq] at asks
      subst asks
      obtain ⟨h, suffix, -⟩ := turns.2.of_mem known
      have owed : Owed app (⟨.inquireStatus p (.stored of_) reference, r⟩ :: h) of_ :=
        ⟨p, reference, r, h, rfl, course.answered _ p _ reference r ⟨t, mem, rfl, known⟩⟩
      rcases suffix_next suffix with whole | ⟨next_, longer⟩
      · rw [← whole] at owed
        exact absurd owed (passed.1 of_)
      · have writes : rotates of_ next_.1 = true := (turns.2.license longer ours).2 of_ owed
        exact course.moved t.origin next_ of_
          ⟨t, mem, rfl, longer.subset List.mem_cons_self⟩ writes
    · cases asks

end Quiet

end OpenWrapper.ReconcilerFairness
