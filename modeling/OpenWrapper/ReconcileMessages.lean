import OpenWrapper.Queues
import OpenWrapper.Evolution
import OpenWrapper.Ownership

/-! # What becomes of a reconciliation message

The bus keeps a message until a consumer acknowledges it, and the consumer
acknowledges a message that it has worked: it asked the provider and told the
store, or gave the message back to the bus for another attempt, or knew that no
attempt was left. So a message is queued or worked in every order of steps,
wherever consumers stop. -/

set_option autoImplicit false

namespace OpenWrapper.ReconcileMessages
open OpenWrapper.Ids OpenWrapper.Payments OpenWrapper.PaymentStore OpenWrapper.Providers
open OpenWrapper.Errors OpenWrapper.Headers OpenWrapper.Schema OpenWrapper.Effects
open OpenWrapper.Background
open OpenWrapper.Gateway OpenWrapper.Contracts OpenWrapper.Ownership OpenWrapper.Suspended
open OpenWrapper.Suspended.Prog OpenWrapper.Interleaving

section Work

variable {app : App} {bus : BusConfig} {m retry : ReconcileQueueMessage}
variable {d : Delivery ReconcileQueueMessage}

/-- A turn of the consumer starts with a delivery. -/
def held (d : Delivery ReconcileQueueMessage) : Past := [⟨.receiveReconcile, d⟩]

/-- The consumer of the delivery has asked the provider. -/
def inquired (d : Delivery ReconcileQueueMessage) (p : Provider)
    (r : Except OpenWrapperError PaymentStatus) : Past :=
  ⟨.inquireStatus p d.message.paymentId d.message.providerReference, r⟩ :: held d

/-- The turns in which the consumer did with its delivery what there is to do. -/
inductive Worked (app : App) (bus : BusConfig) (d : Delivery ReconcileQueueMessage) : Past → Prop
  | unreadable (raw : String) : d.message.paymentId = .corrupt raw → Worked app bus d (held d)
  | unknownProvider : app.providers d.message.provider = none → Worked app bus d (held d)
  | resolved (id : PaymentId) (p : Provider) (status : PaymentStatus)
      (r : StoreResult TransitionOutcome) : d.message.paymentId = .stored id →
      app.providers d.message.provider = some p → status ≠ .unknown →
      Worked app bus d (⟨.store (.applyReconciliationResult id status), r⟩ ::
        inquired d p (.ok status))
  | unresolved (id : PaymentId) (p : Provider) (r : StoreResult Unit) :
      d.message.paymentId = .stored id → app.providers d.message.provider = some p →
      Worked app bus d (⟨.store (.touchReconciliationAttempt id), r⟩ ::
        inquired d p (.ok .unknown))
  | retried (p : Provider) (e : OpenWrapperError) (again : ReconcileQueueMessage)
      (r : Except String Unit) : app.providers d.message.provider = some p →
      retryMessage bus.maxRetries d.message = some again →
      Worked app bus d (⟨.publishReconcile again, r⟩ :: inquired d p (.error e))
  | exhausted (p : Provider) (e : OpenWrapperError) :
      app.providers d.message.provider = some p →
      retryMessage bus.maxRetries d.message = none → Worked app bus d (inquired d p (.error e))

theorem attempt_retryMessage (again : retryMessage bus.maxRetries m = some retry) :
    retry.attempt = m.attempt + 1 ∧ retry.attempt < bus.maxRetries := by
  unfold retryMessage at again
  split at again
  next few =>
    cases again
    exact ⟨rfl, few⟩
  · cases again

theorem Worked.received {h : Past} (worked : Worked app bus d h) :
    (⟨.receiveReconcile, d⟩ : GwEvent) ∈ h := by
  cases worked <;> simp [held, inquired]

/-- Only a message that may be tried again is handed back. -/
theorem Worked.renews {h : Past} {again : ReconcileQueueMessage} {r : Except String Unit}
    (worked : Worked app bus d h) (handed : (⟨.publishReconcile again, r⟩ : GwEvent) ∈ h) :
    retryMessage bus.maxRetries d.message = some again := by
  cases worked with
  | retried p e again' r' known renewed =>
    simp only [inquired, held, List.mem_cons, List.not_mem_nil, or_false] at handed
    obtain same | same | same := handed
    · cases same
      exact renewed
    · cases same
    · cases same
  | _ => simp [held, inquired] at handed

/-- A message is acknowledged by the consumer that received it, once it is
worked; and no message has more attempts behind it than the bus allows. -/
def Diligent (app : App) (o : Origin) (h : Past) : Effect → Prop
  | .ackReconcile tag => o = .reconcileConsumer ∧ ∃ bus, app.messageBus = some bus ∧
    ∃ d : Delivery ReconcileQueueMessage, tag = d.tag ∧ Worked app bus d h
  | .publishReconcile m => ∃ bus, app.messageBus = some bus ∧
    (m.attempt = 0 ∨ m.attempt < bus.maxRetries)
  | _ => True

end Work

section Tasks

variable {app : App} {o : Origin} {bus : BusConfig} {h : Past}

theorem diligent_inScope {owner : Option ApiKeyInfo} {e : Effect} (scope : InScope owner e) :
    Diligent app o h e := by
  cases e with
  | publishReconcile m => cases scope
  | ackReconcile tag => cases scope
  | _ => trivial

theorem diligent_detached {e : Effect} (detached : Detached e) : Diligent app o h e := by
  cases e with
  | publishReconcile m => cases detached
  | ackReconcile tag => cases detached
  | _ => trivial

theorem serveHttp_diligent (headers : HeaderMap) (route : Router.Route) :
    Always (Diligent app o) (fun _ _ => True) (Router.serveHttp app headers route) [] := by
  apply requireApiKey_always (fun _ => trivial) (fun _ => trivial) (fun _ => trivial)
  intro h' h authority
  exact Confined.always (enforce_scoped h' route) fun _ _ _ => diligent_inScope

theorem settleMessage_worked (configured : app.messageBus = some bus)
    {d : Delivery ReconcileQueueMessage} {id : PaymentId} {p : Provider}
    (stored : d.message.paymentId = .stored id)
    (known : app.providers d.message.provider = some p) :
    Always (Diligent app o) (fun h _ => Worked app bus d h) (settleMessage bus d.message id p)
      (held d) := by
  simp only [settleMessage, Gw.inquireStatus, Gw.applyReconciliationResult,
    Gw.touchReconciliationAttempt, Gw.publishReconcile, perform_bind, always_call]
  refine ⟨trivial, fun answer => ?_⟩
  cases answer with
  | ok status =>
    dsimp only
    split
    next resolved =>
      refine ⟨trivial, fun r => ?_⟩
      cases r <;> exact .resolved id p status _ stored known resolved
    next unresolved =>
      obtain rfl : status = .unknown := by simpa using unresolved
      exact ⟨trivial, fun r => .unresolved id p r stored known⟩
  | error e =>
    dsimp only
    cases again : retryMessage bus.maxRetries d.message with
    | none => exact Worked.exhausted p e known again
    | some retry =>
      refine ⟨⟨bus, configured, .inr (attempt_retryMessage again).2⟩, fun r => ?_⟩
      exact Worked.retried p e retry r known again

/-- The message is worked when the consumer has gone through it. -/
theorem processReconcileMessage_worked (configured : app.messageBus = some bus)
    (d : Delivery ReconcileQueueMessage) :
    Always (Diligent app o) (fun h _ => Worked app bus d h)
      (processReconcileMessage app bus d.message) (held d) := by
  unfold processReconcileMessage
  cases stored : d.message.paymentId with
  | corrupt raw => exact Worked.unreadable raw stored
  | stored id =>
    dsimp only
    cases known : app.providers d.message.provider with
    | none => exact Worked.unknownProvider known
    | some p => exact settleMessage_worked configured stored known

theorem consumeReconciliation_diligent (configured : app.messageBus = some bus) :
    Always (Diligent app .reconcileConsumer) (fun _ _ => True) (consumeReconciliation app bus)
      [] := by
  simp only [consumeReconciliation, Gw.receiveReconcile, Gw.ackReconcile, perform_bind,
    always_call]
  refine ⟨trivial, fun d => ?_⟩
  apply always_bind _ _ (processReconcileMessage_worked configured d)
  intro h _ _ worked
  exact ⟨⟨rfl, bus, configured, d, rfl, worked⟩, fun _ => trivial⟩

theorem reconcileInline_diligent {p : Provider} {id : PaymentId} {reference : String} :
    Always (Diligent app o) (fun _ _ => True) (reconcileInline id p reference) h := by
  simp only [reconcileInline, Gw.inquireStatus, Gw.applyReconciliationResult,
    Gw.touchReconciliationAttempt, perform_bind, always_call]
  refine ⟨trivial, fun r => ?_⟩
  cases r with
  | ok resolved =>
    dsimp only
    split <;> exact ⟨trivial, fun _ => trivial⟩
  | error e => exact ⟨trivial, fun _ => trivial⟩

/-- The reconciler publishes first attempts, and only where there is a bus. -/
theorem reconcileOne_diligent (payment : Payment) :
    Always (Diligent app o) (fun _ _ => True) (reconcileOne app payment) h := by
  unfold reconcileOne
  cases payment.providerReference with
  | none => exact ⟨trivial, fun _ => trivial⟩
  | some reference =>
    dsimp only
    cases reconcileProvider app payment with
    | none => exact ⟨trivial, fun _ => trivial⟩
    | some provider =>
      dsimp only
      split
      · exact ⟨trivial, fun _ => trivial⟩
      · split
        next connected =>
          obtain ⟨bus, configured⟩ := Option.isSome_iff_exists.mp connected
          exact ⟨⟨bus, configured, .inl rfl⟩, fun _ => trivial⟩
        · exact reconcileInline_diligent

theorem reconcileAll_diligent (payments : List Payment) :
    Always (Diligent app o) (fun _ _ => True) (reconcileAll app payments) h := by
  induction payments generalizing h with
  | nil => trivial
  | cons payment rest ih =>
    exact always_bind _ _ (reconcileOne_diligent payment) fun _ _ _ _ => ih

theorem runOnce_diligent :
    Always (Diligent app o) (fun _ _ => True) (runOnce app) [] := by
  simp only [runOnce, Gw.listStaleUnknownPayments, perform_bind, always_call]
  refine ⟨trivial, fun r => ?_⟩
  cases r with
  | error e => trivial
  | ok payments => exact always_bind _ _ (reconcileAll_diligent payments) fun _ _ _ _ => trivial

theorem body_diligent (app : App) (o : Origin) :
    Always (Diligent app o) (fun _ _ => True) (body app o) [] := by
  cases o with
  | http headers route => exact serveHttp_diligent headers route
  | grpc call => exact Confined.always (serveGrpc_detached call) fun _ _ _ => diligent_detached
  | webhook name raw => exact Confined.always webhook_detached fun _ _ _ => diligent_detached
  | webhookConsumer => exact Confined.always consumeWebhook_detached fun _ _ _ => diligent_detached
  | reconcileConsumer =>
    unfold body
    cases configured : app.messageBus with
    | none => trivial
    | some bus => exact consumeReconciliation_diligent configured
  | reconciler => exact runOnce_diligent

end Tasks

section Queue

variable {b : Backend} {app : App} {s s' : Shared} {e : Effect} {c : Choice} {r : e.Response}
variable {d : Delivery ReconcileQueueMessage}

/-- A reaction appends to the queue what was published, takes out what is
acknowledged, or leaves the queue as it is. -/
theorem react_reconcileQueue (reacted : react b app s e c = some (s', r)) :
    (∃ m, e = .publishReconcile m ∧
      s'.reconcileQueue = s.reconcileQueue ++ [⟨s.nextTag, m⟩] ∧ s'.nextTag = s.nextTag + 1) ∨
    (s'.reconcileQueue = s.reconcileQueue ∧ s.nextTag ≤ s'.nextTag) ∨
    (∃ tag, e = .ackReconcile tag ∧
      s'.reconcileQueue = s.reconcileQueue.filter (fun d => d.tag != tag) ∧
      s'.nextTag = s.nextTag) := by
  obtain ⟨m, -, rfl⟩ | ⟨m, is, rfl⟩ | ⟨tag, -, rfl⟩ | ⟨tag, is, rfl⟩ | same := react_queues reacted
  · exact .inr (.inl ⟨rfl, Nat.le_succ _⟩)
  · exact .inl ⟨m, is, rfl, rfl⟩
  · exact .inr (.inl ⟨rfl, le_rfl⟩)
  · exact .inr (.inr ⟨tag, is, rfl, rfl⟩)
  · rw [same]
    exact .inr (.inl ⟨rfl, le_rfl⟩)

theorem received_queued (reacted : react b app s .receiveReconcile c = some (s', d)) :
    d ∈ s.reconcileQueue ∧ s' = s := by
  cases c with
  | received index =>
    obtain ⟨d', found, same⟩ := Option.map_eq_some_iff.mp reacted
    obtain ⟨rfl, rfl⟩ := Prod.mk.inj same
    exact ⟨List.mem_of_getElem? found, rfl⟩
  | _ => cases reacted

/-- What the bus answered with success, it queued. -/
theorem published_queued {m : ReconcileQueueMessage}
    (reacted : react b app s (.publishReconcile m) c = some (s', .ok ())) :
    ∃ d ∈ s'.reconcileQueue, d.message = m := by
  cases c with
  | published accepted =>
    cases accepted with
    | true =>
      obtain ⟨same, -⟩ := Prod.mk.inj (Option.some.inj reacted)
      rw [← same]
      exact ⟨⟨s.nextTag, m⟩, List.mem_append_right _ (List.mem_singleton_self _), rfl⟩
    | false =>
      obtain ⟨-, refused⟩ := Prod.mk.inj (Option.some.inj reacted)
      cases refused
  | _ => cases reacted

theorem issued_react (reacted : react b app s e c = some (s', r))
    (issued : Queues.Issued Delivery.tag s.reconcileQueue s.nextTag d) :
    Queues.Issued Delivery.tag s'.reconcileQueue s'.nextTag d := by
  obtain ⟨m, -, same, next⟩ | ⟨same, later⟩ | ⟨tag, -, same, next⟩ := react_reconcileQueue reacted
  · rw [same, next]
    exact Queues.issued_push issued rfl
  · rw [same]
    exact Queues.issued_mono issued (fun _ mem => mem) later
  · rw [same, next]
    exact Queues.issued_mono issued (List.filter_subset_self _) le_rfl

theorem fresh_react (reacted : react b app s e c = some (s', r))
    (fresh : Queues.Fresh Delivery.tag s.reconcileQueue s.nextTag) :
    Queues.Fresh Delivery.tag s'.reconcileQueue s'.nextTag := by
  obtain ⟨m, -, same, next⟩ | ⟨same, later⟩ | ⟨tag, -, same, next⟩ := react_reconcileQueue reacted
  · rw [same, next]
    exact Queues.fresh_push fresh rfl
  · rw [same]
    exact Queues.fresh_mono fresh (fun _ mem => mem) later
  · rw [same, next]
    exact Queues.fresh_mono fresh (List.filter_subset_self _) le_rfl

end Queue

section Runs

variable {b : Backend} {app : App} {bus : BusConfig} {w w' : GwWorld} {a : GwAction} {i : ℕ}
variable {c : Choice} {m : ReconcileQueueMessage}

def Queued (w : GwWorld) (m : ReconcileQueueMessage) : Prop :=
  ∃ d ∈ w.shared.reconcileQueue, d.message = m

/-- A consumer that received the message worked it in this turn. -/
def WorkedBy (app : App) (bus : BusConfig) (w : GwWorld) (m : ReconcileQueueMessage)
    (h : Past) : Prop :=
  ∃ t ∈ w.tasks, t.origin = .reconcileConsumer ∧ h <:+ t.history ∧
    ∃ tag, Worked app bus ⟨tag, m⟩ h

/-- What became of a message: it waits; or a consumer worked it and the bus took
no further attempt; or the bus took the next attempt, and that one is pursued. -/
inductive Pursued (app : App) (bus : BusConfig) (w : GwWorld) : ReconcileQueueMessage → Prop
  | waiting (m : ReconcileQueueMessage) : Queued w m → Pursued app bus w m
  | concluded (m : ReconcileQueueMessage) (h : Past) : WorkedBy app bus w m h →
      (∀ again, (⟨.publishReconcile again, .ok ()⟩ : GwEvent) ∉ h) → Pursued app bus w m
  | renewed (m again : ReconcileQueueMessage) (h : Past) : WorkedBy app bus w m h →
      (⟨.publishReconcile again, .ok ()⟩ : GwEvent) ∈ h →
      retryMessage bus.maxRetries m = some again → Pursued app bus w again →
      Pursued app bus w m

/-- What the run says of reconciliation messages. -/
structure Course (app : App) (w : GwWorld) : Prop where
  follows : ∀ t ∈ w.tasks, Follows (Diligent app) (fun _ _ _ => True) t
  fresh : Queues.Fresh Delivery.tag w.shared.reconcileQueue w.shared.nextTag
  received : ∀ o d, Happened w o ⟨.receiveReconcile, d⟩ →
    Queues.Issued Delivery.tag w.shared.reconcileQueue w.shared.nextTag d
  published : ∀ o m, Happened w o ⟨.publishReconcile m, .ok ()⟩ →
    Queued w m ∨ ∃ bus h, app.messageBus = some bus ∧ WorkedBy app bus w m h

theorem course_start (apiKeys : List ApiKeyRow) : Course app (start apiKeys) where
  follows := by simp [start]
  fresh := Queues.fresh_nil
  received := by simp [Happened, start]
  published := by simp [Happened, start]

theorem workedBy_step {h : Past} (worked : WorkedBy app bus w m h)
    (stepped : step (setting b app) w a = some w') : WorkedBy app bus w' m h := by
  obtain ⟨t, mem, consumes, suffix, worked⟩ := worked
  obtain ⟨t', mem', same, grown⟩ := history_step mem stepped
  exact ⟨t', mem', same.trans consumes, suffix.trans grown, worked⟩

theorem received_step (course : Course app w) (adv : Advanced (setting b app) w i c w')
    {o : Origin} {d : Delivery ReconcileQueueMessage}
    (happened : Happened w' o ⟨.receiveReconcile, d⟩) :
    Queues.Issued Delivery.tag w'.shared.reconcileQueue w'.shared.nextTag d := by
  rw [adv.shared_eq]
  rcases adv.happened_cases happened with ⟨event, -⟩ | earlier
  · have held := received_queued (adv.of_event event.symm).1
    rw [held.2]
    exact course.fresh d held.1
  · exact issued_react adv.reacted (course.received o d earlier)

/-- A message is acknowledged only when it is worked. -/
theorem acked_worked (course : Course app w) (adv : Advanced (setting b app) w i c w')
    {d : Delivery ReconcileQueueMessage} (queued : d ∈ w.shared.reconcileQueue)
    (acks : adv.effect = .ackReconcile d.tag) :
    ∃ bus h, app.messageBus = some bus ∧ WorkedBy app bus w d.message h := by
  have diligent := adv.licensed course.follows
  rw [acks] at diligent
  obtain ⟨consumes, bus, configured, d', same, worked⟩ := diligent
  have known : Happened w adv.task.origin ⟨.receiveReconcile, d'⟩ :=
    ⟨adv.task, adv.mem, rfl, worked.received⟩
  -- the number names one delivery, queued or received
  obtain rfl : d = d' := (course.received _ d' known).2 d queued same
  exact ⟨bus, adv.task.history, configured, adv.task, adv.mem, consumes, List.suffix_rfl,
    d.tag, worked⟩

theorem queued_step (course : Course app w) (stepped : step (setting b app) w a = some w')
    (queued : Queued w m) :
    Queued w' m ∨ ∃ bus h, app.messageBus = some bus ∧ WorkedBy app bus w' m h := by
  obtain ⟨d, held, is⟩ := queued
  obtain ⟨o, -, rfl⟩ | ⟨i, c, -, ⟨adv⟩⟩ | ⟨i, t, -, found, rfl⟩ := step_cases stepped
  · exact .inl ⟨d, held, is⟩
  · rw [Queued, adv.shared_eq]
    obtain ⟨m', -, same, -⟩ | ⟨same, -⟩ | ⟨tag, acks, same, -⟩ := react_reconcileQueue adv.reacted
    · rw [same]
      exact .inl ⟨d, List.mem_append_left _ held, is⟩
    · rw [same]
      exact .inl ⟨d, held, is⟩
    · by_cases here : d.tag = tag
      · subst here
        obtain ⟨bus, h, configured, worked⟩ := acked_worked course adv held acks
        rw [is] at worked
        exact .inr ⟨bus, h, configured, workedBy_step worked stepped⟩
      · rw [same]
        exact .inl ⟨d, List.mem_filter.mpr ⟨held, by simpa using here⟩, is⟩
  · exact .inl ⟨d, held, is⟩

theorem published_step (course : Course app w) (stepped : step (setting b app) w a = some w')
    {o : Origin} (before : Happened w o ⟨.publishReconcile m, .ok ()⟩) :
    Queued w' m ∨ ∃ bus h, app.messageBus = some bus ∧ WorkedBy app bus w' m h := by
  rcases course.published o m before with queued | ⟨bus, h, configured, worked⟩
  · exact queued_step course stepped queued
  · exact .inr ⟨bus, h, configured, workedBy_step worked stepped⟩

theorem Course.step (course : Course app w) (stepped : step (setting b app) w a = some w') :
    Course app w' := by
  have follows := follows_step (body_diligent app) course.follows stepped
  have kept (o : Origin) (m : ReconcileQueueMessage)
      (before : Happened w o ⟨.publishReconcile m, .ok ()⟩) := published_step course stepped before
  obtain ⟨o, -, rfl⟩ | ⟨i, c, -, ⟨adv⟩⟩ | ⟨i, t, -, found, rfl⟩ := step_cases stepped
  · constructor
    · exact follows
    · exact course.fresh
    · exact fun o d happened => course.received o d (happened_spawn happened)
    · exact fun o m happened => kept o m (happened_spawn happened)
  · constructor
    · exact follows
    · rw [adv.shared_eq]
      exact fresh_react adv.reacted course.fresh
    · exact fun o d => received_step course adv
    · intro o m happened
      rcases adv.happened_cases happened with ⟨event, -⟩ | earlier
      · left
        rw [Queued, adv.shared_eq]
        exact published_queued (adv.of_event event.symm).1
      · exact kept o m earlier
  · constructor
    · exact follows
    · exact course.fresh
    · exact fun o d happened => course.received o d (happened_cancel found happened)
    · exact fun o m happened => kept o m (happened_cancel found happened)

/-- A message the bus took is pursued; the attempts left to it are the measure. -/
theorem Course.pursued (course : Course app w) (configured : app.messageBus = some bus)
    {o : Origin} (published : Happened w o ⟨.publishReconcile m, .ok ()⟩) :
    Pursued app bus w m := by
  induction left : bus.maxRetries - m.attempt using Nat.strong_induction_on generalizing o m with
  | _ n ih =>
    obtain queued | ⟨bus', h, configured', worked⟩ := course.published o m published
    · exact .waiting m queued
    · rw [configured] at configured'
      cases configured'
      by_cases handed : ∃ again, (⟨.publishReconcile again, .ok ()⟩ : GwEvent) ∈ h
      · obtain ⟨again, handed⟩ := handed
        obtain ⟨t, mem, consumes, suffix, tag, turn⟩ := worked
        have renews : retryMessage bus.maxRetries m = some again := turn.renews handed
        obtain ⟨next, allowed⟩ := attempt_retryMessage renews
        have fewer : bus.maxRetries - again.attempt < n := by omega
        have pursued : Pursued app bus w again :=
          ih _ fewer ⟨t, mem, consumes, suffix.subset handed⟩ rfl
        exact .renewed m again h ⟨t, mem, consumes, suffix, tag, turn⟩ handed renews pursued
      · exact .concluded m h worked (not_exists.mp handed)

/-- However replicas, consumers and passes interleave and wherever they are
dropped, a reconciliation message that the bus took waits or was worked, and
so did every further attempt of it; no message exceeds the attempts allowed. -/
theorem reconciliations_are_pursued (b : Backend) (app : App) (apiKeys : List ApiKeyRow)
    (actions : List GwAction) (w : GwWorld)
    (ran : run (setting b app) (start apiKeys) actions = some w) (o : Origin)
    (m : ReconcileQueueMessage) (published : Happened w o ⟨.publishReconcile m, .ok ()⟩) :
    ∃ bus, app.messageBus = some bus ∧ (m.attempt = 0 ∨ m.attempt < bus.maxRetries) ∧
      Pursued app bus w m := by
  have course : Course app w :=
    run_invariant' (fun _ _ _ held stepped => held.step stepped) (course_start apiKeys) ran
  obtain ⟨t, mem, rfl, known⟩ := published
  obtain ⟨-, -, bus, configured, few⟩ := (course.follows t mem).2.of_mem known
  exact ⟨bus, configured, few, course.pursued configured ⟨t, mem, rfl, known⟩⟩

def busyShop : App := { shop with messageBus := some ⟨2⟩ }

/-- The order's payment stays pending; a pass finds it a minute later, its first
attempt fails and the second is queued. -/
def attempted : List GwAction :=
  ordered ++ [.spawn .reconciler,
    .advance 1 (.draw { quietDraw 0 with clock := fun _ => ⟨60000000000⟩ }),
    .advance 1 (.published true), .spawn .reconcileConsumer, .advance 2 (.received 0),
    .advance 2 (.inquired (.error (.timeout "stripe" 100))), .advance 2 (.published true),
    .advance 2 .acked]

def firstAttempt : ReconcileQueueMessage := ⟨.stored ⟨1⟩, "stripe", "cs_1", 0⟩

def publishes (m : ReconcileQueueMessage) : GwEvent → Bool
  | ⟨.publishReconcile m', .ok ()⟩ => m' == m
  | _ => false

theorem publishes_iff {ev : GwEvent} :
    publishes m ev = true ↔ ev = ⟨.publishReconcile m, .ok ()⟩ := by
  constructor
  · intro is
    unfold publishes at is
    split at is
    · rw [eq_of_beq is]
    · cases is
  · rintro rfl
    simp [publishes]

theorem reconciliations_are_pursued_again : ∃ w,
    run (setting .postgres busyShop) (start []) attempted = some w ∧
    w.shared.reconcileQueue.map (fun d => d.message.attempt) = [1] ∧
    ∃ bus, busyShop.messageBus = some bus ∧
      (firstAttempt.attempt = 0 ∨ firstAttempt.attempt < bus.maxRetries) ∧
      Pursued busyShop bus w firstAttempt := by
  have ends : (run (setting .postgres busyShop) (start []) attempted).map (fun w =>
      (w.shared.reconcileQueue.map (fun d => d.message.attempt),
        (w.tasks[1]?).map (fun t => t.history.any (publishes firstAttempt)))) =
      some ([1], some true) := by
    decide +kernel
  obtain ⟨w, ran, is⟩ := Option.map_eq_some_iff.mp ends
  obtain ⟨left, published⟩ := Prod.mk.inj is
  obtain ⟨t, found, took⟩ := Option.map_eq_some_iff.mp published
  obtain ⟨ev, known, is⟩ := List.any_eq_true.mp took
  rw [publishes_iff.mp is] at known
  exact ⟨w, ran, left, reconciliations_are_pursued .postgres busyShop [] attempted w ran t.origin
    firstAttempt ⟨t, List.mem_of_getElem? found, rfl, known⟩⟩

end Runs

end OpenWrapper.ReconcileMessages
