import OpenWrapper.AcknowledgedWebhooks
import OpenWrapper.StatementLedger

/-! # A delivery is applied once

Postgres inserts the row of an event and updates the payment in statements of
their own, and nothing holds them together. An event may be lost between the
two, but it is not applied twice: the update comes from the one task that
inserted the row. -/

set_option autoImplicit false

namespace OpenWrapper.DeliveredOnce
open OpenWrapper.Ids OpenWrapper.Payments OpenWrapper.Schema OpenWrapper.ConstraintTable
open OpenWrapper.PaymentStore OpenWrapper.Providers OpenWrapper.Effects OpenWrapper.Gateway
open OpenWrapper.Contracts OpenWrapper.Evolution OpenWrapper.StatementRuns
open OpenWrapper.StatusLegality OpenWrapper.StatementLedger OpenWrapper.UniqueEvents
open OpenWrapper.Lowerings OpenWrapper.Suspended OpenWrapper.Suspended.Prog
open OpenWrapper.Interleaving

section Contract

/-- The tasks that carry a delivery: the webhook route, and the consumer of
the queue it fills. -/
def delivers : Origin → Bool
  | .webhook _ _ => true
  | .webhookConsumer => true
  | _ => false

def Storeless (h : Past) : Prop := ∀ ev ∈ h, ∀ op, ev.1 ≠ .store op

/-- A delivery turns to the store for its event, and only once. -/
def Single (h : Past) (e : Effect) : Prop :=
  ∀ op, e = .store op → (∃ event, op = .applyWebhookEvent event) ∧ Storeless h

def books : Await → ℕ
  | .stmt (.write (.insertWebhookEvent _)) => 1
  | _ => 0

def updates : Await → ℕ
  | .stmt (.write (.updatePayment _ _ _)) => 1
  | _ => 0

/-- The insertions of the event's row. -/
def booked (event : String) : Event Await.Response → ℕ
  | ⟨.stmt (.write (.insertWebhookEvent row)), .ok _⟩ => if row.eventId = event then 1 else 0
  | _ => 0

def bookedAny : Event Await.Response → ℕ
  | ⟨.stmt (.write (.insertWebhookEvent _)), .ok _⟩ => 1
  | _ => 0

/-- It inserts one event row, and updates only right after that. -/
def Ordered (h : Record) (e : Await) : Prop :=
  (books e = 0 ∨ performed books h = 0) ∧
    (updates e = 0 ∨ ∃ now row count rest, h = ⟨.stmt .now, now⟩ ::
      ⟨.stmt (.write (.insertWebhookEvent row)), .ok count⟩ :: rest)

variable {app : App} {past : Past} {h : Record}

theorem webhook_single (name : String) (raw : RawWebhookRequest) :
    Always Single (fun _ _ => True) (Handlers.webhook app name raw) [] := by
  have first : Storeless [] := by simp [Storeless]
  unfold Handlers.webhook
  cases app.providers name with
  | none => trivial
  | some p =>
    dsimp only
    cases app.verifyAndParseWebhook p raw with
    | error e => cases e <;> trivial
    | ok event =>
      dsimp only
      cases ProviderId.parse name with
      | error e => trivial
      | ok providerId =>
        dsimp only
        split
        · refine ⟨fun op is => (nomatch is), fun r => ?_⟩
          cases r <;> trivial
        · refine ⟨fun op is => ⟨⟨_, (Effect.store.inj is).symm⟩, first⟩, fun r => ?_⟩
          trivial

theorem processWebhookMessage_single (msg : WebhookQueueMessage) {h : Past}
    (first : Storeless h) :
    Always Single (fun _ _ => True) (Background.processWebhookMessage msg) h := by
  unfold Background.processWebhookMessage
  cases ProviderId.parse msg.provider with
  | error e => trivial
  | ok providerId =>
    refine ⟨fun op is => ⟨⟨_, (Effect.store.inj is).symm⟩, first⟩, fun r => ?_⟩
    cases r <;> trivial

theorem consumeWebhook_single :
    Always Single (fun _ _ => True) Background.consumeWebhook [] := by
  simp only [Background.consumeWebhook, Gw.receiveWebhook, Gw.ackWebhook, perform_bind,
    always_call]
  refine ⟨fun op is => (nomatch is), fun d => ?_⟩
  have first : Storeless [⟨.receiveWebhook, d⟩] := by simp [Storeless]
  refine always_bind _ _ (processWebhookMessage_single d.message first) ?_
  exact fun _ _ _ _ => ⟨fun op is => (nomatch is), fun _ => trivial⟩

theorem body_single (app : App) {o : Origin} (carries : delivers o = true) :
    Always Single (fun _ _ => True) (body app o) [] := by
  cases o with
  | webhook name raw => exact webhook_single name raw
  | webhookConsumer => exact consumeWebhook_single
  | _ => cases carries

/-- What is not the store's is no statement. -/
theorem bookless_of_storeless (lowers : Lowers (lower app) past h) (storeless : Storeless past) :
    performed books h = 0 := by
  induction lowers with
  | nil => rfl
  | cons e r part past h lowers ran ih =>
    have below := ih fun ev mem => storeless ev (List.mem_cons_of_mem _ mem)
    have asked : part = [] ∨ ∃ e' r', part = [⟨.other e', r'⟩] := by
      cases e with
      | store op => exact absurd rfl (storeless _ List.mem_cons_self op)
      | _ => exact .inr ⟨_, _, runs_perform ran⟩
    rcases asked with rfl | ⟨e', r', rfl⟩
    · exact below
    · simpa [performed, books] using below

theorem ordered_webhook (event : WebhookReport) (bookless : performed books h = 0) :
    Always Ordered (fun _ _ => True) (lowered (PostgresStore.applyWebhookEvent event)) h := by
  simp only [lowered, PostgresStore.applyWebhookEvent, Sql.selectByProviderReference, Sql.now,
    Sql.write, perform_bind, translate_call, always_call]
  refine ⟨⟨.inl rfl, .inl rfl⟩, fun r => ?_⟩
  cases r with
  | error e => trivial
  | ok found =>
    cases found with
    | none => trivial
    | some row =>
      refine ⟨⟨.inl rfl, .inl rfl⟩, fun received => ⟨⟨.inr ?_, .inl rfl⟩, fun inserted => ?_⟩⟩
      · simpa [performed, books] using bookless
      cases inserted with
      | error e => cases e <;> trivial
      | ok count =>
        simp only
        cases row.status.parse with
        | none => trivial
        | some current =>
          simp only
          split
          · trivial
          · cases current.validateTransition event.reportedStatus with
            | error illegal => trivial
            | ok legal =>
              refine ⟨⟨.inl rfl, .inl rfl⟩, fun now => ⟨⟨.inl rfl, .inr ?_⟩, fun r => ?_⟩⟩
              · exact ⟨now, _, count, _, rfl⟩
              · cases r with
                | error e => trivial
                | ok count =>
                  simp only
                  cases row.id.parse <;> trivial

theorem lower_ordered {e : Effect} (single : Single past e) (lowers : Lowers (lower app) past h) :
    Always Ordered (fun _ _ => True) (lower app e) h := by
  cases e with
  | store op =>
    obtain ⟨⟨event, rfl⟩, storeless⟩ := single op rfl
    exact ordered_webhook event (bookless_of_storeless lowers storeless)
  | _ => exact ⟨⟨.inl rfl, .inl rfl⟩, fun _ => trivial⟩

theorem body_ordered (app : App) (o : Origin) :
    Always (fun h e => delivers o = true → Ordered h e) (fun _ _ => True)
      ((StatementRuns.setting app).body o) [] := by
  by_cases carries : delivers o = true
  · have lowered_ := always_translate (body_single app carries) (Lowers.nil (f := lower app))
      fun past h e single lowers => lower_ordered single lowers
    exact lowered_.mono (fun _ _ held _ => held) fun _ _ _ => trivial
  · exact (always_true _ _).mono (fun _ _ _ yes => absurd yes carries) fun _ _ _ => trivial

end Contract

section Runs

variable {app : App} {w w' : SqlWorld} {s s' : Shared} {c : Choice} {event : String}

/-- The event has its row. -/
def Logged (event : String) (s : Shared) : Prop :=
  ∃ row ∈ s.ledger.webhookEvents.rows, row.eventId = event

theorem booked_cases (event : String) (ev : Event Await.Response) : booked event ev = 0 ∨
    booked event ev = 1 ∧ ∃ row count,
      ev = ⟨.stmt (.write (.insertWebhookEvent row)), .ok count⟩ ∧ row.eventId = event := by
  unfold booked
  split
  next row count =>
    by_cases is : row.eventId = event
    · exact .inr ⟨if_pos is, row, count, rfl, is⟩
    · exact .inl (if_neg is)
  · exact .inl rfl

theorem event_of_booked {ev : Event Await.Response} (one : booked event ev = 1) : ∃ row count,
    ev = ⟨.stmt (.write (.insertWebhookEvent row)), .ok count⟩ ∧ row.eventId = event := by
  rcases booked_cases event ev with none_ | ⟨-, is⟩
  · rw [none_] at one
    cases one
  · exact is

theorem react_insertWebhookEvent {row : WebhookEventRow} {count : ℕ}
    (reacted : StatementRuns.react app s (.stmt (.write (.insertWebhookEvent row))) c =
      some (s', .ok count)) :
    ∃ webhookEvents, s.ledger.webhookEvents.insert (row.kept .postgres) = some webhookEvents ∧
      s'.ledger = { s.ledger with webhookEvents } := by
  have performed := react_write reacted
  simp only [Write.perform] at performed
  split at performed
  next webhookEvents inserted =>
    simp only [Except.ok.injEq, Prod.mk.injEq] at performed
    exact ⟨webhookEvents, inserted, performed.1.symm⟩
  · cases performed

/-- The row of an event is inserted where there is none, and stays. -/
theorem marking_event (app : App) (event : String) :
    Marking (StatementRuns.setting app) (booked event) (Logged event) where
  small := fun ev => (booked_cases event ev).imp_right And.left
  fresh := by
    rintro s e c s' r reacted one ⟨old, mem, same⟩
    obtain ⟨row, count, is, named⟩ := event_of_booked one
    cases is
    obtain ⟨webhookEvents, added, -⟩ := react_insertWebhookEvent reacted
    exact (Table.insert_eq_some.mp added).1 old mem (same.trans named.symm)
  marks := by
    intro s e c s' r reacted one
    obtain ⟨row, count, is, named⟩ := event_of_booked one
    cases is
    obtain ⟨webhookEvents, added, after⟩ := react_insertWebhookEvent reacted
    refine ⟨row.kept .postgres, ?_, named⟩
    simp [after, (Table.insert_eq_some.mp added).2]
  stays := by
    rintro s e c s' r reacted ⟨row, mem, named⟩
    exact ⟨row, (react_evolves reacted).webhookEvents mem, named⟩

/-- How often the task inserted the row of the event. -/
def bookings (event : String) (h : Record) : ℕ := (h.map (booked event)).sum

/-- The updates of the task, with the one it awaits. -/
def updated (t : Task Await.Response Origin Reply) : ℕ :=
  performed updates t.history + awaited updates t.rest

/-- The updates by which deliveries apply the event. -/
def applications (event : String) (w : SqlWorld) : ℕ :=
  (w.tasks.map fun t =>
    if delivers t.origin = true ∧ 1 ≤ bookings event t.history then updated t else 0).sum

structure Delivering (w : SqlWorld) : Prop where
  follows : ∀ t ∈ w.tasks, Follows (fun o h e => delivers o = true → Ordered h e)
    (fun _ _ _ => True) t
  once : ∀ event, Once (booked event) (Logged event) w

theorem delivering_start (apiKeys : List ApiKeyRow) : Delivering (StatementRuns.start apiKeys) :=
  ⟨by simp [StatementRuns.start], fun event => once_idle rfl⟩

theorem Delivering.step (delivering : Delivering w) {a : GwAction}
    (stepped : Interleaving.step (StatementRuns.setting app) w a = some w') : Delivering w' where
  follows := follows_step (body_ordered app) delivering.follows stepped
  once := fun event => (delivering.once event).step (marking_event app event) stepped

/-- An update stands on an insertion of the task's own. -/
theorem pays_updates {h : Record} {e : Await} (ordered : Ordered h e) :
    Pays bookedAny updates h e := by
  by_cases silent : updates e = 0
  · exact .inl silent
  · obtain ⟨now, row, count, rest, rfl⟩ := ordered.2.resolve_left silent
    have one : updates e = 1 := by
      unfold updates at silent ⊢
      split at silent
      · rfl
      · exact absurd rfl silent
    right
    rw [one]
    exact ⟨[⟨.stmt .now, now⟩], _, rest, rfl, by simp [updates], rfl, Nat.le_refl 1⟩

theorem books_le_one {R : Record → Await → Prop} (ordered : ∀ h e, R h e → Ordered h e)
    {h : Record} (sound : Sound R h) : performed books h ≤ 1 := by
  induction h with
  | nil => exact Nat.zero_le 1
  | cons ev h ih =>
    have below := ih sound.2
    rw [performed_cons]
    rcases (ordered _ _ sound.1).1 with silent | first
    · omega
    · have small : books ev.1 ≤ 1 := by
        unfold books
        split <;> omega
      omega

theorem bookedAny_le (h : Record) : (h.map bookedAny).sum ≤ performed books h := by
  refine List.sum_le_sum fun ev _ => ?_
  unfold bookedAny
  split
  · exact Nat.le_refl 1
  · exact Nat.zero_le _

/-- A delivery updates at most once, and only after an insertion of its own. -/
theorem Delivering.task (delivering : Delivering w) {t : Task Await.Response Origin Reply}
    (mem : t ∈ w.tasks) (carries : delivers t.origin = true) :
    updated t ≤ (t.history.map bookedAny).sum ∧ updated t ≤ 1 := by
  have follows := delivering.follows t mem
  have covered : updated t ≤ (t.history.map bookedAny).sum :=
    performed_awaited_le (fun h e held => pays_updates (held carries)) follows
  have few := books_le_one (fun h e held => held carries) follows.2
  exact ⟨covered, covered.trans ((bookedAny_le t.history).trans few)⟩

theorem booking_of_sum {h : Record} (some_ : 1 ≤ (h.map bookedAny).sum) :
    ∃ row count, (⟨.stmt (.write (.insertWebhookEvent row)), .ok count⟩ : Event Await.Response) ∈
      h := by
  induction h with
  | nil => simp at some_
  | cons ev h ih =>
    rw [List.map_cons, List.sum_cons] at some_
    by_cases here : bookedAny ev = 0
    · obtain ⟨row, count, mem⟩ := ih (by omega)
      exact ⟨row, count, List.mem_cons_of_mem _ mem⟩
    · unfold bookedAny at here
      split at here
      · exact ⟨_, _, List.mem_cons_self⟩
      · exact absurd rfl here

/-- Two deliveries of one event, the second within the first. -/
def deliveredTwice : List GwAction :=
  orderedByStatement ++ [.spawn AcknowledgedWebhooks.delivery, .spawn AcknowledgedWebhooks.delivery,
    drawn 1, drawn 2, drawn 1, drawn 2, drawn 1, drawn 2, drawn 1, drawn 1]

end Runs

end OpenWrapper.DeliveredOnce
