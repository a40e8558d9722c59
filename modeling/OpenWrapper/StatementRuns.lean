import OpenWrapper.Evolution
import OpenWrapper.Lowerings

/-! # The gateway on Postgres, statement by statement

The statements of a store operation go to a pool one by one, so other tasks
may come in between. A status is written after the task was shown a status
that may move to it. -/

set_option autoImplicit false

namespace OpenWrapper.StatementRuns
open OpenWrapper.Ids OpenWrapper.Payments OpenWrapper.Schema OpenWrapper.PaymentStore
open OpenWrapper.Effects OpenWrapper.Gateway OpenWrapper.Contracts
open OpenWrapper.Suspended OpenWrapper.Suspended.Prog OpenWrapper.Interleaving
open OpenWrapper.Lowerings

section World

/-- What a task awaits: a statement, or anything but the store. -/
inductive Await where
  | stmt (e : Stmt)
  | other (e : Effect)

abbrev Await.Response : Await → Type
  | stmt e => e.Response
  | other e => e.Response

/-- A store operation is its program, and any other effect is itself. -/
def lower (app : App) : (e : Effect) → Prog Await.Response e.Response
  | .store op => (program app.fingerprint .postgres op).translate fun e => perform (Await.stmt e)
  | e => perform (Await.other e)

/-- Each statement is answered on its own, at the moment it is executed. -/
def react (app : App) (s : Shared) : (e : Await) → Choice → Option (Shared × e.Response)
  | .stmt e, .draw d =>
    let (s', r) := exec .postgres d 0 (Session.on s.ledger) e
    some ({ s with ledger := s'.ledger }, r)
  | .stmt _, _ => none
  | .other (.store _), _ => none
  | .other e, c => Gateway.react .postgres app s e c

def setting (app : App) : Setting Await.Response Origin Reply Shared Choice where
  body := fun o => (body app o).translate (lower app)
  react := react app

abbrev SqlWorld := World Await.Response Origin Reply Shared

def start (apiKeys : List ApiKeyRow) : SqlWorld := ⟨Shared.start apiKeys, []⟩

abbrev Record := History Await.Response

variable {app : App} {s s' : Shared} {c : Choice}

/-- A statement is answered by what its draw makes of the tables. -/
theorem react_stmt {e : Stmt} {r : e.Response}
    (reacted : react app s (.stmt e) c = some (s', r)) :
    ∃ d, s'.ledger = (exec .postgres d 0 (Session.on s.ledger) e).1.ledger ∧
      r = (exec .postgres d 0 (Session.on s.ledger) e).2 := by
  cases c with
  | draw d =>
    simp only [react, Option.some.injEq, Prod.mk.injEq] at reacted
    exact ⟨d, by rw [← reacted.1], reacted.2.symm⟩
  | _ => simp [react] at reacted

/-- Only a statement changes the tables. -/
theorem react_rest {e : Effect} {r : e.Response}
    (reacted : react app s (.other e) c = some (s', r)) : s'.ledger = s.ledger := by
  cases e with
  | store op => cases reacted
  | _ => exact react_other reacted (by simp)

end World

section Contract

/-- The payment an answer shows, and its status. -/
def seen : Event Await.Response → Option (Text PaymentId × Text PaymentStatus)
  | ⟨.stmt (.write (.insertPayment row)), .ok _⟩ => some (row.id, row.status)
  | ⟨.stmt (.selectPayment id), .ok (some row)⟩ => some (.stored id, row.status)
  | ⟨.stmt (.selectByProviderReference _ _), .ok (some row)⟩ => some (row.id, row.status)
  | _ => none

def seenOf (id : Text PaymentId) (ev : Event Await.Response) : Option (Text PaymentStatus) :=
  match seen ev with
  | some (other, status) => if other = id then some status else none
  | none => none

/-- The status the task was last shown of the payment. -/
def latest (id : Text PaymentId) (h : Record) : Option (Text PaymentStatus) :=
  h.findSome? (seenOf id)

def Refundable (s : PaymentStatus) : Prop := s = .succeeded ∨ s = .partiallyRefunded

/-- What a task was shown before it writes a status. -/
def Justified (h : Record) : Await → Prop
  | .other (.store _) => False
  | .stmt (.write (.updatePayment id _ edit)) => ∀ t, edit.status = some t →
    ∃ s, latest id h = some (.stored s) ∧ PaymentStatus.Legal s t
  | .stmt (.transaction ws) => ∃ refund t now,
    ws = [.insertRefund (RefundRecord.toRow refund),
      .updatePayment (.stored refund.paymentId) false (refundEdit t now)] ∧
    (t = .refunded ∨ t = .partiallyRefunded) ∧
    ∃ ev ∈ h, ∃ s, seen ev = some (.stored refund.paymentId, .stored s) ∧ Refundable s
  | _ => True

variable {app : App} {h : Record}

theorem latest_unseen {id : Text PaymentId} {ev : Event Await.Response} (unseen : seen ev = none) :
    latest id (ev :: h) = latest id h := by
  simp [latest, seenOf, unseen]

theorem latest_seen {id : Text PaymentId} {status : Text PaymentStatus} {ev : Event Await.Response}
    (shown : seen ev = some (id, status)) : latest id (ev :: h) = some status := by
  simp [latest, seenOf, shown]

/-- The program of an operation, over the statements. -/
abbrev lowered {α : Type} (p : Sql α) : Prog Await.Response α :=
  p.translate fun e => perform (Await.stmt e)

abbrev Keeps {α : Type} (p : Sql α) (h : Record) : Prop :=
  Always Justified (fun _ _ => True) (lowered p) h

theorem keeps_updateStatusOnly {id : PaymentId} {s t : PaymentStatus}
    (shown : latest (.stored id) h = some (.stored s)) (legal : PaymentStatus.Legal s t) :
    Keeps (PostgresStore.updateStatusOnly id t) h := by
  refine ⟨trivial, fun now => ⟨?_, fun r => ?_⟩⟩
  · intro t' sets
    cases sets
    exact ⟨s, shown, legal⟩
  · cases r <;> trivial

theorem keeps_recordCreationResult {id : PaymentId} {reference : String} {s t : PaymentStatus}
    {action : Option PaymentNextAction} (shown : latest (.stored id) h = some (.stored s))
    (legal : PaymentStatus.Legal s t) :
    Keeps (PostgresStore.recordCreationResult id reference t action) h := by
  refine ⟨trivial, fun now => ⟨?_, fun r => ?_⟩⟩
  · intro t' sets
    cases sets
    exact ⟨s, shown, legal⟩
  · cases r <;> trivial

theorem keeps_bind {α β : Type} {p : Sql α} {f : α → Sql β} (first : Keeps p h)
    (rest : ∀ h' a, Keeps (f a) h') : Keeps (p >>= f) h := by
  unfold Keeps lowered
  rw [translate_bind]
  exact always_bind _ _ first fun h' a _ _ => rest h' a

theorem keeps_applyReconciliationResult (id : PaymentId) (t : PaymentStatus) :
    Keeps (PostgresStore.applyReconciliationResult id t) h := by
  simp only [Keeps, lowered, PostgresStore.applyReconciliationResult, PaymentStore.getPayment,
    Sql.selectPayment, perform_bind, call_bind, translate_call, always_call]
  refine ⟨trivial, fun r => ?_⟩
  cases r with
  | error e => trivial
  | ok found =>
    cases found with
    | none => trivial
    | some row =>
      simp only [pure_eq, done_bind, readPayment]
      cases parsed : row.toPayment with
      | none => trivial
      | some payment =>
        simp only
        cases judged : payment.status.validateTransition t with
        | error illegal => trivial
        | ok legal =>
          have shown : latest (.stored id) (⟨.stmt (.selectPayment id), .ok (some row)⟩ :: h) =
              some (.stored payment.status) := by
            rw [← (readFrom_of_toPayment parsed).status]
            exact latest_seen rfl
          apply keeps_bind (keeps_updateStatusOnly shown judged)
          intro h' r
          cases r <;> trivial

theorem keeps_applyWebhookEvent (event : WebhookReport) :
    Keeps (PostgresStore.applyWebhookEvent event) h := by
  simp only [Keeps, lowered, PostgresStore.applyWebhookEvent, Sql.selectByProviderReference,
    Sql.now, Sql.write, perform_bind, translate_call, always_call]
  refine ⟨trivial, fun r => ?_⟩
  cases r with
  | error e => trivial
  | ok found =>
    cases found with
    | none => trivial
    | some row =>
      refine ⟨trivial, fun received => ⟨trivial, fun inserted => ?_⟩⟩
      cases inserted with
      | error e => cases e <;> trivial
      | ok count =>
        simp only
        cases parsed : row.status.parse with
        | none => trivial
        | some current =>
          simp only
          split
          · trivial
          · cases judged : current.validateTransition event.reportedStatus with
            | error illegal => trivial
            | ok legal =>
              refine ⟨trivial, fun now => ⟨?_, fun r => ?_⟩⟩
              · intro t sets
                cases sets
                refine ⟨current, ?_, judged⟩
                rw [← Text.parse_eq_some.mp parsed, latest_unseen rfl, latest_unseen rfl,
                  latest_unseen rfl]
                exact latest_seen rfl
              · cases r with
                | error e => trivial
                | ok count =>
                  simp only
                  cases row.id.parse <;> trivial

theorem keeps_recordRefund {refund : RefundRecord} {s t : PaymentStatus}
    {ev : Event Await.Response} (mem : ev ∈ h)
    (shown : seen ev = some (.stored refund.paymentId, .stored s)) (refundable : Refundable s)
    (kind : t = .refunded ∨ t = .partiallyRefunded) :
    Keeps (PostgresStore.recordRefund refund t) h := by
  refine ⟨trivial, fun now => ⟨?_, fun r => ?_⟩⟩
  · exact ⟨refund, t, now, rfl, kind, ev, List.mem_cons_of_mem _ mem, s, shown, refundable⟩
  · cases r <;> trivial

end Contract

section Bodies

variable {app : App} {o : Origin} {past : Past} {h : Record} {id : PaymentId}

/-- A payment whose creation is answered was claimed just before. -/
theorem created_begun {r : Except Errors.OpenWrapperError PaymentResult}
    (created : Created past id r) (sound : Sound (Licensed app o) past) :
    ∃ p request owner rest, past = ⟨.createPayment p id request, r⟩ ::
      told (.beginPaymentWithOwner request owner) (.proceed id) :: rest := by
  obtain ⟨p, request, rest, rfl⟩ := created
  obtain ⟨⟨⟨owner, earlier, rfl⟩, -⟩, -⟩ := sound
  exact ⟨p, request, owner, earlier, rfl⟩

theorem runs_begun {request : PaymentRequest} {owner : Option ApiKeyInfo} {part : Record}
    (ran : Runs (lower app (.store (.beginPaymentWithOwner request owner))) part
      (.ok (.proceed id))) :
    ∃ count now, part = [⟨.stmt (.write (.insertPayment
      (newRow app.fingerprint request owner id now))), .ok count⟩, ⟨.stmt .now, now⟩,
      ⟨.stmt .newPaymentId, id⟩] := by
  simp only [lower, program, PaymentStore.beginPaymentWithOwner, Sql.newPaymentId, Sql.now,
    Sql.write, Sql.selectByKey, perform_bind, translate_call] at ran
  obtain ⟨id', rest₁, rfl, drawn⟩ := runs_call ran
  obtain ⟨now, rest₂, rfl, timed⟩ := runs_call drawn
  obtain ⟨r, rest₃, rfl, inserted⟩ := runs_call timed
  cases r with
  | ok count =>
    obtain ⟨rfl, same⟩ := runs_done inserted
    cases same
    exact ⟨count, now, rfl⟩
  | error e =>
    cases e with
    | failed =>
      obtain ⟨-, same⟩ := runs_done inserted
      cases same
    | constraint =>
      obtain ⟨found, rest₄, rfl, answered⟩ := runs_call inserted
      cases found with
      | error e =>
        obtain ⟨-, same⟩ := runs_done answered
        cases same
      | ok row =>
        cases row with
        | none =>
          obtain ⟨-, same⟩ := runs_done answered
          cases same
        | some row =>
          simp only [bind_eq, done_bind] at answered
          cases parsed : row.toPayment with
          | none =>
            simp only [parsed] at answered
            obtain ⟨-, same⟩ := runs_done answered
            cases same
          | some payment =>
            simp only [parsed] at answered
            split at answered
            · obtain ⟨-, same⟩ := runs_done answered
              cases same
            · obtain ⟨-, same⟩ := runs_done answered
              cases same

theorem runs_read {payment : Payment} {part : Record}
    (ran : Runs (lower app (.store (.getPayment id))) part (.ok (some payment))) :
    ∃ row, row.toPayment = some payment ∧
      part = [⟨.stmt (.selectPayment id), .ok (some row)⟩] := by
  simp only [lower, program, PaymentStore.getPayment, Sql.selectPayment, perform_bind,
    translate_call] at ran
  obtain ⟨found, rest, rfl, answered⟩ := runs_call ran
  cases found with
  | error e =>
    obtain ⟨-, same⟩ := runs_done answered
    cases same
  | ok row =>
    obtain ⟨rfl, same⟩ := runs_done answered
    cases row with
    | none => cases same
    | some row =>
      simp only [readPayment] at same
      cases parsed : row.toPayment with
      | none =>
        rw [parsed] at same
        cases same
      | some read =>
        rw [parsed] at same
        cases same
        exact ⟨row, parsed, rfl⟩

/-- The claim of a created payment is the last the task was shown of it. -/
theorem latest_created {r : Except Errors.OpenWrapperError PaymentResult}
    (created : Created past id r) (sound : Sound (Licensed app o) past)
    (lowers : Lowers (lower app) past h) : latest (.stored id) h = some (.stored .pending) := by
  obtain ⟨p, request, owner, rest, rfl⟩ := created_begun created sound
  obtain ⟨part, h₁, rfl, lowers₁, ran⟩ := lowers_cons lowers
  obtain ⟨part₁, h₂, rfl, -, begun⟩ := lowers_cons lowers₁
  have asked : part = [⟨.other (.createPayment p id request), r⟩] := runs_perform ran
  obtain ⟨count, now, is⟩ := runs_begun begun
  rw [asked, is]
  exact (latest_unseen rfl).trans (latest_seen rfl)

/-- A refund that the provider answered is of a payment that was read. -/
theorem shown_refundable {record : RefundRecord} {t : PaymentStatus}
    (answered : RefundAnswered past record t) (lowers : Lowers (lower app) past h) :
    (t = .refunded ∨ t = .partiallyRefunded) ∧ ∃ ev ∈ h, ∃ s,
      seen ev = some (.stored record.paymentId, .stored s) ∧ Refundable s := by
  obtain ⟨now, generated, p, payment, reference, result, previously, rest, rfl, checked, -, -,
    status⟩ := answered.answered
  obtain ⟨earlier, rfl⟩ := checked.read
  obtain ⟨part₁, h₁, rfl, lowers₁, -⟩ := lowers_cons lowers
  obtain ⟨part₂, h₂, rfl, lowers₂, -⟩ := lowers_cons lowers₁
  obtain ⟨part₃, h₃, rfl, lowers₃, -⟩ := lowers_cons lowers₂
  obtain ⟨part₄, h₄, rfl, lowers₄, -⟩ := lowers_cons lowers₃
  obtain ⟨part₅, h₅, rfl, -, ran⟩ := lowers_cons lowers₄
  obtain ⟨row, parsed, rfl⟩ := runs_read ran
  constructor
  · rw [status]
    exact Handlers.statusAfterRefund_cases _ _ _
  · refine ⟨⟨.stmt (.selectPayment record.paymentId), .ok (some row)⟩, by simp, payment.status, ?_,
      checked.refundable⟩
    rw [← (readFrom_of_toPayment parsed).status]
    rfl

theorem keeps_begin {request : PaymentRequest} {owner : Option ApiKeyInfo} :
    Keeps (PaymentStore.beginPaymentWithOwner app.fingerprint request owner) h := by
  refine ⟨trivial, fun id => ⟨trivial, fun now => ⟨trivial, fun r => ?_⟩⟩⟩
  cases r with
  | ok count => trivial
  | error e =>
    cases e with
    | failed => trivial
    | constraint =>
      refine ⟨trivial, fun found => ?_⟩
      cases found with
      | error e => trivial
      | ok row =>
        cases row with
        | none => trivial
        | some row =>
          simp only [bind_eq, done_bind]
          cases parsed : row.toPayment with
          | none => trivial
          | some payment =>
            simp only
            split <;> trivial

/-- Each effect is carried out within the contract of the statements. -/
theorem lower_justified {e : Effect} (licensed : Licensed app o past e)
    (sound : Sound (Licensed app o) past) (lowers : Lowers (lower app) past h) :
    Always Justified (fun _ _ => True) (lower app e) h := by
  cases e with
  | store op =>
    cases op with
    | beginPaymentWithOwner request owner => exact keeps_begin
    | recordCreationResult id reference status action =>
      obtain ⟨result, created, -, rfl, -⟩ := licensed
      apply keeps_recordCreationResult (latest_created created sound lowers)
      cases result.status <;> rfl
    | applyWebhookEvent event => exact keeps_applyWebhookEvent event
    | markTerminalWithoutProviderReference id status =>
      obtain ⟨rfl, e, created, -⟩ := licensed
      exact keeps_updateStatusOnly (latest_created created sound lowers) rfl
    | markUnknown id =>
      obtain ⟨e, created, -⟩ := licensed
      exact keeps_updateStatusOnly (latest_created created sound lowers) rfl
    | applyReconciliationResult id t => exact keeps_applyReconciliationResult id t
    | recordRefund record t =>
      obtain ⟨kind, ev, mem, s, shown, refundable⟩ := shown_refundable licensed lowers
      exact keeps_recordRefund mem shown refundable kind
    | getPayment id =>
      refine ⟨trivial, fun r => ?_⟩
      cases r <;> trivial
    | findPaymentByReference reference =>
      refine ⟨trivial, fun r => ?_⟩
      cases r <;> trivial
    | getNextAction id =>
      refine ⟨trivial, fun r => ?_⟩
      cases r with
      | error e => trivial
      | ok row =>
        simp only [bind_eq, done_bind]
        cases row.bind PaymentRow.nextActionJson with
        | none => trivial
        | some text => cases text <;> trivial
    | listStaleUnknownPayments minAge limit =>
      refine ⟨trivial, fun now => ⟨trivial, fun r => ?_⟩⟩
      cases r with
      | error e => trivial
      | ok rows =>
        simp only [bind_eq, done_bind]
        cases collect PaymentRow.toPayment rows <;> trivial
    | touchReconciliationAttempt id =>
      refine ⟨trivial, fun now => ⟨fun t sets => ?_, fun r => ?_⟩⟩
      · cases sets
      · cases r <;> trivial
    | getTotalRefundedMinorUnits id =>
      refine ⟨trivial, fun r => ?_⟩
      cases r <;> trivial
    | listRefundsForPayment id =>
      refine ⟨trivial, fun r => ?_⟩
      cases r with
      | error e => trivial
      | ok rows =>
        simp only [bind_eq, done_bind]
        cases collect toRefundRecord rows <;> trivial
  | _ => exact ⟨trivial, fun _ => trivial⟩

theorem body_justified (app : App) (o : Origin) :
    Always Justified (fun _ _ => True) ((setting app).body o) [] := by
  have licensed := always_sound (body_always app o) trivial
  have lowered_ := always_translate licensed (Lowers.nil (f := lower app)) fun past h e license
    lowers => lower_justified license.1 license.2 lowers
  exact lowered_.mono (fun _ _ held => held) fun _ _ _ => trivial

end Bodies


end OpenWrapper.StatementRuns
