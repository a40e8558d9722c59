import OpenWrapper.StatementLedger

/-! # Where a status comes from

A status other than `Pending` stands in a row because a provider said so of
this payment: in answer to a call the gateway made under the reference of the
row, or in a delivery whose signature was verified. The proof follows the word
from the task that heard it, through the queues, to the statement that stores
it. -/

set_option autoImplicit false

namespace OpenWrapper.StatusProvenance
open OpenWrapper.Ids OpenWrapper.Errors OpenWrapper.Payments OpenWrapper.Schema
open OpenWrapper.ConstraintTable OpenWrapper.PaymentStore OpenWrapper.Providers
open OpenWrapper.Effects OpenWrapper.Gateway OpenWrapper.Contracts OpenWrapper.Evolution
open OpenWrapper.StatementRules OpenWrapper.SqliteLedger OpenWrapper.StatementRuns
open OpenWrapper.IssuedStatements OpenWrapper.StatementLedger OpenWrapper.Lowerings
open OpenWrapper.Suspended OpenWrapper.Suspended.Prog OpenWrapper.Interleaving

section Shown

/-- The rows an answer shows. -/
def rowsOf : Event Await.Response → List PaymentRow
  | ⟨.stmt (.selectPayment _), .ok (some row)⟩ => [row]
  | ⟨.stmt (.selectByKey _), .ok (some row)⟩ => [row]
  | ⟨.stmt (.selectByProviderReference _ _), .ok (some row)⟩ => [row]
  | ⟨.stmt (.selectByReference _), .ok (some row)⟩ => [row]
  | ⟨.stmt (.selectStale _ _), .ok rows⟩ => rows
  | _ => []

/-- The task was shown a row that this payment can be read from. -/
def Shows (h : Record) (payment : Payment) : Prop :=
  ∃ ev ∈ h, ∃ row ∈ rowsOf ev, row.toPayment = some payment

variable {app : App} {o : Origin} {past : Past} {h h' : Record}

theorem shows_cons {ev : Event Await.Response} {row : PaymentRow} {payment : Payment}
    (mem : row ∈ rowsOf ev) (parsed : row.toPayment = some payment) : Shows (ev :: h) payment :=
  ⟨ev, List.mem_cons_self, row, mem, parsed⟩

/-- What an answer hands out was shown on the way to it. -/
def HandsOut (op : StoreOp) (h : Record) (r : op.Result) : Prop :=
  ∀ payment ∈ handedOut ⟨.store op, r⟩, Shows h payment

theorem handsOut_none {op : StoreOp} {r : op.Result} (silent : handedOut ⟨.store op, r⟩ = []) :
    HandsOut op h r := by
  intro payment mem
  rw [silent] at mem
  cases mem

theorem collect_mem {rows : List PaymentRow} {payments : List Payment}
    (collected : collect PaymentRow.toPayment rows = some payments) :
    ∀ payment ∈ payments, ∃ row ∈ rows, row.toPayment = some payment := by
  induction rows generalizing payments with
  | nil =>
    cases collected
    simp
  | cons row rows ih =>
    simp only [collect] at collected
    split at collected
    next first rest parsed collected' =>
      cases collected
      intro payment mem
      rcases List.mem_cons.mp mem with rfl | later
      · exact ⟨row, List.mem_cons_self, parsed⟩
      · obtain ⟨row', mem', parsed'⟩ := ih collected' payment later
        exact ⟨row', List.mem_cons_of_mem _ mem', parsed'⟩
    · cases collected

theorem begin_handsOut (request : PaymentRequest) (owner : Option ApiKeyInfo) :
    Always (fun _ _ => True) (HandsOut (.beginPaymentWithOwner request owner))
      (lowered (PaymentStore.beginPaymentWithOwner app.fingerprint request owner)) h := by
  refine ⟨trivial, fun id => ⟨trivial, fun now => ⟨trivial, fun r => ?_⟩⟩⟩
  cases r with
  | ok count => exact handsOut_none rfl
  | error e =>
    cases e with
    | failed => exact handsOut_none rfl
    | constraint =>
      refine ⟨trivial, fun found => ?_⟩
      cases found with
      | error e => exact handsOut_none rfl
      | ok row =>
        cases row with
        | none => exact handsOut_none rfl
        | some row =>
          simp only [bind_eq, done_bind]
          cases parsed : row.toPayment with
          | none => exact handsOut_none rfl
          | some payment =>
            simp only
            split
            · intro handed mem
              cases List.mem_singleton.mp mem
              exact shows_cons List.mem_cons_self parsed
            · exact handsOut_none rfl

theorem stale_handsOut (minAge limit : ℤ) :
    Always (fun _ _ => True) (HandsOut (.listStaleUnknownPayments minAge limit))
      (lowered (PaymentStore.listStaleUnknownPayments minAge limit)) h := by
  refine ⟨trivial, fun now => ⟨trivial, fun r => ?_⟩⟩
  cases r with
  | error e => exact handsOut_none rfl
  | ok rows =>
    simp only [bind_eq, done_bind]
    cases collected : collect PaymentRow.toPayment rows with
    | none => exact handsOut_none rfl
    | some payments =>
      intro payment mem
      obtain ⟨row, shown, parsed⟩ := collect_mem collected payment mem
      exact ⟨_, List.mem_cons_self, row, shown, parsed⟩

theorem program_handsOut (op : StoreOp) :
    Always (fun _ _ => True) (HandsOut op) (lower app (.store op)) h := by
  cases op with
  | beginPaymentWithOwner request owner => exact begin_handsOut request owner
  | getPayment id =>
    refine ⟨trivial, fun r => ?_⟩
    cases r with
    | error e => exact handsOut_none rfl
    | ok row =>
      cases row with
      | none => exact handsOut_none rfl
      | some row =>
        cases parsed : row.toPayment with
        | none => exact handsOut_none (by simp [readPayment, parsed, handedOut])
        | some payment =>
          intro handed mem
          simp only [readPayment, parsed, handedOut, List.mem_singleton] at mem
          rw [mem]
          exact shows_cons List.mem_cons_self parsed
  | findPaymentByReference reference =>
    refine ⟨trivial, fun r => ?_⟩
    cases r with
    | error e => exact handsOut_none rfl
    | ok row =>
      cases row with
      | none => exact handsOut_none rfl
      | some row =>
        cases parsed : row.toPayment with
        | none => exact handsOut_none (by simp [readPayment, parsed, handedOut])
        | some payment =>
          intro handed mem
          simp only [readPayment, parsed, handedOut, List.mem_singleton] at mem
          rw [mem]
          exact shows_cons List.mem_cons_self parsed
  | listStaleUnknownPayments minAge limit => exact stale_handsOut minAge limit
  | _ => exact (always_true _ _).mono (fun _ _ _ => trivial) fun _ _ _ => handsOut_none rfl

/-- What is not the store's is said in both histories. -/
theorem said_of_mem (lowers : Lowers (lower app) past h) {e : Effect} {r : e.Response}
    (mem : (⟨e, r⟩ : GwEvent) ∈ past) (other : ∀ op, e ≠ .store op) :
    (⟨.other e, r⟩ : Event Await.Response) ∈ h := by
  obtain ⟨part, ran, inside⟩ := lowers_mem lowers _ mem
  have asked : part = [⟨.other e, r⟩] := by
    cases e with
    | store op => exact absurd rfl (other op)
    | _ => exact runs_perform ran
  rw [asked] at inside
  exact inside List.mem_cons_self

/-- A payment a task holds was shown to it. -/
theorem shows_of_holds (lowers : Lowers (lower app) past h) {payment : Payment}
    (holds : Holds past payment) : Shows h payment := by
  obtain ⟨⟨e, r⟩, mem, handed⟩ := holds
  cases e with
  | store op =>
    obtain ⟨part, ran, inside⟩ := lowers_mem lowers _ mem
    have shown := ran.answers (program_handsOut (h := []) op)
    obtain ⟨ev, known, row, mem', parsed⟩ := shown payment handed
    rw [List.append_nil] at known
    exact ⟨ev, inside known, row, mem', parsed⟩
  | _ => cases handed

end Shown

section Grounds

/-- The payment and the reference are those of a row the task was shown, or of
a message it received. -/
def Names (h : Record) (id : Text PaymentId) (reference : String) : Prop :=
  (∃ ev ∈ h, ∃ row ∈ rowsOf ev, row.id = id ∧ row.providerReference = some reference) ∨
    ∃ d : Delivery ReconcileQueueMessage, (⟨.other .receiveReconcile, d⟩ : Event Await.Response) ∈
      h ∧ d.message.paymentId = id ∧ d.message.providerReference = reference

/-- The task was started with a delivery that verifies to the event, or took
the event from the queue. -/
def Carries (app : App) (o : Origin) (h : Record) (name : String) (event : WebhookEvent) : Prop :=
  Verified app o name event ∨ ∃ d : Delivery WebhookQueueMessage,
    (⟨.other .receiveWebhook, d⟩ : Event Await.Response) ∈ h ∧ d.message = ⟨name, event⟩

/-- The task has the word of a provider that the payment has this status. -/
inductive Grounds (app : App) (o : Origin) (h : Record) : Text PaymentId → PaymentStatus → Prop
  | refused (p : Provider) (id : PaymentId) (request : PaymentRequest) (e : OpenWrapperError) :
      (⟨.other (.createPayment p id request), .error e⟩ : Event Await.Response) ∈ h →
      e.isDefiniteNonOccurrence = true → Grounds app o h (.stored id) .failed
  | doubtful (p : Provider) (id : PaymentId) (request : PaymentRequest) (e : OpenWrapperError) :
      (⟨.other (.createPayment p id request), .error e⟩ : Event Await.Response) ∈ h →
      e.isDefiniteNonOccurrence = false → Grounds app o h (.stored id) .unknown
  | inquired (p : Provider) (id : PaymentId) (reference : String) (s : PaymentStatus) :
      (⟨.other (.inquireStatus p (.stored id) reference), .ok s⟩ : Event Await.Response) ∈ h →
      Names h (.stored id) reference → Grounds app o h (.stored id) s
  | reported (name : String) (event : WebhookEvent) (provider : ProviderId) (row : PaymentRow) :
      Carries app o h name event → ProviderId.parse name = .ok provider →
      (⟨.stmt (.selectByProviderReference provider event.providerReference), .ok (some row)⟩ :
        Event Await.Response) ∈ h → Grounds app o h row.id event.reportedStatus
  | refunded (p : Provider) (asked id : PaymentId) (reference : String) (amount : ℤ)
      (reason : Option String) (result : RefundResult) (s : PaymentStatus) (row : PaymentRow) :
      (⟨.other (.refund p id reference amount reason), .ok result⟩ : Event Await.Response) ∈ h →
      (⟨.stmt (.selectPayment asked), .ok (some row)⟩ : Event Await.Response) ∈ h →
      row.id = .stored id → row.providerReference = some reference →
      s = .refunded ∨ s = .partiallyRefunded → Grounds app o h (.stored asked) s

/-- A provider answered the creation of the payment with this status and this
reference. -/
def Created (h : Record) (target : Text PaymentId) (reference : Option String)
    (s : PaymentStatus) : Prop :=
  ∃ p id request result, (⟨.other (.createPayment p id request), .ok result⟩ :
    Event Await.Response) ∈ h ∧ target = .stored id ∧ reference = some result.providerReference ∧
    s = result.status.toStatus

/-- A status is written with the reference of its creation, or on grounds and
without one. -/
def Supported (app : App) (o : Origin) (h : Record) (target : Text PaymentId)
    (edit : PaymentEdit) : Prop :=
  ∀ s, edit.status = some s → Created h target edit.providerReference s ∨
    edit.providerReference = none ∧ Grounds app o h target s

def Backed (app : App) (o : Origin) (h : Record) : Await → Prop
  | .stmt (.write (.insertPayment row)) => row.status = .stored .pending
  | .stmt (.write (.updatePayment target _ edit)) => Supported app o h target edit
  | .stmt (.transaction ws) => ∃ refund target guarded edit,
    ws = [.insertRefund refund, .updatePayment target guarded edit] ∧
    Supported app o h target edit
  | .other (.publishWebhook m) => Carries app o h m.provider m.event
  | .other (.publishReconcile m) => Names h m.paymentId m.providerReference
  | _ => True

variable {app : App} {o : Origin} {past : Past} {h h' : Record}

theorem Names.weaken {id : Text PaymentId} {reference : String} (names : Names h id reference)
    (inside : h ⊆ h') : Names h' id reference := by
  rcases names with ⟨ev, mem, row, shown, is⟩ | ⟨d, mem, is⟩
  · exact .inl ⟨ev, inside mem, row, shown, is⟩
  · exact .inr ⟨d, inside mem, is⟩

theorem Carries.weaken {name : String} {event : WebhookEvent} (carries : Carries app o h name event)
    (inside : h ⊆ h') : Carries app o h' name event := by
  rcases carries with verified | ⟨d, mem, is⟩
  · exact .inl verified
  · exact .inr ⟨d, inside mem, is⟩

theorem Grounds.weaken {id : Text PaymentId} {s : PaymentStatus}
    (grounds : Grounds app o h id s) (inside : h ⊆ h') : Grounds app o h' id s := by
  cases grounds with
  | refused p id request e said definite => exact .refused p id request e (inside said) definite
  | doubtful p id request e said open_ => exact .doubtful p id request e (inside said) open_
  | inquired p id reference s said names =>
    exact .inquired p id reference s (inside said) (names.weaken inside)
  | reported name event provider row carries parsed shown =>
    exact .reported name event provider row (carries.weaken inside) parsed (inside shown)
  | refunded p asked id reference amount reason result s row said shown is named kind =>
    exact .refunded p asked id reference amount reason result s row (inside said) (inside shown) is
      named kind

theorem backed_of_updates {id : Text PaymentId} {guarded : Bool} {edit : Instant → PaymentEdit}
    {e : Stmt} (writes : Updates id guarded edit e)
    (supported : ∀ now, Supported app o h id (edit now)) : Backed app o h (.stmt e) := by
  unfold Updates at writes
  split at writes
  · obtain ⟨now, rfl⟩ := writes
    exact supported now
  · cases writes

theorem supported_statusEdit {id : Text PaymentId} {s : PaymentStatus}
    (grounds : Grounds app o h id s) (now : Instant) :
    Supported app o h id (statusEdit s now) := by
  intro t sets
  cases sets
  exact .inr ⟨rfl, grounds⟩

/-- An inquiry is made under the reference of a payment that was read. -/
theorem names_of_inquiry {p : Provider} {id : PaymentId} {reference : String}
    (licensed : Licensed app o past (.inquireStatus p (.stored id) reference))
    (lowers : Lowers (lower app) past h) : Names h (.stored id) reference := by
  rcases licensed with ⟨held, holds, is, named, -⟩ | ⟨d, mem, is, named, -⟩
  · obtain ⟨ev, known, row, shown, parsed⟩ := shows_of_holds lowers holds
    have read := readFrom_of_toPayment parsed
    refine .inl ⟨ev, known, row, shown, ?_, read.providerReference.trans named⟩
    rw [read.id, is]
  · exact .inr ⟨d, said_of_mem lowers mem (by simp), is.symm, named.symm⟩

theorem names_of_published {m : ReconcileQueueMessage}
    (licensed : Licensed app o past (.publishReconcile m)) (lowers : Lowers (lower app) past h) :
    Names h m.paymentId m.providerReference := by
  rcases licensed with ⟨held, reference, holds, named, rfl⟩ | ⟨d, mem, attempt, rfl⟩
  · obtain ⟨ev, known, row, shown, parsed⟩ := shows_of_holds lowers holds
    have read := readFrom_of_toPayment parsed
    exact .inl ⟨ev, known, row, shown, read.id, read.providerReference.trans named⟩
  · exact .inr ⟨d, said_of_mem lowers mem (by simp), rfl, rfl⟩

theorem said_of_created {id : PaymentId} {r : Except OpenWrapperError PaymentResult}
    (created : Contracts.Created past id r) (lowers : Lowers (lower app) past h) : ∃ p request,
      (⟨.other (.createPayment p id request), r⟩ : Event Await.Response) ∈ h := by
  obtain ⟨p, request, rest, rfl⟩ := created
  exact ⟨p, request, said_of_mem lowers List.mem_cons_self (by simp)⟩

theorem grounds_of_refund {record : RefundRecord} {t : PaymentStatus}
    (answered : RefundAnswered past record t) (lowers : Lowers (lower app) past h) :
    Grounds app o h (.stored record.paymentId) t := by
  obtain ⟨now, generated, p, payment, reference, result, previously, rest, rfl, checked, named, -,
    status⟩ := answered.answered
  obtain ⟨earlier, rfl⟩ := checked.read
  have said := said_of_mem lowers (e := .refund p payment.id reference record.amountMinorUnits
    record.reason) (r := .ok result) (by simp) (by simp)
  obtain ⟨part, ran, inside⟩ := lowers_mem lowers
    (told (.getPayment record.paymentId) (some payment)) (by simp)
  obtain ⟨row, parsed, rfl⟩ := runs_read ran
  have read := readFrom_of_toPayment parsed
  refine .refunded p record.paymentId payment.id reference _ _ result t row said
    (inside List.mem_cons_self) read.id (read.providerReference.trans named) ?_
  rw [status]
  exact Handlers.statusAfterRefund_cases _ _ _

/-- What an operation writes has grounds in what the task was told. -/
theorem backed_of_issues {op : StoreOp} {e : Stmt} (issues : Issues app.fingerprint op e)
    (licensed : Licensed app o past (.store op)) (sound : Sound (Licensed app o) past)
    (lowers : Lowers (lower app) past h) (inside : h ⊆ h')
    (other : ∀ event, op ≠ .applyWebhookEvent event) : Backed app o h' (.stmt e) := by
  rcases issues with reads | writes
  · cases e <;> trivial
  · cases op with
    | beginPaymentWithOwner request owner =>
      obtain ⟨id, now, rfl⟩ := writes
      rfl
    | recordCreationResult id reference status action =>
      obtain ⟨result, created, rfl, rfl, -⟩ := licensed
      obtain ⟨p, request, said⟩ := said_of_created created lowers
      apply backed_of_updates writes
      intro now s sets
      cases sets
      exact .inl ⟨p, id, request, result, inside said, rfl, rfl, rfl⟩
    | applyWebhookEvent event => exact absurd rfl (other event)
    | markTerminalWithoutProviderReference id status =>
      obtain ⟨rfl, e, created, definite⟩ := licensed
      obtain ⟨p, request, said⟩ := said_of_created created lowers
      exact backed_of_updates writes
        (supported_statusEdit (.refused p id request e (inside said) definite))
    | markUnknown id =>
      obtain ⟨e, created, open_⟩ := licensed
      obtain ⟨p, request, said⟩ := said_of_created created lowers
      exact backed_of_updates writes
        (supported_statusEdit (.doubtful p id request e (inside said) open_))
    | applyReconciliationResult id t =>
      obtain ⟨-, p, reference, rest, rfl⟩ := licensed
      have said := said_of_mem lowers List.mem_cons_self (by simp)
      obtain ⟨part, h₁, rfl, lowers₁, -⟩ := lowers_cons lowers
      have names := (names_of_inquiry sound.1 lowers₁).weaken (List.subset_append_right part h₁)
      exact backed_of_updates writes (supported_statusEdit
        (.inquired p id reference t (inside said) (names.weaken inside)))
    | touchReconciliationAttempt id =>
      apply backed_of_updates writes
      intro now s sets
      cases sets
    | recordRefund record t =>
      obtain ⟨now, rfl⟩ := writes
      refine ⟨_, _, _, _, rfl, fun s sets => ?_⟩
      cases sets
      exact .inr ⟨rfl, (grounds_of_refund licensed lowers).weaken inside⟩
    | _ => cases writes

theorem backed_applyWebhookEvent {name : String} {event : WebhookEvent} {provider : ProviderId}
    (carries : Carries app o h name event) (parsed : ProviderId.parse name = .ok provider)
    {report : WebhookReport} (is : report = Handlers.WebhookEvent.report event provider) :
    Always (Backed app o) (fun _ _ => True) (lowered (PostgresStore.applyWebhookEvent report))
      h := by
  simp only [lowered, PostgresStore.applyWebhookEvent, Sql.selectByProviderReference, Sql.now,
    Sql.write, perform_bind, translate_call, always_call]
  refine ⟨trivial, fun r => ?_⟩
  cases r with
  | error e => trivial
  | ok found =>
    cases found with
    | none => trivial
    | some row =>
      refine ⟨trivial, fun received => ⟨trivial, fun inserted => ?_⟩⟩
      cases inserted with
      | error e => cases e <;> trivial
      | ok count =>
        simp only
        cases row.status.parse with
        | none => trivial
        | some current =>
          simp only
          split
          · trivial
          · cases current.validateTransition report.reportedStatus with
            | error illegal => trivial
            | ok legal =>
              refine ⟨trivial, fun now => ⟨?_, fun r => ?_⟩⟩
              · rw [is]
                apply supported_statusEdit
                exact .reported name event provider row (carries.weaken fun ev mem => by simp [mem])
                  parsed (by simp [Handlers.WebhookEvent.report])
              · cases r with
                | error e => trivial
                | ok count =>
                  simp only
                  cases row.id.parse <;> trivial

theorem lower_backed {e : Effect} (licensed : Licensed app o past e)
    (sound : Sound (Licensed app o) past) (lowers : Lowers (lower app) past h) :
    Always (Backed app o) (fun _ _ => True) (lower app e) h := by
  cases e with
  | store op =>
    by_cases report : ∃ event, op = .applyWebhookEvent event
    · obtain ⟨report, rfl⟩ := report
      rcases licensed with ⟨name, event, provider, verified, -, parsed, rfl⟩ |
        ⟨d, provider, ⟨-, rfl⟩, parsed, rfl⟩
      · exact backed_applyWebhookEvent (.inl verified) parsed rfl
      · have said := said_of_mem lowers List.mem_cons_self (by simp)
        exact backed_applyWebhookEvent (.inr ⟨d, said, rfl⟩) parsed rfl
    · apply always_confined (program_issues app.fingerprint op)
      intro h' e suffix issues
      exact backed_of_issues issues licensed sound lowers suffix.subset fun event is =>
        report ⟨event, is⟩
  | publishWebhook m => exact ⟨.inl licensed.1, fun _ => trivial⟩
  | publishReconcile m => exact ⟨names_of_published licensed lowers, fun _ => trivial⟩
  | _ => exact ⟨trivial, fun _ => trivial⟩

theorem body_backed (app : App) (o : Origin) :
    Always (Backed app o) (fun _ _ => True) ((StatementRuns.setting app).body o) [] := by
  have licensed := always_sound (body_always app o) trivial
  have lowered_ := always_translate licensed (Lowers.nil (f := lower app)) fun past h e license
    lowers => lower_backed license.1 license.2 lowers
  exact lowered_.mono (fun _ _ held => held) fun _ _ _ => trivial

end Grounds

section Evidence

/-- A task heard this. -/
def Said (w : SqlWorld) (e : Effect) (r : e.Response) : Prop :=
  ∃ o, Happened w o (⟨.other e, r⟩ : Event Await.Response)

/-- A delivery that verifies to the event came in under this name. -/
def Arrived (app : App) (w : SqlWorld) (name : String) (event : WebhookEvent) : Prop :=
  ∃ t ∈ w.tasks, Verified app t.origin name event

/-- A provider's word for the status of the row, about the payment and the
reference of the row. -/
inductive Evidence (app : App) (w : SqlWorld) (row : PaymentRow) : PaymentStatus → Prop
  | created (p : Provider) (id : PaymentId) (request : PaymentRequest) (result : PaymentResult) :
      row.id = .stored id → row.providerReference = some result.providerReference →
      Said w (.createPayment p id request) (.ok result) → Evidence app w row result.status.toStatus
  | refused (p : Provider) (id : PaymentId) (request : PaymentRequest) (e : OpenWrapperError) :
      row.id = .stored id → Said w (.createPayment p id request) (.error e) →
      e.isDefiniteNonOccurrence = true → Evidence app w row .failed
  | doubtful (p : Provider) (id : PaymentId) (request : PaymentRequest) (e : OpenWrapperError) :
      row.id = .stored id → Said w (.createPayment p id request) (.error e) →
      e.isDefiniteNonOccurrence = false → Evidence app w row .unknown
  | inquired (p : Provider) (id : PaymentId) (reference : String) (s : PaymentStatus) :
      row.id = .stored id → row.providerReference = some reference →
      Said w (.inquireStatus p (.stored id) reference) (.ok s) → Evidence app w row s
  | reported (name : String) (event : WebhookEvent) (provider : ProviderId) :
      Arrived app w name event → ProviderId.parse name = .ok provider →
      row.provider = .stored provider → row.providerReference = some event.providerReference →
      Evidence app w row event.reportedStatus
  | refunded (p : Provider) (id : PaymentId) (reference : String) (amount : ℤ)
      (reason : Option String) (result : RefundResult) (s : PaymentStatus) :
      row.id = .stored id → row.providerReference = some reference →
      Said w (.refund p id reference amount reason) (.ok result) →
      s = .refunded ∨ s = .partiallyRefunded → Evidence app w row s

variable {app : App} {w w' : SqlWorld} {a : GwAction} {row row' : PaymentRow} {s : PaymentStatus}

theorem Said.step {e : Effect} {r : e.Response} (said : Said w e r)
    (stepped : step (StatementRuns.setting app) w a = some w') : Said w' e r := by
  obtain ⟨o, happened⟩ := said
  exact ⟨o, happened_step happened stepped⟩

theorem Arrived.step {name : String} {event : WebhookEvent} (arrived : Arrived app w name event)
    (stepped : step (StatementRuns.setting app) w a = some w') : Arrived app w' name event := by
  obtain ⟨t, mem, verified⟩ := arrived
  obtain ⟨t', mem', same⟩ := origin_step mem stepped
  exact ⟨t', mem', by rw [same]; exact verified⟩

/-- The word stays good for what the row becomes. -/
theorem Evidence.step (evidence : Evidence app w row s) (frozen : Frozen row row')
    (stepped : Interleaving.step (StatementRuns.setting app) w a = some w') :
    Evidence app w' row' s := by
  have same := frozen.id
  have provider : row'.provider = row.provider := by rw [frozen.columns]
  cases evidence with
  | created p id request result is named said =>
    exact .created p id request result (same.trans is) (frozen.reference _ named)
      (said.step stepped)
  | refused p id request e is said definite =>
    exact .refused p id request e (same.trans is) (said.step stepped) definite
  | doubtful p id request e is said open_ =>
    exact .doubtful p id request e (same.trans is) (said.step stepped) open_
  | inquired p id reference s is named said =>
    exact .inquired p id reference s (same.trans is) (frozen.reference _ named) (said.step stepped)
  | reported name event known arrived parsed from_ named =>
    exact .reported name event known (arrived.step stepped) parsed (provider.trans from_)
      (frozen.reference _ named)
  | refunded p id reference amount reason result s is named said kind =>
    exact .refunded p id reference amount reason result s (same.trans is)
      (frozen.reference _ named) (said.step stepped) kind

/-- The message is about a row under its reference. -/
def Posted (s : Shared) (m : ReconcileQueueMessage) : Prop :=
  ∃ row ∈ s.ledger.payments.rows, row.id = m.paymentId ∧
    row.providerReference = some m.providerReference

/-- An answer shows a row that was asked for. -/
def Truthful : Event Await.Response → Prop
  | ⟨.stmt (.selectPayment id), .ok (some row)⟩ => row.id = .stored id
  | ⟨.stmt (.selectByProviderReference provider reference), .ok (some row)⟩ =>
    Matches provider reference row
  | _ => True

/-- What an answer said about rows is true of the tables. -/
structure Told (s : Shared) (ev : Event Await.Response) : Prop where
  stored : ∀ row ∈ rowsOf ev, ∃ row' ∈ s.ledger.payments.rows, Frozen row row'
  truthful : Truthful ev
  posted : ∀ d : Delivery ReconcileQueueMessage, ev = ⟨.other .receiveReconcile, d⟩ →
    Posted s d.message

theorem Posted.retains {s s' : Shared} {m : ReconcileQueueMessage} (posted : Posted s m)
    (retains : Retains s.ledger s'.ledger) : Posted s' m := by
  obtain ⟨row, mem, is, named⟩ := posted
  obtain ⟨row', mem', frozen⟩ := retains row mem
  exact ⟨row', mem', frozen.id.trans is, frozen.reference _ named⟩

theorem Told.retains {s s' : Shared} {ev : Event Await.Response} (told : Told s ev)
    (retains : Retains s.ledger s'.ledger) : Told s' ev where
  stored := by
    intro row mem
    obtain ⟨row', mem', frozen⟩ := told.stored row mem
    obtain ⟨row'', mem'', frozen'⟩ := retains row' mem'
    exact ⟨row'', mem'', frozen.trans frozen'⟩
  truthful := told.truthful
  posted := fun d is => (told.posted d is).retains retains

/-- What holds of every world the statements reach. -/
structure Provenance (app : App) (w : SqlWorld) : Prop where
  founding : Founding app w
  follows : ∀ t ∈ w.tasks, Follows (Backed app) (fun _ _ _ => True) t
  told : Recorded Told w
  reconcileQueue : ∀ d ∈ w.shared.reconcileQueue, Posted w.shared d.message
  webhookQueue : ∀ d ∈ w.shared.webhookQueue, Arrived app w d.message.provider d.message.event
  received : ∀ d : Delivery WebhookQueueMessage, Said w .receiveWebhook d →
    Arrived app w d.message.provider d.message.event
  statuses : ∀ row ∈ w.shared.ledger.payments.rows, row.status = .stored .pending ∨
    ∃ s, row.status = .stored s ∧ Evidence app w row s

/-- What a statement shows is in the tables. -/
theorem exec_shows (d : Draw) (L : Ledger) (e : Stmt) :
    (∀ row ∈ rowsOf ⟨.stmt e, (exec .postgres d 0 (Session.on L) e).2⟩,
      row ∈ L.payments.rows) ∧ Truthful ⟨.stmt e, (exec .postgres d 0 (Session.on L) e).2⟩ := by
  have ends_ : Ends (exec .postgres d) (fun _ r => (∀ row ∈ rowsOf ⟨.stmt e, r⟩,
      row ∈ L.payments.rows) ∧ Truthful ⟨.stmt e, r⟩) 0 (Session.on L) (.call e .done) := by
    cases e with
    | selectPayment id =>
      apply ends_selectPayment
      · exact ⟨by simp [rowsOf], trivial⟩
      · intro row mem is
        exact ⟨by simpa [rowsOf, Session.on] using mem, is⟩
      · exact fun _ => ⟨by simp [rowsOf], trivial⟩
    | selectByKey key =>
      apply ends_selectByKey
      · exact ⟨by simp [rowsOf], trivial⟩
      · intro row mem is
        exact ⟨by simpa [rowsOf, Session.on] using mem, trivial⟩
      · exact fun _ => ⟨by simp [rowsOf], trivial⟩
    | selectByProviderReference provider reference =>
      apply ends_selectByProviderReference
      · exact ⟨by simp [rowsOf], trivial⟩
      · intro row mem matching
        exact ⟨by simpa [rowsOf, Session.on] using mem, matching⟩
      · exact fun _ => ⟨by simp [rowsOf], trivial⟩
    | selectByReference reference =>
      apply ends_selectByReference
      · exact ⟨by simp [rowsOf], trivial⟩
      · intro row mem _
        exact ⟨by simpa [rowsOf, Session.on] using mem, trivial⟩
      · exact ⟨by simp [rowsOf], trivial⟩
    | selectStale cutoff limit =>
      apply ends_selectStale
      · exact ⟨by simp [rowsOf], trivial⟩
      · intro rows all
        exact ⟨fun row mem => (all row mem).1, trivial⟩
    | _ => exact ⟨by simp [rowsOf], trivial⟩
  exact ends_

/-- The row that a name leads to. -/
theorem Names.stored {s : Shared} {h : Record} {id : Text PaymentId} {reference : String}
    (names : Names h id reference) (told : ∀ ev ∈ h, Told s ev) :
    ∃ row ∈ s.ledger.payments.rows, row.id = id ∧ row.providerReference = some reference := by
  rcases names with ⟨ev, mem, row, shown, is, named⟩ | ⟨d, mem, is, named⟩
  · obtain ⟨row', mem', frozen⟩ := (told ev mem).stored row shown
    exact ⟨row', mem', frozen.id.trans is, frozen.reference _ named⟩
  · obtain ⟨row, mem', is', named'⟩ := (told _ mem).posted d rfl
    exact ⟨row, mem', is'.trans is, by rw [named', named]⟩

theorem Carries.arrived {t : Task Await.Response Origin Reply} {name : String}
    {event : WebhookEvent} (provenance : Provenance app w) (mem : t ∈ w.tasks)
    (carries : Carries app t.origin t.history name event) : Arrived app w name event := by
  rcases carries with verified | ⟨d, known, is⟩
  · exact ⟨t, mem, verified⟩
  · have arrived := provenance.received d ⟨t.origin, t, mem, rfl, known⟩
    rw [is] at arrived
    exact arrived

/-- The grounds of a task are evidence about the row. -/
theorem Grounds.evidence {t : Task Await.Response Origin Reply} {target : Text PaymentId}
    (provenance : Provenance app w) (mem : t ∈ w.tasks)
    (grounds : Grounds app t.origin t.history target s)
    (stored : row ∈ w.shared.ledger.payments.rows) (is : row.id = target) :
    Evidence app w row s := by
  have told := provenance.told t mem
  have said : ∀ (e : Effect) (r : e.Response),
      (⟨.other e, r⟩ : Event Await.Response) ∈ t.history → Said w e r :=
    fun e r known => ⟨t.origin, t, mem, rfl, known⟩
  cases grounds with
  | refused p id request e known definite =>
    exact .refused p id request e is (said _ _ known) definite
  | doubtful p id request e known open_ => exact .doubtful p id request e is (said _ _ known) open_
  | inquired p id reference s known names =>
    obtain ⟨row', mem', is', named⟩ := names.stored told
    obtain rfl : row' = row := row_eq_of_id mem' stored (is'.trans is.symm)
    exact .inquired p id reference s is named (said _ _ known)
  | reported name event provider shown carries parsed known =>
    obtain ⟨row', mem', frozen⟩ := (told _ known).stored shown List.mem_cons_self
    have matching : Matches provider event.providerReference shown := (told _ known).truthful
    obtain rfl : row' = row := row_eq_of_id mem' stored (frozen.id.trans is.symm)
    have same : row'.provider = shown.provider := by rw [frozen.columns]
    exact .reported name event provider (carries.arrived provenance mem) parsed
      (same.trans matching.1) (frozen.reference _ matching.2)
  | refunded p asked id reference amount reason result s shown known read named ref kind =>
    obtain ⟨row', mem', frozen⟩ := (told _ read).stored shown List.mem_cons_self
    have truthful : shown.id = .stored asked := (told _ read).truthful
    obtain rfl : row' = row := row_eq_of_id mem' stored ((frozen.id.trans truthful).trans is.symm)
    exact .refunded p id reference amount reason result s (frozen.id.trans named)
      (frozen.reference _ ref) (said _ _ known) kind

section Step

variable {L L' : Ledger} {o : Origin} {h : Record} {e : Stmt}

/-- How a row comes to its status: it had it, was inserted with it, or was
assigned it. -/
def Assigned (app : App) (o : Origin) (h : Record) (L : Ledger) (row' : PaymentRow) : Prop :=
  (∃ row ∈ L.payments.rows, row'.id = row.id ∧ row'.status = row.status) ∨
    row'.status = .stored .pending ∨
    ∃ row ∈ L.payments.rows, ∃ edit s, Supported app o h row.id edit ∧ edit.status = some s ∧
      row' = (edit.kept .postgres).apply row

theorem assigned_update {target : Text PaymentId} {guarded : Bool} {edit : PaymentEdit}
    (supported : Supported app o h target edit) :
    ∀ row' ∈ (L.updatePayment target guarded (edit.kept .postgres)).payments.rows,
      Assigned app o h L row' := by
  intro row' mem
  obtain ⟨row, was, rfl⟩ := List.mem_map.mp mem
  by_cases targeted : targets target guarded row = true
  · rw [Table.change_of_pos targeted]
    simp only [targets, Bool.and_eq_true, beq_iff_eq] at targeted
    cases assigned : edit.status with
    | none => exact .inl ⟨row, was, rfl, by simp [PaymentEdit.apply, PaymentEdit.kept, assigned]⟩
    | some s =>
      rw [← targeted.1] at supported
      exact .inr (.inr ⟨row, was, edit, s, supported, assigned, rfl⟩)
  · rw [Table.change_of_neg (by simpa using targeted)]
    exact .inl ⟨row, was, rfl, rfl⟩

theorem assigned_of_payments (same : L'.payments = L.payments) :
    ∀ row' ∈ L'.payments.rows, Assigned app o h L row' := by
  intro row' mem
  rw [same] at mem
  exact .inl ⟨row', mem, rfl, rfl⟩

theorem makes_assigned (makes : Makes L e L') (backed : Backed app o h (.stmt e)) :
    ∀ row' ∈ L'.payments.rows, Assigned app o h L row' := by
  cases makes with
  | kept => exact assigned_of_payments rfl
  | committed ws L' performed =>
    obtain ⟨refund, target, guarded, edit, rfl, supported⟩ := backed
    simp only [performAll, Write.perform] at performed
    split at performed
    next L₁ rows inserted =>
      split at inserted
      · cases inserted
        cases performed
        exact assigned_update supported
      · cases inserted
    · cases performed
  | wrote w L' rows performed =>
    cases w with
    | insertPayment row =>
      simp only [Write.perform] at performed
      split at performed
      next payments inserted =>
        cases performed
        intro row' mem
        simp only [(Table.insert_eq_some.mp inserted).2, List.mem_append, List.mem_singleton] at mem
        rcases mem with old | rfl
        · exact .inl ⟨row', old, rfl, rfl⟩
        · exact .inr (.inl backed)
      · cases performed
    | updatePayment target guarded edit =>
      cases performed
      exact assigned_update backed
    | insertWebhookEvent row =>
      simp only [Write.perform] at performed
      split at performed <;> cases performed
      exact assigned_of_payments rfl
    | insertRefund row =>
      simp only [Write.perform] at performed
      split at performed <;> cases performed
      exact assigned_of_payments rfl

variable {s₁ s₂ : Shared} {c : Choice}

/-- A message in a queue was there, or has just been published. -/
theorem react_messages {e : Await} {r : e.Response}
    (reacted : StatementRuns.react app s₁ e c = some (s₂, r)) :
    (∀ d ∈ s₂.webhookQueue, d ∈ s₁.webhookQueue ∨ e = .other (.publishWebhook d.message)) ∧
      ∀ d ∈ s₂.reconcileQueue, d ∈ s₁.reconcileQueue ∨
        e = .other (.publishReconcile d.message) := by
  cases e with
  | stmt e =>
    cases c with
    | draw d =>
      simp only [StatementRuns.react, Option.some.injEq, Prod.mk.injEq] at reacted
      rw [← reacted.1]
      exact ⟨fun _ mem => .inl mem, fun _ mem => .inl mem⟩
    | _ => cases reacted
  | other e =>
    have inner : Gateway.react .postgres app s₁ e c = some (s₂, r) := by
      cases e with
      | store op => cases reacted
      | _ => exact reacted
    obtain ⟨m, rfl, rfl⟩ | ⟨m, rfl, rfl⟩ | ⟨tag, -, rfl⟩ | ⟨tag, -, rfl⟩ | same :=
      react_queues inner
    · refine ⟨fun d mem => ?_, fun _ mem => .inl mem⟩
      rcases List.mem_append.mp mem with old | new
      · exact .inl old
      · rw [List.mem_singleton.mp new]
        exact .inr rfl
    · refine ⟨fun _ mem => .inl mem, fun d mem => ?_⟩
      rcases List.mem_append.mp mem with old | new
      · exact .inl old
      · rw [List.mem_singleton.mp new]
        exact .inr rfl
    · exact ⟨fun _ mem => .inl (List.mem_of_mem_filter mem), fun _ mem => .inl mem⟩
    · exact ⟨fun _ mem => .inl mem, fun _ mem => .inl (List.mem_of_mem_filter mem)⟩
    · rw [same]
      exact ⟨fun _ mem => .inl mem, fun _ mem => .inl mem⟩

/-- A message that is received is in its queue. -/
theorem react_received {d : Delivery WebhookQueueMessage}
    (reacted : StatementRuns.react app s₁ (.other .receiveWebhook) c = some (s₂, d)) :
    d ∈ s₁.webhookQueue := by
  cases c with
  | received i =>
    obtain ⟨d', found, same⟩ := Option.map_eq_some_iff.mp reacted
    cases same
    exact List.mem_of_getElem? found
  | _ => cases reacted

theorem react_receivedReconcile {d : Delivery ReconcileQueueMessage}
    (reacted : StatementRuns.react app s₁ (.other .receiveReconcile) c = some (s₂, d)) :
    d ∈ s₁.reconcileQueue := by
  cases c with
  | received i =>
    obtain ⟨d', found, same⟩ := Option.map_eq_some_iff.mp reacted
    cases same
    exact List.mem_of_getElem? found
  | _ => cases reacted

theorem react_told {e : Await} {r : e.Response}
    (reacted : StatementRuns.react app s₁ e c = some (s₂, r))
    (queue : ∀ d ∈ s₁.reconcileQueue, Posted s₁ d.message)
    (retains : Retains s₁.ledger s₂.ledger) : Told s₂ ⟨e, r⟩ := by
  cases e with
  | stmt e =>
    obtain ⟨d, -, rfl⟩ := react_stmt reacted
    obtain ⟨shown, truthful⟩ := exec_shows d s₁.ledger e
    exact ⟨fun row mem => retains row (shown row mem), truthful, fun d is => nomatch is⟩
  | other e =>
    refine ⟨by simp [rowsOf], trivial, fun d is => ?_⟩
    cases is
    exact (queue d (react_receivedReconcile reacted)).retains retains

theorem advance_assigned {i : ℕ} (provenance : Provenance app w)
    (adv : Advanced (StatementRuns.setting app) w i c w') :
    ∀ row' ∈ w'.shared.ledger.payments.rows,
      Assigned app adv.task.origin adv.task.history w.shared.ledger row' := by
  have backed := adv.licensed provenance.follows
  rw [adv.shared_eq]
  obtain ⟨task, effect, resume, shared, response, found, live, suspended, reacted, result⟩ := adv
  cases effect with
  | stmt e =>
    obtain ⟨d, same, -⟩ := react_stmt reacted
    dsimp only
    rw [same]
    exact makes_assigned exec_makes backed
  | other e => exact assigned_of_payments (congrArg Ledger.payments (react_rest reacted))

/-- An assigned status has evidence in the world it is assigned in. -/
theorem Assigned.evidence {t : Task Await.Response Origin Reply} (provenance : Provenance app w)
    (mem : t ∈ w.tasks) (assigned : Assigned app t.origin t.history w.shared.ledger row')
    (stored : row' ∈ w'.shared.ledger.payments.rows)
    (retains : Retains w.shared.ledger w'.shared.ledger)
    (stepped : step (StatementRuns.setting app) w a = some w') :
    row'.status = .stored .pending ∨ ∃ s, row'.status = .stored s ∧ Evidence app w' row' s := by
  have becomes : ∀ row ∈ w.shared.ledger.payments.rows, row'.id = row.id → Frozen row row' := by
    intro row was same
    obtain ⟨row'', mem'', frozen⟩ := retains row was
    rw [← row_eq_of_id mem'' stored (frozen.id.trans same.symm)]
    exact frozen
  rcases assigned with ⟨row, was, same, status⟩ | pending | ⟨row, was, edit, s, supported, sets, is⟩
  · rw [status]
    rcases provenance.statuses row was with pending | ⟨s, held, evidence⟩
    · exact .inl pending
    · exact .inr ⟨s, held, evidence.step (becomes row was same) stepped⟩
  · exact .inl pending
  · have same : row'.id = row.id := by rw [is]; rfl
    refine .inr ⟨s, by simp [is, PaymentEdit.apply, PaymentEdit.kept, sets], ?_⟩
    rcases supported s sets with ⟨p, id, request, result, known, named, reference, rfl⟩ |
      ⟨-, grounds⟩
    · have said : Said w (.createPayment p id request) (.ok result) :=
        ⟨t.origin, t, mem, rfl, known⟩
      refine .created p id request result (same.trans named) ?_ (said.step stepped)
      simp [is, PaymentEdit.apply, PaymentEdit.kept, reference]
    · exact (grounds.evidence provenance mem was rfl).step (becomes row was same) stepped

theorem said_received {d : Delivery WebhookQueueMessage} (provenance : Provenance app w)
    (stepped : step (StatementRuns.setting app) w a = some w') (said : Said w' .receiveWebhook d) :
    Arrived app w d.message.provider d.message.event := by
  obtain ⟨o, happened⟩ := said
  obtain ⟨o', -, rfl⟩ | ⟨i, c, -, ⟨adv⟩⟩ | ⟨i, t, -, found, rfl⟩ := step_cases stepped
  · exact provenance.received d ⟨o, happened_spawn happened⟩
  · rcases adv.happened_cases happened with ⟨event, -⟩ | before
    · obtain ⟨reacted, -⟩ := adv.of_event event.symm
      exact provenance.webhookQueue d (react_received reacted)
    · exact provenance.received d ⟨o, before⟩
  · exact provenance.received d ⟨o, happened_cancel found happened⟩

/-- A message a task publishes is what it carries, or names a row. -/
theorem advance_messages {i : ℕ} (provenance : Provenance app w)
    (adv : Advanced (StatementRuns.setting app) w i c w') :
    (∀ d ∈ w'.shared.webhookQueue, Arrived app w d.message.provider d.message.event) ∧
      ∀ d ∈ w'.shared.reconcileQueue, Posted w.shared d.message := by
  have backed := adv.licensed provenance.follows
  obtain ⟨webhooks, reconciles⟩ := react_messages adv.reacted
  rw [adv.shared_eq]
  constructor
  · intro d mem
    rcases webhooks d mem with old | published
    · exact provenance.webhookQueue d old
    · rw [published] at backed
      exact Carries.arrived provenance adv.mem backed
  · intro d mem
    rcases reconciles d mem with old | published
    · exact provenance.reconcileQueue d old
    · rw [published] at backed
      exact Names.stored backed (provenance.told _ adv.mem)

theorem Provenance.step (provenance : Provenance app w)
    (stepped : Interleaving.step (StatementRuns.setting app) w a = some w') :
    Provenance app w' := by
  obtain ⟨founding, retains, -⟩ := provenance.founding.step stepped
  have told : Recorded Told w' := by
    refine recorded_step ?_ ?_ provenance.told stepped
    · intro i c adv
      rw [adv.shared_eq] at retains
      exact react_told adv.reacted provenance.reconcileQueue retains
    · intro i c adv ev told
      rw [adv.shared_eq] at retains
      exact told.retains retains
  have follows := follows_step (body_backed app) provenance.follows stepped
  have received := fun d said => (said_received (d := d) provenance stepped said).step stepped
  obtain ⟨o, -, rfl⟩ | ⟨i, c, -, ⟨adv⟩⟩ | ⟨i, t, -, found, rfl⟩ := step_cases stepped
  · exact ⟨founding, follows, told, provenance.reconcileQueue,
      fun d mem => (provenance.webhookQueue d mem).step stepped, received,
      fun row mem => (provenance.statuses row mem).imp_right fun ⟨s, is, evidence⟩ =>
        ⟨s, is, evidence.step (Frozen.refl row) stepped⟩⟩
  · obtain ⟨webhooks, reconciles⟩ := advance_messages provenance adv
    exact ⟨founding, follows, told, fun d mem => (reconciles d mem).retains retains,
      fun d mem => (webhooks d mem).step stepped, received, fun row mem =>
        (advance_assigned provenance adv row mem).evidence provenance adv.mem mem retains stepped⟩
  · exact ⟨founding, follows, told, provenance.reconcileQueue,
      fun d mem => (provenance.webhookQueue d mem).step stepped, received,
      fun row mem => (provenance.statuses row mem).imp_right fun ⟨s, is, evidence⟩ =>
        ⟨s, is, evidence.step (Frozen.refl row) stepped⟩⟩

theorem provenance_start (apiKeys : List ApiKeyRow) :
    Provenance app (StatementRuns.start apiKeys) where
  founding := founding_start apiKeys
  follows := by simp [StatementRuns.start]
  told := by simp [StatementRuns.start, Recorded]
  reconcileQueue := by simp [StatementRuns.start, Shared.start]
  webhookQueue := by simp [StatementRuns.start, Shared.start]
  received := by
    rintro d ⟨o, t, mem, -⟩
    cases mem
  statuses := by simp [StatementRuns.start, Shared.start, Ledger.empty]

/-- The first customer's payment, settled by a GET. -/
def settledByStatement : List GwAction :=
  StatusLegality.orderedByStatement ++ StatusLegality.inquired 1 .succeeded ++
    [StatusLegality.drawn 1, StatusLegality.drawn 1]

end Step

end Evidence

end OpenWrapper.StatusProvenance
