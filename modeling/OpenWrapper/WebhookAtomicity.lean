import OpenWrapper.StoreContract

/-! # Webhook deduplication and application

A delivery is recorded and judged together, or not at all: this is what lets
a provider deliver again. SQLite has it from its transaction. Postgres runs
its statements one by one, and `Torn` is exactly where it loses it. -/

set_option autoImplicit false

namespace OpenWrapper.WebhookAtomicity
open OpenWrapper.Ids OpenWrapper.Amounts OpenWrapper.Payments OpenWrapper.Schema
open OpenWrapper.ConstraintTable OpenWrapper.PaymentStore OpenWrapper.StatementRules
open OpenWrapper.StoreContract OpenWrapper.Suspended OpenWrapper.Suspended.Prog

/-- The payment row the lookup of a delivery answers with. -/
def target (d : Draw) (L : Ledger) (event : WebhookReport) : Option PaymentRow :=
  (scan d L.payments.rows).find? fun row =>
    row.provider == .stored event.provider &&
      row.providerReference == some event.providerReference

/-- The status a delivery asks to store in a row that reads `current`. -/
def verdict (event : WebhookReport) (row : PaymentRow) (current : PaymentStatus) : PaymentStatus :=
  if event.reportedAmountMinorUnits.any (· ≠ row.amountMinorUnits) then current
  else match current.validateTransition event.reportedStatus with
    | .ok () => event.reportedStatus
    | .error _ => current

section Verdict

variable {event : WebhookReport} {row : PaymentRow} {current : PaymentStatus}

theorem verdict_mismatch
    (differs : event.reportedAmountMinorUnits.any (· ≠ row.amountMinorUnits) = true) :
    verdict event row current = current := by
  rw [verdict, if_pos differs]

theorem verdict_illegal {e : IllegalTransition}
    (illegal : current.validateTransition event.reportedStatus = .error e) :
    verdict event row current = current := by
  rw [verdict, illegal]
  exact ite_self _

theorem verdict_legal
    (agrees : event.reportedAmountMinorUnits.any (· ≠ row.amountMinorUnits) = false)
    (legal : PaymentStatus.Legal current event.reportedStatus) :
    verdict event row current = event.reportedStatus := by
  rw [verdict, if_neg (by rw [agrees]; exact Bool.false_ne_true), legal]

theorem verdict_same (same : current = event.reportedStatus) :
    verdict event row current = current := by
  rw [verdict, ← same, PaymentStatus.validateTransition_self]
  exact ite_self _

end Verdict

def Recorded (L : Ledger) (event : WebhookReport) : Prop :=
  ∃ e ∈ L.webhookEvents.rows, e.eventId = event.eventId

/-- The delivery left nothing behind. -/
def Untouched (L L' : Ledger) : Prop :=
  L'.webhookEvents.rows = L.webhookEvents.rows ∧ L'.payments.rows = L.payments.rows

/-- The delivery is recorded and its payment has the status it asks for. -/
def Settled (d : Draw) (L L' : Ledger) (event : WebhookReport) : Prop :=
  Recorded L' event ∧ ∃ row current, target d L event = some row ∧
    row.status = .stored current ∧ ∃ row' ∈ L'.payments.rows, row'.id = row.id ∧
      row'.status = .stored (verdict event row current)

/-- What is left when `apply_webhook_event` is stopped after `stop` statements,
or ends by itself before. -/
def leftBehind (fp : PaymentRequest → String) (b : Backend) (d : Draw) (stop : ℕ)
    (L : Ledger) (event : WebhookReport) : Ledger :=
  (halted (exec b d) 0 stop (Session.on L) (program fp b (.applyWebhookEvent event))).1.close

/-- All or nothing, so that a delivery that was not applied is taken again. -/
structure Atomic (fp : PaymentRequest → String) (b : Backend) (d : Draw) (L L' : Ledger)
    (event : WebhookReport) : Prop where
  whole : Untouched L L' ∨ ¬ Recorded L event ∧ Settled d L L' event
  redelivered : ¬ Recorded L event → ¬ Settled d L L' event →
    ∀ d', (execOp fp b d' L' (.applyWebhookEvent event)).2 ≠ .ok .duplicate

/-- On Postgres, stopped between the insertion of the event and the update of
a status that had to change, or unable to read the status it has to judge. -/
def Torn (b : Backend) (d : Draw) (stop : ℕ) (L : Ledger) (event : WebhookReport) : Prop :=
  b = .postgres ∧ d.fails 0 = false ∧ d.fails 2 = false ∧ 2 < stop ∧ ¬ Recorded L event ∧
    ∃ row, target d L event = some row ∧
      ∀ current, row.status = .stored current →
        verdict event row current ≠ current ∧ (stop ≤ 4 ∨ d.fails 4 = true)

section Whole

variable {fp : PaymentRequest → String} {b : Backend} {d d' : Draw} {L L' : Ledger}
  {event : WebhookReport}

theorem recorded_of_duplicate {r : StoreResult WebhookApplyOutcome}
    (outcome : Outcome fp b d' L (.applyWebhookEvent event) L' r) (is : r = .ok .duplicate) :
    Recorded L event := by
  cases outcome with
  | duplicate event known => exact known
  | _ => cases is

/-- What is all or nothing can be delivered again. -/
theorem atomic_of_whole (whole : Untouched L L' ∨ ¬ Recorded L event ∧ Settled d L L' event) :
    Atomic fp b d L L' event where
  whole := whole
  redelivered := by
    intro fresh unsettled d' answered
    rcases whole with ⟨events, -⟩ | ⟨-, settled⟩
    · have known := recorded_of_duplicate (execOp_outcome fp b d' L'
        (.applyWebhookEvent event)) answered
      rw [Recorded, events] at known
      exact fresh known
    · exact unsettled settled

end Whole

section Sqlite

variable {d : Draw} {L : Ledger} {event : WebhookReport} {α : Type}

theorem leaves_stmt {b : Backend} {R : Session → Prop} {n : ℕ} {s : Session} {e : Stmt}
    {k : e.Response → Sql α} (held : R s)
    (refused : ∀ r, e.refused = some r → Leaves (exec b d) R (n + 1) s (k r))
    (ran : Leaves (exec b d) R (n + 1) (e.run b d n s).1 (k (e.run b d n s).2)) :
    Leaves (exec b d) R n s (.call e k) := by
  refine (leaves_call (exec b d) R n s e k).mpr ⟨held, ?_⟩
  unfold exec
  split
  next r fails refusal => exact refused r refusal
  · exact ran

/-- What an open transaction over `L` leaves, or a committed one. -/
def Whole (d : Draw) (L : Ledger) (event : WebhookReport) (s : Session) : Prop :=
  Untouched L s.close ∨ ¬ Recorded L event ∧ Settled d L s.close event

theorem whole_open (L₁ : Ledger) : Whole d L event ⟨L₁, some L⟩ :=
  .inl ⟨rfl, rfl⟩

theorem recorded_insert (L₁ : Ledger) {row : WebhookEventRow}
    {webhookEvents : Table WebhookEventRow EventClash}
    (inserted : L.webhookEvents.insert row = some webhookEvents)
    (events : L₁.webhookEvents = webhookEvents) (is : row.eventId = event.eventId) :
    ¬ Recorded L event ∧ Recorded L₁ event := by
  obtain ⟨fresh, rows⟩ := Table.insert_eq_some.mp inserted
  constructor
  · rintro ⟨e, mem, same⟩
    exact fresh e mem (same.trans is.symm)
  · exact ⟨row, by simp [events, rows], is⟩

theorem sqlite_transition_leaves {L₁ : Ledger} {row : PaymentRow} {current : PaymentStatus}
    {now : Instant} {n : ℕ} {k : StoreResult TransitionOutcome → Sql (StoreResult WebhookApplyOutcome)}
    (mem : row ∈ L₁.payments.rows) (stored : row.status = .stored current)
    (agrees : event.reportedAmountMinorUnits.any (· ≠ row.amountMinorUnits) = false)
    (failed : ∀ n L₂ e, Leaves (exec .sqlite d) (Whole d L event) n ⟨L₂, some L⟩ (k (.error e)))
    (done : ∀ n L₂ outcome, L₂.webhookEvents = L₁.webhookEvents →
      (∃ row' ∈ L₂.payments.rows, row'.id = row.id ∧
        row'.status = .stored (verdict event row current)) →
      Leaves (exec .sqlite d) (Whole d L event) n ⟨L₂, some L⟩ (k (.ok outcome))) :
    Leaves (exec .sqlite d) (Whole d L event) n ⟨L₁, some L⟩
      (SqliteStore.applySqliteTransition row.id current event.reportedStatus now >>= k) := by
  unfold SqliteStore.applySqliteTransition
  split
  next same =>
    have keeps : verdict event row current = current := verdict_same same
    exact done n L₁ _ rfl ⟨row, mem, rfl, by rw [keeps, stored]⟩
  next apart =>
    cases legal : current.validateTransition event.reportedStatus with
    | error e =>
      have keeps : verdict event row current = current := verdict_illegal legal
      exact done n L₁ _ rfl ⟨row, mem, rfl, by rw [keeps, stored]⟩
    | ok _ =>
      simp only [Sql.write, perform_bind, call_bind]
      refine leaves_stmt (whole_open L₁) ?_ ?_
      · rintro r refusal
        cases refusal
        exact failed _ _ _
      · simp only [Stmt.run, Write.perform, affected_of_mem mem rfl]
        cases parsed : row.id.parse with
        | none => exact failed _ _ _
        | some id =>
          refine done _ _ _ rfl ?_
          rw [verdict_legal agrees legal]
          exact updated_status mem rfl

theorem sqlite_judge_leaves (L₁ : Ledger) {row : PaymentRow} {current : PaymentStatus}
    {now : Instant} {n : ℕ} {k : StoreResult TransitionOutcome → Sql (StoreResult WebhookApplyOutcome)}
    (mem : row ∈ L₁.payments.rows) (stored : row.status = .stored current)
    (failed : ∀ n L₂ e, Leaves (exec .sqlite d) (Whole d L event) n ⟨L₂, some L⟩ (k (.error e)))
    (done : ∀ n L₂ outcome, L₂.webhookEvents = L₁.webhookEvents →
      (∃ row' ∈ L₂.payments.rows, row'.id = row.id ∧
        row'.status = .stored (verdict event row current)) →
      Leaves (exec .sqlite d) (Whole d L event) n ⟨L₂, some L⟩ (k (.ok outcome))) :
    Leaves (exec .sqlite d) (Whole d L event) n ⟨L₁, some L⟩
      (SqliteStore.judge row event current now >>= k) := by
  unfold SqliteStore.judge
  cases amount : event.reportedAmountMinorUnits with
  | none => exact sqlite_transition_leaves mem stored (by rw [amount]; rfl) failed done
  | some reported =>
    dsimp only
    split
    next differs =>
      have keeps : verdict event row current = current :=
        verdict_mismatch (by simpa [amount] using differs)
      exact done n L₁ _ rfl ⟨row, mem, rfl, by rw [keeps, stored]⟩
    next agrees =>
      exact sqlite_transition_leaves mem stored (by simpa [amount] using agrees) failed done

theorem sqlite_leaves :
    Leaves (exec .sqlite d) (Whole d L event) 0 (Session.on L)
      (SqliteStore.applyWebhookEvent event) := by
  have untouched : Whole d L event (Session.on L) := .inl ⟨rfl, rfl⟩
  simp only [SqliteStore.applyWebhookEvent, Sql.now, Sql.beginTransaction,
    Sql.selectByProviderReference, Sql.write, Sql.commit, perform_bind]
  refine leaves_stmt untouched (fun r refusal => by cases refusal) ?_
  refine leaves_stmt untouched (fun r refusal => ?_) ?_
  · cases refusal
    exact (leaves_done ..).mpr untouched
  refine leaves_stmt (whole_open L) (fun r refusal => ?_) ?_
  · cases refusal
    exact (leaves_done ..).mpr (whole_open L)
  simp only [Stmt.run]
  cases found : target d L event with
  | none =>
    rw [target] at found
    simp only [Session.on, found]
    exact (leaves_done ..).mpr (whole_open L)
  | some row =>
    have mem : row ∈ L.payments.rows := mem_scan.mp (List.mem_of_find?_eq_some found)
    have looked := found
    rw [target] at looked
    simp only [Session.on, looked]
    refine leaves_stmt (whole_open L) (fun r refusal => ?_) ?_
    · cases refusal
      exact (leaves_done ..).mpr (whole_open L)
    simp only [Stmt.run, Write.perform]
    cases inserted : L.webhookEvents.insert
        ((⟨event.eventId, event.provider, row.id, d.clock 0⟩ : WebhookEventRow).kept .sqlite) with
    | none => exact (leaves_done ..).mpr (whole_open L)
    | some webhookEvents =>
      dsimp only
      cases parsed : row.status.parse with
      | none => exact (leaves_done ..).mpr (whole_open _)
      | some current =>
        have stored := Text.parse_eq_some.mp parsed
        refine sqlite_judge_leaves { L with webhookEvents } mem stored
          (fun n L₂ e => (leaves_done ..).mpr (whole_open L₂)) (fun n L₂ outcome events judged => ?_)
        refine leaves_stmt (whole_open L₂) (fun r refusal => ?_) ?_
        · cases refusal
          exact (leaves_done ..).mpr (whole_open L₂)
        · obtain ⟨fresh, known⟩ := recorded_insert L₂ inserted events rfl
          exact (leaves_done ..).mpr
            (.inr ⟨fresh, known, row, current, found, stored, judged⟩)

end Sqlite

section Postgres

variable {fp : PaymentRequest → String} {d : Draw} {L : Ledger} {event : WebhookReport}
  {stop : ℕ}

/-- One statement of a run that is stopped after `budget` of them. -/
theorem halted_stmt {R : Session → Prop} {n budget : ℕ} {s : Session} {e : Stmt} {α : Type}
    {b : Backend} {k : e.Response → Sql α} (stopped : budget = 0 → R s)
    (refused : ∀ r rest, budget = rest + 1 → d.fails n = true → e.refused = some r →
      R (halted (exec b d) (n + 1) rest s (k r)).1)
    (ran : ∀ rest, budget = rest + 1 → (d.fails n = false ∨ e.refused = none) →
      R (halted (exec b d) (n + 1) rest (e.run b d n s).1 (k (e.run b d n s).2)).1) :
    R (halted (exec b d) n budget s (.call e k)).1 := by
  cases budget with
  | zero => exact stopped rfl
  | succ rest =>
    rw [halted_succ]
    unfold exec
    split
    next r fails refusal => exact refused r rest rfl fails refusal
    next other =>
      refine ran rest rfl ?_
      cases fails : d.fails n with
      | false => exact .inl rfl
      | true =>
        cases refusal : e.refused with
        | none => exact .inr rfl
        | some r => exact absurd refusal (other r fails)

theorem halted_finished {R : Session → Prop} {n budget : ℕ} {s : Session} {α : Type} {a : α}
    {b : Backend} (held : R s) : R (halted (exec b d) n budget s (.done a : Sql α)).1 := by
  rw [halted_done]
  exact held

/-- The state is whole exactly when the run was not torn. -/
def Decided (d : Draw) (stop : ℕ) (L : Ledger) (event : WebhookReport) (s : Session) : Prop :=
  Whole d L event s ↔ ¬ Torn .postgres d stop L event

theorem decided_whole {s : Session} (whole : Whole d L event s)
    (intact : ¬ Torn .postgres d stop L event) : Decided d stop L event s :=
  ⟨fun _ => intact, fun _ => whole⟩

theorem decided_untouched (intact : ¬ Torn .postgres d stop L event) :
    Decided d stop L event (Session.on L) :=
  decided_whole (.inl ⟨rfl, rfl⟩) intact

/-- The event is inserted and the payments are as they were. -/
theorem decided_inserted (stop : ℕ) {row : PaymentRow}
    {webhookEvents : Table WebhookEventRow EventClash} {entry : WebhookEventRow}
    (found : target d L event = some row) (entered : d.fails 0 = false ∧ d.fails 2 = false)
    (inserted : L.webhookEvents.insert entry = some webhookEvents)
    (is : entry.eventId = event.eventId) (past : 2 < stop)
    (late : ∀ current, row.status = .stored current →
      verdict event row current ≠ current → stop ≤ 4 ∨ d.fails 4 = true) :
    Decided d stop L event ⟨{ L with webhookEvents }, none⟩ := by
  have mem : row ∈ L.payments.rows := mem_scan.mp (List.mem_of_find?_eq_some found)
  obtain ⟨fresh, known⟩ := recorded_insert { L with webhookEvents } inserted rfl is
  constructor
  · rintro (untouched | settled) ⟨-, -, -, -, -, row', found', owed⟩
    · obtain ⟨e, mem, same⟩ := known
      exact fresh ⟨e, untouched.1 ▸ mem, same⟩
    · obtain ⟨-, -, row₁, current, found₁, stored, row₂, mem₂, is₂, now₂⟩ := settled
      rw [found] at found' found₁
      cases found'
      cases found₁
      have same := L.payments.eq_of_clash mem₂ mem (.inl is₂)
      rw [same, stored] at now₂
      exact (owed current stored).1 (Text.stored.inj now₂).symm
  · intro intact
    by_cases owed : ∀ current, row.status = .stored current → verdict event row current ≠ current
    · exact absurd ⟨rfl, entered.1, entered.2, past, fresh, row, found,
        fun current stored => ⟨owed current stored, late current stored (owed current stored)⟩⟩ intact
    · obtain ⟨current, stored, keeps⟩ : ∃ current, row.status = .stored current ∧
          verdict event row current = current := by
        simpa using owed
      exact .inr ⟨fresh, known, row, current, found, stored, row, mem, rfl, by rw [keeps, stored]⟩

/-- The event is inserted and the status it asks for is stored. -/
theorem decided_updated (stop : ℕ) (now : Instant) {row : PaymentRow} {current : PaymentStatus}
    {webhookEvents : Table WebhookEventRow EventClash} {entry : WebhookEventRow}
    (found : target d L event = some row) (stored : row.status = .stored current)
    (inserted : L.webhookEvents.insert entry = some webhookEvents)
    (is : entry.eventId = event.eventId)
    (moves : verdict event row current = event.reportedStatus)
    (past : 4 < stop) (kept : d.fails 4 = false) :
    Decided d stop L event ⟨Ledger.updatePayment { L with webhookEvents } row.id false
      ((statusEdit event.reportedStatus now).kept .postgres), none⟩ := by
  have mem : row ∈ L.payments.rows := mem_scan.mp (List.mem_of_find?_eq_some found)
  obtain ⟨fresh, known⟩ := recorded_insert { L with webhookEvents } inserted rfl is
  refine decided_whole (.inr ⟨fresh, known, row, current, found, stored, ?_⟩) ?_
  · rw [moves]
    exact updated_status mem rfl
  · rintro ⟨-, -, -, -, -, row', found', owed⟩
    rw [found] at found'
    cases found'
    rcases (owed current stored).2 with early | failed
    · omega
    · rw [kept] at failed
      cases failed

theorem postgres_decided :
    Decided d stop L event (halted (exec .postgres d) 0 stop (Session.on L)
      (PostgresStore.applyWebhookEvent event)).1 := by
  simp only [PostgresStore.applyWebhookEvent, Sql.now, Sql.selectByProviderReference, Sql.write,
    perform_bind]
  refine halted_stmt (R := Decided d stop L event) (fun none_ => ?_)
    (fun r rest _ failed refusal => ?_) (fun rest₀ spent₀ selected => ?_)
  · exact decided_untouched fun torn => by have := torn.2.2.2.1; omega
  · cases refusal
    refine halted_finished (decided_untouched fun torn => ?_)
    rw [torn.2.1] at failed
    cases failed
  have selected : d.fails 0 = false := selected.resolve_right fun h => by cases h
  simp only [Stmt.run]
  cases found : target d L event with
  | none =>
    have looked := found
    rw [target] at looked
    simp only [Session.on, looked]
    refine halted_finished (decided_untouched fun torn => ?_)
    obtain ⟨-, -, -, -, -, row, found', -⟩ := torn
    rw [found] at found'
    cases found'
  | some row =>
    have looked := found
    rw [target] at looked
    simp only [Session.on, looked]
    refine halted_stmt (R := Decided d stop L event) (fun none_ => ?_)
      (fun r rest _ failed refusal => by cases refusal) (fun rest₁ spent₁ _ => ?_)
    · exact decided_untouched fun torn => by have := torn.2.2.2.1; omega
    refine halted_stmt (R := Decided d stop L event) (fun none_ => ?_)
      (fun r rest _ failed refusal => ?_) (fun rest₂ spent₂ entered => ?_)
    · exact decided_untouched fun torn => by have := torn.2.2.2.1; omega
    · cases refusal
      refine halted_finished (decided_untouched fun torn => ?_)
      rw [torn.2.2.1] at failed
      cases failed
    have entered : d.fails 2 = false := entered.resolve_right fun h => by cases h
    simp only [Stmt.run, Write.perform]
    cases inserted : L.webhookEvents.insert ((⟨event.eventId, event.provider, row.id,
        d.clock (0 + 1)⟩ : WebhookEventRow).kept .postgres) with
    | none =>
      obtain ⟨e, mem, same⟩ := Table.insert_eq_none.mp inserted
      exact halted_finished (decided_untouched fun torn => torn.2.2.2.2.1 ⟨e, mem, same⟩)
    | some webhookEvents =>
      dsimp only
      have left := decided_inserted stop found ⟨selected, entered⟩ inserted rfl (by omega)
      cases parsed : row.status.parse with
      | none => exact halted_finished (left fun current stored => by simp [stored] at parsed)
      | some current =>
        have stored := Text.parse_eq_some.mp parsed
        dsimp only
        split
        next differs =>
          refine halted_finished (left fun current' stored' owed => ?_)
          exact absurd (verdict_mismatch differs) owed
        next passes =>
          have agrees : event.reportedAmountMinorUnits.any (· ≠ row.amountMinorUnits) = false := by
            simpa using passes
          cases legal : current.validateTransition event.reportedStatus with
          | error e =>
            refine halted_finished (left fun current' stored' owed => ?_)
            rw [stored] at stored'
            cases stored'
            exact absurd (verdict_illegal legal) owed
          | ok _ =>
            dsimp only
            refine halted_stmt (R := Decided d stop L event) (fun none_ => ?_)
              (fun r rest _ failed refusal => by cases refusal) (fun rest₃ spent₃ _ => ?_)
            · exact left fun _ _ _ => .inl (by omega)
            refine halted_stmt (R := Decided d stop L event) (fun none_ => ?_)
              (fun r rest _ failed refusal => ?_) (fun rest₄ spent₄ updated => ?_)
            · exact left fun _ _ _ => .inl (by omega)
            · cases refusal
              exact halted_finished (left fun _ _ _ => .inr failed)
            have updated : d.fails 4 = false := updated.resolve_right fun h => by cases h
            have moved := decided_updated stop (d.clock 3) found stored inserted rfl
              (verdict_legal agrees legal) (by omega) updated
            simp only [Stmt.run, Write.perform]
            cases row.id.parse with
            | none => exact halted_finished moved
            | some id => exact halted_finished moved

end Postgres

section Backends

variable {fp : PaymentRequest → String} {b : Backend} {d : Draw} {stop : ℕ} {L : Ledger}
  {event : WebhookReport}

theorem atomic_iff_whole {L' : Ledger} :
    Atomic fp b d L L' event ↔ Untouched L L' ∨ ¬ Recorded L event ∧ Settled d L L' event :=
  ⟨fun atomic => atomic.whole, atomic_of_whole⟩

theorem not_atomic_of_torn (torn : Torn b d stop L event) :
    ¬ Atomic fp b d L (leftBehind fp b d stop L event) event := by
  rw [atomic_iff_whole]
  obtain rfl : b = .postgres := torn.1
  exact fun whole => postgres_decided.mp whole torn

theorem atomic_of_not_torn (intact : ¬ Torn b d stop L event) :
    Atomic fp b d L (leftBehind fp b d stop L event) event := by
  rw [atomic_iff_whole]
  cases b with
  | sqlite => exact sqlite_leaves stop
  | postgres => exact postgres_decided.mpr intact

end Backends

/-- Wherever it is stopped, a delivery is recorded and applied together
exactly if it is not torn. -/
theorem webhook_atomic_iff (fp : PaymentRequest → String) (b : Backend) (d : Draw) (stop : ℕ)
    (L : Ledger) (event : WebhookReport) :
    Atomic fp b d L (leftBehind fp b d stop L event) event ↔ ¬ Torn b d stop L event :=
  ⟨fun atomic torn => not_atomic_of_torn torn atomic, atomic_of_not_torn⟩

/-- A pending payment whose reference is stored, and no events. -/
def awaitingWebhook : Ledger where
  payments := ⟨[{
    id := .stored ⟨1⟩, idempotencyKey := .stored .order
    requestFingerprint := "order-1", provider := .stored ⟨"paymob", by decide⟩
    providerReference := some "pi_1", status := .stored .pending, amountMinorUnits := 100
    currency := .stored .egp, merchantReference := none, nextActionJson := none, userId := none
    apiKeyId := none, environment := "live", createdAt := ⟨0⟩, updatedAt := ⟨0⟩ }],
    List.pairwise_singleton _ _⟩
  webhookEvents := Table.empty
  refunds := Table.empty

def succeededReport : WebhookReport where
  eventId := "evt_1"
  provider := ⟨"paymob", by decide⟩
  providerReference := "pi_1"
  reportedStatus := .succeeded
  reportedAmountMinorUnits := some 100

def noFaults : Draw := ⟨fun _ => ⟨0⟩, ⟨0⟩, fun _ => 0, fun _ => false⟩

theorem webhook_not_atomic : ¬ ∀ (fp : PaymentRequest → String) (b : Backend) (d : Draw)
    (stop : ℕ) (L : Ledger) (event : WebhookReport),
    Atomic fp b d L (leftBehind fp b d stop L event) event := by
  intro claim
  have torn : ¬ Torn .postgres noFaults 4 awaitingWebhook succeededReport := fun torn =>
    not_atomic_of_torn torn (claim (fun _ => "") _ _ _ _ _)
  refine torn ⟨rfl, rfl, rfl, by decide, by simp [Recorded, awaitingWebhook], _, rfl, ?_⟩
  intro current stored
  cases stored
  exact ⟨by decide, .inl (by decide)⟩

end OpenWrapper.WebhookAtomicity
