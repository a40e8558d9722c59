import OpenWrapper.StatementRules

/-! # What one store operation can do

`Outcome` lists, for both backends, every way an operation can leave the
tables and answer; `execOp_outcome` derives it from the programs, statement
by statement. What holds of the store over whole runs is proved from
`Outcome` alone. -/

set_option autoImplicit false

namespace OpenWrapper.StoreContract
open OpenWrapper.Ids OpenWrapper.Payments OpenWrapper.ConstraintTable
open OpenWrapper.Schema OpenWrapper.PaymentStore OpenWrapper.StatementRules
open OpenWrapper.Suspended OpenWrapper.Suspended.Prog

/-- A stored status that may move to `t`, on a row with this identifier. -/
structure Validated (L : Ledger) (id : Text PaymentId) (s t : PaymentStatus) : Prop where
  legal : PaymentStatus.Legal s t
  stored : ∃ row ∈ L.payments.rows, row.id = id ∧ row.status = .stored s

/-- What SQLite checks before it records the result of a creation. -/
structure CreationChecked (L : Ledger) (id : PaymentId) (reference : String)
    (t : PaymentStatus) : Prop where
  row : ∃ row ∈ L.payments.rows, row.id = .stored id ∧
    (∃ s, row.status = .stored s ∧ PaymentStatus.Legal s t) ∧
    (row.providerReference = none ∨ row.providerReference = some reference)

/-- The amount check of a webhook lets the event through. -/
def AmountAgrees (event : WebhookReport) (row : PaymentRow) : Prop :=
  event.reportedAmountMinorUnits = none ∨
    event.reportedAmountMinorUnits = some row.amountMinorUnits

/-- The judgement of a verified event that asks for no update. -/
inductive Judged (b : Backend) (event : WebhookReport) (row : PaymentRow)
    (current : PaymentStatus) : TransitionOutcome → Prop
  | mismatch (reported : ℤ) :
      event.reportedAmountMinorUnits = some reported → reported ≠ row.amountMinorUnits →
      Judged b event row current (.amountMismatch row.amountMinorUnits reported)
  | noOp : b = .sqlite → AmountAgrees event row → current = event.reportedStatus →
      Judged b event row current .noOp
  | illegal : AmountAgrees event row → ¬ PaymentStatus.Legal current event.reportedStatus →
      Judged b event row current (.illegal current event.reportedStatus)

inductive Outcome (fp : PaymentRequest → String) (b : Backend) (d : Draw) (L : Ledger) :
    (op : StoreOp) → Ledger → op.Result → Prop
  | failed (op : StoreOp) : Outcome fp b d L op L (.error .internal)
  | panicked (id : PaymentId) (t : PaymentStatus) : b = .sqlite → t.isTerminal = false →
      Outcome fp b d L (.markTerminalWithoutProviderReference id t) L (.error .panicked)
  | begun (request : PaymentRequest) (owner : Option ApiKeyInfo) (now : Instant)
      (payments : Table PaymentRow PaymentClash) :
      L.payments.insert ((newRow fp request owner d.fresh now).kept b) = some payments →
      Outcome fp b d L (.beginPaymentWithOwner request owner) { L with payments }
        (.ok (.proceed d.fresh))
  | existing (request : PaymentRequest) (owner : Option ApiKeyInfo) (row : PaymentRow)
      (payment : Payment) : row ∈ L.payments.rows →
      row.idempotencyKey = .stored request.idempotencyKey → row.toPayment = some payment →
      row.requestFingerprint = fp request →
      Outcome fp b d L (.beginPaymentWithOwner request owner) L (.ok (.returnExisting payment))
  | conflicting (request : PaymentRequest) (owner : Option ApiKeyInfo) (row : PaymentRow) :
      row ∈ L.payments.rows → row.idempotencyKey = .stored request.idempotencyKey →
      row.requestFingerprint ≠ fp request →
      Outcome fp b d L (.beginPaymentWithOwner request owner) L (.ok .conflict)
  | created (id : PaymentId) (reference : String) (t : PaymentStatus)
      (nextAction : Option PaymentNextAction) (now : Instant) :
      (b = .sqlite → CreationChecked L id reference t) →
      Outcome fp b d L (.recordCreationResult id reference t nextAction)
        (L.updatePayment (.stored id) false ((creationEdit reference t nextAction now).kept b))
        (.ok ())
  | notFound (event : WebhookReport) :
      (∀ row ∈ L.payments.rows, ¬ Matches event.provider event.providerReference row) →
      Outcome fp b d L (.applyWebhookEvent event) L (.ok .paymentNotFound)
  | duplicate (event : WebhookReport) :
      (∃ e ∈ L.webhookEvents.rows, e.eventId = event.eventId) →
      Outcome fp b d L (.applyWebhookEvent event) L (.ok .duplicate)
  | judged (event : WebhookReport) (row : PaymentRow) (current : PaymentStatus)
      (outcome : TransitionOutcome) (received : Instant)
      (webhookEvents : Table WebhookEventRow EventClash) : row ∈ L.payments.rows →
      Matches event.provider event.providerReference row → row.status = .stored current →
      L.webhookEvents.insert
        ((⟨event.eventId, event.provider, row.id, received⟩ : WebhookEventRow).kept b)
          = some webhookEvents →
      Judged b event row current outcome →
      Outcome fp b d L (.applyWebhookEvent event) { L with webhookEvents }
        (.ok (.transition outcome))
  | applied (event : WebhookReport) (row : PaymentRow) (current : PaymentStatus)
      (id : PaymentId) (received now : Instant)
      (webhookEvents : Table WebhookEventRow EventClash) : row ∈ L.payments.rows →
      Matches event.provider event.providerReference row → row.status = .stored current →
      row.id = .stored id →
      L.webhookEvents.insert
        ((⟨event.eventId, event.provider, row.id, received⟩ : WebhookEventRow).kept b)
          = some webhookEvents →
      AmountAgrees event row → PaymentStatus.Legal current event.reportedStatus →
      (b = .sqlite → current ≠ event.reportedStatus) →
      Outcome fp b d L (.applyWebhookEvent event)
        (Ledger.updatePayment { L with webhookEvents } row.id false
          ((statusEdit event.reportedStatus now).kept b))
        (.ok (.transition (.applied id current event.reportedStatus)))
  | recordedOnly (event : WebhookReport) (row : PaymentRow) (received : Instant)
      (webhookEvents : Table WebhookEventRow EventClash) : b = .postgres →
      row ∈ L.payments.rows → Matches event.provider event.providerReference row →
      L.webhookEvents.insert
        ((⟨event.eventId, event.provider, row.id, received⟩ : WebhookEventRow).kept b)
          = some webhookEvents →
      Outcome fp b d L (.applyWebhookEvent event) { L with webhookEvents } (.error .internal)
  | appliedUnnamed (event : WebhookReport) (row : PaymentRow) (current : PaymentStatus)
      (received now : Instant) (webhookEvents : Table WebhookEventRow EventClash) :
      b = .postgres → row ∈ L.payments.rows →
      Matches event.provider event.providerReference row → row.status = .stored current →
      row.id.parse = none →
      L.webhookEvents.insert
        ((⟨event.eventId, event.provider, row.id, received⟩ : WebhookEventRow).kept b)
          = some webhookEvents →
      AmountAgrees event row → PaymentStatus.Legal current event.reportedStatus →
      Outcome fp b d L (.applyWebhookEvent event)
        (Ledger.updatePayment { L with webhookEvents } row.id false
          ((statusEdit event.reportedStatus now).kept b))
        (.error .internal)
  | marked (id : PaymentId) (t : PaymentStatus) (now : Instant) :
      (b = .sqlite → ∃ s, Validated L (.stored id) s t) →
      Outcome fp b d L (.markTerminalWithoutProviderReference id t)
        (L.updatePayment (.stored id) false ((statusEdit t now).kept b)) (.ok ())
  | markedUnknown (id : PaymentId) (now : Instant) :
      (b = .sqlite → ∃ s, Validated L (.stored id) s .unknown) →
      Outcome fp b d L (.markUnknown id)
        (L.updatePayment (.stored id) false ((statusEdit .unknown now).kept b)) (.ok ())
  | reconciled (id : PaymentId) (s t : PaymentStatus) (now : Instant) :
      Validated L (.stored id) s t → (b = .sqlite → s ≠ t) →
      Outcome fp b d L (.applyReconciliationResult id t)
        (L.updatePayment (.stored id) false ((statusEdit t now).kept b))
        (.ok (.applied id s t))
  | reconciledNoOp (id : PaymentId) (t : PaymentStatus) : b = .sqlite →
      Outcome fp b d L (.applyReconciliationResult id t) L (.ok .noOp)
  | reconciledIllegal (id : PaymentId) (s t : PaymentStatus) : ¬ PaymentStatus.Legal s t →
      Outcome fp b d L (.applyReconciliationResult id t) L (.ok (.illegal s t))
  | touched (id : PaymentId) (now : Instant) :
      Outcome fp b d L (.touchReconciliationAttempt id)
        (L.updatePayment (.stored id) true ((touchEdit now).kept b)) (.ok ())
  | refundRecorded (record : RefundRecord) (t : PaymentStatus) (now : Instant)
      (refunds : Table RefundRow RefundClash) :
      L.refunds.insert record.toRow = some refunds →
      Outcome fp b d L (.recordRefund record t)
        (Ledger.updatePayment { L with refunds } (.stored record.paymentId) false
          ((refundEdit t now).kept b))
        (.ok ())
  | refundTorn (record : RefundRecord) (t : PaymentStatus)
      (refunds : Table RefundRow RefundClash) : b = .sqlite →
      L.refunds.insert record.toRow = some refunds →
      Outcome fp b d L (.recordRefund record t) { L with refunds } (.error .internal)
  | total (id : PaymentId) :
      Outcome fp b d L (.getTotalRefundedMinorUnits id) L (.ok (L.sumRefunds id))
  | found (id : PaymentId) (row : PaymentRow) (payment : Payment) : row ∈ L.payments.rows →
      row.id = .stored id → row.toPayment = some payment →
      Outcome fp b d L (.getPayment id) L (.ok (some payment))
  | missing (id : PaymentId) : (∀ row ∈ L.payments.rows, row.id ≠ .stored id) →
      Outcome fp b d L (.getPayment id) L (.ok none)
  | referenced (reference : Text PaymentId) (row : PaymentRow) (payment : Payment) :
      row ∈ L.payments.rows → refers reference row = true → row.toPayment = some payment →
      Outcome fp b d L (.findPaymentByReference reference) L (.ok (some payment))
  | unreferenced (reference : Text PaymentId) :
      Outcome fp b d L (.findPaymentByReference reference) L (.ok none)
  | action (id : PaymentId) (row : PaymentRow) (nextAction : PaymentNextAction) :
      row ∈ L.payments.rows → row.id = .stored id →
      row.nextActionJson = some (.stored nextAction) →
      Outcome fp b d L (.getNextAction id) L (.ok (some nextAction))
  | noAction (id : PaymentId) : Outcome fp b d L (.getNextAction id) L (.ok none)
  | stalePayments (minAge limit : ℤ) (payments : List Payment) :
      (∀ p ∈ payments, ∃ row ∈ L.payments.rows, row.toPayment = some p ∧
        row.unresolved = true ∧ row.providerReference.isSome = true) →
      Outcome fp b d L (.listStaleUnknownPayments minAge limit) L (.ok payments)
  | refundsListed (id : PaymentId) (refunds : List RefundRecord) :
      Outcome fp b d L (.listRefundsForPayment id) L (.ok refunds)

section Derivation

theorem affected_of_mem {L : Ledger} {row : PaymentRow} {id : Text PaymentId}
    (mem : row ∈ L.payments.rows) (is : row.id = id) :
    L.payments.affected (targets id false) = 1 :=
  L.payments.affected_eq_one mem (by simp [targets, is])
    fun other same => .inl (by simpa [targets, is] using same)

/-- After an unguarded update of its status a row reads the new status. -/
theorem updated_status {L : Ledger} {row : PaymentRow} {edit : PaymentEdit}
    {status : PaymentStatus} (mem : row ∈ L.payments.rows) (sets : edit.status = some status) :
    ∃ row' ∈ (L.updatePayment row.id false edit).payments.rows,
      row'.id = row.id ∧ row'.status = .stored status := by
  refine ⟨_, List.mem_map_of_mem mem, ?_, ?_⟩
  · exact Table.change_proj (f := edit.apply) PaymentRow.id (fun _ => rfl) row
  · rw [Table.change_of_pos (by simp [targets]), PaymentEdit.apply, sets]
    rfl

variable {fp : PaymentRequest → String} {d : Draw} {L : Ledger}

/-- What a program for `op` has to end in. -/
abbrev Derives (fp : PaymentRequest → String) (b : Backend) (d : Draw) (L : Ledger)
    (op : StoreOp) (p : Sql op.Result) : Prop :=
  Ends (exec b d) (fun s r => Outcome fp b d L op s.close r) 0 (Session.on L) p

theorem begin_outcome {b : Backend} (request : PaymentRequest) (owner : Option ApiKeyInfo) :
    Derives fp b d L (.beginPaymentWithOwner request owner)
      (beginPaymentWithOwner fp request owner) := by
  simp only [Derives, beginPaymentWithOwner, Sql.newPaymentId, Sql.now, Sql.write,
    Sql.selectByKey, perform_bind]
  apply ends_newPaymentId
  apply ends_now
  refine ends_write (.failed _) (fun _ => ?_) (fun L' rows performed => ?_)
  · refine ends_selectByKey (.failed _) (fun row mem key => ?_) (fun _ => .failed _)
    dsimp only
    cases parsed : row.toPayment with
    | none => exact .failed _
    | some payment =>
      dsimp only
      split
      next same => exact .existing request owner row payment mem key parsed same
      next differs => exact .conflicting request owner row mem key differs
  · simp only [Write.perform] at performed
    split at performed
    next payments inserted =>
      simp only [Except.ok.injEq, Prod.mk.injEq] at performed
      rw [← performed.1]
      exact .begun request owner _ payments inserted
    · cases performed

theorem getPayment_outcome {b : Backend} (id : PaymentId) :
    Derives fp b d L (.getPayment id) (getPayment id) := by
  simp only [Derives, getPayment, Sql.selectPayment, perform_bind]
  refine ends_selectPayment (.failed _) (fun row mem is => ?_) (fun missing => .missing id missing)
  dsimp only [readPayment]
  cases parsed : row.toPayment with
  | none => exact .failed _
  | some payment => exact .found id row payment mem is parsed

theorem findPaymentByReference_outcome {b : Backend} (reference : Text PaymentId) :
    Derives fp b d L (.findPaymentByReference reference)
      (findPaymentByReference reference) := by
  simp only [Derives, findPaymentByReference, Sql.selectByReference, perform_bind]
  refine ends_selectByReference (.failed _) (fun row mem is => ?_) (.unreferenced reference)
  dsimp only [readPayment]
  cases parsed : row.toPayment with
  | none => exact .failed _
  | some payment => exact .referenced reference row payment mem is parsed

theorem getNextAction_outcome {b : Backend} (id : PaymentId) :
    Derives fp b d L (.getNextAction id) (getNextAction id) := by
  simp only [Derives, getNextAction, Sql.selectPayment, perform_bind]
  refine ends_selectPayment (.failed _) (fun row mem is => ?_) (fun _ => .noAction id)
  dsimp only [Option.bind_some]
  cases stored : row.nextActionJson with
  | none => exact .noAction id
  | some text =>
    cases text with
    | stored action => exact .action id row action mem is stored
    | corrupt raw => exact .failed _

theorem mem_of_collect {α β : Type} {f : α → Option β} {l : List α} {bs : List β}
    (collected : collect f l = some bs) : ∀ b ∈ bs, ∃ a ∈ l, f a = some b := by
  induction l generalizing bs with
  | nil =>
    cases collected
    simp
  | cons a l ih =>
    simp only [collect] at collected
    split at collected
    next b' bs' first rest =>
      cases collected
      intro b mem
      rcases List.mem_cons.mp mem with rfl | later
      · exact ⟨a, List.mem_cons_self, first⟩
      · obtain ⟨a', mem', eq⟩ := ih rest b later
        exact ⟨a', List.mem_cons_of_mem _ mem', eq⟩
    · cases collected

theorem listStale_outcome {b : Backend} (minAge limit : ℤ) :
    Derives fp b d L (.listStaleUnknownPayments minAge limit)
      (listStaleUnknownPayments minAge limit) := by
  simp only [Derives, listStaleUnknownPayments, Sql.now, Sql.selectStale, perform_bind]
  apply ends_now
  refine ends_selectStale (.failed _) (fun rows members => ?_)
  dsimp only
  cases collected : collect PaymentRow.toPayment rows with
  | none => exact .failed _
  | some payments =>
    refine Outcome.stalePayments minAge limit payments fun p mem => ?_
    obtain ⟨row, inRows, parsed⟩ := mem_of_collect collected p mem
    obtain ⟨inTable, isStale⟩ := members row inRows
    simp only [stale, Bool.and_eq_true] at isStale
    exact ⟨row, inTable, parsed, isStale.1.1, isStale.2⟩

theorem touch_outcome {b : Backend} (id : PaymentId) :
    Derives fp b d L (.touchReconciliationAttempt id) (touchReconciliationAttempt id) := by
  simp only [Derives, touchReconciliationAttempt, Sql.now, Sql.write, perform_bind]
  apply ends_now
  exact ends_update (.failed _) (.touched id _)

theorem total_outcome {b : Backend} (id : PaymentId) :
    Derives fp b d L (.getTotalRefundedMinorUnits id) (getTotalRefundedMinorUnits id) := by
  simp only [Derives, getTotalRefundedMinorUnits, Sql.sumRefunds, perform_bind]
  exact ends_sumRefunds (.failed _) (.total id)

theorem listRefunds_outcome {b : Backend} (id : PaymentId) :
    Derives fp b d L (.listRefundsForPayment id) (listRefundsForPayment id) := by
  simp only [Derives, listRefundsForPayment, Sql.selectRefunds, perform_bind]
  refine ends_selectRefunds (.failed _) ?_
  dsimp only
  cases collect toRefundRecord (refundsOf (Session.on L).ledger id) with
  | none => exact .failed _
  | some refunds => exact .refundsListed id refunds

section Sqlite

theorem sqlite_recordCreationResult_outcome (id : PaymentId) (reference : String)
    (t : PaymentStatus) (nextAction : Option PaymentNextAction) :
    Derives fp .sqlite d L (.recordCreationResult id reference t nextAction)
      (SqliteStore.recordCreationResult id reference t nextAction) := by
  simp only [Derives, SqliteStore.recordCreationResult, Sql.now, Sql.selectPayment, Sql.write,
    perform_bind]
  apply ends_now
  refine ends_selectPayment (.failed _) (fun row mem is => ?_) (fun _ => .failed _)
  dsimp only
  cases parsed : row.status.parse with
  | none => exact .failed _
  | some s =>
    dsimp only
    cases legal : s.validateTransition t with
    | error e => exact .failed _
    | ok _ =>
      dsimp only
      split
      · exact .failed _
      next agrees =>
        have checked : CreationChecked L id reference t := by
          refine ⟨row, mem, is, ⟨s, Text.parse_eq_some.mp parsed, legal⟩, ?_⟩
          cases stored : row.providerReference with
          | none => exact .inl rfl
          | some r => exact .inr (by simpa [stored] using agrees)
        refine ends_update (.failed _) ?_
        dsimp only
        rw [affected_of_mem mem is]
        exact .created id reference t nextAction _ fun _ => checked

theorem sqlite_updateStatusOnly_ends {R : Session → StoreResult Unit → Prop}
    (id : PaymentId) (t : PaymentStatus) (failed : R (Session.on L) (.error .internal))
    (updated : ∀ s now, Validated L (.stored id) s t →
      R ⟨L.updatePayment (.stored id) false ((statusEdit t now).kept .sqlite), none⟩ (.ok ())) :
    Ends (exec .sqlite d) R 0 (Session.on L) (SqliteStore.updateStatusOnly id t) := by
  simp only [SqliteStore.updateStatusOnly, Sql.now, Sql.selectPayment, Sql.write, perform_bind]
  apply ends_now
  refine ends_selectPayment failed (fun row mem is => ?_) (fun _ => failed)
  dsimp only
  cases parsed : row.status.parse with
  | none => exact failed
  | some s =>
    dsimp only
    cases legal : s.validateTransition t with
    | error e => exact failed
    | ok _ =>
      have validated : Validated L (.stored id) s t :=
        ⟨legal, row, mem, is, Text.parse_eq_some.mp parsed⟩
      exact ends_update failed (updated s _ validated)

theorem sqlite_markTerminal_outcome (id : PaymentId) (t : PaymentStatus) :
    Derives fp .sqlite d L (.markTerminalWithoutProviderReference id t)
      (SqliteStore.markTerminalWithoutProviderReference id t) := by
  unfold SqliteStore.markTerminalWithoutProviderReference
  split
  · exact sqlite_updateStatusOnly_ends id t (.failed _)
      fun s now validated => .marked id t now fun _ => ⟨s, validated⟩
  next working => exact .panicked id t rfl (by simpa using working)

theorem sqlite_markUnknown_outcome (id : PaymentId) :
    Derives fp .sqlite d L (.markUnknown id) (SqliteStore.markUnknown id) :=
  sqlite_updateStatusOnly_ends id .unknown (.failed _)
    fun s now validated => .markedUnknown id now fun _ => ⟨s, validated⟩

theorem sqlite_applyReconciliationResult_outcome (id : PaymentId) (t : PaymentStatus) :
    Derives fp .sqlite d L (.applyReconciliationResult id t)
      (SqliteStore.applyReconciliationResult id t) := by
  simp only [Derives, SqliteStore.applyReconciliationResult, Sql.now, Sql.selectPayment,
    Sql.write, perform_bind]
  apply ends_now
  refine ends_selectPayment (.failed _) (fun row mem is => ?_) (fun _ => .failed _)
  dsimp only
  cases parsed : row.status.parse with
  | none => exact .failed _
  | some s =>
    dsimp only
    cases legal : s.validateTransition t with
    | error e =>
      obtain ⟨rfl, _⟩ := PaymentStatus.validateTransition_error legal
      exact .reconciledIllegal id s t (by simp [PaymentStatus.Legal, legal])
    | ok _ =>
      dsimp only
      split
      · exact .reconciledNoOp id t rfl
      next apart =>
        have validated : Validated L (.stored id) s t :=
          ⟨legal, row, mem, is, Text.parse_eq_some.mp parsed⟩
        exact ends_update (.failed _) (.reconciled id s t _ validated fun _ => apart)

theorem sqlite_recordRefund_outcome (record : RefundRecord) (t : PaymentStatus) :
    Derives fp .sqlite d L (.recordRefund record t) (SqliteStore.recordRefund record t) := by
  simp only [Derives, SqliteStore.recordRefund, Sql.now, Sql.write, perform_bind]
  apply ends_now
  refine ends_write (.failed _) (fun _ => .failed _) (fun L' rows performed => ?_)
  simp only [Write.perform] at performed
  split at performed
  next refunds inserted =>
    simp only [Except.ok.injEq, Prod.mk.injEq] at performed
    rw [← performed.1]
    exact ends_update (.refundTorn record t refunds rfl inserted)
      (.refundRecorded record t _ refunds inserted)
  · cases performed

/-- What is left of a webhook transaction once the event is inserted. -/
theorem sqlite_judge_ends {R : Session → StoreResult WebhookApplyOutcome → Prop}
    {L' : Ledger} {event : WebhookReport} {row : PaymentRow} {current : PaymentStatus}
    {now : Instant} {n : ℕ} {k : StoreResult TransitionOutcome → Sql (StoreResult WebhookApplyOutcome)}
    (mem : row ∈ L'.payments.rows)
    (failed : ∀ s n, s.saved = some L → Ends (exec .sqlite d) R n s (k (.error .internal)))
    (judged : ∀ outcome n, Judged .sqlite event row current outcome →
      Ends (exec .sqlite d) R n ⟨L', some L⟩ (k (.ok outcome)))
    (applied : ∀ id n, AmountAgrees event row → PaymentStatus.Legal current event.reportedStatus →
      current ≠ event.reportedStatus → row.id = .stored id →
      Ends (exec .sqlite d) R n
        ⟨L'.updatePayment row.id false ((statusEdit event.reportedStatus now).kept .sqlite), some L⟩
        (k (.ok (.applied id current event.reportedStatus)))) :
    Ends (exec .sqlite d) R n ⟨L', some L⟩ (SqliteStore.judge row event current now >>= k) := by
  have transition : AmountAgrees event row → Ends (exec .sqlite d) R n ⟨L', some L⟩
      (SqliteStore.applySqliteTransition row.id current event.reportedStatus now >>= k) := by
    intro agrees
    unfold SqliteStore.applySqliteTransition
    split
    next same => exact judged .noOp n (.noOp rfl agrees same)
    next apart =>
      cases legal : current.validateTransition event.reportedStatus with
      | error e =>
        obtain ⟨rfl, _⟩ := PaymentStatus.validateTransition_error legal
        exact judged _ n (.illegal agrees (by simp [PaymentStatus.Legal, legal]))
      | ok _ =>
        simp only [Sql.write, perform_bind, call_bind]
        refine ends_update (failed _ _ rfl) ?_
        simp only [affected_of_mem mem rfl]
        cases parsed : row.id.parse with
        | none => exact failed _ _ rfl
        | some id => exact applied id _ agrees legal apart (Text.parse_eq_some.mp parsed)
  unfold SqliteStore.judge
  cases amount : event.reportedAmountMinorUnits with
  | none => exact transition (.inl amount)
  | some reported =>
    dsimp only
    split
    next differs => exact judged _ n (.mismatch reported amount differs)
    next agrees => exact transition (.inr (by simpa [amount] using agrees))

theorem sqlite_applyWebhookEvent_outcome (event : WebhookReport) :
    Derives fp .sqlite d L (.applyWebhookEvent event) (SqliteStore.applyWebhookEvent event) := by
  simp only [Derives, SqliteStore.applyWebhookEvent, Sql.now, Sql.beginTransaction,
    Sql.selectByProviderReference, Sql.write, Sql.commit, perform_bind]
  apply ends_now
  refine ends_beginTransaction (.failed _) ?_
  refine ends_selectByProviderReference (.failed _) (fun row mem matching => ?_)
    (fun unmatched => .notFound event unmatched)
  refine ends_write (.failed _) (fun clash => ?_) (fun L' rows performed => ?_)
  · simp only [Write.perform] at clash
    split at clash
    · cases clash
    next taken =>
      obtain ⟨e, mem, same⟩ := Table.insert_eq_none.mp taken
      exact .duplicate event ⟨e, mem, same⟩
  · simp only [Write.perform] at performed
    split at performed
    next webhookEvents inserted =>
      simp only [Except.ok.injEq, Prod.mk.injEq] at performed
      rw [← performed.1]
      dsimp only
      cases parsed : row.status.parse with
      | none => exact .failed _
      | some current =>
        have stored := Text.parse_eq_some.mp parsed
        refine sqlite_judge_ends (L := L) mem (fun s n saved => ?_) (fun outcome n judged => ?_)
          (fun id n agrees legal apart is => ?_)
        · have closed : s.close = L := by simp [Session.close, saved]
          have outcome : Outcome fp .sqlite d L (.applyWebhookEvent event) L (.error .internal) :=
            .failed _
          simpa [closed] using outcome
        · exact ends_commit (.failed _)
            (.judged event row current outcome _ webhookEvents mem matching stored inserted judged)
        · exact ends_commit (.failed _)
            (.applied event row current id _ _ webhookEvents mem matching stored is inserted
              agrees legal fun _ => apart)
    · cases performed

end Sqlite

section Postgres

theorem postgres_updateStatusOnly_ends {R : Session → StoreResult Unit → Prop} {n : ℕ}
    (id : PaymentId) (t : PaymentStatus) (failed : R (Session.on L) (.error .internal))
    (updated : ∀ now,
      R ⟨L.updatePayment (.stored id) false ((statusEdit t now).kept .postgres), none⟩ (.ok ())) :
    Ends (exec .postgres d) R n (Session.on L) (PostgresStore.updateStatusOnly id t) := by
  simp only [PostgresStore.updateStatusOnly, Sql.now, Sql.write, perform_bind]
  apply ends_now
  exact ends_update failed (updated _)

theorem postgres_recordCreationResult_outcome (id : PaymentId) (reference : String)
    (t : PaymentStatus) (nextAction : Option PaymentNextAction) :
    Derives fp .postgres d L (.recordCreationResult id reference t nextAction)
      (PostgresStore.recordCreationResult id reference t nextAction) := by
  simp only [Derives, PostgresStore.recordCreationResult, Sql.now, Sql.write, perform_bind]
  apply ends_now
  refine ends_update (.failed _) ?_
  exact .created id reference t nextAction _ fun sqlite => by cases sqlite

theorem postgres_applyWebhookEvent_outcome (event : WebhookReport) :
    Derives fp .postgres d L (.applyWebhookEvent event)
      (PostgresStore.applyWebhookEvent event) := by
  simp only [Derives, PostgresStore.applyWebhookEvent, Sql.now, Sql.selectByProviderReference,
    Sql.write, perform_bind]
  refine ends_selectByProviderReference (.failed _) (fun row mem matching => ?_)
    (fun unmatched => .notFound event unmatched)
  apply ends_now
  refine ends_write (.failed _) (fun clash => ?_) (fun L' rows performed => ?_)
  · simp only [Write.perform] at clash
    split at clash
    · cases clash
    next taken =>
      obtain ⟨e, mem, same⟩ := Table.insert_eq_none.mp taken
      exact .duplicate event ⟨e, mem, same⟩
  · simp only [Write.perform] at performed
    split at performed
    next webhookEvents inserted =>
      simp only [Except.ok.injEq, Prod.mk.injEq] at performed
      rw [← performed.1]
      have torn : Outcome fp .postgres d L (.applyWebhookEvent event) { L with webhookEvents }
          (.error .internal) :=
        .recordedOnly event row _ webhookEvents rfl mem matching inserted
      dsimp only
      cases parsed : row.status.parse with
      | none => exact torn
      | some current =>
        have stored := Text.parse_eq_some.mp parsed
        dsimp only
        split
        next differs =>
          obtain ⟨reported, amount, apart⟩ : ∃ reported,
              event.reportedAmountMinorUnits = some reported ∧
                reported ≠ row.amountMinorUnits := by
            simpa [Option.any_eq_true] using differs
          simp only [amount, Option.getD_some]
          exact .judged event row current _ _ webhookEvents mem matching stored inserted
            (.mismatch reported amount apart)
        next passes =>
          have agrees : AmountAgrees event row := by
            unfold AmountAgrees
            cases amount : event.reportedAmountMinorUnits with
            | none => exact .inl rfl
            | some reported => exact .inr (by simpa [amount] using passes)
          cases legal : current.validateTransition event.reportedStatus with
          | error e =>
            obtain ⟨rfl, _⟩ := PaymentStatus.validateTransition_error legal
            exact .judged event row current _ _ webhookEvents mem matching stored inserted
              (.illegal agrees (by simp [PaymentStatus.Legal, legal]))
          | ok _ =>
            apply ends_now
            refine ends_update torn ?_
            dsimp only
            cases named : row.id.parse with
            | none =>
              exact .appliedUnnamed event row current _ _ webhookEvents rfl mem matching stored
                named inserted agrees legal
            | some id =>
              exact .applied event row current id _ _ webhookEvents mem matching stored
                (Text.parse_eq_some.mp named) inserted agrees legal fun sqlite => by cases sqlite
    · cases performed

theorem postgres_markTerminal_outcome (id : PaymentId) (t : PaymentStatus) :
    Derives fp .postgres d L (.markTerminalWithoutProviderReference id t)
      (PostgresStore.markTerminalWithoutProviderReference id t) :=
  postgres_updateStatusOnly_ends id t (.failed _)
    fun now => .marked id t now fun sqlite => by cases sqlite

theorem postgres_markUnknown_outcome (id : PaymentId) :
    Derives fp .postgres d L (.markUnknown id) (PostgresStore.markUnknown id) :=
  postgres_updateStatusOnly_ends id .unknown (.failed _)
    fun now => .markedUnknown id now fun sqlite => by cases sqlite

theorem postgres_applyReconciliationResult_outcome (id : PaymentId) (t : PaymentStatus) :
    Derives fp .postgres d L (.applyReconciliationResult id t)
      (PostgresStore.applyReconciliationResult id t) := by
  simp only [Derives, PostgresStore.applyReconciliationResult, getPayment, Sql.selectPayment,
    perform_bind, call_bind]
  refine ends_selectPayment (.failed _) (fun row mem is => ?_) (fun _ => .failed _)
  dsimp only [readPayment]
  cases parsed : row.toPayment with
  | none => exact .failed _
  | some payment =>
    simp only [pure_eq, done_bind]
    cases legal : payment.status.validateTransition t with
    | error e =>
      obtain ⟨rfl, _⟩ := PaymentStatus.validateTransition_error legal
      exact .reconciledIllegal id _ t (by simp [PaymentStatus.Legal, legal])
    | ok _ =>
      simp only [PostgresStore.updateStatusOnly, Sql.now, Sql.write, perform_bind, call_bind]
      have validated : Validated L (.stored id) payment.status t :=
        ⟨legal, row, mem, is, (readFrom_of_toPayment parsed).status⟩
      apply ends_now
      exact ends_update (.failed _)
        (.reconciled id payment.status t _ validated fun sqlite => by cases sqlite)

theorem postgres_recordRefund_outcome (record : RefundRecord) (t : PaymentStatus) :
    Derives fp .postgres d L (.recordRefund record t) (PostgresStore.recordRefund record t) := by
  simp only [Derives, PostgresStore.recordRefund, Sql.now, Sql.transaction, perform_bind]
  apply ends_now
  refine ends_transaction (fun _ => .failed _) (fun L' performed => ?_)
  simp only [performAll, Write.perform] at performed
  split at performed
  next L'' rows inserted =>
    split at inserted
    next refunds isNew =>
      cases inserted
      cases performed
      exact .refundRecorded record t _ refunds isNew
    · cases inserted
  · cases performed

end Postgres

theorem execOp_outcome (fp : PaymentRequest → String) (b : Backend) (d : Draw) (L : Ledger)
    (op : StoreOp) :
    Outcome fp b d L op (execOp fp b d L op).1 (execOp fp b d L op).2 := by
  cases op with
  | beginPaymentWithOwner request owner => exact begin_outcome request owner
  | recordCreationResult id reference t nextAction =>
    cases b with
    | sqlite => exact sqlite_recordCreationResult_outcome id reference t nextAction
    | postgres => exact postgres_recordCreationResult_outcome id reference t nextAction
  | applyWebhookEvent event =>
    cases b with
    | sqlite => exact sqlite_applyWebhookEvent_outcome event
    | postgres => exact postgres_applyWebhookEvent_outcome event
  | markTerminalWithoutProviderReference id t =>
    cases b with
    | sqlite => exact sqlite_markTerminal_outcome id t
    | postgres => exact postgres_markTerminal_outcome id t
  | markUnknown id =>
    cases b with
    | sqlite => exact sqlite_markUnknown_outcome id
    | postgres => exact postgres_markUnknown_outcome id
  | applyReconciliationResult id t =>
    cases b with
    | sqlite => exact sqlite_applyReconciliationResult_outcome id t
    | postgres => exact postgres_applyReconciliationResult_outcome id t
  | getPayment id => exact getPayment_outcome id
  | findPaymentByReference reference => exact findPaymentByReference_outcome reference
  | getNextAction id => exact getNextAction_outcome id
  | listStaleUnknownPayments minAge limit => exact listStale_outcome minAge limit
  | touchReconciliationAttempt id => exact touch_outcome id
  | recordRefund record t =>
    cases b with
    | sqlite => exact sqlite_recordRefund_outcome record t
    | postgres => exact postgres_recordRefund_outcome record t
  | getTotalRefundedMinorUnits id => exact total_outcome id
  | listRefundsForPayment id => exact listRefunds_outcome id

end Derivation

end OpenWrapper.StoreContract
