import OpenWrapper.Evolution

/-! # The claimant of a payment

`begin_payment` lets one task proceed with a payment. Until that task writes
the outcome of the provider call the row stays as it was inserted, pending and
with no reference: every other writer is led to its row by a reference. -/

set_option autoImplicit false

namespace OpenWrapper.Claimants
open OpenWrapper.Ids OpenWrapper.Errors OpenWrapper.Payments OpenWrapper.Schema
open OpenWrapper.ConstraintTable OpenWrapper.PaymentStore OpenWrapper.StatementRules
open OpenWrapper.StoreContract OpenWrapper.Providers OpenWrapper.Effects OpenWrapper.Gateway
open OpenWrapper.Contracts OpenWrapper.Evolution OpenWrapper.Suspended OpenWrapper.Interleaving

section Uniqueness

/-- What the store keeps unique about a claim. -/
inductive Mark where
  | key (key : IdempotencyKey)
  | id (id : PaymentId)

def Mark.names : Mark → PaymentRequest → PaymentId → Bool
  | key k, request, _ => request.idempotencyKey == k
  | id i, _, given => given == i

def Mark.on : Mark → PaymentRow → Prop
  | key k, row => row.idempotencyKey = .stored k
  | id i, row => row.id = .stored i

/-- The answers that let a task proceed with a claim of the mark. -/
def proceeds (m : Mark) : GwEvent → ℕ
  | ⟨.store (.beginPaymentWithOwner request _), .ok (.proceed id)⟩ =>
    if m.names request id then 1 else 0
  | _ => 0

theorem proceeds_cases (m : Mark) (ev : GwEvent) :
    proceeds m ev = 0 ∨ proceeds m ev = 1 ∧ ∃ request owner id,
      ev = told (.beginPaymentWithOwner request owner) (.proceed id) ∧
        m.names request id = true := by
  unfold proceeds
  split
  next request owner id =>
    by_cases named : m.names request id = true
    · exact .inr ⟨if_pos named, request, owner, id, rfl, named⟩
    · exact .inl (if_neg named)
  · exact .inl rfl

/-- Nobody has made the claim, or one task has and the row is there. -/
def ClaimedOnce (m : Mark) (w : GwWorld) : Prop :=
  total (proceeds m) w = 0 ∨ total (proceeds m) w = 1 ∧
    ∃ row ∈ w.shared.ledger.payments.rows, m.on row

variable {m : Mark} {w w' : GwWorld}

theorem ClaimedOnce.le_one (once : ClaimedOnce m w) : total (proceeds m) w ≤ 1 := by
  rcases once with none_ | ⟨one, -⟩
  · omega
  · omega

theorem ClaimedOnce.evolves (once : ClaimedOnce m w)
    (evolves : Evolves w.shared.ledger w'.shared.ledger)
    (same : total (proceeds m) w' = total (proceeds m) w) : ClaimedOnce m w' := by
  unfold ClaimedOnce
  rw [same]
  rcases once with none_ | ⟨one, row, mem, on⟩
  · exact .inl none_
  · obtain ⟨row', mem', cont⟩ := evolves.payments row mem
    refine .inr ⟨one, row', mem', ?_⟩
    cases m with
    | key k => exact cont.idempotencyKey.trans on
    | id i => exact cont.id.trans on

/-- A claim is made by inserting its row, so there was none before. -/
theorem proceeds_fresh {fp : PaymentRequest → String} {b : Backend} {d : Draw} {L L' : Ledger}
    {request : PaymentRequest} {owner : Option ApiKeyInfo} {id : PaymentId}
    (outcome : Outcome fp b d L (.beginPaymentWithOwner request owner) L' (.ok (.proceed id)))
    (named : m.names request id = true) :
    (∀ row ∈ L.payments.rows, ¬ m.on row) ∧ ∃ row ∈ L'.payments.rows, m.on row := by
  cases outcome with
  | begun request owner now payments inserted =>
    obtain ⟨fresh, rows⟩ := Table.insert_eq_some.mp inserted
    have on : m.on ((newRow fp request owner d.fresh now).kept b) := by
      cases m with
      | key k => exact congrArg Text.stored (beq_iff_eq.mp named)
      | id i => exact congrArg Text.stored (beq_iff_eq.mp named)
    constructor
    · intro row mem held
      apply fresh row mem
      cases m with
      | key k => exact .inr (held.trans on.symm)
      | id i => exact .inl (held.trans on.symm)
    · exact ⟨_, by rw [rows]; exact List.mem_append_right _ (List.mem_singleton.mpr rfl), on⟩

theorem ClaimedOnce.step {b : Backend} {app : App} {a : GwAction} (once : ClaimedOnce m w)
    (stepped : step (setting b app) w a = some w') : ClaimedOnce m w' := by
  obtain ⟨o, -, rfl⟩ | ⟨i, c, -, ⟨adv⟩⟩ | ⟨i, t, -, found, rfl⟩ := step_cases stepped
  · exact once.evolves (Evolves.refl _) (total_spawn (proceeds m) (setting b app) w o)
  · have evolves := react_evolves adv.reacted
    rw [← adv.shared_eq] at evolves
    have grown := total_advance (proceeds m) adv
    rcases proceeds_cases m ⟨adv.effect, adv.response⟩ with
      nothing | ⟨one, request, owner, id, event, named⟩
    · exact once.evolves evolves (by rw [grown, nothing, zero_add])
    · obtain ⟨reacted, -⟩ := adv.of_event event
      obtain ⟨d, same, answer⟩ := react_store reacted
      have outcome := execOp_outcome app.fingerprint b d w.shared.ledger
        (.beginPaymentWithOwner request owner)
      rw [← same, ← answer, ← adv.shared_eq] at outcome
      obtain ⟨unheld, held⟩ := proceeds_fresh outcome named
      rcases once with none_ | ⟨-, row, mem, on⟩
      · exact .inr ⟨by omega, held⟩
      · exact absurd on (unheld row mem)
  · exact once.evolves (Evolves.refl _) (total_cancel (proceeds m) w found)

end Uniqueness

section References

/-- The row of the payment carries the provider's reference. -/
def Referenced (L : Ledger) (id : PaymentId) : Prop :=
  ∃ row ∈ L.payments.rows, row.id = .stored id ∧ row.providerReference.isSome = true

/-- A message names a stored payment, its provider and a reference it has. -/
def Addressed (L : Ledger) (m : ReconcileQueueMessage) : Prop :=
  ∃ row ∈ L.payments.rows, row.id = m.paymentId ∧
    (∃ provider : ProviderId, row.provider = .stored provider ∧ provider.asStr = m.provider) ∧
    row.providerReference.isSome = true

theorem Addressed.evolves {L L' : Ledger} {m : ReconcileQueueMessage} (addressed : Addressed L m)
    (evolves : Evolves L L') : Addressed L' m := by
  obtain ⟨row, mem, is, ⟨provider, at_, named⟩, referenced⟩ := addressed
  obtain ⟨row', mem', cont⟩ := evolves.payments row mem
  exact ⟨row', mem', cont.id.trans is, ⟨provider, cont.provider.trans at_, named⟩,
    cont.referenced referenced⟩

theorem Referenced.evolves {L L' : Ledger} {id : PaymentId} (referenced : Referenced L id)
    (evolves : Evolves L L') : Referenced L' id := by
  obtain ⟨row, mem, is, some_⟩ := referenced
  obtain ⟨row', mem', cont⟩ := evolves.payments row mem
  exact ⟨row', mem', cont.id.trans is, cont.referenced some_⟩

/-- A delivery of the reconciliation queue that a task was handed. -/
def Handed (s : Shared) : GwEvent → Prop
  | ⟨.receiveReconcile, d⟩ => Addressed s.ledger d.message
  | _ => True

structure Posted (w : GwWorld) : Prop where
  queued : ∀ d ∈ w.shared.reconcileQueue, Addressed w.shared.ledger d.message
  handed : Recorded Handed w

theorem posted_start (apiKeys : List ApiKeyRow) : Posted (start apiKeys) :=
  ⟨by simp [start, Shared.start], by simp [start, Recorded]⟩

variable {b : Backend} {app : App} {w w' : GwWorld}

/-- A message is in the queue because a task published it. -/
theorem react_reconcileQueue {s s' : Shared} {e : Effect} {c : Choice} {r : e.Response}
    (reacted : react b app s e c = some (s', r)) {d : Delivery ReconcileQueueMessage}
    (mem : d ∈ s'.reconcileQueue) : d ∈ s.reconcileQueue ∨ e = .publishReconcile d.message := by
  obtain ⟨m, rfl, rfl⟩ | ⟨m, rfl, rfl⟩ | ⟨tag, rfl, rfl⟩ | ⟨tag, rfl, rfl⟩ | same :=
    react_queues reacted
  · exact .inl mem
  · rcases List.mem_append.mp mem with old | new
    · exact .inl old
    · rw [List.mem_singleton.mp new]
      exact .inr rfl
  · exact .inl mem
  · exact .inl (List.mem_of_mem_filter mem)
  · rw [same] at mem
    exact .inl mem

theorem react_received {s s' : Shared} {c : Choice} {d : Delivery ReconcileQueueMessage}
    (reacted : react b app s .receiveReconcile c = some (s', d)) : d ∈ s.reconcileQueue := by
  cases c with
  | received index =>
    simp only [react, Option.map_eq_some_iff, Prod.mk.injEq] at reacted
    obtain ⟨d', found, -, rfl⟩ := reacted
    exact List.mem_of_getElem? found
  | _ => simp [react] at reacted

theorem addressed_of_licensed {t : GwTask} (sane : Sane app w) (posted : Posted w)
    (mem : t ∈ w.tasks) {m : ReconcileQueueMessage}
    (license : Licensed app t.origin t.history (.publishReconcile m)) :
    Addressed w.shared.ledger m := by
  rcases license with ⟨held, reference, holds, known, rfl⟩ | ⟨d, received, attempt, rfl⟩
  · obtain ⟨row, still⟩ := sane.stored mem holds
    exact ⟨row, still.mem, still.id, ⟨held.provider, still.provider, rfl⟩,
      still.referenced (by rw [known]; rfl)⟩
  · exact posted.handed t mem _ received

theorem Posted.step {a : GwAction} (posted : Posted w) (sane : Sane app w)
    (stepped : step (setting b app) w a = some w') : Posted w' where
  queued := by
    obtain ⟨o, -, rfl⟩ | ⟨i, c, -, ⟨adv⟩⟩ | ⟨i, t, -, found, rfl⟩ := step_cases stepped
    · exact posted.queued
    · rw [adv.shared_eq]
      intro d mem
      have evolves := react_evolves adv.reacted
      rcases react_reconcileQueue adv.reacted mem with old | published
      · exact (posted.queued d old).evolves evolves
      · have license := adv.licensed sane.follows
        rw [published] at license
        exact (addressed_of_licensed sane posted adv.mem license).evolves evolves
    · exact posted.queued
  handed := by
    refine recorded_step (fun i c adv => ?_) (fun i c adv ev handed => ?_) posted.handed stepped
    · have reacted := adv.reacted
      have evolves := react_evolves reacted
      generalize adv.effect = e, adv.response = r at reacted
      cases e with
      | receiveReconcile => exact (posted.queued r (react_received reacted)).evolves evolves
      | _ => trivial
    · have evolves := react_evolves adv.reacted
      obtain ⟨e, r⟩ := ev
      cases e with
      | receiveReconcile => exact Addressed.evolves handed evolves
      | _ => trivial

/-- The effects that inquire a payment at its provider, refund it there, or
store what came of it. -/
def settles (id : PaymentId) : Effect → Bool
  | .inquireStatus _ payment _ => payment == .stored id
  | .refund _ of_ _ _ _ => of_ == id
  | .store (.applyReconciliationResult of_ _) => of_ == id
  | .store (.recordRefund record _) => record.paymentId == id
  | _ => false

variable {id : PaymentId} {t : GwTask}

theorem referenced_of_holds (sane : Sane app w) (mem : t ∈ w.tasks) {held : Payment}
    {reference : String} (holds : Holds t.history held)
    (known : held.providerReference = some reference) : Referenced w.shared.ledger held.id := by
  obtain ⟨row, still⟩ := sane.stored mem holds
  exact ⟨row, still.mem, still.id, still.referenced (by rw [known]; rfl)⟩

/-- Whoever inquires a payment was led to it by its reference. -/
theorem referenced_of_inquiry (sane : Sane app w) (posted : Posted w) (mem : t ∈ w.tasks)
    {h : Past} (suffix : h <:+ t.history) {p : Provider} {reference : String}
    (license : Licensed app t.origin h (.inquireStatus p (.stored id) reference)) :
    Referenced w.shared.ledger id := by
  rcases license with ⟨held, holds, is, known, -⟩ | ⟨d, received, is, -, -⟩
  · rw [Text.stored.inj is]
    obtain ⟨ev, known_, handed⟩ := holds
    exact referenced_of_holds sane mem ⟨ev, suffix.subset known_, handed⟩ known
  · obtain ⟨row, stored, same, -, referenced⟩ := posted.handed t mem _ (suffix.subset received)
    exact ⟨row, stored, same.trans is.symm, referenced⟩

theorem referenced_of_refund (sane : Sane app w) (mem : t ∈ w.tasks) {h : Past}
    (suffix : h <:+ t.history) {payment : Payment} {previously amount : ℤ} {reference : String}
    (checked : RefundChecked h id payment previously amount)
    (known : payment.providerReference = some reference) :
    payment.id = id ∧ Referenced w.shared.ledger id := by
  obtain ⟨rest, read⟩ := checked.read
  have told_ : told (.getPayment id) (some payment) ∈ t.history :=
    suffix.subset (by rw [read]; simp)
  have named : payment.id = id := sane.truthful t mem _ told_
  have holds : Holds t.history payment := ⟨_, told_, List.mem_cons_self⟩
  refine ⟨named, ?_⟩
  rw [← named]
  exact referenced_of_holds sane mem holds known

/-- Nothing is settled but a payment with a reference. -/
theorem referenced_of_settles (sane : Sane app w) (posted : Posted w) (mem : t ∈ w.tasks)
    {h : Past} (suffix : h <:+ t.history) {e : Effect} (license : Licensed app t.origin h e)
    (about : settles id e = true) : Referenced w.shared.ledger id := by
  unfold settles at about
  split at about
  next p payment reference =>
    rw [beq_iff_eq.mp about] at license
    exact referenced_of_inquiry sane posted mem suffix license
  next p of_ reference amount reason =>
    obtain ⟨asked, payment, previously, checked, is, known, -⟩ := license
    obtain ⟨named, referenced⟩ := referenced_of_refund sane mem suffix checked known
    rw [← beq_iff_eq.mp about, is, named]
    exact referenced
  next of_ status =>
    obtain ⟨-, p, reference, rest, inquired⟩ := license
    rw [beq_iff_eq.mp about] at inquired
    have sound := (sane.follows t mem).2.suffix suffix
    rw [inquired] at sound suffix
    exact referenced_of_inquiry sane posted mem ((List.suffix_cons _ _).trans suffix) sound.1
  next record status =>
    obtain ⟨now, generated, p, payment, reference, result, previously, rest, is, checked, known,
      -⟩ := license.answered
    have below : rest <:+ h := by
      rw [is]
      exact ((List.suffix_cons _ _).trans (List.suffix_cons _ _)).trans (List.suffix_cons _ _)
    rw [← beq_iff_eq.mp about]
    exact (referenced_of_refund sane mem (below.trans suffix) checked known).2
  · cases about

end References

section Pristine

/-- The row of the payment has no reference, and a status of this kind. -/
def Unnamed (allowed : Text PaymentStatus → Prop) (L : Ledger) (id : PaymentId) : Prop :=
  ∃ row ∈ L.payments.rows, row.id = .stored id ∧ allowed row.status ∧
    row.providerReference = none

/-- The row a claim inserts: pending, and with no reference yet. -/
def Claimed (L : Ledger) (id : PaymentId) : Prop := Unnamed (· = .stored .pending) L id

/-- The writes of the task that claimed the payment. -/
def concludes (id : PaymentId) : Effect → Bool
  | .store (.recordCreationResult of_ _ _ _) => of_ == id
  | .store (.markTerminalWithoutProviderReference of_ _) => of_ == id
  | .store (.markUnknown of_) => of_ == id
  | _ => false

/-- The task claimed the payment and has written nothing about it. -/
structure Unwritten (id : PaymentId) (t : GwTask) : Prop where
  claimed : ∃ request owner, told (.beginPaymentWithOwner request owner) (.proceed id) ∈ t.history
  unwritten : ∀ ev ∈ t.history, concludes id ev.1 = false

variable {b : Backend} {app : App} {w w' : GwWorld} {id : PaymentId} {t : GwTask} {L : Ledger}

/-- What `begin_payment` leaves when it lets a request proceed. -/
theorem begin_claimed {fp : PaymentRequest → String} {d : Draw} {request : PaymentRequest}
    {owner : Option ApiKeyInfo} {L' : Ledger} {r : StoreResult BeginOutcome}
    (outcome : Outcome fp b d L (.beginPaymentWithOwner request owner) L' r)
    (proceeded : r = .ok (.proceed id)) : Claimed L' id := by
  cases outcome with
  | begun request owner now payments inserted =>
    cases proceeded
    refine ⟨(newRow fp request owner d.fresh now).kept b, ?_, rfl, rfl, rfl⟩
    rw [(Table.insert_eq_some.mp inserted).2]
    exact List.mem_append_right _ (List.mem_singleton.mpr rfl)
  | _ => cases proceeded

section Unnamed

variable {allowed : Text PaymentStatus → Prop}

theorem Unnamed.not_referenced (unnamed : Unnamed allowed L id) : ¬ Referenced L id := by
  rintro ⟨row', mem', is', referenced⟩
  obtain ⟨row, mem, is, -, none_⟩ := unnamed
  have one := row_eq_of_id mem mem' (is.trans is'.symm)
  rw [← one, none_] at referenced
  cases referenced

/-- An update of another row, or one that sets no reference and an allowed
status if any, leaves the row as it was described. -/
theorem Unnamed.update (unnamed : Unnamed allowed L id) (target : Text PaymentId)
    (guarded : Bool) {edit : PaymentEdit}
    (harmless : target ≠ .stored id ∨
      edit.providerReference = none ∧ ∀ s, edit.status = some s → allowed (.stored s)) :
    Unnamed allowed (L.updatePayment target guarded edit) id := by
  obtain ⟨row, mem, is, status, none_⟩ := unnamed
  refine ⟨_, List.mem_map_of_mem mem, (continues_change _ edit row).id.trans is, ?_⟩
  by_cases targeted : targets target guarded row = true
  · rw [Table.change_of_pos targeted]
    rcases harmless with other | ⟨reference, sets⟩
    · simp only [targets, Bool.and_eq_true, beq_iff_eq] at targeted
      exact absurd (targeted.1.symm.trans is) other
    · constructor
      · cases assigned : edit.status with
        | none => simpa [PaymentEdit.apply, assigned] using status
        | some s => simpa [PaymentEdit.apply, assigned] using sets s assigned
      · simp [PaymentEdit.apply, reference, none_]
  · rw [Table.change_of_neg (by simpa using targeted)]
    exact ⟨status, none_⟩

theorem Unnamed.other_row (unnamed : Unnamed allowed L id) {row : PaymentRow}
    (mem : row ∈ L.payments.rows) {provider : ProviderId} {reference : String}
    (matching : Matches provider reference row) : row.id ≠ .stored id := by
  intro same
  exact unnamed.not_referenced ⟨row, mem, same, by rw [matching.2]; rfl⟩

theorem Unnamed.insertEvent {L : Ledger} (unnamed : Unnamed allowed L id)
    (webhookEvents : Table WebhookEventRow EventClash) :
    Unnamed allowed { L with webhookEvents } id := unnamed

/-- Only the claimant's own writes, and what a reference leads to, change such
a row; of the claimant's writes a mark may be allowed. -/
theorem Unnamed.outcome {fp : PaymentRequest → String} {d : Draw} {L' : Ledger} {op : StoreOp}
    {r : op.Result} (unnamed : Unnamed allowed L id) (outcome : Outcome fp b d L op L' r)
    (other : concludes id (.store op) = true → op = .markUnknown id ∧ allowed (.stored .unknown))
    (unsettled : settles id (.store op) = false) : Unnamed allowed L' id := by
  cases outcome with
  | begun request owner now payments inserted =>
    obtain ⟨row, mem, kept⟩ := unnamed
    exact ⟨row, by simp [(Table.insert_eq_some.mp inserted).2, mem], kept⟩
  | created of_ reference status action now checked =>
    refine unnamed.update _ _ (.inl fun same => ?_)
    exact absurd (other (by simp [concludes, Text.stored.inj same])).1 (by simp)
  | marked of_ status now checked =>
    refine unnamed.update _ _ (.inl fun same => ?_)
    exact absurd (other (by simp [concludes, Text.stored.inj same])).1 (by simp)
  | markedUnknown of_ now checked =>
    by_cases same : of_ = id
    · have may := (other (by simp [concludes, same])).2
      refine unnamed.update _ _ (.inr ⟨rfl, fun s sets => ?_⟩)
      cases sets
      exact may
    · exact unnamed.update _ _ (.inl fun eq => same (Text.stored.inj eq))
  | applied event row current of_ received now webhookEvents mem matching =>
    exact (unnamed.insertEvent webhookEvents).update _ _ (.inl (unnamed.other_row mem matching))
  | appliedUnnamed event row current received now webhookEvents postgres mem matching =>
    exact (unnamed.insertEvent webhookEvents).update _ _ (.inl (unnamed.other_row mem matching))
  | reconciled of_ source target now checked =>
    exact unnamed.update _ _ (.inl (by simpa [settles] using unsettled))
  | touched of_ now =>
    refine unnamed.update _ _ (.inr ⟨rfl, fun s sets => ?_⟩)
    cases sets
  | refundRecorded record status now refunds inserted =>
    have kept : Unnamed allowed { L with refunds } id := unnamed
    exact kept.update _ _ (.inl (by simpa [settles] using unsettled))
  | _ => exact unnamed

theorem Unnamed.react {s s' : Shared} {e : Effect} {c : Choice} {r : e.Response}
    (unnamed : Unnamed allowed s.ledger id) (reacted : react b app s e c = some (s', r))
    (other : concludes id e = true → e = .store (.markUnknown id) ∧ allowed (.stored .unknown))
    (unsettled : settles id e = false) : Unnamed allowed s'.ledger id := by
  by_cases call : ∃ op, e = .store op
  · obtain ⟨op, rfl⟩ := call
    obtain ⟨d, same, -⟩ := react_store reacted
    rw [same]
    exact unnamed.outcome (execOp_outcome app.fingerprint b d s.ledger op)
      (fun about => ⟨Effect.store.inj (other about).1, (other about).2⟩) unsettled
  · rw [react_other reacted (by simpa using call)]
    exact unnamed

theorem Claimed.react {s s' : Shared} {e : Effect} {c : Choice} {r : e.Response}
    (claimed : Claimed s.ledger id) (reacted : Gateway.react b app s e c = some (s', r))
    (other : concludes id e = false) (unsettled : settles id e = false) :
    Claimed s'.ledger id :=
  Unnamed.react claimed reacted (by simp [other]) unsettled

end Unnamed

/-- A task writes the outcome of a creation it was allowed to start. -/
theorem proceeded_of_concludes {o : Origin} {h : Past} (sound : Sound (Licensed app o) h)
    {e : Effect} (license : Licensed app o h e) (about : concludes id e = true) :
    ∃ request owner, told (.beginPaymentWithOwner request owner) (.proceed id) ∈ h := by
  have of_created : ∀ r, Created h id r →
      ∃ request owner, told (.beginPaymentWithOwner request owner) (.proceed id) ∈ h := by
    rintro r ⟨p, request, rest, is⟩
    rw [is] at sound ⊢
    obtain ⟨⟨owner, earlier, began⟩, -⟩ := sound.1
    exact ⟨request, owner, by rw [began]; simp⟩
  unfold concludes at about
  split at about
  next of_ reference status action =>
    obtain ⟨result, created, -⟩ := license
    rw [beq_iff_eq.mp about] at created
    exact of_created _ created
  next of_ status =>
    obtain ⟨-, e, created, -⟩ := license
    rw [beq_iff_eq.mp about] at created
    exact of_created _ created
  next of_ =>
    obtain ⟨e, created, -⟩ := license
    rw [beq_iff_eq.mp about] at created
    exact of_created _ created
  · cases about

/-- What the claims of a reachable world satisfy. -/
structure Claims (app : App) (w : GwWorld) : Prop where
  sane : Sane app w
  posted : Posted w
  once : ∀ m, ClaimedOnce m w
  pristine : ∀ id, ∀ t ∈ w.tasks, Unwritten id t → Claimed w.shared.ledger id

theorem claims_start (apiKeys : List ApiKeyRow) : Claims app (start apiKeys) :=
  ⟨sane_start apiKeys, posted_start apiKeys, fun _ => .inl (by simp [total, start]),
    by simp [start]⟩

/-- Two tasks that proceeded with one payment are the same task. -/
theorem Claims.claimant_unique (claims : Claims app w) {i j : ℕ} {t t' : GwTask}
    (found : w.tasks[i]? = some t) (found' : w.tasks[j]? = some t')
    (mine : ∃ request owner, told (.beginPaymentWithOwner request owner) (.proceed id) ∈ t.history)
    (other : ∃ request owner,
      told (.beginPaymentWithOwner request owner) (.proceed id) ∈ t'.history) : i = j := by
  obtain ⟨request, owner, mem⟩ := mine
  obtain ⟨request', owner', mem'⟩ := other
  exact task_unique (claims.once (.id id)).le_one found found' mem mem'
    (by simp [proceeds, Mark.names]) (by simp [proceeds, Mark.names])

/-- A task wrote nothing about the payment before it was let proceed. -/
theorem Claims.silent_before (claims : Claims app w) (mem : t ∈ w.tasks)
    {request : PaymentRequest} {owner : Option ApiKeyInfo} {rest : Past}
    (suffix : (told (.beginPaymentWithOwner request owner) (.proceed id) :: rest) <:+ t.history) :
    ∀ ev ∈ rest, concludes id ev.1 = false := by
  intro ev known
  by_contra about
  have sound := (claims.sane.follows t mem).2.suffix suffix
  obtain ⟨h, below, license⟩ := sound.2.of_mem known
  have earlier : h <:+ rest := (List.suffix_cons _ _).trans below
  obtain ⟨request', owner', said⟩ := proceeded_of_concludes (sound.2.suffix earlier) license
    (by simpa using about)
  have once := (claims.once (.id id)).le_one
  have twice := history_le_total mem (f := proceeds (.id id))
  have within := (suffix.sublist.map (proceeds (.id id))).sum_le_sum (by simp)
  have covered := List.le_sum_of_mem (List.mem_map_of_mem (f := proceeds (.id id))
    (earlier.subset said))
  simp only [List.map_cons, List.sum_cons, proceeds, Mark.names, beq_self_eq_true, if_true]
    at within covered
  omega

/-- A task that was just let proceed has written nothing. -/
theorem Claims.unwritten_of_proceeding (claims : Claims app w) (mem : t ∈ w.tasks)
    {request : PaymentRequest} {owner : Option ApiKeyInfo} {rest : Past}
    (latest : t.history = told (.beginPaymentWithOwner request owner) (.proceed id) :: rest) :
    Unwritten id t where
  claimed := ⟨request, owner, by rw [latest]; exact List.mem_cons_self⟩
  unwritten := by
    have before := claims.silent_before mem (by rw [latest])
    intro ev known
    rw [latest] at known
    rcases List.mem_cons.mp known with rfl | earlier
    · rfl
    · exact before ev earlier

/-- Nor has one that has just heard from the provider. -/
theorem Claims.unwritten_of_created (claims : Claims app w) (mem : t ∈ w.tasks)
    {r : Except OpenWrapperError PaymentResult} (created : Created t.history id r) :
    Unwritten id t := by
  obtain ⟨p, request, rest, latest⟩ := created
  have sound := (claims.sane.follows t mem).2
  rw [latest] at sound
  obtain ⟨⟨owner, earlier, began⟩, -⟩ := sound.1
  have before := claims.silent_before mem (by rw [latest, began]; exact List.suffix_cons _ _)
  refine ⟨⟨request, owner, by rw [latest, began]; simp⟩, fun ev known => ?_⟩
  rw [latest, began] at known
  rcases List.mem_cons.mp known with rfl | known
  · rfl
  · rcases List.mem_cons.mp known with rfl | earlier
    · rfl
    · exact before ev earlier

theorem Claims.pristine_advance (claims : Claims app w) {i : ℕ} {c : Choice}
    (adv : Advanced (setting b app) w i c w') (mem : t ∈ w'.tasks) (unwritten : Unwritten id t) :
    Claimed w'.shared.ledger id := by
  rw [adv.shared_eq]
  have license := adv.licensed claims.sane.follows
  have unsettled : Claimed w.shared.ledger id → settles id adv.effect = false := by
    intro claimed
    by_contra about
    exact claimed.not_referenced (referenced_of_settles claims.sane claims.posted adv.mem
      (List.suffix_refl _) license (by simpa using about))
  rcases adv.task_cases mem with rfl | ⟨j, apart, found⟩
  · have silent : concludes id adv.effect = false :=
      unwritten.unwritten ⟨adv.effect, adv.response⟩ List.mem_cons_self
    obtain ⟨request, owner, said⟩ := unwritten.claimed
    rcases List.mem_cons.mp said with event | earlier
    · obtain ⟨reacted, -⟩ := adv.of_event event.symm
      obtain ⟨d, same, answer⟩ := react_store reacted
      rw [same]
      exact begin_claimed (execOp_outcome app.fingerprint b d w.shared.ledger
        (.beginPaymentWithOwner request owner)) answer.symm
    · have before : Unwritten id adv.task := ⟨⟨request, owner, earlier⟩,
        fun ev known => unwritten.unwritten ev (List.mem_cons_of_mem _ known)⟩
      have claimed := claims.pristine id adv.task adv.mem before
      exact claimed.react adv.reacted silent (unsettled claimed)
  · have claimed := claims.pristine id t (List.mem_of_getElem? found) unwritten
    have silent : concludes id adv.effect = false := by
      by_contra about
      have sound := (claims.sane.follows _ adv.mem).2
      have mine := proceeded_of_concludes sound license (by simpa using about)
      exact apart (claims.claimant_unique found adv.found unwritten.claimed mine)
    exact claimed.react adv.reacted silent (unsettled claimed)

theorem Claims.step {a : GwAction} (claims : Claims app w)
    (stepped : step (setting b app) w a = some w') : Claims app w' where
  sane := claims.sane.step stepped
  posted := claims.posted.step claims.sane stepped
  once := fun m => (claims.once m).step stepped
  pristine := by
    intro id t mem unwritten
    obtain ⟨o, -, rfl⟩ | ⟨i, c, -, ⟨adv⟩⟩ | ⟨i, t', -, found, rfl⟩ := step_cases stepped
    · rcases List.mem_append.mp mem with old | new
      · exact claims.pristine id t old unwritten
      · obtain ⟨request, owner, said⟩ := unwritten.claimed
        rw [List.mem_singleton.mp new] at said
        cases said
    · exact claims.pristine_advance adv mem unwritten
    · rcases List.mem_or_eq_of_mem_set mem with old | rfl
      · exact claims.pristine id t old unwritten
      · exact claims.pristine id t' (List.mem_of_getElem? found)
          ⟨unwritten.claimed, unwritten.unwritten⟩

theorem claims_of_reachable (reachable : Reachable b app w) : Claims app w :=
  Reachable.induction claims_start (fun _ _ _ claims stepped => claims.step stepped) reachable

end Pristine

end OpenWrapper.Claimants
