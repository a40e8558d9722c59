import OpenWrapper.StoreContract
import OpenWrapper.Contracts

/-! # What a run leaves in place

No operation deletes a row or assigns the columns a payment is identified by,
and a provider reference once set is never cleared. What the store handed out
therefore stays true of the row it was read from. -/

set_option autoImplicit false

namespace OpenWrapper.Evolution
open OpenWrapper.Ids OpenWrapper.Amounts OpenWrapper.Payments OpenWrapper.Schema
open OpenWrapper.ConstraintTable OpenWrapper.PaymentStore OpenWrapper.StatementRules
open OpenWrapper.StoreContract OpenWrapper.Effects OpenWrapper.Gateway OpenWrapper.Contracts
open OpenWrapper.Suspended OpenWrapper.Interleaving

structure Continues (row row' : PaymentRow) : Prop where
  id : row'.id = row.id
  idempotencyKey : row'.idempotencyKey = row.idempotencyKey
  requestFingerprint : row'.requestFingerprint = row.requestFingerprint
  provider : row'.provider = row.provider
  amount : row'.amountMinorUnits = row.amountMinorUnits
  referenced : row.providerReference.isSome = true → row'.providerReference.isSome = true

theorem Continues.refl (row : PaymentRow) : Continues row row :=
  ⟨rfl, rfl, rfl, rfl, rfl, fun h => h⟩

theorem Continues.trans {a b c : PaymentRow} (ab : Continues a b) (bc : Continues b c) :
    Continues a c where
  id := bc.id.trans ab.id
  idempotencyKey := bc.idempotencyKey.trans ab.idempotencyKey
  requestFingerprint := bc.requestFingerprint.trans ab.requestFingerprint
  provider := bc.provider.trans ab.provider
  amount := bc.amount.trans ab.amount
  referenced := fun h => bc.referenced (ab.referenced h)

theorem continues_apply (edit : PaymentEdit) (row : PaymentRow) :
    Continues row (edit.apply row) := by
  refine ⟨rfl, rfl, rfl, rfl, rfl, fun h => ?_⟩
  cases assigned : edit.providerReference with
  | none => simpa [PaymentEdit.apply, assigned] using h
  | some reference => simp [PaymentEdit.apply, assigned]

theorem continues_change (p : PaymentRow → Bool) (edit : PaymentEdit) (row : PaymentRow) :
    Continues row (Table.change p edit.apply row) := by
  unfold Table.change
  split
  · exact continues_apply edit row
  · exact Continues.refl row

structure Evolves (L L' : Ledger) : Prop where
  payments : ∀ row ∈ L.payments.rows, ∃ row' ∈ L'.payments.rows, Continues row row'
  webhookEvents : L.webhookEvents.rows ⊆ L'.webhookEvents.rows
  refunds : L.refunds.rows ⊆ L'.refunds.rows

theorem Evolves.refl (L : Ledger) : Evolves L L :=
  ⟨fun row mem => ⟨row, mem, Continues.refl row⟩, fun _ mem => mem, fun _ mem => mem⟩

theorem Evolves.trans {L₁ L₂ L₃ : Ledger} (h₁ : Evolves L₁ L₂) (h₂ : Evolves L₂ L₃) :
    Evolves L₁ L₃ where
  payments := by
    intro row mem
    obtain ⟨row₂, mem₂, cont₂⟩ := h₁.payments row mem
    obtain ⟨row₃, mem₃, cont₃⟩ := h₂.payments row₂ mem₂
    exact ⟨row₃, mem₃, cont₂.trans cont₃⟩
  webhookEvents := fun _ mem => h₂.webhookEvents (h₁.webhookEvents mem)
  refunds := fun _ mem => h₂.refunds (h₁.refunds mem)

theorem evolves_updatePayment (L : Ledger) (id : Text PaymentId) (guarded : Bool)
    (edit : PaymentEdit) : Evolves L (L.updatePayment id guarded edit) where
  payments := by
    intro row mem
    exact ⟨_, List.mem_map_of_mem mem, continues_change _ edit row⟩
  webhookEvents := fun _ mem => mem
  refunds := fun _ mem => mem

theorem evolves_insertPayment {L : Ledger} {row : PaymentRow}
    {payments : Table PaymentRow PaymentClash}
    (inserted : L.payments.insert row = some payments) :
    Evolves L { L with payments } where
  payments := by
    intro old mem
    have rows := (Table.insert_eq_some.mp inserted).2
    exact ⟨old, by simp [rows, mem], Continues.refl old⟩
  webhookEvents := fun _ mem => mem
  refunds := fun _ mem => mem

theorem evolves_insertWebhookEvent {L : Ledger} {row : WebhookEventRow}
    {webhookEvents : Table WebhookEventRow EventClash}
    (inserted : L.webhookEvents.insert row = some webhookEvents) :
    Evolves L { L with webhookEvents } where
  payments := fun old mem => ⟨old, mem, Continues.refl old⟩
  webhookEvents := by
    intro old mem
    have rows := (Table.insert_eq_some.mp inserted).2
    simp [rows, mem]
  refunds := fun _ mem => mem

theorem evolves_insertRefund {L : Ledger} {row : RefundRow}
    {refunds : Table RefundRow RefundClash}
    (inserted : L.refunds.insert row = some refunds) : Evolves L { L with refunds } where
  payments := fun old mem => ⟨old, mem, Continues.refl old⟩
  webhookEvents := fun _ mem => mem
  refunds := by
    intro old mem
    have rows := (Table.insert_eq_some.mp inserted).2
    simp [rows, mem]

/-- Every way a store operation can end keeps the rows there were. -/
theorem outcome_evolves {fp : PaymentRequest → String} {b : Backend} {d : Draw}
    {L L' : Ledger} {op : StoreOp} {r : op.Result} (outcome : Outcome fp b d L op L' r) :
    Evolves L L' := by
  cases outcome with
  | begun request owner now payments inserted => exact evolves_insertPayment inserted
  | judged event row current result received webhookEvents mem matching stored inserted =>
    exact evolves_insertWebhookEvent inserted
  | recordedOnly event row received webhookEvents postgres mem matching inserted =>
    exact evolves_insertWebhookEvent inserted
  | applied event row current id received now webhookEvents mem matching stored is inserted =>
    exact (evolves_insertWebhookEvent inserted).trans (evolves_updatePayment _ _ _ _)
  | appliedUnnamed event row current received now webhookEvents pg mem matching stored is inserted =>
    exact (evolves_insertWebhookEvent inserted).trans (evolves_updatePayment _ _ _ _)
  | refundRecorded record t now refunds inserted =>
    exact (evolves_insertRefund inserted).trans (evolves_updatePayment _ _ _ _)
  | refundTorn record t refunds sqlite inserted => exact evolves_insertRefund inserted
  | created => exact evolves_updatePayment _ _ _ _
  | marked => exact evolves_updatePayment _ _ _ _
  | markedUnknown => exact evolves_updatePayment _ _ _ _
  | reconciled => exact evolves_updatePayment _ _ _ _
  | touched => exact evolves_updatePayment _ _ _ _
  | _ => exact Evolves.refl L

/-- Where a row comes from: it was there, or a claim inserted it. -/
def Stems (fp : PaymentRequest → String) (b : Backend) (d : Draw) (L : Ledger) (op : StoreOp)
    (row' : PaymentRow) : Prop :=
  (∃ row ∈ L.payments.rows, Continues row row') ∨
    ∃ request owner now, op = .beginPaymentWithOwner request owner ∧
      row' = (newRow fp request owner d.fresh now).kept b

theorem stems_updatePayment {fp : PaymentRequest → String} {b : Backend} {d : Draw} {L : Ledger}
    {op : StoreOp} {id : Text PaymentId} {guarded : Bool} {edit : PaymentEdit} {row' : PaymentRow}
    (mem : row' ∈ (L.updatePayment id guarded edit).payments.rows) : Stems fp b d L op row' := by
  obtain ⟨row, was, rfl⟩ := List.mem_map.mp mem
  exact .inl ⟨row, was, continues_change _ edit row⟩

theorem outcome_stems {fp : PaymentRequest → String} {b : Backend} {d : Draw} {L L' : Ledger}
    {op : StoreOp} {r : op.Result} (outcome : Outcome fp b d L op L' r) {row' : PaymentRow}
    (mem : row' ∈ L'.payments.rows) : Stems fp b d L op row' := by
  cases outcome with
  | begun request owner now payments inserted =>
    rw [(Table.insert_eq_some.mp inserted).2] at mem
    rcases List.mem_append.mp mem with old | new
    · exact .inl ⟨row', old, Continues.refl row'⟩
    · exact .inr ⟨request, owner, now, rfl, List.mem_singleton.mp new⟩
  | applied => exact stems_updatePayment mem
  | appliedUnnamed => exact stems_updatePayment mem
  | refundRecorded => exact stems_updatePayment mem
  | created => exact stems_updatePayment mem
  | marked => exact stems_updatePayment mem
  | markedUnknown => exact stems_updatePayment mem
  | reconciled => exact stems_updatePayment mem
  | touched => exact stems_updatePayment mem
  | _ => exact .inl ⟨row', mem, Continues.refl row'⟩

section Intact

/-- Every column holds a value its parser accepts. -/
structure Intact (row : PaymentRow) : Prop where
  id : ∃ id, row.id = .stored id
  idempotencyKey : ∃ key, row.idempotencyKey = .stored key
  provider : ∃ provider, row.provider = .stored provider
  status : ∃ status, row.status = .stored status
  money : ∃ m : Money, row.amountMinorUnits = m.minorUnits ∧ row.currency = .stored m.currency
  nextAction : ∀ raw, row.nextActionJson ≠ some (.corrupt raw)

theorem Intact.toPayment {row : PaymentRow} (intact : Intact row) :
    ∃ payment, row.toPayment = some payment := by
  obtain ⟨id, is⟩ := intact.id
  obtain ⟨key, named⟩ := intact.idempotencyKey
  obtain ⟨provider, at_⟩ := intact.provider
  obtain ⟨status, stored⟩ := intact.status
  obtain ⟨m, amount, currency⟩ := intact.money
  simp [PaymentRow.toPayment, is, named, at_, stored, amount, currency]

theorem Intact.positive {row : PaymentRow} (intact : Intact row) : 0 < row.amountMinorUnits := by
  obtain ⟨m, amount, -⟩ := intact.money
  rw [amount]
  exact m.positive

theorem intact_newRow (fp : PaymentRequest → String) (b : Backend) (request : PaymentRequest)
    (owner : Option ApiKeyInfo) (id : PaymentId) (now : Instant) :
    Intact ((newRow fp request owner id now).kept b) :=
  ⟨⟨id, rfl⟩, ⟨_, rfl⟩, ⟨_, rfl⟩, ⟨_, rfl⟩, ⟨request.amount, rfl, rfl⟩, by
    simp [newRow, PaymentRow.kept]⟩

theorem intact_change {row : PaymentRow} (intact : Intact row) (p : PaymentRow → Bool)
    (edit : PaymentEdit) : Intact (Table.change p edit.apply row) := by
  unfold Table.change
  split
  · refine ⟨intact.id, intact.idempotencyKey, intact.provider, ?_, intact.money, ?_⟩
    · cases assigned : edit.status with
      | none => simpa [PaymentEdit.apply, assigned] using intact.status
      | some status => exact ⟨status, by simp [PaymentEdit.apply, assigned]⟩
    · intro raw
      cases assigned : edit.nextActionJson with
      | none => simpa [PaymentEdit.apply, assigned] using intact.nextAction raw
      | some action => cases action <;> simp [PaymentEdit.apply, assigned]
  · exact intact

def AllIntact (L : Ledger) : Prop := ∀ row ∈ L.payments.rows, Intact row

theorem allIntact_updatePayment {L : Ledger} (all : AllIntact L) (id : Text PaymentId)
    (guarded : Bool) (edit : PaymentEdit) : AllIntact (L.updatePayment id guarded edit) := by
  intro row mem
  obtain ⟨old, was, rfl⟩ := List.mem_map.mp mem
  exact intact_change (all old was) _ edit

theorem outcome_intact {fp : PaymentRequest → String} {b : Backend} {d : Draw}
    {L L' : Ledger} {op : StoreOp} {r : op.Result} (outcome : Outcome fp b d L op L' r)
    (all : AllIntact L) : AllIntact L' := by
  cases outcome with
  | begun request owner now payments inserted =>
    intro row mem
    simp only [(Table.insert_eq_some.mp inserted).2, List.mem_append, List.mem_singleton] at mem
    rcases mem with old | rfl
    · exact all row old
    · exact intact_newRow fp b request owner d.fresh now
  | applied => exact allIntact_updatePayment all _ _ _
  | appliedUnnamed => exact allIntact_updatePayment all _ _ _
  | refundRecorded => exact allIntact_updatePayment all _ _ _
  | created => exact allIntact_updatePayment all _ _ _
  | marked => exact allIntact_updatePayment all _ _ _
  | markedUnknown => exact allIntact_updatePayment all _ _ _
  | reconciled => exact allIntact_updatePayment all _ _ _
  | touched => exact allIntact_updatePayment all _ _ _
  | _ => exact all

end Intact

section Observed

/-- The row a payment was handed out from, as it is now. -/
structure StillStored (L : Ledger) (payment : Payment) (row : PaymentRow) : Prop where
  mem : row ∈ L.payments.rows
  id : row.id = .stored payment.id
  idempotencyKey : row.idempotencyKey = .stored payment.idempotencyKey
  provider : row.provider = .stored payment.provider
  amount : row.amountMinorUnits = payment.amount.minorUnits
  referenced : payment.providerReference.isSome = true → row.providerReference.isSome = true

theorem stillStored_of_toPayment {L : Ledger} {row : PaymentRow} {payment : Payment}
    (mem : row ∈ L.payments.rows) (parsed : row.toPayment = some payment) :
    StillStored L payment row := by
  have read := readFrom_of_toPayment parsed
  exact ⟨mem, read.id, read.idempotencyKey, read.provider, read.amount,
    fun h => by rw [read.providerReference]; exact h⟩

theorem StillStored.evolves {L L' : Ledger} {payment : Payment} {row : PaymentRow}
    (still : StillStored L payment row) (evolves : Evolves L L') :
    ∃ row', StillStored L' payment row' := by
  obtain ⟨row', mem, cont⟩ := evolves.payments row still.mem
  exact ⟨row', mem, cont.id.trans still.id, cont.idempotencyKey.trans still.idempotencyKey,
    cont.provider.trans still.provider, cont.amount.trans still.amount,
    fun h => cont.referenced (still.referenced h)⟩

/-- What the store handed out is still true of the tables. -/
def Observed (s : Shared) (ev : GwEvent) : Prop :=
  ∀ payment ∈ handedOut ev, ∃ row, StillStored s.ledger payment row

theorem outcome_observed {fp : PaymentRequest → String} {b : Backend} {d : Draw}
    {L L' : Ledger} {op : StoreOp} {r : op.Result} (outcome : Outcome fp b d L op L' r) :
    ∀ payment ∈ handedOut ⟨.store op, r⟩, ∃ row, StillStored L payment row := by
  intro payment handed
  cases outcome with
  | existing request owner row p mem key parsed =>
    cases List.mem_singleton.mp handed
    exact ⟨row, stillStored_of_toPayment mem parsed⟩
  | found id row p mem is parsed =>
    cases List.mem_singleton.mp handed
    exact ⟨row, stillStored_of_toPayment mem parsed⟩
  | referenced reference row p mem refers parsed =>
    cases List.mem_singleton.mp handed
    exact ⟨row, stillStored_of_toPayment mem parsed⟩
  | stalePayments minAge limit payments read =>
    obtain ⟨row, mem, parsed, -⟩ := read payment handed
    exact ⟨row, stillStored_of_toPayment mem parsed⟩
  | failed op => cases op <;> simp [handedOut] at handed
  | _ => simp [handedOut] at handed

/-- The payments an answer hands out are those it was asked for. -/
def Truthful : GwEvent → Prop
  | ⟨.store (.getPayment id), .ok (some payment)⟩ => payment.id = id
  | ⟨.store (.beginPaymentWithOwner request _), .ok (.returnExisting payment)⟩ =>
    payment.idempotencyKey = request.idempotencyKey
  | _ => True

theorem outcome_truthful {fp : PaymentRequest → String} {b : Backend} {d : Draw}
    {L L' : Ledger} {op : StoreOp} {r : op.Result} (outcome : Outcome fp b d L op L' r) :
    Truthful ⟨.store op, r⟩ := by
  cases outcome with
  | existing request owner row p mem key parsed =>
    have read := (readFrom_of_toPayment parsed).idempotencyKey
    rw [key] at read
    exact (Text.stored.inj read).symm
  | found id row p mem is parsed =>
    have read := (readFrom_of_toPayment parsed).id
    rw [is] at read
    exact (Text.stored.inj read).symm
  | failed op => cases op <;> trivial
  | _ => trivial

variable {b : Backend} {app : App}

theorem react_evolves {s s' : Shared} {e : Effect} {c : Choice} {r : e.Response}
    (reacted : react b app s e c = some (s', r)) : Evolves s.ledger s'.ledger := by
  cases e with
  | store op =>
    obtain ⟨d, same, -⟩ := react_store reacted
    rw [same]
    exact outcome_evolves (execOp_outcome _ b _ _ op)
  | _ =>
    rw [react_other reacted (by simp)]
    exact Evolves.refl _

theorem react_observed {s s' : Shared} {e : Effect} {c : Choice} {r : e.Response}
    (reacted : react b app s e c = some (s', r)) : Observed s' ⟨e, r⟩ := by
  cases e with
  | store op =>
    obtain ⟨d, same, rfl⟩ := react_store reacted
    intro payment handed
    obtain ⟨row, still⟩ := outcome_observed (execOp_outcome _ b _ _ op) payment handed
    exact still.evolves (react_evolves reacted)
  | _ =>
    intro payment handed
    simp [handedOut] at handed

theorem react_intact {s s' : Shared} {e : Effect} {c : Choice} {r : e.Response}
    (reacted : react b app s e c = some (s', r)) (all : AllIntact s.ledger) :
    AllIntact s'.ledger := by
  cases e with
  | store op =>
    obtain ⟨d, same, -⟩ := react_store reacted
    rw [same]
    exact outcome_intact (execOp_outcome _ b _ _ op) all
  | _ =>
    rw [react_other reacted (by simp)]
    exact all

theorem react_truthful {s s' : Shared} {e : Effect} {c : Choice} {r : e.Response}
    (reacted : react b app s e c = some (s', r)) : Truthful ⟨e, r⟩ := by
  cases e with
  | store op =>
    obtain ⟨d, same, rfl⟩ := react_store reacted
    exact outcome_truthful (execOp_outcome _ b _ _ op)
  | _ => trivial

/-- What holds of every world the gateway reaches. -/
structure Sane (app : App) (w : GwWorld) : Prop where
  follows : ∀ t ∈ w.tasks, Follows (Licensed app) (Answered app) t
  observed : Recorded Observed w
  truthful : Recorded (fun _ => Truthful) w
  intact : AllIntact w.shared.ledger

theorem sane_start (apiKeys : List ApiKeyRow) : Sane app (start apiKeys) :=
  ⟨by simp [start], by simp [start, Recorded], by simp [start, Recorded],
    by simp [start, Shared.start, Ledger.empty, AllIntact]⟩

theorem Sane.step {w w' : GwWorld} {a : GwAction} (sane : Sane app w)
    (stepped : step (setting b app) w a = some w') : Sane app w' where
  follows := follows_step (body_always app) sane.follows stepped
  observed := by
    refine recorded_step (fun i c adv => react_observed adv.reacted) ?_ sane.observed stepped
    intro i c adv ev observed payment handed
    obtain ⟨row, still⟩ := observed payment handed
    exact still.evolves (react_evolves adv.reacted)
  truthful := recorded_step (fun i c adv => react_truthful adv.reacted)
    (fun _ _ _ _ said => said) sane.truthful stepped
  intact := by
    obtain ⟨o, -, rfl⟩ | ⟨i, c, -, ⟨adv⟩⟩ | ⟨i, t, -, found, rfl⟩ := step_cases stepped
    · exact sane.intact
    · rw [adv.shared_eq]
      exact react_intact adv.reacted sane.intact
    · exact sane.intact

theorem sane_of_reachable {w : GwWorld} (reachable : Reachable b app w) : Sane app w :=
  Reachable.induction sane_start (fun _ _ _ sane stepped => sane.step stepped) reachable

/-- A payment a task holds is still stored. -/
theorem Sane.stored {w : GwWorld} (sane : Sane app w) {t : GwTask} (mem : t ∈ w.tasks)
    {payment : Payment} (holds : Holds t.history payment) :
    ∃ row, StillStored w.shared.ledger payment row := by
  obtain ⟨ev, known, handed⟩ := holds
  exact sane.observed t mem ev known payment handed

end Observed

/-- Rows with one identifier are one row. -/
theorem row_eq_of_id {L : Ledger} {row row' : PaymentRow} (mem : row ∈ L.payments.rows)
    (mem' : row' ∈ L.payments.rows) (same : row.id = row'.id) : row = row' :=
  L.payments.eq_of_clash mem mem' (.inl same)

theorem row_eq_of_key {L : Ledger} {row row' : PaymentRow} (mem : row ∈ L.payments.rows)
    (mem' : row' ∈ L.payments.rows) (same : row.idempotencyKey = row'.idempotencyKey) :
    row = row' :=
  L.payments.eq_of_clash mem mem' (.inr same)

end OpenWrapper.Evolution
