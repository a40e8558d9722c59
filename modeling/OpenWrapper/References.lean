import OpenWrapper.Simulation
import OpenWrapper.WorkingStore

/-! # The references payments carry

A payment is given its reference once, by the task that created it at the
provider, and keeps it. A delivery the store has judged therefore keeps a
payment it addresses. -/

set_option autoImplicit false

namespace OpenWrapper.References
open OpenWrapper.Ids OpenWrapper.Payments OpenWrapper.Schema OpenWrapper.ConstraintTable
open OpenWrapper.PaymentStore OpenWrapper.StatementRules OpenWrapper.StoreContract
open OpenWrapper.Effects OpenWrapper.Gateway OpenWrapper.Contracts OpenWrapper.Evolution
open OpenWrapper.Claimants OpenWrapper.Simulation OpenWrapper.WorkingStore
open OpenWrapper.Suspended OpenWrapper.Interleaving

section Store

/-- The reference an operation gives a payment. -/
def naming : StoreOp → Option (PaymentId × String)
  | .recordCreationResult id reference _ _ => some (id, reference)
  | _ => none

/-- The row after the operation: its reference is the one it had, or the one
the operation gives it. -/
structure Carries (op : StoreOp) (row row' : PaymentRow) : Prop where
  continues : Continues row row'
  reference : row'.providerReference = row.providerReference ∨
    ∃ id reference, naming op = some (id, reference) ∧ row.id = .stored id ∧
      row'.providerReference = some reference

theorem Carries.refl (op : StoreOp) (row : PaymentRow) : Carries op row row :=
  ⟨Continues.refl row, .inl rfl⟩

/-- The edit of an update assigns no reference but the operation's. -/
def Names (op : StoreOp) (target : Text PaymentId) (edit : PaymentEdit) : Prop :=
  edit.providerReference = none ∨ ∃ id reference, naming op = some (id, reference) ∧
    target = .stored id ∧ edit.providerReference = some reference

theorem carries_change {op : StoreOp} {target : Text PaymentId} {edit : PaymentEdit}
    (names : Names op target edit) (guarded : Bool) (row : PaymentRow) :
    Carries op row (Table.change (targets target guarded) edit.apply row) := by
  refine ⟨continues_change _ edit row, ?_⟩
  by_cases targeted : targets target guarded row = true
  · rw [Table.change_of_pos targeted]
    rcases names with none_ | ⟨id, reference, gives, same, some_⟩
    · exact .inl (by simp [PaymentEdit.apply, none_])
    · simp only [targets, Bool.and_eq_true, beq_iff_eq] at targeted
      exact .inr ⟨id, reference, gives, targeted.1.trans same, by simp [PaymentEdit.apply, some_]⟩
  · rw [Table.change_of_neg (by simpa using targeted)]
    exact .inl rfl

/-- The rows of the two ledgers correspond, but for rows without a reference
that were inserted. -/
structure CarriesOn (op : StoreOp) (L L' : Ledger) : Prop where
  forward : ∀ row ∈ L.payments.rows, ∃ row' ∈ L'.payments.rows, Carries op row row'
  backward : ∀ row' ∈ L'.payments.rows,
    (∃ row ∈ L.payments.rows, Carries op row row') ∨ row'.providerReference = none

theorem carriesOn_update {op : StoreOp} {target : Text PaymentId} {edit : PaymentEdit}
    {L₀ L : Ledger} (names : Names op target edit) (guarded : Bool)
    (same : L.payments = L₀.payments) : CarriesOn op L₀ (L.updatePayment target guarded edit) where
  forward := by
    rw [← same]
    exact fun row mem => ⟨_, List.mem_map_of_mem mem, carries_change names guarded row⟩
  backward := by
    rw [← same]
    intro row' mem
    obtain ⟨row, was, rfl⟩ := List.mem_map.mp mem
    exact .inl ⟨row, was, carries_change names guarded row⟩

theorem carriesOn_same {op : StoreOp} {L L' : Ledger} (same : L'.payments = L.payments) :
    CarriesOn op L L' where
  forward := by
    rw [same]
    exact fun row mem => ⟨row, mem, Carries.refl op row⟩
  backward := by
    rw [same]
    exact fun row mem => .inl ⟨row, mem, Carries.refl op row⟩

theorem outcome_carries {fp : PaymentRequest → String} {b : Backend} {d : Draw} {L L' : Ledger}
    {op : StoreOp} {r : op.Result} (outcome : Outcome fp b d L op L' r) : CarriesOn op L L' := by
  cases outcome with
  | begun request owner now payments inserted =>
    have rows := (Table.insert_eq_some.mp inserted).2
    constructor
    · intro row mem
      exact ⟨row, by simp [rows, mem], Carries.refl _ row⟩
    · intro row' mem
      rw [rows] at mem
      rcases List.mem_append.mp mem with old | new
      · exact .inl ⟨row', old, Carries.refl _ row'⟩
      · rw [List.mem_singleton.mp new]
        exact .inr rfl
  | created id reference t nextAction now =>
    exact carriesOn_update (.inr ⟨id, reference, rfl, rfl, rfl⟩) _ rfl
  | applied => exact carriesOn_update (.inl rfl) _ rfl
  | appliedUnnamed => exact carriesOn_update (.inl rfl) _ rfl
  | refundRecorded => exact carriesOn_update (.inl rfl) _ rfl
  | marked => exact carriesOn_update (.inl rfl) _ rfl
  | markedUnknown => exact carriesOn_update (.inl rfl) _ rfl
  | reconciled => exact carriesOn_update (.inl rfl) _ rfl
  | touched => exact carriesOn_update (.inl rfl) _ rfl
  | _ => exact carriesOn_same rfl

end Store

section Runs

variable {b : Backend} {app : App} {w w' : GwWorld} {i : ℕ} {c : Choice}

theorem react_carries {s s' : Shared} {e : Effect} {r : e.Response}
    (reacted : react b app s e c = some (s', r)) :
    (∃ op, e = .store op ∧ CarriesOn op s.ledger s'.ledger) ∨ s'.ledger = s.ledger := by
  by_cases call : ∃ op, e = .store op
  · obtain ⟨op, rfl⟩ := call
    obtain ⟨d, same, -⟩ := react_store reacted
    rw [same]
    exact .inl ⟨op, rfl, outcome_carries (execOp_outcome app.fingerprint b d s.ledger op)⟩
  · exact .inr (react_other reacted (by simpa using call))

/-- A reference is given to a row that has none, by the task that was just told
it by the provider. -/
theorem naming_claimed (claims : Claims app w) (adv : Advanced (setting b app) w i c w')
    {op : StoreOp} (is : adv.effect = .store op) {id : PaymentId} {reference : String}
    (gives : naming op = some (id, reference)) : Claimed w.shared.ledger id ∧
      ∃ p request result rest, reference = result.providerReference ∧
        adv.task.history = ⟨.createPayment p id request, .ok result⟩ :: rest := by
  have license := adv.licensed claims.sane.follows
  rw [is] at license
  unfold naming at gives
  split at gives
  next of_ reference' status action =>
    cases gives
    obtain ⟨result, created, named, -⟩ := license
    have unwritten := claims.unwritten_of_created adv.mem created
    obtain ⟨p, request, rest, latest⟩ := created
    exact ⟨claims.pristine id adv.task adv.mem unwritten, p, request, result, rest, named, latest⟩
  · cases gives

/-- A payment of the provider carries the reference. -/
def Carried (L : Ledger) (provider : ProviderId) (reference : String) : Prop :=
  ∃ row ∈ L.payments.rows, Matches provider reference row

instance (L : Ledger) (provider : ProviderId) (reference : String) :
    Decidable (Carried L provider reference) :=
  inferInstanceAs (Decidable (∃ row ∈ L.payments.rows, _ ∧ _))

theorem row_kept (claims : Claims app w) (adv : Advanced (setting b app) w i c w')
    {row : PaymentRow} (mem : row ∈ w.shared.ledger.payments.rows) {reference : String}
    (named : row.providerReference = some reference) :
    ∃ row' ∈ w'.shared.ledger.payments.rows, Continues row row' ∧
      row'.providerReference = some reference := by
  rw [adv.shared_eq]
  rcases react_carries adv.reacted with ⟨op, is, carries⟩ | same
  · obtain ⟨row', mem', cont, kept | ⟨id, other, gives, about, -⟩⟩ := carries.forward row mem
    · exact ⟨row', mem', cont, kept.trans named⟩
    · have claimed := (naming_claimed claims adv is gives).1
      exact absurd ⟨row, mem, about, by rw [named]; rfl⟩ claimed.not_referenced
  · rw [same]
    exact ⟨row, mem, Continues.refl row, named⟩

theorem carried_kept (claims : Claims app w) (adv : Advanced (setting b app) w i c w')
    {provider : ProviderId} {reference : String}
    (carried : Carried w.shared.ledger provider reference) :
    Carried w'.shared.ledger provider reference := by
  obtain ⟨row, mem, at_, named⟩ := carried
  obtain ⟨row', mem', cont, named'⟩ := row_kept claims adv mem named
  exact ⟨row', mem', cont.provider.trans at_, named'⟩

section Judgements

def EventRecorded (L : Ledger) (eventId : String) : Prop :=
  ∃ e ∈ L.webhookEvents.rows, e.eventId = eventId

instance (L : Ledger) (eventId : String) : Decidable (EventRecorded L eventId) :=
  inferInstanceAs (Decidable (∃ e ∈ L.webhookEvents.rows, _))

/-- A judged event is recorded, and a payment carries the reference it names. -/
def StillJudged (s : Shared) : GwEvent → Prop
  | ⟨.store (.applyWebhookEvent report), .ok (.transition _)⟩ =>
    Carried s.ledger report.provider report.providerReference ∧ EventRecorded s.ledger report.eventId
  | _ => True

theorem eventRecorded_insert {L : Ledger} {row : WebhookEventRow}
    {webhookEvents : Table WebhookEventRow EventClash}
    (inserted : L.webhookEvents.insert row = some webhookEvents) :
    ∃ e ∈ webhookEvents.rows, e.eventId = row.eventId := by
  have rows := (Table.insert_eq_some.mp inserted).2
  exact ⟨row, by simp [rows], rfl⟩

theorem outcome_judged {fp : PaymentRequest → String} {d : Draw} {L L' : Ledger} {op : StoreOp}
    {r : op.Result} (outcome : Outcome fp b d L op L' r) {s' : Shared} (same : s'.ledger = L') :
    StillJudged s' ⟨.store op, r⟩ := by
  cases outcome with
  | judged event row current result received webhookEvents mem matching stored inserted =>
    refine ⟨?_, ?_⟩
    · rw [same]
      exact ⟨row, mem, matching⟩
    · rw [EventRecorded, same]
      exact eventRecorded_insert inserted
  | applied event row current id received now webhookEvents mem matching stored is inserted =>
    refine ⟨?_, ?_⟩
    · rw [same]
      refine ⟨_, List.mem_map_of_mem mem, ?_⟩
      have cont := continues_change (targets row.id false)
        ((statusEdit event.reportedStatus now).kept b) row
      have none_ : Names (.applyWebhookEvent event) row.id
          ((statusEdit event.reportedStatus now).kept b) := .inl rfl
      have carries := carries_change none_ false row
      refine ⟨cont.provider.trans matching.1, ?_⟩
      rcases carries.reference with kept | ⟨id, reference, gives, -⟩
      · exact kept.trans matching.2
      · cases gives
    · rw [EventRecorded, same]
      exact eventRecorded_insert inserted
  | failed op => cases op <;> trivial
  | _ => trivial

theorem react_judged {s s' : Shared} {e : Effect} {r : e.Response}
    (reacted : react b app s e c = some (s', r)) : StillJudged s' ⟨e, r⟩ := by
  cases e with
  | store op =>
    obtain ⟨d, same, rfl⟩ := react_store reacted
    exact outcome_judged (execOp_outcome app.fingerprint b d s.ledger op) same
  | _ => trivial

theorem judged_kept (claims : Claims app w) (adv : Advanced (setting b app) w i c w')
    {ev : GwEvent} (judged : StillJudged w.shared ev) : StillJudged w'.shared ev := by
  unfold StillJudged at judged ⊢
  split
  · obtain ⟨carried, e, known, same⟩ := judged
    have evolves := react_evolves adv.reacted
    rw [← adv.shared_eq] at evolves
    exact ⟨carried_kept claims adv carried, e, evolves.webhookEvents known, same⟩
  · trivial

end Judgements

section Written

/-- A recorded creation: the payment carries the reference that was recorded. -/
def Written (s : Shared) : GwEvent → Prop
  | ⟨.store (.recordCreationResult id reference _ _), .ok ()⟩ =>
    ∃ row ∈ s.ledger.payments.rows, row.id = .stored id ∧ row.providerReference = some reference
  | _ => True

theorem outcome_written {fp : PaymentRequest → String} {d : Draw} {L L' : Ledger} {op : StoreOp}
    {r : op.Result} (outcome : Outcome fp b d L op L' r)
    (claimed : ∀ id reference, naming op = some (id, reference) → Claimed L id) {s' : Shared}
    (same : s'.ledger = L') : Written s' ⟨.store op, r⟩ := by
  cases outcome with
  | created id reference t nextAction now checked =>
    obtain ⟨row, mem, is, -⟩ := claimed id reference rfl
    show ∃ row ∈ s'.ledger.payments.rows, _
    rw [same]
    refine ⟨_, List.mem_map_of_mem mem, (continues_change _ _ row).id.trans is, ?_⟩
    rw [Table.change_of_pos (by simp [targets, is])]
    rfl
  | failed op => cases op <;> trivial
  | _ => trivial

theorem react_written (claims : Claims app w) (adv : Advanced (setting b app) w i c w') :
    Written adv.shared ⟨adv.effect, adv.response⟩ := by
  have claimed : ∀ op, adv.effect = .store op → ∀ id reference,
      naming op = some (id, reference) → Claimed w.shared.ledger id :=
    fun op is id reference gives => (naming_claimed claims adv is gives).1
  have reacted := adv.reacted
  generalize adv.effect = e, adv.response = r at reacted claimed
  cases e with
  | store op =>
    obtain ⟨d, same, rfl⟩ := react_store reacted
    exact outcome_written (execOp_outcome app.fingerprint b d w.shared.ledger op)
      (claimed op rfl) same
  | _ => trivial

theorem written_kept (claims : Claims app w) (adv : Advanced (setting b app) w i c w')
    {ev : GwEvent} (written : Written w.shared ev) : Written w'.shared ev := by
  unfold Written at written ⊢
  split
  · obtain ⟨row, mem, is, named⟩ := written
    obtain ⟨row', mem', cont, named'⟩ := row_kept claims adv mem named
    exact ⟨row', mem', cont.id.trans is, named'⟩
  · trivial

end Written

section Creations

/-- The call that created the payment was answered with the reference. -/
def Obtained (w : GwWorld) (provider : ProviderId) (reference : String) (id : PaymentId) : Prop :=
  ∃ o p request result, Happened w o ⟨.createPayment p id request, .ok result⟩ ∧
    request.provider = provider ∧ result.providerReference = reference

/-- The row got its reference from the call that created its payment. -/
def Sourced (w : GwWorld) (row : PaymentRow) : Prop :=
  ∀ provider reference, Matches provider reference row →
    ∃ id, row.id = .stored id ∧ Obtained w provider reference id

theorem obtained_step {a : GwAction} {provider : ProviderId} {reference : String} {id : PaymentId}
    (obtained : Obtained w provider reference id) (stepped : step (setting b app) w a = some w') :
    Obtained w' provider reference id := by
  obtain ⟨o, p, request, result, happened, same, named⟩ := obtained
  exact ⟨o, p, request, result, happened_step happened stepped, same, named⟩

theorem Sourced.step {a : GwAction} {row row' : PaymentRow} (sourced : Sourced w row)
    (stepped : step (setting b app) w a = some w') (continues : Continues row row')
    (kept : row'.providerReference = row.providerReference) : Sourced w' row' := by
  rintro provider reference ⟨at_, named⟩
  obtain ⟨id, is, obtained⟩ :=
    sourced provider reference ⟨continues.provider.symm.trans at_, kept.symm.trans named⟩
  exact ⟨id, continues.id.trans is, obtained_step obtained stepped⟩

/-- What a task was told by the provider it is about to write down. -/
theorem obtained_of_told (claims : Claims app w) (provided : Recorded Provided w) {t : GwTask}
    (mem : t ∈ w.tasks) {p : Providers.Provider} {id : PaymentId} {request : PaymentRequest}
    {result : PaymentResult} {rest : Past}
    (latest : t.history = ⟨.createPayment p id request, .ok result⟩ :: rest) :
    Obtained w request.provider result.providerReference id ∧
      StoredAt w.shared.ledger id request.provider := by
  have sound := (claims.sane.follows t mem).2
  rw [latest] at sound
  obtain ⟨⟨owner, earlier, began⟩, -⟩ := sound.1
  constructor
  · exact ⟨t.origin, p, request, result, ⟨t, mem, rfl, by rw [latest]; exact List.mem_cons_self⟩,
      rfl, rfl⟩
  · have said : told (.beginPaymentWithOwner request owner) (.proceed id) ∈ t.history := by
      rw [latest, began]
      simp
    exact provided t mem _ said

structure Issued (app : App) (w : GwWorld) : Prop where
  claims : Claims app w
  provided : Recorded Provided w
  sourced : ∀ row ∈ w.shared.ledger.payments.rows, Sourced w row
  judged : Recorded StillJudged w
  written : Recorded Written w

theorem issued_start (apiKeys : List ApiKeyRow) : Issued app (start apiKeys) where
  claims := claims_start apiKeys
  provided := by simp [start, Recorded]
  sourced := by simp [start, Shared.start, Ledger.empty]
  judged := by simp [start, Recorded]
  written := by simp [start, Recorded]

theorem Issued.sourced_advance (issued : Issued app w) (adv : Advanced (setting b app) w i c w')
    (stepped : Interleaving.step (setting b app) w (.advance i c) = some w') :
    ∀ row ∈ w'.shared.ledger.payments.rows, Sourced w' row := by
  intro row' mem
  rw [adv.shared_eq] at mem
  rcases react_carries adv.reacted with ⟨op, is, carries⟩ | same
  · rcases carries.backward row' mem with ⟨row, was, cont, kept⟩ | unnamed
    · rcases kept with same | ⟨id, reference, gives, about, given⟩
      · exact (issued.sourced row was).step stepped cont same
      · obtain ⟨-, p, request, result, rest, named, latest⟩ :=
          naming_claimed issued.claims adv is gives
        obtain ⟨obtained, stored⟩ := obtained_of_told issued.claims issued.provided adv.mem latest
        rintro provider reference' ⟨at_, named'⟩
        have mine : StoredAt w.shared.ledger id provider :=
          ⟨row, was, about, cont.provider.symm.trans at_⟩
        rw [given, named] at named'
        rw [mine.unique stored, ← Option.some.inj named']
        exact ⟨id, cont.id.trans about, obtained_step obtained stepped⟩
    · rintro provider reference ⟨-, named⟩
      rw [unnamed] at named
      cases named
  · rw [same] at mem
    exact (issued.sourced row' mem).step stepped (Continues.refl row') rfl

theorem Issued.step {a : GwAction} (issued : Issued app w)
    (stepped : step (setting b app) w a = some w') : Issued app w' where
  claims := issued.claims.step stepped
  provided := recorded_step (fun i c adv => react_provided adv.reacted)
    (fun i c adv ev held => held.evolves (react_evolves adv.reacted)) issued.provided stepped
  sourced := by
    obtain ⟨o, -, rfl⟩ | ⟨i, c, rfl, ⟨adv⟩⟩ | ⟨i, t, -, found, rfl⟩ := step_cases stepped
    · exact fun row mem =>
        (issued.sourced row mem).step stepped (Continues.refl row) rfl
    · exact issued.sourced_advance adv stepped
    · exact fun row mem =>
        (issued.sourced row mem).step stepped (Continues.refl row) rfl
  judged := by
    refine recorded_step (fun i c adv => react_judged adv.reacted) ?_ issued.judged stepped
    intro i c adv ev judged
    rw [← adv.shared_eq]
    exact judged_kept issued.claims adv judged
  written := by
    refine recorded_step (fun i c adv => react_written issued.claims adv) ?_ issued.written stepped
    intro i c adv ev written
    rw [← adv.shared_eq]
    exact written_kept issued.claims adv written

theorem issued_of_reachable (reachable : Reachable b app w) : Issued app w :=
  Reachable.induction issued_start (fun _ _ _ issued stepped => issued.step stepped) reachable

end Creations

end Runs

end OpenWrapper.References
