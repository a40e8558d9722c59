import OpenWrapper.Evolution
import OpenWrapper.WorkingStore
import OpenWrapper.Traces

/-! # The SQLite ledger

Every operation reads the row it is about and validates what it is going to
write, so along every sequence of operations statuses move by legal steps,
references are written once and the columns of a claim stay as they were
inserted. -/

set_option autoImplicit false

namespace OpenWrapper.SqliteLedger
open OpenWrapper.Ids OpenWrapper.Payments OpenWrapper.Schema OpenWrapper.ConstraintTable
open OpenWrapper.PaymentStore OpenWrapper.StoreContract OpenWrapper.Evolution
open OpenWrapper.WorkingStore OpenWrapper.Traces

/-- The operations that write payments and events, with the statuses their
callers pass. -/
def Listed : StoreOp → Prop
  | .beginPaymentWithOwner _ _ => True
  | .recordCreationResult _ _ status _ => ∃ s : CreationStatus, status = s.toStatus
  | .applyWebhookEvent _ => True
  | .markTerminalWithoutProviderReference _ status => status.isTerminal = true
  | .markUnknown _ => True
  | .applyReconciliationResult _ _ => True
  | .touchReconciliationAttempt _ => True
  | _ => False

/-- One call of the store, with what its statements meet. -/
structure Call where
  draw : Draw
  op : StoreOp

def serve (fp : PaymentRequest → String) (L : Ledger) (c : Call) : Ledger :=
  (execOp fp .sqlite c.draw L c.op).1

/-- The tables before the first call and after each. -/
def ledgers (fp : PaymentRequest → String) (calls : List Call) : List Ledger :=
  trace (serve fp) Ledger.empty calls

/-- The status column of the payment, once it has a row. -/
def statusOf (id : PaymentId) (L : Ledger) : Option (Text PaymentStatus) :=
  (L.payments.rows.find? fun row => row.id == .stored id).map PaymentRow.status

/-- A path of the state machine that starts at `Pending`. -/
def LegalPath (path : List (Text PaymentStatus)) : Prop :=
  ∃ statuses : List PaymentStatus, path = statuses.map .stored ∧
    statuses.IsChain PaymentStatus.Legal ∧ ∀ s ∈ statuses.head?, s = .pending

/-- Only the reference, the status, the next action and the time of the last
update may differ, and the reference only if there was none. -/
structure Frozen (row row' : PaymentRow) : Prop where
  columns : row' = { row with
    providerReference := row'.providerReference, status := row'.status
    nextActionJson := row'.nextActionJson, updatedAt := row'.updatedAt }
  reference : ∀ r, row.providerReference = some r → row'.providerReference = some r

/-- No payment disappears, and its claim stays as it was. -/
def Retains (L L' : Ledger) : Prop :=
  ∀ row ∈ L.payments.rows, ∃ row' ∈ L'.payments.rows, Frozen row row'

/-- A row in a terminal status asks nothing more of the customer. -/
def Settled (row : PaymentRow) : Prop :=
  ∀ s, row.status = .stored s → s.isTerminal = true → row.nextActionJson = none

structure Kept (fp : PaymentRequest → String) (calls : List Call) : Prop where
  path : ∀ id, LegalPath ((ledgers fp calls).filterMap (statusOf id))
  settled : ∀ L ∈ ledgers fp calls, ∀ row ∈ L.payments.rows, Settled row
  retained : (ledgers fp calls).Pairwise Retains
  keys : ∀ L ∈ ledgers fp calls, ∀ row ∈ L.payments.rows, ∀ row' ∈ L.payments.rows,
    row.idempotencyKey = row'.idempotencyKey → row = row'
  failed : ∀ L ∈ ledgers fp calls, ∀ d op, Listed op →
    ∀ e, (execOp fp .sqlite d L op).2 = .error e → (execOp fp .sqlite d L op).1 = L

section Steps

theorem Frozen.refl (row : PaymentRow) : Frozen row row := ⟨rfl, fun _ is => is⟩

theorem Frozen.trans {a b c : PaymentRow} (ab : Frozen a b) (bc : Frozen b c) : Frozen a c where
  columns := by
    rw [bc.columns, ab.columns]
  reference := fun r is => bc.reference r (ab.reference r is)

theorem Frozen.id {row row' : PaymentRow} (frozen : Frozen row row') : row'.id = row.id := by
  rw [frozen.columns]

instance : Trans Retains Retains Retains where
  trans := by
    intro L₁ L₂ L₃ first second row mem
    obtain ⟨row₂, mem₂, frozen⟩ := first row mem
    obtain ⟨row₃, mem₃, frozen'⟩ := second row₂ mem₂
    exact ⟨row₃, mem₃, frozen.trans frozen'⟩

/-- The status column stays, or moves by a legal step. -/
def Moves (s t : Text PaymentStatus) : Prop :=
  t = s ∨ ∃ s' t', s = .stored s' ∧ t = .stored t' ∧ PaymentStatus.Legal s' t'

structure Inherits (row row' : PaymentRow) : Prop where
  frozen : Frozen row row'
  moves : Moves row.status row'.status
  settled : Settled row → Settled row'

theorem Inherits.refl (row : PaymentRow) : Inherits row row :=
  ⟨Frozen.refl row, .inl rfl, fun h => h⟩

structure Step (L L' : Ledger) : Prop where
  kept : ∀ row ∈ L.payments.rows, ∃ row' ∈ L'.payments.rows, Inherits row row'
  origin : ∀ row' ∈ L'.payments.rows, (∃ row ∈ L.payments.rows, Inherits row row') ∨
    row'.status = .stored .pending

theorem Step.refl (L : Ledger) : Step L L :=
  ⟨fun row mem => ⟨row, mem, Inherits.refl row⟩,
    fun row mem => .inl ⟨row, mem, Inherits.refl row⟩⟩

/-- What an assignment to the payment's columns has to respect. -/
structure Careful (L : Ledger) (id : Text PaymentId) (edit : PaymentEdit) : Prop where
  legal : ∀ t, edit.status = some t → ∃ s, Validated L id s t
  reference : ∀ r, edit.providerReference = some r → ∀ row ∈ L.payments.rows, row.id = id →
    row.providerReference = none ∨ row.providerReference = some r
  clears : ∀ t, edit.status = some t → t.isTerminal = true → edit.nextActionJson = some none
  silent : edit.status = none → edit.nextActionJson = none

theorem Careful.inherits {L : Ledger} {id : Text PaymentId} {guarded : Bool} {edit : PaymentEdit}
    (careful : Careful L id edit) {row : PaymentRow} (mem : row ∈ L.payments.rows) :
    Inherits row (Table.change (targets id guarded) edit.apply row) := by
  by_cases targeted : targets id guarded row = true
  · rw [Table.change_of_pos targeted]
    simp only [targets, Bool.and_eq_true, beq_iff_eq] at targeted
    have is := targeted.1
    constructor
    · constructor
      · rfl
      · intro r named
        cases assigned : edit.providerReference with
        | none => simpa [PaymentEdit.apply, assigned] using named
        | some r' =>
          have agrees := careful.reference r' assigned row mem is
          rw [named] at agrees
          simpa [PaymentEdit.apply, assigned, eq_comm] using agrees
    · cases assigned : edit.status with
      | none => exact .inl (by simp [PaymentEdit.apply, assigned])
      | some t =>
        obtain ⟨s, legal, row', mem', is', stored⟩ := careful.legal t assigned
        have one := row_eq_of_id mem mem' (is.trans is'.symm)
        rw [← one] at stored
        exact .inr ⟨s, t, stored, by simp [PaymentEdit.apply, assigned], legal⟩
    · intro settled s stored terminal
      cases assigned : edit.status with
      | none =>
        have was : row.status = .stored s := by simpa [PaymentEdit.apply, assigned] using stored
        simpa [PaymentEdit.apply, careful.silent assigned] using settled s was terminal
      | some t =>
        have same : t = s := by simpa [PaymentEdit.apply, assigned] using stored
        have cleared := careful.clears t assigned (by rw [same]; exact terminal)
        simp [PaymentEdit.apply, cleared]
  · rw [Table.change_of_neg (by simpa using targeted)]
    exact Inherits.refl row

theorem Careful.step {L : Ledger} {id : Text PaymentId} {edit : PaymentEdit}
    (careful : Careful L id edit) (guarded : Bool) : Step L (L.updatePayment id guarded edit) where
  kept := fun row mem => ⟨_, List.mem_map_of_mem mem, careful.inherits mem⟩
  origin := by
    intro row' mem
    obtain ⟨row, was, rfl⟩ := List.mem_map.mp mem
    exact .inl ⟨row, was, careful.inherits was⟩

theorem careful_statusEdit {L : Ledger} {id : Text PaymentId} {s t : PaymentStatus} {now : Instant}
    (validated : Validated L id s t) : Careful L id ((statusEdit t now).kept .sqlite) where
  legal := by
    intro t' sets
    cases sets
    exact ⟨s, validated⟩
  reference := fun r sets => nomatch sets
  clears := by
    intro t' sets terminal
    cases sets
    simp [PaymentEdit.kept, statusEdit, terminal]
  silent := fun none_ => nomatch none_

theorem careful_creationEdit {L : Ledger} {id : PaymentId} {reference : String}
    {status : CreationStatus} {action : Option PaymentNextAction} {now : Instant}
    (checked : CreationChecked L id reference status.toStatus) :
    Careful L (.stored id) ((creationEdit reference status.toStatus action now).kept .sqlite) := by
  obtain ⟨row, mem, is, ⟨s, stored, legal⟩, agrees⟩ := checked.row
  constructor
  · intro t sets
    cases sets
    exact ⟨s, legal, row, mem, is, stored⟩
  · intro r sets row' mem' is'
    cases sets
    rw [row_eq_of_id mem' mem (is'.trans is.symm)]
    exact agrees
  · intro t sets terminal
    cases sets
    cases status <;> cases terminal
  · exact fun none_ => nomatch none_

theorem careful_touchEdit {L : Ledger} {id : Text PaymentId} {now : Instant} :
    Careful L id ((touchEdit now).kept .sqlite) :=
  ⟨by rintro t ⟨⟩, by rintro r ⟨⟩, by rintro t ⟨⟩, fun _ => rfl⟩

variable {fp : PaymentRequest → String} {d : Draw} {L L' : Ledger} {op : StoreOp}

/-- What a listed operation does to the rows. -/
theorem outcome_step {r : op.Result} (outcome : Outcome fp .sqlite d L op L' r)
    (listed : Listed op) : Step L L' := by
  cases outcome with
  | begun request owner now payments inserted =>
    have rows := (Table.insert_eq_some.mp inserted).2
    constructor
    · intro row mem
      exact ⟨row, by simp [rows, mem], Inherits.refl row⟩
    · intro row' mem
      simp only [rows, List.mem_append, List.mem_singleton] at mem
      rcases mem with old | rfl
      · exact .inl ⟨row', old, Inherits.refl row'⟩
      · exact .inr rfl
  | created id reference status action now checked =>
    obtain ⟨s, rfl⟩ := listed
    exact (careful_creationEdit (checked rfl)).step false
  | applied event row current id received now webhookEvents mem matching stored is inserted agrees
      legal apart =>
    have validated : Validated { L with webhookEvents } row.id current event.reportedStatus :=
      ⟨legal, row, mem, rfl, stored⟩
    have careful : Careful { L with webhookEvents } row.id
        ((statusEdit event.reportedStatus now).kept .sqlite) := careful_statusEdit validated
    have step := careful.step false
    exact ⟨step.kept, step.origin⟩
  | marked id t now checked =>
    obtain ⟨s, validated⟩ := checked rfl
    exact (careful_statusEdit validated).step false
  | markedUnknown id now checked =>
    obtain ⟨s, validated⟩ := checked rfl
    exact (careful_statusEdit validated).step false
  | reconciled id s t now validated apart => exact (careful_statusEdit validated).step false
  | touched id now => exact careful_touchEdit.step true
  | judged event row current result received webhookEvents =>
    exact ⟨(Step.refl L).kept, (Step.refl L).origin⟩
  | recordedOnly event row received webhookEvents postgres => cases postgres
  | appliedUnnamed event row current received now webhookEvents postgres => cases postgres
  | refundRecorded record t now refunds inserted => exact listed.elim
  | refundTorn record t refunds sqlite inserted => exact listed.elim
  | _ => exact Step.refl L

theorem outcome_failed {e : StoreError} (outcome : Outcome fp .sqlite d L op L' (.error e))
    (listed : Listed op) : L' = L := by
  cases outcome with
  | recordedOnly event row received webhookEvents postgres => cases postgres
  | appliedUnnamed event row current received now webhookEvents postgres => cases postgres
  | refundTorn record t refunds sqlite inserted => exact listed.elim
  | _ => rfl

end Steps

section Runs

variable {fp : PaymentRequest → String} {calls : List Call}

theorem serve_step (L : Ledger) (c : Call) (listed : Listed c.op) : Step L (serve fp L c) :=
  outcome_step (execOp_outcome fp .sqlite c.draw L c.op) listed

theorem ledgers_step (listed : ∀ c ∈ calls, Listed c.op) : (ledgers fp calls).IsChain Step :=
  trace_chain (I := fun _ => True) (P := fun c => Listed c.op) (fun _ _ _ _ => trivial)
    (fun L c _ listed => serve_step L c listed) trivial listed

theorem statusOf_eq {L : Ledger} {id : PaymentId} {row : PaymentRow} (mem : row ∈ L.payments.rows)
    (is : row.id = .stored id) : statusOf id L = some row.status := by
  rw [statusOf, find_payment mem is]
  rfl

theorem statusOf_some {L : Ledger} {id : PaymentId} {s : Text PaymentStatus}
    (found : statusOf id L = some s) :
    ∃ row ∈ L.payments.rows, row.id = .stored id ∧ row.status = s := by
  obtain ⟨row, search, is⟩ := Option.map_eq_some_iff.mp found
  exact ⟨row, List.mem_of_find?_eq_some search, by simpa using List.find?_some search, is⟩

theorem statusOf_kept {L L' : Ledger} {id : PaymentId} {s : Text PaymentStatus} (step : Step L L')
    (found : statusOf id L = some s) : ∃ s', statusOf id L' = some s' ∧ Moves s s' := by
  obtain ⟨row, mem, is, rfl⟩ := statusOf_some found
  obtain ⟨row', mem', inherits⟩ := step.kept row mem
  exact ⟨row'.status, statusOf_eq mem' (inherits.frozen.id.trans is), inherits.moves⟩

theorem statusOf_appeared {L L' : Ledger} {id : PaymentId} {s : Text PaymentStatus}
    (step : Step L L') (absent : statusOf id L = none) (found : statusOf id L' = some s) :
    s = .stored .pending := by
  obtain ⟨row', mem', is, rfl⟩ := statusOf_some found
  rcases step.origin row' mem' with ⟨row, mem, inherits⟩ | pending
  · rw [statusOf_eq mem (inherits.frozen.id.symm.trans is)] at absent
    cases absent
  · exact pending

theorem legalPath_from {s : PaymentStatus} {path : List (Text PaymentStatus)}
    (chain : (.stored s :: path).IsChain Moves) :
    ∃ statuses : List PaymentStatus, path = statuses.map .stored ∧
      (s :: statuses).IsChain PaymentStatus.Legal := by
  induction path generalizing s with
  | nil => exact ⟨[], rfl, List.isChain_singleton s⟩
  | cons next path ih =>
    obtain ⟨moves, rest⟩ := List.isChain_cons_cons.mp chain
    obtain ⟨t, rfl, legal⟩ : ∃ t, next = .stored t ∧ PaymentStatus.Legal s t := by
      rcases moves with same | ⟨s', t, is, lands, legal⟩
      · exact ⟨s, same, PaymentStatus.validateTransition_self s⟩
      · cases is
        exact ⟨t, lands, legal⟩
    obtain ⟨statuses, rfl, legals⟩ := ih rest
    exact ⟨t :: statuses, rfl, List.isChain_cons_cons.mpr ⟨legal, legals⟩⟩

theorem legalPath_of_chain {path : List (Text PaymentStatus)} (chain : path.IsChain Moves)
    (first : ∀ s ∈ path.head?, s = .stored .pending) : LegalPath path := by
  cases path with
  | nil => exact ⟨[], rfl, List.isChain_nil, by simp⟩
  | cons s path =>
    have pending := first s rfl
    subst pending
    obtain ⟨statuses, rfl, legals⟩ := legalPath_from chain
    exact ⟨.pending :: statuses, rfl, legals, by simp⟩

theorem statuses_legal (listed : ∀ c ∈ calls, Listed c.op) (id : PaymentId) :
    LegalPath ((ledgers fp calls).filterMap (statusOf id)) := by
  have chain : (ledgers fp calls).IsChain Step := ledgers_step listed
  obtain ⟨rest, is⟩ : ∃ rest, ledgers fp calls = Ledger.empty :: rest := by
    cases calls with
    | nil => exact ⟨[], rfl⟩
    | cons c cs => exact ⟨_, rfl⟩
  rw [is] at chain ⊢
  obtain ⟨moves, first⟩ := observed_chain (statusOf id)
    (fun L L' s step found => statusOf_kept step found)
    (fun L L' s step absent found => statusOf_appeared step absent found) chain rfl
  exact legalPath_of_chain moves first

/-- The invariant of the SQLite ledger over every sequence of operations. -/
theorem ledger_kept (fp : PaymentRequest → String) (calls : List Call)
    (listed : ∀ c ∈ calls, Listed c.op) : Kept fp calls where
  path := statuses_legal listed
  settled := by
    refine trace_invariant (P := fun c => Listed c.op) (fun L c settled allowed => ?_)
      (by simp [Ledger.empty]) listed
    intro row' mem
    have step : Step L (serve fp L c) := serve_step L c allowed
    rcases step.origin row' mem with ⟨row, was, inherits⟩ | pending
    · exact inherits.settled (settled row was)
    · intro s stored terminal
      rw [pending] at stored
      cases stored
      cases terminal
  retained := by
    apply List.isChain_iff_pairwise.mp
    refine (ledgers_step listed).imp fun L L' step row mem => ?_
    obtain ⟨row', mem', inherits⟩ := step.kept row mem
    exact ⟨row', mem', inherits.frozen⟩
  keys := fun L _ row mem row' mem' same => row_eq_of_key mem mem' same
  failed := by
    intro L _ d op allowed e failed
    have outcome := execOp_outcome fp .sqlite d L op
    rw [failed] at outcome
    exact outcome_failed outcome allowed

/-- A payment claimed, created at Stripe and reported paid. -/
def claim : PaymentRequest :=
  ⟨.order, Providers.ProviderId.stripe, .hundred .usd,
    ⟨"0100", none, none⟩, none, none, none, []⟩

def paidCalls : List Call :=
  [⟨Gateway.quietDraw 1, .beginPaymentWithOwner claim none⟩,
    ⟨Gateway.quietDraw 0, .recordCreationResult ⟨1⟩ "cs_1" .pending none⟩,
    ⟨Gateway.quietDraw 0, .applyWebhookEvent
      ⟨"evt_1", Providers.ProviderId.stripe, "cs_1", .succeeded, some 100⟩⟩]

theorem ledger_kept_paid : Kept (fun _ => "") paidCalls :=
  ledger_kept (fun _ => "") paidCalls (by
    simp only [paidCalls, List.forall_mem_cons, Listed]
    exact ⟨trivial, ⟨.pending, rfl⟩, trivial, by simp⟩)

end Runs

end OpenWrapper.SqliteLedger
