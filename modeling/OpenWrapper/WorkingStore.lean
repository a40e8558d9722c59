import OpenWrapper.Claimants

/-! # The store when no statement fails

What an operation leaves behind when the row it is about is there and every
statement of its program is executed. -/

set_option autoImplicit false

namespace OpenWrapper.WorkingStore
open OpenWrapper.Ids OpenWrapper.Payments OpenWrapper.Schema OpenWrapper.ConstraintTable
open OpenWrapper.PaymentStore OpenWrapper.StoreContract OpenWrapper.Evolution
open OpenWrapper.Claimants
open OpenWrapper.Suspended OpenWrapper.Suspended.Prog

abbrev working (d : Draw) : Draw := { d with fails := fun _ => false }

def StatusIs (L : Ledger) (id : PaymentId) (status : PaymentStatus) : Prop :=
  ∃ row ∈ L.payments.rows, row.id = .stored id ∧ row.status = .stored status

variable {fp : PaymentRequest → String} {b : Backend} {d : Draw} {L : Ledger} {id : PaymentId}
  {s t : PaymentStatus}

theorem status_unique (first : StatusIs L id s) (second : StatusIs L id t) : s = t := by
  obtain ⟨row, mem, is, stored⟩ := first
  obtain ⟨row', mem', is', stored'⟩ := second
  have same := L.payments.eq_of_clash mem mem' (.inl (is.trans is'.symm))
  rw [same, stored'] at stored
  exact (Text.stored.inj stored).symm

theorem claimed_pending (claimed : Claimed L id) : StatusIs L id .pending := by
  obtain ⟨row, mem, is, pending, -⟩ := claimed
  exact ⟨row, mem, is, pending⟩

theorem find_payment {row : PaymentRow} (mem : row ∈ L.payments.rows) (is : row.id = .stored id) :
    (L.payments.rows.find? fun row => row.id == .stored id) = some row :=
  L.payments.find_eq mem (by simp [is]) fun other same => .inl (by simpa [is] using same)

/-- An unguarded update of a payment's status stores the status it sets. -/
theorem update_status (edit : PaymentEdit) (stored : StatusIs L id s)
    (sets : edit.status = some t) : StatusIs (L.updatePayment (.stored id) false edit) id t := by
  obtain ⟨row, mem, is, -⟩ := stored
  obtain ⟨row', mem', is', now_⟩ := updated_status mem sets
  rw [is] at mem' is'
  exact ⟨row', mem', is', now_⟩

section Status

theorem updateStatusOnly_status (stored : StatusIs L id s) (legal : PaymentStatus.Legal s t) :
    StatusIs (serial (exec .sqlite (working d)) 0 (Session.on L)
      (SqliteStore.updateStatusOnly id t)).1.close id t := by
  have written := update_status ((statusEdit t (d.clock 0)).kept .sqlite) stored rfl
  obtain ⟨row, mem, is, current⟩ := stored
  simpa [SqliteStore.updateStatusOnly, exec, Stmt.run, Session.on, find_payment mem is, current,
    Text.parse, legal, Write.perform, Session.close] using written

theorem updateStatusOnly_status_postgres (stored : StatusIs L id s) :
    StatusIs (serial (exec .postgres (working d)) 0 (Session.on L)
      (PostgresStore.updateStatusOnly id t)).1.close id t := by
  have written := update_status ((statusEdit t (d.clock 0)).kept .postgres) stored rfl
  simpa [PostgresStore.updateStatusOnly, exec, Stmt.run, Session.on, Write.perform,
    Session.close] using written

theorem markFailed_status (fp : PaymentRequest → String) (b : Backend) (d : Draw)
    (claimed : Claimed L id) :
    StatusIs (execOp fp b (working d) L
      (.markTerminalWithoutProviderReference id .failed)).1 id .failed := by
  have stored := claimed_pending claimed
  cases b with
  | sqlite =>
    simp only [execOp, program, SqliteStore.markTerminalWithoutProviderReference,
      PaymentStatus.isTerminal, if_true]
    exact updateStatusOnly_status stored rfl
  | postgres => exact updateStatusOnly_status_postgres stored

theorem markUnknown_status (fp : PaymentRequest → String) (b : Backend) (d : Draw)
    (claimed : Claimed L id) :
    StatusIs (execOp fp b (working d) L (.markUnknown id)).1 id .unknown := by
  have stored := claimed_pending claimed
  cases b with
  | sqlite => exact updateStatusOnly_status stored rfl
  | postgres => exact updateStatusOnly_status_postgres stored

theorem applyReconciliationResult_status (fp : PaymentRequest → String) (d : Draw)
    (stored : StatusIs L id s) (legal : PaymentStatus.Legal s t) (apart : s ≠ t) :
    StatusIs (execOp fp .sqlite (working d) L (.applyReconciliationResult id t)).1 id t := by
  have written := update_status ((statusEdit t (d.clock 0)).kept .sqlite) stored rfl
  obtain ⟨row, mem, is, current⟩ := stored
  simpa [execOp, program, SqliteStore.applyReconciliationResult, exec, Stmt.run, Session.on,
    find_payment mem is, current, Text.parse, legal, apart, Write.perform, Session.close]
    using written

end Status

section Creation

variable {reference : String} {u : CreationStatus} {nextAction : Option PaymentNextAction}

/-- The result of a creation is written over the claimed row. -/
theorem recordCreationResult_ledger (claimed : Claimed L id) :
    (execOp fp b (working d) L (.recordCreationResult id reference u.toStatus nextAction)).1 =
      L.updatePayment (.stored id) false
        ((creationEdit reference u.toStatus nextAction (d.clock 0)).kept b) := by
  obtain ⟨row, mem, is, pending, unnamed⟩ := claimed
  have legal : PaymentStatus.Legal .pending u.toStatus := by cases u <;> rfl
  cases b with
  | sqlite =>
    simp [execOp, program, SqliteStore.recordCreationResult, exec, Stmt.run, Session.on,
      find_payment mem is, pending, Text.parse, legal, unnamed, Write.perform, Session.close,
      affected_of_mem mem is]
  | postgres =>
    simp [execOp, program, PostgresStore.recordCreationResult, exec, Stmt.run, Session.on,
      Write.perform, Session.close]

theorem recordCreationResult_status (claimed : Claimed L id) :
    StatusIs (execOp fp b (working d) L
      (.recordCreationResult id reference u.toStatus nextAction)).1 id u.toStatus := by
  rw [recordCreationResult_ledger claimed]
  exact update_status _ (claimed_pending claimed) rfl

theorem recordCreationResult_referenced (claimed : Claimed L id) :
    Referenced (execOp fp b (working d) L
      (.recordCreationResult id reference u.toStatus nextAction)).1 id := by
  rw [recordCreationResult_ledger claimed]
  obtain ⟨row, mem, is, -⟩ := claimed
  refine ⟨_, List.mem_map_of_mem mem, (continues_change _ _ row).id.trans is, ?_⟩
  rw [Table.change_of_pos (by simp [targets, is])]
  rfl

end Creation

section Reading

theorem getPayment_ledger : (execOp fp b d L (.getPayment id)).1 = L := by
  have outcome := execOp_outcome fp b d L (.getPayment id)
  generalize (execOp fp b d L (.getPayment id)).1 = L' at outcome
  generalize (execOp fp b d L (.getPayment id)).2 = r at outcome
  cases outcome <;> rfl

theorem getPayment_found (fp : PaymentRequest → String) (b : Backend) (d : Draw)
    {row : PaymentRow} {payment : Payment} (mem : row ∈ L.payments.rows) (is : row.id = .stored id) (parsed : row.toPayment = some payment) :
    (execOp fp b (working d) L (.getPayment id)).2 = .ok (some payment) := by
  simp [execOp, program, PaymentStore.getPayment, exec, Stmt.run, Session.on,
    find_payment mem is, readPayment, parsed]

end Reading

end OpenWrapper.WorkingStore
