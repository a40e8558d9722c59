import OpenWrapper.PaymentStore

/-! # Rules for statements

One rule for each statement: what a serial run that starts with it ends in,
given what the rest ends in after each answer the statement can have. -/

set_option autoImplicit false

namespace OpenWrapper.StatementRules
open OpenWrapper.Ids OpenWrapper.Payments OpenWrapper.ConstraintTable
open OpenWrapper.Schema OpenWrapper.PaymentStore
open OpenWrapper.Suspended OpenWrapper.Suspended.Prog

section Statements

variable {b : Backend} {d : Draw} {n : ℕ} {s : Session} {α : Type}
  {R : Session → α → Prop}

theorem ends_now {k : Instant → Sql α}
    (next : Ends (exec b d) R (n + 1) s (k (d.clock n))) :
    Ends (exec b d) R n s (.call .now k) := by
  rw [ends_call]
  cases fails : d.fails n <;> simpa [exec, Stmt.refused, Stmt.run, fails] using next

theorem ends_newPaymentId {k : PaymentId → Sql α}
    (next : Ends (exec b d) R (n + 1) s (k d.fresh)) :
    Ends (exec b d) R n s (.call .newPaymentId k) := by
  rw [ends_call]
  cases fails : d.fails n <;> simpa [exec, Stmt.refused, Stmt.run, fails] using next

theorem ends_beginTransaction {k : Except SqlError Unit → Sql α}
    (failed : Ends (exec b d) R (n + 1) s (k (.error .failed)))
    (begun : Ends (exec b d) R (n + 1) ⟨s.ledger, some s.ledger⟩ (k (.ok ()))) :
    Ends (exec b d) R n s (.call .beginTransaction k) := by
  rw [ends_call]
  cases fails : d.fails n
  · simpa [exec, Stmt.refused, Stmt.run, fails] using begun
  · simpa [exec, Stmt.refused, Stmt.run, fails] using failed

theorem ends_commit {k : Except SqlError Unit → Sql α}
    (failed : Ends (exec b d) R (n + 1) s (k (.error .failed)))
    (committed : Ends (exec b d) R (n + 1) ⟨s.ledger, none⟩ (k (.ok ()))) :
    Ends (exec b d) R n s (.call .commit k) := by
  rw [ends_call]
  cases fails : d.fails n
  · simpa [exec, Stmt.refused, Stmt.run, fails] using committed
  · simpa [exec, Stmt.refused, Stmt.run, fails] using failed

theorem ends_write {w : Write} {k : Except SqlError ℕ → Sql α}
    (failed : Ends (exec b d) R (n + 1) s (k (.error .failed)))
    (clash : w.perform b s.ledger = .error .constraint →
      Ends (exec b d) R (n + 1) s (k (.error .constraint)))
    (written : ∀ L rows, w.perform b s.ledger = .ok (L, rows) →
      Ends (exec b d) R (n + 1) ⟨L, s.saved⟩ (k (.ok rows))) :
    Ends (exec b d) R n s (.call (.write w) k) := by
  rw [ends_call]
  cases fails : d.fails n
  · simp only [exec, Stmt.refused, Stmt.run, fails]
    cases performed : w.perform b s.ledger with
    | ok result => exact written result.1 result.2 performed
    | error e =>
      cases e with
      | constraint => exact clash performed
      | failed => exact failed
  · simpa [exec, Stmt.refused, Stmt.run, fails] using failed

/-- An update of `payments` never clashes. -/
theorem ends_update {id : Text PaymentId} {guarded : Bool} {edit : PaymentEdit}
    {k : Except SqlError ℕ → Sql α}
    (failed : Ends (exec b d) R (n + 1) s (k (.error .failed)))
    (written : Ends (exec b d) R (n + 1)
      ⟨s.ledger.updatePayment id guarded (edit.kept b), s.saved⟩
      (k (.ok (s.ledger.payments.affected (targets id guarded))))) :
    Ends (exec b d) R n s (.call (.write (.updatePayment id guarded edit)) k) := by
  refine ends_write failed (fun clash => ?_) (fun L rows performed => ?_)
  · simp [Write.perform] at clash
  · simp only [Write.perform, Except.ok.injEq, Prod.mk.injEq] at performed
    rw [← performed.1, ← performed.2]
    exact written

theorem ends_transaction {ws : List Write} {k : Except SqlError Unit → Sql α}
    (failed : ∀ e, Ends (exec b d) R (n + 1) s (k (.error e)))
    (written : ∀ L, performAll b s.ledger ws = .ok L →
      Ends (exec b d) R (n + 1) ⟨L, s.saved⟩ (k (.ok ()))) :
    Ends (exec b d) R n s (.call (.transaction ws) k) := by
  rw [ends_call]
  cases fails : d.fails n
  · simp only [exec, Stmt.refused, Stmt.run, fails]
    cases performed : performAll b s.ledger ws with
    | ok L => exact written L performed
    | error e => exact failed e
  · simpa [exec, Stmt.refused, Stmt.run, fails] using failed .failed

theorem ends_selectPayment {id : PaymentId} {k : Except SqlError (Option PaymentRow) → Sql α}
    (failed : Ends (exec b d) R (n + 1) s (k (.error .failed)))
    (found : ∀ row ∈ s.ledger.payments.rows, row.id = .stored id →
      Ends (exec b d) R (n + 1) s (k (.ok (some row))))
    (missing : (∀ row ∈ s.ledger.payments.rows, row.id ≠ .stored id) →
      Ends (exec b d) R (n + 1) s (k (.ok none))) :
    Ends (exec b d) R n s (.call (.selectPayment id) k) := by
  rw [ends_call]
  cases fails : d.fails n
  · simp only [exec, Stmt.refused, Stmt.run, fails]
    cases search : s.ledger.payments.rows.find? fun row => row.id == .stored id with
    | none => exact missing (by simpa using search)
    | some row =>
      exact found row (List.mem_of_find?_eq_some search) (by simpa using List.find?_some search)
  · simpa [exec, Stmt.refused, Stmt.run, fails] using failed

theorem ends_selectByKey {key : IdempotencyKey}
    {k : Except SqlError (Option PaymentRow) → Sql α}
    (failed : Ends (exec b d) R (n + 1) s (k (.error .failed)))
    (found : ∀ row ∈ s.ledger.payments.rows, row.idempotencyKey = .stored key →
      Ends (exec b d) R (n + 1) s (k (.ok (some row))))
    (missing : (∀ row ∈ s.ledger.payments.rows, row.idempotencyKey ≠ .stored key) →
      Ends (exec b d) R (n + 1) s (k (.ok none))) :
    Ends (exec b d) R n s (.call (.selectByKey key) k) := by
  rw [ends_call]
  cases fails : d.fails n
  · simp only [exec, Stmt.refused, Stmt.run, fails]
    cases search : s.ledger.payments.rows.find? fun row =>
        row.idempotencyKey == .stored key with
    | none => exact missing (by simpa using search)
    | some row =>
      exact found row (List.mem_of_find?_eq_some search) (by simpa using List.find?_some search)
  · simpa [exec, Stmt.refused, Stmt.run, fails] using failed

theorem mem_scan {rows : List PaymentRow} {row : PaymentRow} :
    row ∈ scan d rows ↔ row ∈ rows :=
  List.mem_insertionSort _

/-- A row that ranks before every other comes first. -/
theorem insertionSort_first {rank : PaymentRow → ℕ} {rows : List PaymentRow} {row : PaymentRow}
    (mem : row ∈ rows) (before : ∀ other, other ≠ row → rank row < rank other) :
    ∃ rest, (rows.insertionSort fun a b => rank a ≤ rank b) = row :: rest := by
  have sorted := List.pairwise_insertionSort (fun a b => rank a ≤ rank b) rows
  have present : row ∈ rows.insertionSort fun a b => rank a ≤ rank b :=
    (List.mem_insertionSort _).mpr mem
  revert sorted present
  generalize (rows.insertionSort fun a b => rank a ≤ rank b) = visited
  intro sorted present
  cases visited with
  | nil => cases present
  | cons first rest =>
    refine ⟨rest, ?_⟩
    rcases List.mem_cons.mp present with same | later
    · rw [same]
    · have ranked := (List.pairwise_cons.mp sorted).1 row later
      by_contra apart
      have differs : first ≠ row := fun same => apart (by rw [same])
      exact absurd ranked (Nat.not_le.mpr (before first differs))

/-- The row a webhook is about: its provider's, under the reported reference. -/
def Matches (provider : ProviderId) (reference : String) (row : PaymentRow) : Prop :=
  row.provider = .stored provider ∧ row.providerReference = some reference

theorem ends_selectByProviderReference {provider : ProviderId} {reference : String}
    {k : Except SqlError (Option PaymentRow) → Sql α}
    (failed : Ends (exec b d) R (n + 1) s (k (.error .failed)))
    (found : ∀ row ∈ s.ledger.payments.rows, Matches provider reference row →
      Ends (exec b d) R (n + 1) s (k (.ok (some row))))
    (missing : (∀ row ∈ s.ledger.payments.rows, ¬ Matches provider reference row) →
      Ends (exec b d) R (n + 1) s (k (.ok none))) :
    Ends (exec b d) R n s (.call (.selectByProviderReference provider reference) k) := by
  rw [ends_call]
  cases fails : d.fails n
  · simp only [exec, Stmt.refused, Stmt.run, fails]
    cases search : (scan d s.ledger.payments.rows).find? fun row =>
        row.provider == .stored provider && row.providerReference == some reference with
    | none =>
      refine missing fun row mem matching => ?_
      have none_found := List.find?_eq_none.mp search row (mem_scan.mpr mem)
      simp [matching.1, matching.2] at none_found
    | some row =>
      exact found row (mem_scan.mp (List.mem_of_find?_eq_some search))
        (by simpa [Matches] using List.find?_some search)
  · simpa [exec, Stmt.refused, Stmt.run, fails] using failed

theorem ends_selectByReference {reference : Text PaymentId}
    {k : Except SqlError (Option PaymentRow) → Sql α}
    (failed : Ends (exec b d) R (n + 1) s (k (.error .failed)))
    (found : ∀ row ∈ s.ledger.payments.rows, refers reference row = true →
      Ends (exec b d) R (n + 1) s (k (.ok (some row))))
    (missing : Ends (exec b d) R (n + 1) s (k (.ok none))) :
    Ends (exec b d) R n s (.call (.selectByReference reference) k) := by
  rw [ends_call]
  cases fails : d.fails n
  · simp only [exec, Stmt.refused, Stmt.run, fails]
    cases search : (newestFirst b ((scan d s.ledger.payments.rows).filter
        (refers reference))).head? with
    | none => exact missing
    | some row =>
      have mem := List.mem_of_head? search
      rw [newestFirst, List.mem_insertionSort, List.mem_filter] at mem
      exact found row (mem_scan.mp mem.1) mem.2
  · simpa [exec, Stmt.refused, Stmt.run, fails] using failed

theorem ends_selectStale {cutoff : Instant} {limit : ℤ}
    {k : Except SqlError (List PaymentRow) → Sql α}
    (failed : Ends (exec b d) R (n + 1) s (k (.error .failed)))
    (found : ∀ rows : List PaymentRow,
      (∀ row ∈ rows, row ∈ s.ledger.payments.rows ∧ stale b cutoff row = true) →
      Ends (exec b d) R (n + 1) s (k (.ok rows))) :
    Ends (exec b d) R n s (.call (.selectStale cutoff limit) k) := by
  have member : ∀ row ∈ staleRows b d cutoff s.ledger.payments.rows,
      row ∈ s.ledger.payments.rows ∧ stale b cutoff row = true := by
    intro row mem
    rw [staleRows, List.mem_insertionSort, List.mem_filter] at mem
    exact ⟨mem_scan.mp mem.1, mem.2⟩
  rw [ends_call]
  cases fails : d.fails n
  · simp only [exec, Stmt.refused, Stmt.run, fails]
    cases b with
    | sqlite =>
      refine found _ fun row mem => member row ?_
      split at mem
      · exact mem
      · exact List.mem_of_mem_take mem
    | postgres =>
      simp only [Backend.limited]
      split
      · exact failed
      · exact found _ fun row mem => member row (List.mem_of_mem_take mem)
  · simpa [exec, Stmt.refused, Stmt.run, fails] using failed

theorem ends_sumRefunds {id : PaymentId} {k : Except SqlError ℤ → Sql α}
    (failed : Ends (exec b d) R (n + 1) s (k (.error .failed)))
    (summed : Ends (exec b d) R (n + 1) s (k (.ok (s.ledger.sumRefunds id)))) :
    Ends (exec b d) R n s (.call (.sumRefunds id) k) := by
  rw [ends_call]
  cases fails : d.fails n
  · simpa [exec, Stmt.refused, Stmt.run, fails] using summed
  · simpa [exec, Stmt.refused, Stmt.run, fails] using failed

theorem ends_selectRefunds {id : PaymentId} {k : Except SqlError (List RefundRow) → Sql α}
    (failed : Ends (exec b d) R (n + 1) s (k (.error .failed)))
    (found : Ends (exec b d) R (n + 1) s (k (.ok (refundsOf s.ledger id)))) :
    Ends (exec b d) R n s (.call (.selectRefunds id) k) := by
  rw [ends_call]
  cases fails : d.fails n
  · simpa [exec, Stmt.refused, Stmt.run, fails] using found
  · simpa [exec, Stmt.refused, Stmt.run, fails] using failed

end Statements

end OpenWrapper.StatementRules
