import OpenWrapper.Background
import OpenWrapper.StoreContract
import Mathlib.Data.Prod.Lex
import Mathlib.Data.Char
import Mathlib.Data.List.Lex
import Mathlib.Data.Finset.Card

/-! # The stale payments and their timestamps

SQLite orders the stale payments by the texts of their timestamps. A write of
the reconciler sets one payment's timestamp to the time of the write, and the
query lists those that sort first. -/

set_option autoImplicit false

namespace OpenWrapper.ReconcilerStore
open OpenWrapper.Ids OpenWrapper.Payments OpenWrapper.Amounts OpenWrapper.ConstraintTable
open OpenWrapper.Schema OpenWrapper.PaymentStore
open OpenWrapper.Suspended OpenWrapper.Suspended.Prog

section Order

theorem textBefore_iff (as bs : List Char) : Instant.textBefore as bs = true ↔ as < bs := by
  induction as generalizing bs with
  | nil => cases bs <;> simp [Instant.textBefore]
  | cons a as ih =>
    cases bs with
    | nil => simp [Instant.textBefore]
    | cons b bs =>
      rw [List.cons_lt_cons_iff]
      simp only [Instant.textBefore, Bool.or_eq_true, Bool.and_eq_true, decide_eq_true_eq,
        beq_iff_eq, ih]
      exact Iff.rfl

/-- Where the text of a timestamp stands. -/
def rank (t : Instant) : ℤ ×ₗ List Char := toLex (t.seconds, t.rfc3339Tail)

theorem before_iff (s t : Instant) : s.rfc3339Before t = true ↔ rank s < rank t := by
  simp only [Instant.rfc3339Before, rank, Prod.Lex.toLex_lt_toLex, Bool.or_eq_true,
    Bool.and_eq_true, decide_eq_true_eq, beq_iff_eq, textBefore_iff]

theorem not_before_iff (s t : Instant) : s.rfc3339Before t = false ↔ rank t ≤ rank s := by
  rw [← Bool.not_eq_true, before_iff, not_lt]

/-- A list that is sorted by ranks has them in order. -/
theorem insertionSort_ranked {α β : Type} [LinearOrder β] {le : α → α → Prop} [DecidableRel le]
    (rank : α → β) (ranked : ∀ a b, le a b ↔ rank a ≤ rank b) (l : List α) :
    (l.insertionSort le).Pairwise fun a b => rank a ≤ rank b := by
  have total : Std.Total le := ⟨fun a b => by simpa only [ranked] using le_total _ _⟩
  have trans : IsTrans α le := ⟨fun a b c ab bc => by
    rw [ranked] at ab bc ⊢
    exact ab.trans bc⟩
  exact (List.pairwise_insertionSort le l).imp fun {a b} held => (ranked a b).mp held

/-- What ranks first among some, and sorts before the others, is taken first. -/
theorem length_take_filter {α : Type} {le : α → α → Prop} {p : α → Bool} {l : List α}
    (sorted : l.Pairwise le) (first : ∀ a ∈ l, ∀ b ∈ l, p a = false → p b = true → ¬ le a b)
    (k : ℕ) : ((l.take k).filter p).length = min k (l.filter p).length := by
  induction l generalizing k with
  | nil => simp
  | cons a l ih =>
    have rest := ih (List.pairwise_cons.mp sorted).2 fun b mem c mem' =>
      first b (List.mem_cons_of_mem _ mem) c (List.mem_cons_of_mem _ mem')
    cases k with
    | zero => simp
    | succ k =>
      by_cases held : p a = true
      · rw [List.take_succ_cons, List.filter_cons_of_pos held, List.filter_cons_of_pos held]
        simp only [List.length_cons, rest k]
        omega
      · have none_ : (a :: l).filter p = [] := by
          rw [List.filter_eq_nil_iff]
          intro b mem passes
          have fails : p a = false := by simpa using held
          rcases List.mem_cons.mp mem with rfl | later
          · exact held passes
          · exact first a List.mem_cons_self b mem fails passes
              ((List.pairwise_cons.mp sorted).1 b later)
        have short : ((a :: l).take (k + 1)).filter p = [] := by
          rw [List.filter_eq_nil_iff] at none_ ⊢
          exact fun b mem => none_ b (List.mem_of_mem_take mem)
        rw [none_, short]
        simp

end Order

section Rows

/-- The row does not sort before the cutoff. -/
def Late (cutoff : Instant) (row : PaymentRow) : Prop :=
  row.updatedAt.rfc3339Before cutoff = false

/-- The reconciler may list the row, once it is old enough. -/
def Listable (row : PaymentRow) : Prop :=
  row.unresolved = true ∧ row.providerReference.isSome = true

theorem stale_iff {cutoff : Instant} {row : PaymentRow} :
    stale .sqlite cutoff row = true ↔ Listable row ∧ ¬ Late cutoff row := by
  simp only [stale, Listable, Late, Backend.before, Backend.keep, Bool.and_eq_true,
    Bool.not_eq_false]
  tauto

/-- The row after a write that stamps it with a time that is late. -/
structure Restamped (cutoff : Instant) (row row' : PaymentRow) : Prop where
  id : row'.id = row.id
  provider : row'.provider = row.provider
  providerReference : row'.providerReference = row.providerReference
  late : Late cutoff row'
  unresolved : row'.unresolved = true → row.unresolved = true

/-- A write of the reconciler about one payment. -/
structure Rewritten (cutoff : Instant) (id : PaymentId) (L L' : Ledger) : Prop where
  back : ∀ row' ∈ L'.payments.rows, row' ∈ L.payments.rows ∨
    ∃ row ∈ L.payments.rows, row.id = .stored id ∧ Restamped cutoff row row'
  forth : ∀ row ∈ L.payments.rows, row.id ≠ .stored id → row ∈ L'.payments.rows

variable {cutoff : Instant} {id : PaymentId} {L : Ledger} {edit : PaymentEdit}

theorem rewritten_refl (L : Ledger) : Rewritten cutoff id L L :=
  ⟨fun _ mem => .inl mem, fun _ mem _ => mem⟩

theorem restamped_apply {row : PaymentRow} (unnamed : edit.providerReference = none)
    (late : edit.updatedAt.rfc3339Before cutoff = false)
    (unresolved : (edit.apply row).unresolved = true → row.unresolved = true) :
    Restamped cutoff row (edit.apply row) where
  id := rfl
  provider := rfl
  providerReference := by simp [PaymentEdit.apply, unnamed]
  late := late
  unresolved := unresolved

theorem rewritten_update {guarded : Bool} (unnamed : edit.providerReference = none)
    (late : edit.updatedAt.rfc3339Before cutoff = false)
    (unresolved : ∀ row ∈ L.payments.rows, row.id = .stored id →
      (edit.apply row).unresolved = true → row.unresolved = true) :
    Rewritten cutoff id L (L.updatePayment (.stored id) guarded edit) where
  back := by
    intro row' mem
    obtain ⟨row, inTable, rfl⟩ := List.mem_map.mp mem
    by_cases targeted : targets (.stored id) guarded row = true
    · have is : row.id = .stored id := by
        simp only [targets, Bool.and_eq_true, beq_iff_eq] at targeted
        exact targeted.1
      rw [Table.change_of_pos targeted]
      exact .inr ⟨row, inTable, is, restamped_apply unnamed late (unresolved row inTable is)⟩
    · rw [Table.change_of_neg (by simpa using targeted)]
      exact .inl inTable
  forth := by
    intro row mem apart
    have untouched : targets (.stored id) guarded row = false := by simp [targets, apart]
    have kept := List.mem_map_of_mem (f := Table.change (targets (.stored id) guarded) edit.apply) mem
    rwa [Table.change_of_neg untouched] at kept

end Rows

section Operations

variable {fp : PaymentRequest → String} {d : Draw} {L : Ledger} {cutoff : Instant} {id : PaymentId}
  {t : PaymentStatus}

/-- The statements of one operation are executed. -/
def Works (d : Draw) : Prop := d.fails 0 = false ∧ d.fails 1 = false ∧ d.fails 2 = false

instance (d : Draw) : Decidable (Works d) := inferInstanceAs (Decidable (_ ∧ _ ∧ _))

theorem touch_ledger (works : Works d) :
    (execOp fp .sqlite d L (.touchReconciliationAttempt id)).1 =
      L.updatePayment (.stored id) true ((touchEdit (d.clock 0)).kept .sqlite) := by
  simp [execOp, program, PaymentStore.touchReconciliationAttempt, exec, Stmt.run, works.1, works.2.1,
    Session.on, Write.perform, Session.close]

theorem touch_rewritten (works : Works d) (late : (d.clock 0).rfc3339Before cutoff = false) :
    Rewritten cutoff id L (execOp fp .sqlite d L (.touchReconciliationAttempt id)).1 := by
  rw [touch_ledger works]
  exact rewritten_update rfl late fun row _ _ unresolved => unresolved

/-- A touch leaves no row of the payment early and unresolved. -/
theorem touch_moves (works : Works d) (late : (d.clock 0).rfc3339Before cutoff = false) :
    ∀ row' ∈ (execOp fp .sqlite d L (.touchReconciliationAttempt id)).1.payments.rows,
      row'.id = .stored id → row'.unresolved = true → Late cutoff row' := by
  rw [touch_ledger works]
  intro row' mem is unresolved
  obtain ⟨row, inTable, rfl⟩ := List.mem_map.mp mem
  by_cases targeted : targets (.stored id) true row = true
  · rw [Table.change_of_pos targeted]
    exact late
  · rw [Table.change_of_neg (by simpa using targeted)] at is unresolved
    simp [targets, is, unresolved] at targeted

/-- The status may be written over the stored one, and is another. -/
def Replaces (t : PaymentStatus) (row : PaymentRow) : Prop :=
  ∃ current, row.status = .stored current ∧ PaymentStatus.Legal current t ∧ current ≠ t

instance (t : PaymentStatus) (row : PaymentRow) : Decidable (Replaces t row) :=
  match stored : row.status with
  | .stored current =>
    decidable_of_iff (PaymentStatus.Legal current t ∧ current ≠ t)
      ⟨fun held => ⟨current, stored, held⟩, by
        rintro ⟨current', stored', held⟩
        rw [stored] at stored'
        rw [Text.stored.inj stored']
        exact held⟩
  | .corrupt raw => .isFalse (by
      rintro ⟨current, stored', -⟩
      rw [stored] at stored'
      cases stored')

theorem unresolved_of_legal {row : PaymentRow} (replaces : Replaces t row)
    (unresolved : ((statusEdit t (d.clock 0)).apply row).unresolved = true) :
    row.unresolved = true := by
  obtain ⟨current, stored, legal, apart⟩ := replaces
  have now_ : ((statusEdit t (d.clock 0)).apply row).status = .stored t := rfl
  rw [PaymentRow.unresolved, now_] at unresolved
  rw [PaymentRow.unresolved, stored]
  revert unresolved legal apart
  cases current <;> cases t <;> decide

/-- The result of an inquiry is written if it replaces the stored status. -/
theorem apply_ledger (works : Works d) :
    (execOp fp .sqlite d L (.applyReconciliationResult id t)).1 =
      match L.payments.rows.find? fun row => row.id == .stored id with
      | some row => if Replaces t row then
          L.updatePayment (.stored id) false ((statusEdit t (d.clock 0)).kept .sqlite) else L
      | none => L := by
  cases found : L.payments.rows.find? fun row => row.id == .stored id with
  | none =>
    simp [execOp, program, SqliteStore.applyReconciliationResult, exec, Stmt.run, works.1, works.2.1,
      Session.on, found, internalErr, Session.close]
  | some row =>
    cases stored : row.status with
    | corrupt raw =>
      simp [execOp, program, SqliteStore.applyReconciliationResult, exec, Stmt.run, works.1,
        works.2.1, Session.on, found, stored, Text.parse, Replaces, internalErr, Session.close]
    | stored current =>
      cases legal : current.validateTransition t with
      | error e =>
        simp [execOp, program, SqliteStore.applyReconciliationResult, exec, Stmt.run, works.1,
          works.2.1, Session.on, found, stored, Text.parse, Replaces, legal, Session.close]
      | ok _ =>
        by_cases same : current = t
        · simp [execOp, program, SqliteStore.applyReconciliationResult, exec, Stmt.run, works.1,
            works.2.1, Session.on, found, stored, Text.parse, Replaces, same, Session.close]
        · simp [execOp, program, SqliteStore.applyReconciliationResult, exec, Stmt.run, works.1,
            works.2.1, works.2.2, Session.on, found, stored, Text.parse, Replaces, legal, same,
            Write.perform, Session.close]

theorem apply_rewritten (works : Works d) (late : (d.clock 0).rfc3339Before cutoff = false) :
    Rewritten cutoff id L (execOp fp .sqlite d L (.applyReconciliationResult id t)).1 := by
  rw [apply_ledger works]
  split
  next row found =>
    split
    next replaces =>
      have is : row.id = .stored id := by simpa using List.find?_some found
      have mem := List.mem_of_find?_eq_some found
      refine rewritten_update rfl late fun other inTable same unresolved => ?_
      have one : other = row := L.payments.eq_of_clash inTable mem (.inl (same.trans is.symm))
      rw [one] at unresolved ⊢
      exact unresolved_of_legal replaces unresolved
    · exact rewritten_refl L
  · exact rewritten_refl L

/-- Nor does a result that replaces the status of every unresolved row. -/
theorem apply_moves (works : Works d) (late : (d.clock 0).rfc3339Before cutoff = false)
    (moves : ∀ row ∈ L.payments.rows, row.id = .stored id → row.unresolved = true →
      Replaces t row) :
    ∀ row' ∈ (execOp fp .sqlite d L (.applyReconciliationResult id t)).1.payments.rows,
      row'.id = .stored id → row'.unresolved = true → Late cutoff row' := by
  intro row' mem is unresolved
  rcases (apply_rewritten works late).back row' mem with kept | ⟨row, -, -, restamped⟩
  · have found : (L.payments.rows.find? fun row => row.id == .stored id) = some row' :=
      L.payments.find_eq kept (by simp [is]) fun other same => .inl (by simpa [is] using same)
    rw [apply_ledger works, found] at mem
    dsimp only at mem
    rw [if_pos (moves row' kept is unresolved)] at mem
    obtain ⟨before, inTable, rfl⟩ := List.mem_map.mp mem
    by_cases targeted : targets (.stored id) false before = true
    · rw [Table.change_of_pos targeted]
      exact late
    · rw [Table.change_of_neg (by simpa using targeted)] at is
      simp [targets, is] at targeted
  · exact restamped.late

/-- The rows a pass asks for, in order. -/
def listing (d : Draw) (L : Ledger) : List PaymentRow :=
  staleRows .sqlite d ((d.clock 0).minus Background.minAge) L.payments.rows

theorem list_answer (works : Works d) :
    execOp fp .sqlite d L (.listStaleUnknownPayments Background.minAge Background.batchLimit) =
      (L, match collect PaymentRow.toPayment ((listing d L).take 100) with
        | some payments => .ok payments
        | none => .error .internal) := by
  cases collected : collect PaymentRow.toPayment ((listing d L).take 100) with
  | none =>
    simp only [listing, Background.minAge] at collected
    simp [execOp, program, PaymentStore.listStaleUnknownPayments, exec, Stmt.run, works.1,
      works.2.1, Session.on, Backend.limited, Background.batchLimit, Background.minAge, collected,
      internalErr, Session.close]
  | some payments =>
    simp only [listing, Background.minAge] at collected
    simp [execOp, program, PaymentStore.listStaleUnknownPayments, exec, Stmt.run, works.1,
      works.2.1, Session.on, Backend.limited, Background.batchLimit, Background.minAge, collected,
      Session.close]

end Operations

section Listing

variable {d : Draw} {L : Ledger} {cutoff : Instant} {row : PaymentRow}

theorem mem_listing : row ∈ listing d L ↔ row ∈ L.payments.rows ∧
    stale .sqlite ((d.clock 0).minus Background.minAge) row = true := by
  rw [listing, staleRows, List.mem_insertionSort, List.mem_filter, scan, List.mem_insertionSort]

/-- The stale rows have the ranks of their texts in order. -/
theorem staleRows_sorted {rows : List PaymentRow} :
    (staleRows .sqlite d cutoff rows).Pairwise fun r s => rank r.updatedAt ≤ rank s.updatedAt :=
  insertionSort_ranked (fun row : PaymentRow => rank row.updatedAt) (fun r s => by
    rw [Bool.not_eq_true', Backend.before, not_before_iff]) _

theorem staleRows_perm (b : Backend) (d : Draw) (cutoff : Instant) (rows : List PaymentRow) :
    (staleRows b d cutoff rows).Perm (rows.filter (stale b cutoff)) :=
  (List.perm_insertionSort _ _).trans ((List.perm_insertionSort _ _).filter _)

theorem listing_sorted : (listing d L).Pairwise fun r s => rank r.updatedAt ≤ rank s.updatedAt :=
  staleRows_sorted

theorem rows_nodup (L : Ledger) : L.payments.rows.Nodup :=
  L.payments.distinct.imp fun {a b} apart same => apart (.inl (by rw [same]))

theorem listing_nodup : (listing d L).Nodup := by
  have kept : (L.payments.rows.filter
      (stale .sqlite ((d.clock 0).minus Background.minAge))).Nodup := (rows_nodup L).filter _
  exact (staleRows_perm .sqlite d _ _).nodup_iff.mpr kept

/-- The rows that sort before the cutoff are listed first. -/
theorem listing_first {early : Finset PaymentRow} (listed : ∀ row ∈ early, row ∈ listing d L)
    (before : ∀ row ∈ early, ¬ Late cutoff row)
    (after : ∀ row ∈ listing d L, row ∉ early → Late cutoff row) :
    min 100 early.card ≤ (early.filter (· ∈ (listing d L).take 100)).card := by
  have first : ∀ a ∈ listing d L, ∀ b ∈ listing d L, decide (a ∈ early) = false →
      decide (b ∈ early) = true → ¬ rank a.updatedAt ≤ rank b.updatedAt := by
    intro a mem b _ out inside below
    have late := (not_before_iff _ _).mp (after a mem (of_decide_eq_false out))
    exact before b (of_decide_eq_true inside) ((not_before_iff _ _).mpr (late.trans below))
  have taken := length_take_filter (p := fun row => decide (row ∈ early)) listing_sorted first 100
  have all : ((listing d L).filter fun row => decide (row ∈ early)).length = early.card := by
    rw [← List.toFinset_card_of_nodup (listing_nodup.filter _)]
    congr 1
    ext row
    simp only [List.mem_toFinset, List.mem_filter, decide_eq_true_eq]
    exact ⟨fun held => held.2, fun mem => ⟨listed row mem, mem⟩⟩
  rw [all] at taken
  have nodup : (((listing d L).take 100).filter fun row => decide (row ∈ early)).Nodup :=
    (listing_nodup.sublist (List.take_sublist _ _)).filter _
  rw [← taken, ← List.toFinset_card_of_nodup nodup]
  apply Finset.card_le_card
  intro row mem
  simp only [List.mem_toFinset, List.mem_filter, decide_eq_true_eq] at mem
  exact Finset.mem_filter.mpr ⟨mem.2, mem.1⟩

theorem collect_of_readable {rows : List PaymentRow}
    (readable : ∀ row ∈ rows, row.toPayment.isSome = true) :
    ∃ payments, collect PaymentRow.toPayment rows = some payments ∧
      ∀ row ∈ rows, ∃ payment ∈ payments, row.toPayment = some payment := by
  induction rows with
  | nil => exact ⟨[], rfl, by simp⟩
  | cons row rows ih =>
    obtain ⟨payments, collected, all⟩ := ih fun other mem => readable other (List.mem_cons_of_mem _ mem)
    obtain ⟨payment, read⟩ := Option.isSome_iff_exists.mp (readable row List.mem_cons_self)
    refine ⟨payment :: payments, by simp [collect, read, collected], fun other mem => ?_⟩
    rcases List.mem_cons.mp mem with rfl | later
    · exact ⟨payment, List.mem_cons_self, read⟩
    · obtain ⟨payment', mem', read'⟩ := all other later
      exact ⟨payment', List.mem_cons_of_mem _ mem', read'⟩

end Listing

end OpenWrapper.ReconcilerStore
