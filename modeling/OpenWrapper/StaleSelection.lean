import OpenWrapper.InstantTexts
import OpenWrapper.ReadableRows

/-! # Selection by time

SQLite compares the texts of timestamps. The stale payments it lists and the
payment it finds by a reference are those of the order of time just where none
of the instants it compares are misordered. -/

set_option autoImplicit false

namespace OpenWrapper.StaleSelection
open OpenWrapper.Ids OpenWrapper.Payments OpenWrapper.ConstraintTable OpenWrapper.Schema
open OpenWrapper.PaymentStore OpenWrapper.StoreContract OpenWrapper.ReconcilerStore
open OpenWrapper.ReadableRows OpenWrapper.InstantTexts OpenWrapper.Suspended.Prog

/-- What a limit leaves; a negative one is none. -/
def cut {α : Type} (limit : ℤ) (l : List α) : List α :=
  if limit < 0 then l else l.take limit.toNat

/-- Pending or unknown, and with a provider reference. -/
def candidate (row : PaymentRow) : Bool := row.unresolved && row.providerReference.isSome

def due (L : Ledger) (cutoff : Instant) : List PaymentRow :=
  L.payments.rows.filter fun row =>
    candidate row && decide (row.updatedAt.nanoseconds < cutoff.nanoseconds)

/-- The answer holds the rows due, the oldest first, as far as the limit goes. -/
structure Lists (fp : PaymentRequest → String) (d : Draw) (L : Ledger) (minAge limit : ℤ) :
    Prop where
  listed : ∃ o payments, o.Perm (due L ((d.clock 0).minus minAge)) ∧
    (o.Pairwise fun r s => r.updatedAt.nanoseconds ≤ s.updatedAt.nanoseconds) ∧
    collect PaymentRow.toPayment (cut limit o) = some payments ∧
    (execOp fp .sqlite d L (.listStaleUnknownPayments minAge limit)).2 = .ok payments

def idText : Text PaymentId → String
  | .stored id => id.display
  | .corrupt raw => raw

/-- `id = ?1 OR merchant_reference = ?1 OR provider_reference = ?1`. -/
def named (reference : String) (row : PaymentRow) : Bool :=
  idText row.id == reference || row.merchantReference == some reference ||
    row.providerReference == some reference

/-- `find_payment_by_reference`, of any text. -/
def findByReference (d : Draw) (L : Ledger) (reference : String) : StoreResult (Option Payment) :=
  readPayment (newestFirst .sqlite ((scan d L.payments.rows).filter (named reference))).head?

/-- The row matches, and no other that does was created later. -/
structure Latest (L : Ledger) (reference : String) (row : PaymentRow) : Prop where
  mem : row ∈ L.payments.rows
  named : named reference row = true
  last : ∀ other ∈ L.payments.rows, StaleSelection.named reference other = true →
    other.createdAt.nanoseconds ≤ row.createdAt.nanoseconds

structure Finds (d : Draw) (L : Ledger) (reference : String) : Prop where
  absent : (∀ row ∈ L.payments.rows, named reference row = false) →
    findByReference d L reference = .ok none
  present : ∀ row ∈ L.payments.rows, named reference row = true → ∃ row' p,
    Latest L reference row' ∧ row'.toPayment = some p ∧ findByReference d L reference = .ok (some p)

/-- No two instants that the selections compare are misordered. -/
structure InOrder (L : Ledger) (cutoff : Instant) : Prop where
  atCutoff : ∀ row ∈ L.payments.rows, candidate row = true →
    ¬ Misordered row.updatedAt cutoff ∧ ¬ Misordered cutoff row.updatedAt
  amongDue : ∀ row ∈ due L cutoff, ∀ row' ∈ due L cutoff, ¬ Misordered row.updatedAt row'.updatedAt
  byCreation : ∀ reference, ∀ row ∈ L.payments.rows, named reference row = true → ∀ row',
    Latest L reference row' → ¬ Misordered row.createdAt row'.createdAt

section Listing

variable {fp : PaymentRequest → String} {d : Draw} {L : Ledger} {cutoff : Instant}
  {minAge limit : ℤ} {row row' : PaymentRow}

theorem limited_cut {α : Type} (l : List α) : Backend.limited .sqlite limit l = .ok (cut limit l) :=
  rfl

theorem stale_answer (works : Works d) :
    (execOp fp .sqlite d L (.listStaleUnknownPayments minAge limit)).2 =
      match collect PaymentRow.toPayment
        (cut limit (staleRows .sqlite d ((d.clock 0).minus minAge) L.payments.rows)) with
      | some payments => .ok payments
      | none => .error .internal := by
  simp only [execOp, program, PaymentStore.listStaleUnknownPayments, Sql.now, Sql.selectStale,
    perform_bind, Suspended.serial_call, exec, Stmt.run, works.1, works.2.1, Session.on,
    limited_cut]
  cases collect PaymentRow.toPayment
    (cut limit (staleRows .sqlite d ((d.clock 0).minus minAge) L.payments.rows)) <;> rfl

theorem stale_eq (row : PaymentRow) :
    stale .sqlite cutoff row = (candidate row && row.updatedAt.rfc3339Before cutoff) := by
  unfold stale candidate
  cases row.unresolved <;> cases row.providerReference.isSome <;>
    simp [Backend.before, Backend.keep]

theorem cut_sub {α : Type} {l : List α} {a : α} (mem : a ∈ cut limit l) : a ∈ l := by
  unfold cut at mem
  split at mem
  · exact mem
  · exact List.mem_of_mem_take mem

/-- Texts in order list what time does. -/
theorem lists_of_inOrder (works : Works d)
    (readable : ∀ row ∈ L.payments.rows, row.toPayment.isSome = true)
    (inOrder : InOrder L ((d.clock 0).minus minAge)) : Lists fp d L minAge limit := by
  have rows : L.payments.rows.filter (stale .sqlite ((d.clock 0).minus minAge)) =
      due L ((d.clock 0).minus minAge) := by
    apply List.filter_congr
    intro row mem
    rw [stale_eq]
    by_cases held : candidate row = true
    · have apart := inOrder.atCutoff row mem held
      rw [held, Bool.true_and, Bool.true_and]
      apply Bool.eq_iff_iff.mpr
      rw [before_iff_lt apart.1 apart.2, decide_eq_true_eq]
    · rw [Bool.eq_false_of_not_eq_true held]
      rfl
  have perm := staleRows_perm .sqlite d ((d.clock 0).minus minAge) L.payments.rows
  rw [rows] at perm
  have inRows (row : PaymentRow) (mem : row ∈ staleRows .sqlite d ((d.clock 0).minus minAge)
      L.payments.rows) : row ∈ L.payments.rows :=
    (List.mem_filter.mp (perm.mem_iff.mp mem)).1
  have within : ∀ row ∈ cut limit (staleRows .sqlite d ((d.clock 0).minus minAge) L.payments.rows),
      row.toPayment.isSome = true := fun row mem => readable row (inRows row (cut_sub mem))
  obtain ⟨payments, collected⟩ := collect_readable within
  refine ⟨_, payments, perm, ?_, collected, ?_⟩
  · apply staleRows_sorted.imp_of_mem
    intro r s mem mem' ranked
    have apart := inOrder.amongDue _ (perm.mem_iff.mp mem') _ (perm.mem_iff.mp mem)
    have apart' := inOrder.amongDue _ (perm.mem_iff.mp mem) _ (perm.mem_iff.mp mem')
    by_contra later
    have before := (before_iff_lt apart apart').mpr (by omega)
    rw [(not_before_iff _ _).mpr ranked] at before
    cases before
  · rw [stale_answer works, collected]

theorem collect_map {α β γ : Type} {f : α → Option β} {g : β → γ} {h : α → γ} {l : List α}
    {bs : List β} (same : ∀ a b, f a = some b → g b = h a) (collected : collect f l = some bs) :
    bs.map g = l.map h := by
  induction l generalizing bs with
  | nil =>
    cases collected
    rfl
  | cons a l ih =>
    simp only [collect] at collected
    split at collected
    next b bs' first rest =>
      cases collected
      rw [List.map_cons, List.map_cons, same a b first, ih rest]
    · cases collected

theorem eq_of_ids {rows o o' : List PaymentRow}
    (unique : ∀ r ∈ rows, ∀ s ∈ rows, r.id = s.id → r = s)
    (within : ∀ r ∈ o, r ∈ rows) (within' : ∀ r ∈ o', r ∈ rows)
    (ids : o.map PaymentRow.id = o'.map PaymentRow.id) : o = o' := by
  induction o generalizing o' with
  | nil =>
    have empty := ids.symm
    rw [List.map_nil, List.map_eq_nil_iff] at empty
    exact empty.symm
  | cons r o ih =>
    cases o' with
    | nil => cases ids
    | cons s o' =>
      obtain ⟨first, rest⟩ := List.cons.inj ids
      rw [unique r (within r List.mem_cons_self) s (within' s List.mem_cons_self) first,
        ih (fun u mem => within u (List.mem_cons_of_mem r mem))
          (fun u mem => within' u (List.mem_cons_of_mem s mem)) rest]

theorem unique_ids (L : Ledger) : ∀ r ∈ L.payments.rows, ∀ s ∈ L.payments.rows,
    r.id = s.id → r = s :=
  fun _ mem _ mem' same => L.payments.eq_of_clash mem mem' (.inl same)

/-- What is listed without a limit is in the order of the texts and in that of time. -/
theorem listed_both (works : Works d) (lists : Lists fp d L minAge (-1)) :
    (staleRows .sqlite d ((d.clock 0).minus minAge) L.payments.rows).Perm
        (due L ((d.clock 0).minus minAge)) ∧
      (staleRows .sqlite d ((d.clock 0).minus minAge) L.payments.rows).Pairwise fun r s =>
        r.updatedAt.nanoseconds ≤ s.updatedAt.nanoseconds := by
  obtain ⟨o, payments, perm, ordered, collected, answer⟩ := lists.listed
  have whole (l : List PaymentRow) : cut (-1) l = l := rfl
  rw [stale_answer works, whole] at answer
  rw [whole] at collected
  split at answer
  next payments' collected' =>
    cases answer
    have ids := (collect_map (g := fun p => Text.stored p.id) (fun row p parsed =>
      (readFrom_of_toPayment parsed).id.symm) collected').symm.trans
        (collect_map (fun row p parsed => (readFrom_of_toPayment parsed).id.symm) collected)
    have same := eq_of_ids (unique_ids L)
      (fun r mem => (List.mem_filter.mp ((staleRows_perm .sqlite _ _ _).mem_iff.mp mem)).1)
      (fun r mem => (List.mem_filter.mp (perm.mem_iff.mp mem)).1) ids
    rw [same]
    exact ⟨perm, ordered⟩
  · cases answer

theorem inOrder_of_lists (works : Works d) (lists : Lists fp d L minAge (-1)) :
    (∀ row ∈ L.payments.rows, candidate row = true →
      ¬ Misordered row.updatedAt ((d.clock 0).minus minAge) ∧
        ¬ Misordered ((d.clock 0).minus minAge) row.updatedAt) ∧
    ∀ row ∈ due L ((d.clock 0).minus minAge), ∀ row' ∈ due L ((d.clock 0).minus minAge),
      ¬ Misordered row.updatedAt row'.updatedAt := by
  obtain ⟨perm, ordered⟩ := listed_both works lists
  constructor
  · intro row mem held
    rw [← misordered_iff]
    have selected : stale .sqlite ((d.clock 0).minus minAge) row = true ↔
        row ∈ due L ((d.clock 0).minus minAge) := by
      rw [← perm.mem_iff, (staleRows_perm .sqlite _ _ _).mem_iff, List.mem_filter]
      simp [mem]
    rw [stale_eq, due, List.mem_filter, held] at selected
    simpa [mem] using selected
  · intro row mem row' mem' misordered
    have late := (before_iff _ _).mp misordered.text
    have early := misordered.lt
    obtain ⟨i, inside, rfl⟩ := List.mem_iff_getElem.mp (perm.mem_iff.mpr mem)
    obtain ⟨j, inside', rfl⟩ := List.mem_iff_getElem.mp (perm.mem_iff.mpr mem')
    rcases lt_trichotomy i j with less | same | more
    · exact absurd (List.pairwise_iff_getElem.mp staleRows_sorted i j inside inside' less)
        (not_le.mpr late)
    · subst same
      omega
    · have back := List.pairwise_iff_getElem.mp ordered j i inside' inside more
      omega

end Listing

section Finding

variable {fp : PaymentRequest → String} {d : Draw} {L : Ledger} {reference : String}
  {row row' : PaymentRow}

theorem newestFirst_sorted (rows : List PaymentRow) :
    (newestFirst .sqlite rows).Pairwise fun r s => rank s.createdAt ≤ rank r.createdAt :=
  insertionSort_ranked (fun row : PaymentRow => OrderDual.toDual (rank row.createdAt))
    (fun r s => by rw [Bool.not_eq_true', Backend.before, not_before_iff, OrderDual.toDual_le_toDual])
    rows

theorem mem_matches {rows : List PaymentRow} :
    row ∈ newestFirst .sqlite ((scan d rows).filter (named reference)) ↔
      row ∈ rows ∧ named reference row = true := by
  rw [newestFirst, List.mem_insertionSort, List.mem_filter, scan, List.mem_insertionSort]

theorem findByReference_none (absent : ∀ row ∈ L.payments.rows, named reference row = false) :
    findByReference d L reference = .ok none := by
  have none_ : newestFirst .sqlite ((scan d L.payments.rows).filter (named reference)) = [] := by
    rw [List.eq_nil_iff_forall_not_mem]
    intro row mem
    obtain ⟨inRows, matched⟩ := mem_matches.mp mem
    rw [absent row inRows] at matched
    cases matched
  rw [findByReference, none_]
  rfl

/-- The row whose text comes last is read. -/
theorem findByReference_some (mem : row ∈ L.payments.rows) (matched : named reference row = true) :
    ∃ h ∈ L.payments.rows, named reference h = true ∧
      (∀ other ∈ L.payments.rows, named reference other = true →
        rank other.createdAt ≤ rank h.createdAt) ∧
      findByReference d L reference = readPayment (some h) := by
  have inside := (mem_matches (d := d)).mpr ⟨mem, matched⟩
  obtain ⟨h, rest, is⟩ := List.exists_cons_of_ne_nil (List.ne_nil_of_mem inside)
  have sorted := newestFirst_sorted ((scan d L.payments.rows).filter (named reference))
  have head : h ∈ newestFirst .sqlite ((scan d L.payments.rows).filter (named reference)) := by
    rw [is]
    exact List.mem_cons_self
  obtain ⟨inRows, matched'⟩ := mem_matches.mp head
  refine ⟨h, inRows, matched', ?_, by rw [findByReference, is]; rfl⟩
  intro other mem' held
  have inside' := (mem_matches (d := d)).mpr ⟨mem', held⟩
  rw [is] at inside' sorted
  rcases List.mem_cons.mp inside' with rfl | later
  · exact le_rfl
  · exact (List.pairwise_cons.mp sorted).1 other later

/-- Of some rows, one was created last. -/
theorem exists_latest (mem : row ∈ L.payments.rows) (matched : named reference row = true) :
    ∃ row', Latest L reference row' := by
  have some_ : (L.payments.rows.filter (named reference)).toFinset.Nonempty :=
    ⟨row, List.mem_toFinset.mpr (List.mem_filter.mpr ⟨mem, matched⟩)⟩
  obtain ⟨m, inside, most⟩ := Finset.exists_max_image _ (fun r => r.createdAt.nanoseconds) some_
  obtain ⟨inRows, held⟩ := List.mem_filter.mp (List.mem_toFinset.mp inside)
  refine ⟨m, inRows, held, fun other mem' held' => ?_⟩
  exact most other (List.mem_toFinset.mpr (List.mem_filter.mpr ⟨mem', held'⟩))

theorem finds_of_inOrder (readable : ∀ row ∈ L.payments.rows, row.toPayment.isSome = true)
    (apart : ∀ row ∈ L.payments.rows, named reference row = true → ∀ row',
      Latest L reference row' → ¬ Misordered row.createdAt row'.createdAt) :
    Finds d L reference := by
  refine ⟨findByReference_none, fun row mem matched => ?_⟩
  obtain ⟨h, inRows, held, most, found⟩ := findByReference_some (d := d) mem matched
  obtain ⟨m, latest⟩ := exists_latest mem matched
  obtain ⟨p, parsed⟩ := Option.isSome_iff_exists.mp (readable h inRows)
  have last : m.createdAt.nanoseconds ≤ h.createdAt.nanoseconds := by
    by_contra earlier
    have back : ¬ Misordered m.createdAt h.createdAt := fun misordered => by
      have := misordered.lt
      omega
    have before := (before_iff_lt (apart h inRows held m latest) back).mpr (by omega)
    exact absurd (most m latest.mem latest.named) (not_le.mpr ((before_iff _ _).mp before))
  refine ⟨h, p, ⟨inRows, held, fun other mem' held' => ?_⟩, parsed, ?_⟩
  · exact (latest.last other mem' held').trans last
  · rw [found, readPayment, parsed]

theorem inOrder_of_finds (finds : Finds d L reference) (mem : row ∈ L.payments.rows)
    (matched : named reference row = true) (latest : Latest L reference row') :
    ¬ Misordered row.createdAt row'.createdAt := by
  intro misordered
  obtain ⟨h, inRows, held, most, found⟩ := findByReference_some (d := d) mem matched
  obtain ⟨r, p, first, parsed, answer⟩ := finds.present row mem matched
  have same : h.createdAt = r.createdAt := by
    rw [found, readPayment] at answer
    split at answer
    next q parsed' =>
      cases answer
      exact (readFrom_of_toPayment parsed').createdAt.trans
        (readFrom_of_toPayment parsed).createdAt.symm
    · cases answer
  have up := first.last row' latest.mem latest.named
  have down := latest.last h inRows held
  have instant : h.createdAt = row'.createdAt := by
    have nanoseconds : h.createdAt.nanoseconds = row'.createdAt.nanoseconds := by
      rw [same] at down ⊢
      omega
    calc h.createdAt = ⟨h.createdAt.nanoseconds⟩ := rfl
      _ = row'.createdAt := by rw [nanoseconds]
  have text := (before_iff _ _).mp misordered.text
  have top := most row mem matched
  rw [instant] at top
  exact absurd top (not_le.mpr text)

/-- Where the reference is no payment's id, the store's operation is this search. -/
theorem find_answer (works : Works d)
    (unread : ∀ row ∈ L.payments.rows, ∀ id, row.id = .stored id → id.display ≠ reference) :
    (execOp fp .sqlite d L (.findPaymentByReference (.corrupt reference))).2 =
      findByReference d L reference := by
  have matching : (scan d L.payments.rows).filter (refers (.corrupt reference)) =
      (scan d L.payments.rows).filter (named reference) := by
    apply List.filter_congr
    intro row mem
    have inRows := (List.mem_insertionSort _).mp mem
    unfold refers named
    cases is : row.id with
    | stored id =>
      have apart : (id.display == reference) = false := by simpa using unread row inRows id is
      simp [idText, apart]
    | corrupt raw =>
      have text : ((Text.corrupt raw : Text PaymentId) == .corrupt reference) =
          (raw == reference) := by
        rw [Bool.eq_iff_iff]
        simp
      simp [idText, Bool.or_assoc, text]
  simp only [execOp, program, PaymentStore.findPaymentByReference, Sql.selectByReference,
    perform_bind, Suspended.serial_call, exec, Stmt.run, works.1, Session.on, matching]
  rfl

end Finding

section Selections

variable {fp : PaymentRequest → String} {d : Draw} {L : Ledger} {minAge : ℤ}

theorem selection_chronological_iff (works : Works d)
    (readable : ∀ row ∈ L.payments.rows, row.toPayment.isSome = true) :
    (∀ limit, Lists fp d L minAge limit) ∧ (∀ reference, Finds d L reference) ↔
      InOrder L ((d.clock 0).minus minAge) := by
  constructor
  · rintro ⟨lists, finds⟩
    obtain ⟨atCutoff, amongDue⟩ := inOrder_of_lists works (lists (-1))
    exact ⟨atCutoff, amongDue, fun reference row mem matched row' latest =>
      inOrder_of_finds (finds reference) mem matched latest⟩
  · intro inOrder
    exact ⟨fun limit => lists_of_inOrder works readable inOrder,
      fun reference => finds_of_inOrder readable (inOrder.byCreation reference)⟩

/-- A payment last written on a whole second. -/
def waiting : PaymentRow where
  id := .stored ⟨1⟩
  idempotencyKey := .stored .order
  requestFingerprint := ""
  provider := .stored Providers.ProviderId.stripe
  providerReference := some "cs_1"
  status := .stored .pending
  amountMinorUnits := 100
  currency := .stored .usd
  merchantReference := none
  nextActionJson := none
  userId := none
  apiKeyId := none
  environment := "test"
  createdAt := ⟨1725610000000000000⟩
  updatedAt := ⟨1725610000000000000⟩

def waitingLedger : Ledger := ⟨⟨[waiting], List.pairwise_singleton _ _⟩, Table.empty, Table.empty⟩

/-- A tenth of a second later. -/
def tenthLater : Draw := ⟨fun _ => ⟨1725610000100000000⟩, ⟨0⟩, fun _ => 0, fun _ => false⟩

theorem waiting_readable : ∀ row ∈ waitingLedger.payments.rows, row.toPayment.isSome = true := by
  decide +kernel

theorem selection_chronological_waiting :
    (∀ limit, Lists (fun _ => "") tenthLater waitingLedger 0 limit) ∧
      (∀ reference, Finds tenthLater waitingLedger reference) ↔
      InOrder waitingLedger ⟨1725610000100000000⟩ :=
  selection_chronological_iff ⟨rfl, rfl, rfl⟩ waiting_readable

/-- The payment is older than the cutoff, and is not listed. -/
theorem waiting_overlooked : ¬ ∀ (fp : PaymentRequest → String) (d : Draw) (L : Ledger)
    (minAge : ℤ),
    Works d → (∀ row ∈ L.payments.rows, row.toPayment.isSome = true) →
    (∀ limit, Lists fp d L minAge limit) ∧ ∀ reference, Finds d L reference := by
  intro claimed
  have lists := (claimed (fun _ => "") tenthLater waitingLedger 0 ⟨rfl, rfl, rfl⟩
    waiting_readable).1 (-1)
  have apart := (inOrder_of_lists ⟨rfl, rfl, rfl⟩ lists).1 waiting List.mem_cons_self rfl
  exact apart.1 ⟨rfl, ⟨['1'], by decide +kernel⟩, by decide +kernel⟩

end Selections

end OpenWrapper.StaleSelection
