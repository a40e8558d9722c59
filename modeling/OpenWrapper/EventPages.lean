import OpenWrapper.CreationAmbiguity
import OpenWrapper.Paging

/-! # Pages of events

`list_events` orders by the second of creation and puts its cursor on the
second of the last event. Events of one second are in no order, and those that
a page leaves are skipped by the next. -/

set_option autoImplicit false

namespace OpenWrapper.EventPages
open OpenWrapper.Headers OpenWrapper.Effects OpenWrapper.Handlers OpenWrapper.Suspended
open OpenWrapper.CreationAmbiguity
open OpenWrapper.Paging

/-- The table `events`; the id is its primary key. -/
structure EventTable where
  rows : List EventRecord
  primaryKey : (rows.map EventRecord.id).Nodup

/-- `user_id = ?`, where a filter is given. -/
def ofUser (userId : Option String) (row : EventRecord) : Bool :=
  match userId with
  | none => true
  | some uid => row.userId == some uid

/-- `created_at < (SELECT created_at FROM events WHERE id = ?)`, where a cursor
is given; a comparison with no row is not true. -/
def createdBefore (rows : List EventRecord) (startingAfter : Option String) (row : EventRecord) :
    Bool :=
  match startingAfter with
  | none => true
  | some after =>
    match rows.find? fun row => row.id == after with
    | none => false
    | some cursor => decide (row.createdAt < cursor.createdAt)

/-- `ORDER BY created_at DESC`; the order among equals is that of the visit. -/
def newestFirst (visit : EventRecord → ℕ) (rows : List EventRecord) : List EventRecord :=
  (rows.insertionSort fun r s => visit r ≤ visit s).insertionSort fun r s =>
    s.createdAt ≤ r.createdAt

/-- `list_events` of either store: the statement is the same. -/
def EventTable.listEvents (t : EventTable) (visit : EventRecord → ℕ) (userId : Option String)
    (limit : ℤ) (startingAfter : Option String) : List EventRecord :=
  (newestFirst visit (t.rows.filter fun row =>
    ofUser userId row && createdBefore t.rows startingAfter row)).take (max 1 (min 100 limit)).toNat

/-- The store answers; the rows are visited anew for each request. -/
def served (t : EventTable) (visit : EventRecord → ℕ) (_ : ℕ) (s : Unit) :
    (e : Effect) → Unit × e.Response
  | .listEvents userId limit startingAfter =>
    (s, .ok (t.listEvents visit userId limit startingAfter))
  | e => (s, idle e)

def readPage : Reply → List EventRecord × Bool
  | .http _ (.events data hasMore) => (data, hasMore)
  | _ => ([], false)

/-- The page of a request, behind the event that the client has last. -/
def requestPage (t : EventTable) (visit : ℕ → EventRecord → ℕ) (headers : HeaderMap) (limit : ℤ)
    (q : ℕ) (last : Option EventRecord) : List EventRecord × Bool :=
  readPage (serial (served t (visit q)) 0 ()
    (listEvents headers ⟨some limit, last.map EventRecord.id⟩)).2

def matching (t : EventTable) (headers : HeaderMap) : List EventRecord :=
  t.rows.filter (ofUser (headers.getStr "x-openwrapper-user-id"))

/-- The client has every matching event once, the newest first. -/
structure Complete (t : EventTable) (visit : ℕ → EventRecord → ℕ) (headers : HeaderMap)
    (limit : ℤ) : Prop where
  followed : ∃ items, follow (requestPage t visit headers limit) (t.rows.length + 1) 0 none =
    some items ∧ items.Perm (matching t headers) ∧
    items.Pairwise fun a b => b.createdAt ≤ a.createdAt

section Requests

variable {t : EventTable} {visit : ℕ → EventRecord → ℕ} {headers : HeaderMap} {limit : ℤ}

theorem find_id {rows : List EventRecord} (nodup : (rows.map EventRecord.id).Nodup)
    {a : EventRecord} (mem : a ∈ rows) : rows.find? (fun row => row.id == a.id) = some a := by
  induction rows with
  | nil => cases mem
  | cons row rest ih =>
    obtain ⟨fresh, nodup'⟩ := List.nodup_cons.mp nodup
    rcases List.mem_cons.mp mem with rfl | later
    · exact List.find?_cons_of_pos (by simp)
    · have apart : row.id ≠ a.id := fun same => fresh (same ▸ List.mem_map_of_mem later)
      rw [List.find?_cons_of_neg (by simpa using apart)]
      exact ih nodup' later

theorem newestFirst_perm (visit : EventRecord → ℕ) (rows : List EventRecord) :
    (newestFirst visit rows).Perm rows :=
  (List.perm_insertionSort _ _).trans (List.perm_insertionSort _ _)

theorem newestFirst_ordered (visit : EventRecord → ℕ) (rows : List EventRecord) :
    (newestFirst visit rows).Pairwise fun a b => b.createdAt ≤ a.createdAt := by
  have total : Std.Total fun r s : EventRecord => s.createdAt ≤ r.createdAt :=
    ⟨fun r s => le_total s.createdAt r.createdAt⟩
  have trans : IsTrans EventRecord fun r s => s.createdAt ≤ r.createdAt :=
    ⟨fun r s u one two => le_trans two one⟩
  exact List.pairwise_insertionSort _ _

theorem filter_behind {last : Option EventRecord} (given : Given t.rows last)
    (userId : Option String) : (t.rows.filter fun row =>
        ofUser userId row && createdBefore t.rows (last.map EventRecord.id) row) =
      behind EventRecord.createdAt (t.rows.filter (ofUser userId)) last := by
  cases last with
  | none => simp [behind, createdBefore]
  | some a =>
    have found := find_id t.primaryKey (given a rfl)
    show _ = (t.rows.filter (ofUser userId)).filter fun b => decide (b.createdAt < a.createdAt)
    rw [List.filter_filter]
    apply List.filter_congr
    intro row _
    simp only [createdBefore, Option.map_some, found]
    exact Bool.and_comm _ _

theorem requestPage_eq (q : ℕ) (last : Option EventRecord) :
    requestPage t visit headers limit q last =
    let data := t.listEvents (visit q) (headers.getStr "x-openwrapper-user-id")
      (max 1 (min 100 limit)) (last.map EventRecord.id)
    (data, decide (max 1 (min 100 limit) ≤ data.length)) := rfl

theorem requestPage_pages {n : ℕ} (least : 1 ≤ n) (most : n ≤ 100) :
    Pages EventRecord.createdAt n (matching t headers) (requestPage t visit headers n) := by
  have clamped : max 1 (min 100 (n : ℤ)) = n := by omega
  constructor
  · intro q last given
    have given' : Given t.rows last := fun a is => (List.mem_filter.mp (given a is)).1
    rw [requestPage_eq, clamped]
    refine ⟨newestFirst (visit q) (behind EventRecord.createdAt (matching t headers) last),
      newestFirst_perm _ _, newestFirst_ordered _ _, ?_⟩
    show EventTable.listEvents _ _ _ _ _ = _
    rw [EventTable.listEvents, clamped, filter_behind given', Int.toNat_natCast]
    rfl
  · intro q last
    rw [requestPage_eq, clamped]
    simp

theorem followed (t : EventTable) (visit : ℕ → EventRecord → ℕ) (headers : HeaderMap) {n : ℕ}
    (least : 1 ≤ n) (most : n ≤ 100) : ∃ items,
    follow (requestPage t visit headers n) (t.rows.length + 1) 0 none = some items ∧
      Read EventRecord.createdAt n (matching t headers) items := by
  have fewer : (matching t headers).length ≤ t.rows.length := List.length_filter_le _ _
  exact follow_reads (requestPage_pages least most) least _ 0 none (fun a is => by cases is)
    (by show (matching t headers).length < _; omega)

theorem clean_of_complete {n : ℕ} (least : 1 ≤ n) (most : n ≤ 100)
    (complete : Complete t visit headers n) :
    Clean EventRecord.createdAt n (matching t headers) := by
  obtain ⟨items, ended, read⟩ := followed t visit headers least most
  obtain ⟨items', ended', whole, -⟩ := complete.followed
  cases ended.symm.trans ended'
  exact read.whole.mp whole

/-- However the rows are visited, the pages are complete just where no full one
ends within a second. -/
theorem event_pages_complete_iff (t : EventTable) (visit : ℕ → EventRecord → ℕ)
    (headers : HeaderMap) {n : ℕ} (least : 1 ≤ n) (most : n ≤ 100) :
    Complete t visit headers n ↔ Clean EventRecord.createdAt n (matching t headers) := by
  constructor
  · exact clean_of_complete least most
  · intro clean
    obtain ⟨items, ended, read⟩ := followed t visit headers least most
    exact ⟨items, ended, read.whole.mpr clean, read.ordered⟩

/-- Two events of one second. -/
def oneSecond : EventTable where
  rows := [⟨"evt_1", none, "payment.created", "pay_1", .other "null", 1725610000⟩,
    ⟨"evt_2", none, "payment.created", "pay_2", .other "null", 1725610000⟩]
  primaryKey := by decide

theorem event_pages_complete_one_second : Complete oneSecond (fun _ _ => 0) ⟨[]⟩ 2 ↔
    Clean EventRecord.createdAt 2 (matching oneSecond ⟨[]⟩) :=
  event_pages_complete_iff oneSecond (fun _ _ => 0) ⟨[]⟩ (by decide) (by decide)

/-- In pages of one, the second of them is never seen. -/
theorem event_skipped : ¬ ∀ (t : EventTable) (visit : ℕ → EventRecord → ℕ) (headers : HeaderMap)
    (n : ℕ), 1 ≤ n → n ≤ 100 → Complete t visit headers n := by
  intro claimed
  have complete := claimed oneSecond (fun _ _ => 0) ⟨[]⟩ 1 le_rfl (by decide)
  have clean := clean_of_complete le_rfl (by decide) complete 1 le_rfl (by decide)
  rw [ranks_eq (List.Perm.refl _) (by decide)] at clean
  exact absurd rfl clean

end Requests

end OpenWrapper.EventPages
