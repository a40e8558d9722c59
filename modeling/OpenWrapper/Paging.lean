import Mathlib.Data.List.Sort
import Mathlib.Order.Defs.LinearOrder

/-! # Reading a list page by page

A page holds the first items of those behind a cursor, in the order of their
rank; its last item is the next cursor. Items of equal rank are in no order of
their own. The whole list is read just where no page ends between two of them. -/

set_option autoImplicit false

namespace OpenWrapper.Paging

variable {α κ : Type} [LinearOrder κ] (rank : α → κ)

/-- What is ranked behind the cursor. -/
def behind (l : List α) : Option α → List α
  | none => l
  | some a => l.filter fun b => decide (rank b < rank a)

/-- The first of a list, from the highest rank on. -/
structure Top (n : ℕ) (l p : List α) : Prop where
  ordered : ∃ o : List α, o.Perm l ∧ (o.Pairwise fun a b => rank b ≤ rank a) ∧ p = o.take n

/-- The pages behind a cursor, up to one that is not full; the fuel bounds their
number. -/
def follow (page : ℕ → Option α → List α × Bool) : ℕ → ℕ → Option α → Option (List α)
  | 0, _, _ => none
  | fuel + 1, q, cursor =>
    match (page q cursor).2, (page q cursor).1.getLast? with
    | true, some last => (follow page fuel (q + 1) (some last)).map ((page q cursor).1 ++ ·)
    | _, _ => some (page q cursor).1

/-- The ranks from the highest on. -/
def ranks (l : List α) : List κ := (l.map rank).mergeSort fun a b => decide (b ≤ a)

/-- No full page ends between two items of one rank. -/
def Clean (n : ℕ) (l : List α) : Prop :=
  ∀ k, 1 ≤ k → k * n < l.length → (ranks rank l)[k * n - 1]? ≠ (ranks rank l)[k * n]?

section Ranks

variable {rank} {l o : List α} {n : ℕ}

theorem ranks_eq (perm : o.Perm l) (ordered : o.Pairwise fun a b => rank b ≤ rank a) :
    ranks rank l = o.map rank := by
  have sorted : (ranks rank l).Pairwise fun a b => b ≤ a := by
    have by_ := List.pairwise_mergeSort
      (fun (a b c : κ) (one : decide (b ≤ a) = true) (two : decide (c ≤ b) = true) => by
        rw [decide_eq_true_eq] at one two ⊢
        exact le_trans two one)
      (fun a b => by
        rw [Bool.or_eq_true, decide_eq_true_eq, decide_eq_true_eq]
        exact le_total b a) (l.map rank)
    exact by_.imp of_decide_eq_true
  have same : (ranks rank l).Perm (o.map rank) :=
    (List.mergeSort_perm _ _).trans (perm.map rank).symm
  exact same.eq_of_pairwise (fun a b _ _ one two => le_antisymm two one) sorted
    (List.pairwise_map.mpr ordered)

variable {a last : α} {p : List α}

/-- Past a boundary that is clean, the pages are those of the rest. -/
theorem clean_drop (perm : o.Perm l) (ordered : o.Pairwise fun a b => rank b ≤ rank a)
    (some_ : 1 ≤ n) (last_ : o[n - 1]? = some last) (apart : ∀ b ∈ o.drop n, rank b < rank last)
    {r : List α} (rest : (o.drop n).Perm r) : Clean rank n l ↔ Clean rank n r := by
  have whole := ranks_eq perm ordered
  have part := ranks_eq rest (ordered.sublist (List.drop_sublist n o))
  have lengths : l.length = o.length := perm.length_eq.symm
  have lengths' : r.length = o.length - n := by rw [← rest.length_eq, List.length_drop]
  unfold Clean
  rw [whole, part]
  simp only [List.getElem?_map, List.getElem?_drop]
  constructor
  · intro clean k least within
    have next := clean (k + 1) (by omega) (by rw [Nat.succ_mul]; omega)
    have size : 1 ≤ k * n := Nat.mul_pos least some_
    rw [Nat.succ_mul] at next
    rwa [show n + (k * n - 1) = k * n + n - 1 by omega, Nat.add_comm n (k * n)]
  · intro clean k least within
    by_cases first : k = 1
    · subst first
      rw [Nat.one_mul] at within ⊢
      have inside : n < o.length := by omega
      have mem : o[n] ∈ o.drop n := List.mem_drop_iff_getElem.mpr ⟨0, by omega, by simp⟩
      have below := apart _ mem
      rw [last_, List.getElem?_eq_getElem inside]
      intro same
      exact absurd (Option.some.inj same).symm below.ne
    · obtain ⟨j, rfl⟩ : ∃ j, k = j + 1 := ⟨k - 1, by omega⟩
      have size : 1 ≤ j * n := Nat.mul_pos (by omega) some_
      rw [Nat.succ_mul] at within ⊢
      have next := clean j (by omega) (by omega)
      rwa [show n + (j * n - 1) = j * n + n - 1 by omega, Nat.add_comm n (j * n)] at next

/-- A boundary within one rank is not clean. -/
theorem not_clean (perm : o.Perm l) (ordered : o.Pairwise fun a b => rank b ≤ rank a)
    (some_ : 1 ≤ n) (last_ : o[n - 1]? = some last) {b : α} (mem : b ∈ o.drop n)
    (tied : rank last ≤ rank b) : ¬ Clean rank n l := by
  intro clean
  obtain ⟨i, inside, rfl⟩ := List.mem_drop_iff_getElem.mp mem
  have first : n < o.length := by omega
  obtain ⟨inside', is⟩ := List.getElem?_eq_some_iff.mp last_
  have step := clean 1 le_rfl (by rw [← perm.length_eq]; omega)
  have up : rank o[n] ≤ rank last := by
    rw [← is]
    exact List.pairwise_iff_getElem.mp ordered _ _ inside' first (by omega)
  have down : rank last ≤ rank o[n] := by
    by_cases here : i = 0
    · subst here
      simpa using tied
    · exact tied.trans (List.pairwise_iff_getElem.mp ordered n (n + i) first (by omega) (by omega))
  rw [ranks_eq perm ordered, Nat.one_mul, List.getElem?_map, List.getElem?_map, last_,
    List.getElem?_eq_getElem first] at step
  exact step (congrArg some (le_antisymm down up))

end Ranks

section Following

variable {rank} {page : ℕ → Option α → List α × Bool} {n : ℕ} {l m o p : List α} {last : α}

/-- A cursor the pages of the list can give. -/
def Given (l : List α) (cursor : Option α) : Prop := ∀ a, cursor = some a → a ∈ l

/-- Pages of at most `n` items behind each cursor, full where there may be more. -/
structure Pages (rank : α → κ) (n : ℕ) (l : List α) (page : ℕ → Option α → List α × Bool) :
    Prop where
  top (q : ℕ) (cursor : Option α) : Given l cursor →
    Top rank n (behind rank l cursor) (page q cursor).1
  more (q : ℕ) (cursor : Option α) : (page q cursor).2 = decide (n ≤ (page q cursor).1.length)

theorem mem_behind {cursor : Option α} {a : α} (mem : a ∈ behind rank l cursor) : a ∈ l := by
  cases cursor with
  | none => exact mem
  | some c => exact (List.mem_filter.mp mem).1

/-- The next cursor stands behind this one. -/
theorem behind_last {cursor : Option α} (mem : last ∈ behind rank l cursor) :
    behind rank l (some last) =
      (behind rank l cursor).filter fun b => decide (rank b < rank last) := by
  cases cursor with
  | none => rfl
  | some c =>
    have below : rank last < rank c := of_decide_eq_true (List.mem_filter.mp mem).2
    unfold behind
    rw [List.filter_filter]
    apply List.filter_congr
    intro b _
    by_cases first : rank b < rank last
    · simp [first, first.trans below]
    · simp [first]

/-- What is ranked below the last item of a page is among what comes after it. -/
theorem rest_perm (perm : o.Perm m) (ordered : o.Pairwise fun a b => rank b ≤ rank a)
    (last_ : o[n - 1]? = some last) (some_ : 1 ≤ n)
    (apart : ∀ b ∈ o.drop n, rank b < rank last) :
    (o.drop n).Perm (m.filter fun b => decide (rank b < rank last)) := by
  have first : (o.take n).filter (fun b => decide (rank b < rank last)) = [] := by
    rw [List.filter_eq_nil_iff]
    intro b mem
    rw [decide_eq_true_eq, not_lt]
    obtain ⟨i, inside, rfl⟩ := List.mem_take_iff_getElem.mp mem
    obtain ⟨inside', is⟩ := List.getElem?_eq_some_iff.mp last_
    by_cases here : i = n - 1
    · subst here
      rw [is]
    · rw [← is]
      exact List.pairwise_iff_getElem.mp ordered _ _ (by omega) inside' (by omega)
  have others : (o.drop n).filter (fun b => decide (rank b < rank last)) = o.drop n := by
    rw [List.filter_eq_self]
    intro b mem
    exact decide_eq_true (apart b mem)
  have whole : o.filter (fun b => decide (rank b < rank last)) = o.drop n := by
    rw [← List.take_append_drop n o, List.filter_append, first, others, List.nil_append,
      List.take_append_drop]
  rw [← whole]
  exact perm.filter _

/-- What the pages behind a cursor give in the end. -/
structure Read (rank : α → κ) (n : ℕ) (m items : List α) : Prop where
  ordered : items.Pairwise fun a b => rank b ≤ rank a
  within : ∀ a ∈ items, a ∈ m
  whole : items.Perm m ↔ Clean rank n m

theorem read_short (top : Top rank n m p) (short : m.length < n) : Read rank n m p := by
  obtain ⟨o, perm, ordered, rfl⟩ := top.ordered
  have all : o.take n = o := List.take_of_length_le (by rw [perm.length_eq]; omega)
  rw [all]
  refine ⟨ordered, fun a mem => perm.mem_iff.mp mem, iff_of_true perm ?_⟩
  intro k least within
  have size := Nat.le_mul_of_pos_left n least
  omega

/-- One full page, and what is read behind its last item. -/
theorem read_full (perm : o.Perm m) (ordered : o.Pairwise fun a b => rank b ≤ rank a)
    (some_ : 1 ≤ n) (last_ : o[n - 1]? = some last) {items : List α}
    (rest : Read rank n (m.filter fun b => decide (rank b < rank last)) items) :
    Read rank n m (o.take n ++ items) := by
  obtain ⟨inside, is⟩ := List.getElem?_eq_some_iff.mp last_
  have above (a : α) (mem : a ∈ o.take n) : rank last ≤ rank a := by
    obtain ⟨i, inside', rfl⟩ := List.mem_take_iff_getElem.mp mem
    by_cases here : i = n - 1
    · subst here
      rw [is]
    · rw [← is]
      exact List.pairwise_iff_getElem.mp ordered _ _ (by omega) inside (by omega)
  have below (b : α) (mem : b ∈ items) : b ∈ m ∧ rank b < rank last := by
    have found := List.mem_filter.mp (rest.within b mem)
    exact ⟨found.1, of_decide_eq_true found.2⟩
  refine ⟨?_, ?_, ?_⟩
  · rw [List.pairwise_append]
    refine ⟨ordered.sublist (List.take_sublist n o), rest.ordered, ?_⟩
    intro a mem b mem'
    exact (below b mem').2.le.trans (above a mem)
  · intro a mem
    rcases List.mem_append.mp mem with first | later
    · exact perm.mem_iff.mp (List.mem_of_mem_take first)
    · exact (below a later).1
  · have split : (o.take n ++ items).Perm m ↔ items.Perm (o.drop n) := by
      have cut : m.Perm (o.take n ++ o.drop n) := by
        rw [List.take_append_drop]
        exact perm.symm
      rw [cut.congr_right, List.perm_append_left_iff]
    rw [split]
    by_cases apart : ∀ b ∈ o.drop n, rank b < rank last
    · have next := rest_perm perm ordered last_ some_ apart
      rw [clean_drop perm ordered some_ last_ apart next, next.congr_right]
      exact rest.whole
    · push Not at apart
      obtain ⟨b, mem, tied⟩ := apart
      apply iff_of_false _ (not_clean perm ordered some_ last_ mem tied)
      intro same
      exact absurd (below b (same.mem_iff.mpr mem)).2 (not_lt.mpr tied)

/-- The pages end, and read the whole list just where their boundaries are clean. -/
theorem follow_reads (pages : Pages rank n l page) (some_ : 1 ≤ n) (fuel q : ℕ)
    (cursor : Option α) (given : Given l cursor) (enough : (behind rank l cursor).length < fuel) :
    ∃ items, follow page fuel q cursor = some items ∧ Read rank n (behind rank l cursor) items := by
  induction fuel generalizing q cursor with
  | zero => omega
  | succ fuel ih =>
    have top := pages.top q cursor given
    have more := pages.more q cursor
    by_cases short : (behind rank l cursor).length < n
    · refine ⟨_, ?_, read_short top short⟩
      obtain ⟨o, perm, -, is⟩ := top.ordered
      have small : ¬ n ≤ (page q cursor).1.length := by
        rw [is, List.length_take, perm.length_eq]
        omega
      rw [follow, more, decide_eq_false small]
    · obtain ⟨o, perm, ordered, is⟩ := top.ordered
      have lengths := perm.length_eq
      have size : (o.take n).length = n := by
        rw [List.length_take, lengths]
        omega
      obtain ⟨last, last_⟩ : ∃ last, o[n - 1]? = some last :=
        ⟨_, List.getElem?_eq_getElem (by omega)⟩
      have final : (o.take n).getLast? = some last := by
        rw [List.getLast?_eq_getElem?, size, List.getElem?_take_of_lt (by omega), last_]
      have mem : last ∈ behind rank l cursor := perm.mem_iff.mp (List.mem_of_getElem? last_)
      have fewer : (behind rank l (some last)).length < (behind rank l cursor).length := by
        rw [behind_last mem]
        exact List.length_filter_lt_length_iff_exists.mpr ⟨last, mem, by simp⟩
      have given' : Given l (some last) := by
        intro a is
        cases is
        exact mem_behind mem
      obtain ⟨items, next, rest⟩ := ih (q + 1) (some last) given' (by omega)
      rw [behind_last mem] at rest
      refine ⟨o.take n ++ items, ?_, read_full perm ordered some_ last_ rest⟩
      rw [follow, more, is, size, decide_eq_true le_rfl, final]
      show (follow page fuel (q + 1) (some last)).map (o.take n ++ ·) = _
      rw [next]
      rfl

end Following

end OpenWrapper.Paging
