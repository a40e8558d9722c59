import Mathlib.Algebra.BigOperators.Ring.List
import Mathlib.Algebra.Order.BigOperators.Group.List
import Mathlib.Algebra.Order.Floor.Div
import Mathlib.Algebra.Order.Group.Nat
import Mathlib.Data.List.Sort

/-! # Largest-remainder apportionment

An amount is divided among weights. Every weight has the floor of its exact
share, and the units the floors leave over go, one each, to the largest
remainders, the lower index first. There is exactly one such allocation. -/

set_option autoImplicit false

namespace OpenWrapper.Apportionment

section Shares

variable (amount : ℕ) (weights : List ℕ)

def floorShare (w : ℕ) : ℕ := amount * w / weights.sum

def remainder (w : ℕ) : ℕ := amount * w % weights.sum

/-- The units the floors leave over. -/
def leftover : ℕ := amount - (weights.map (floorShare amount weights)).sum

structure IsAllocation (parts : List ℕ) : Prop where
  length : parts.length = weights.length
  total : parts.sum = amount
  near : ∀ (i w p : ℕ), weights[i]? = some w → parts[i]? = some p →
    p = amount * w / weights.sum ∨ p = amount * w ⌈/⌉ weights.sum
  largest : ∀ (i j v w p q : ℕ), weights[i]? = some v → weights[j]? = some w →
    parts[i]? = some p → parts[j]? = some q →
    amount * v / weights.sum < p → q = amount * w / weights.sum →
    remainder amount weights w < remainder amount weights v ∨
      remainder amount weights w = remainder amount weights v ∧ i < j

end Shares

variable {amount : ℕ} {weights : List ℕ}

/-- Quotients and remainders make up the weighted amount again. -/
theorem sum_shares (amount W : ℕ) (ws : List ℕ) :
    amount * ws.sum =
      W * (ws.map fun w => amount * w / W).sum + (ws.map fun w => amount * w % W).sum := by
  induction ws with
  | nil => rfl
  | cons w ws ih =>
    have divided := Nat.div_add_mod (amount * w) W
    rw [List.sum_cons, Nat.mul_add, ih, List.map_cons, List.map_cons, List.sum_cons,
      List.sum_cons, Nat.mul_add]
    omega

theorem sum_floors_le (amount : ℕ) (positive : 0 < weights.sum) :
    (weights.map (floorShare amount weights)).sum ≤ amount := by
  have shares := sum_shares amount weights.sum weights
  have bound : weights.sum * (weights.map (floorShare amount weights)).sum ≤
      weights.sum * amount := by
    rw [Nat.mul_comm _ amount, shares]
    exact Nat.le_add_right _ _
  exact Nat.le_of_mul_le_mul_left bound positive

/-- The remainders are what is left over, in units of the weights' sum. -/
theorem sum_remainders (positive : 0 < weights.sum) :
    (weights.map (remainder amount weights)).sum = weights.sum * leftover amount weights := by
  have shares := sum_shares amount weights.sum weights
  have floors := Nat.mul_le_mul_left weights.sum (sum_floors_le amount positive)
  rw [leftover, Nat.mul_sub]
  have swap := Nat.mul_comm weights.sum amount
  unfold floorShare at floors ⊢
  unfold remainder
  omega

theorem ceil_of_remainder {w : ℕ} (positive : 0 < weights.sum)
    (some_ : remainder amount weights w ≠ 0) :
    amount * w ⌈/⌉ weights.sum = amount * w / weights.sum + 1 := by
  have divided := Nat.div_add_mod (amount * w) weights.sum
  have small := Nat.mod_lt (amount * w) positive
  unfold remainder at some_
  apply le_antisymm
  · rw [ceilDiv_le_iff_le_mul positive]
    rw [Nat.mul_add]
    omega
  · rw [Nat.succ_le_iff, ← not_le, ceilDiv_le_iff_le_mul positive]
    omega

theorem ceil_of_exact {w : ℕ} (positive : 0 < weights.sum)
    (none_ : remainder amount weights w = 0) :
    amount * w ⌈/⌉ weights.sum = amount * w / weights.sum := by
  have divided := Nat.div_add_mod (amount * w) weights.sum
  unfold remainder at none_
  apply le_antisymm
  · rw [ceilDiv_le_iff_le_mul positive]
    omega
  · have bound := (ceilDiv_le_iff_le_mul positive).mp
      (le_refl (amount * w ⌈/⌉ weights.sum))
    exact Nat.div_le_of_le_mul bound

section Bumps

/-! The floors, with one more unit at the indices of a list. -/

def bumped (amount : ℕ) (weights : List ℕ) (bumps : List ℕ) : List ℕ :=
  weights.mapIdx fun i w => floorShare amount weights w + if i ∈ bumps then 1 else 0

/-- The index comes before the other one when the units are handed out. -/
def Precedes (amount : ℕ) (weights : List ℕ) (i j : ℕ) : Prop :=
  ∀ v w, weights[i]? = some v → weights[j]? = some w →
    remainder amount weights w < remainder amount weights v ∨
      remainder amount weights w = remainder amount weights v ∧ i < j

variable {bumps : List ℕ}

theorem bumped_length : (bumped amount weights bumps).length = weights.length := by
  simp [bumped]

theorem bumped_getElem? {i w : ℕ} (found : weights[i]? = some w) :
    (bumped amount weights bumps)[i]? =
      some (floorShare amount weights w + if i ∈ bumps then 1 else 0) := by
  simp [bumped, found]

theorem sum_mapIdx_add (f : ℕ → ℕ) (g : ℕ → ℕ) (ws : List ℕ) :
    (ws.mapIdx fun i w => f w + g i).sum =
      (ws.map f).sum + ((List.range ws.length).map g).sum := by
  induction ws using List.reverseRecOn with
  | nil => rfl
  | append_singleton ws w ih =>
    simp only [List.mapIdx_append, List.sum_append, ih, List.map_append, List.length_append,
      List.length_singleton, List.range_succ, List.mapIdx_cons, List.mapIdx_nil, List.sum_cons,
      List.sum_nil, List.map_cons, List.map_nil, Nat.zero_add]
    omega

theorem count_bumps (once : bumps.Nodup) {n : ℕ} (inside : ∀ i ∈ bumps, i < n) :
    ((List.range n).map fun i => if i ∈ bumps then 1 else 0).sum = bumps.length := by
  have counted : ((List.range n).map fun i => if i ∈ bumps then 1 else 0).sum =
      ((List.range n).filter fun i => decide (i ∈ bumps)).length := by
    induction List.range n with
    | nil => rfl
    | cons i is ih =>
      by_cases here : i ∈ bumps
      · simp [here, ih, Nat.add_comm]
      · simp [here, ih]
  rw [counted]
  apply List.Perm.length_eq
  apply (List.perm_ext_iff_of_nodup (List.nodup_range.filter _) once).mpr
  intro i
  have reached := inside i
  simp only [List.mem_filter, List.mem_range, decide_eq_true_eq]
  exact ⟨fun both => both.2, fun mem => ⟨reached mem, mem⟩⟩

theorem sum_bumped (once : bumps.Nodup) (inside : ∀ i ∈ bumps, i < weights.length) :
    (bumped amount weights bumps).sum =
      (weights.map (floorShare amount weights)).sum + bumps.length := by
  rw [bumped, sum_mapIdx_add (floorShare amount weights) (fun i => if i ∈ bumps then 1 else 0),
    count_bumps once inside]

theorem sum_le_sum_range {f g : ℕ → ℕ} {ws : List ℕ}
    (bound : ∀ i w, ws[i]? = some w → f w ≤ g i) :
    (ws.map f).sum ≤ ((List.range ws.length).map g).sum := by
  induction ws using List.reverseRecOn with
  | nil => exact le_rfl
  | append_singleton ws w ih =>
    have earlier := ih fun i v found => bound i v (by
      rw [List.getElem?_append_left (List.getElem?_eq_some_iff.mp found).1]
      exact found)
    have last := bound ws.length w (by simp)
    simp only [List.map_append, List.sum_append, List.length_append, List.length_singleton,
      List.range_succ, List.map_cons, List.map_nil, List.sum_cons, List.sum_nil]
    omega

theorem leftover_le_length (amount : ℕ) (positive : 0 < weights.sum) :
    leftover amount weights ≤ weights.length := by
  have bound : ∀ (i w : ℕ), weights[i]? = some w → remainder amount weights w ≤ weights.sum :=
    fun i w _ => (Nat.mod_lt _ positive).le
  have total := sum_le_sum_range bound
  rw [sum_remainders positive, List.map_const', List.sum_replicate, List.length_range,
    smul_eq_mul, Nat.mul_comm weights.length] at total
  exact Nat.le_of_mul_le_mul_left total positive

/-- A unit handed out goes to a share that is not exact. -/
theorem remainder_of_bump (positive : 0 < weights.sum) (once : bumps.Nodup)
    (inside : ∀ i ∈ bumps, i < weights.length)
    (count : bumps.length = leftover amount weights)
    (first : ∀ i ∈ bumps, ∀ j, j ∉ bumps → Precedes amount weights i j)
    {i v : ℕ} (mem : i ∈ bumps) (found : weights[i]? = some v) :
    remainder amount weights v ≠ 0 := by
  intro exact_
  have bound : ∀ j w, weights[j]? = some w → remainder amount weights w ≤
      (weights.sum - 1) * if j ∈ bumps.erase i then 1 else 0 := by
    intro j w there
    by_cases kept : j ∈ bumps.erase i
    · have small := Nat.mod_lt (amount * w) positive
      rw [if_pos kept, remainder]
      omega
    · rw [if_neg kept]
      by_cases same : j = i
      · subst same
        rw [found] at there
        cases there
        omega
      · have outside : j ∉ bumps := fun held => kept ((List.mem_erase_of_ne same).mpr held)
        have order := first i mem j outside v w found there
        omega
  have erased : (bumps.erase i).length = leftover amount weights - 1 := by
    rw [List.length_erase_of_mem mem, count]
  have some_ : 0 < leftover amount weights := by
    rw [← count]
    exact List.length_pos_of_mem mem
  have total := sum_le_sum_range bound
  rw [sum_remainders positive, List.sum_map_mul_left,
    count_bumps (once.erase i) (fun j held => inside j (List.mem_of_mem_erase held)),
    erased] at total
  have less : (weights.sum - 1) * (leftover amount weights - 1) <
      weights.sum * leftover amount weights := by
    apply Nat.mul_lt_mul'' <;> omega
  omega

theorem isAllocation_bumped (positive : 0 < weights.sum) (once : bumps.Nodup)
    (inside : ∀ i ∈ bumps, i < weights.length)
    (count : bumps.length = leftover amount weights)
    (first : ∀ i ∈ bumps, ∀ j, j ∉ bumps → Precedes amount weights i j) :
    IsAllocation amount weights (bumped amount weights bumps) := by
  have kept := sum_floors_le amount positive
  constructor
  · exact bumped_length
  · rw [sum_bumped once inside, count, leftover]
    omega
  · intro i w p found share
    rw [bumped_getElem? found] at share
    cases share
    by_cases here : i ∈ bumps
    · right
      rw [if_pos here, ceil_of_remainder positive
        (remainder_of_bump positive once inside count first here found)]
      rfl
    · left
      rw [if_neg here]
      rfl
  · intro i j v w p q foundI foundJ shareI shareJ up down
    rw [bumped_getElem? foundI] at shareI
    rw [bumped_getElem? foundJ] at shareJ
    cases shareI
    cases shareJ
    have here : i ∈ bumps := by
      by_contra outside
      rw [if_neg outside, floorShare] at up
      omega
    have there : j ∉ bumps := by
      intro inside'
      rw [if_pos inside', floorShare] at down
      omega
    exact first i here j there v w foundI foundJ

end Bumps

section Order

variable {α : Type} {r : α → α → Prop} {l : List α} {k : ℕ} {a b : α}

/-- What a sorted list begins with comes before the rest of it. -/
theorem rel_of_mem_take_drop (sorted : l.Pairwise r) (first : a ∈ l.take k)
    (later : b ∈ l.drop k) : r a b := by
  rw [← List.take_append_drop k l] at sorted
  exact (List.pairwise_append.mp sorted).2.2 a first b later

theorem mem_drop_of_not_mem_take (mem : a ∈ l) (outside : a ∉ l.take k) : a ∈ l.drop k := by
  rw [← List.take_append_drop k l] at mem
  exact (List.mem_append.mp mem).resolve_left outside

end Order

section Unique

theorem eq_of_le_of_sum {ps qs : List ℕ} (le : List.Forall₂ (· ≤ ·) ps qs)
    (same : ps.sum = qs.sum) : ps = qs := by
  induction le with
  | nil => rfl
  | @cons p q ps qs first rest ih =>
    have bound := rest.sum_le_sum
    rw [List.sum_cons, List.sum_cons] at same
    have heads : p = q := by omega
    rw [heads, ih (by omega)]

variable {parts parts' : List ℕ}

theorem IsAllocation.bounds (allocation : IsAllocation amount weights parts)
    (positive : 0 < weights.sum) {i w p : ℕ} (found : weights[i]? = some w)
    (share : parts[i]? = some p) :
    amount * w / weights.sum ≤ p ∧ p ≤ amount * w / weights.sum + 1 := by
  have near := allocation.near i w p found share
  by_cases some_ : remainder amount weights w = 0
  · rw [ceil_of_exact positive some_] at near
    omega
  · rw [ceil_of_remainder positive some_] at near
    omega

/-- Two allocations do not differ in opposite directions. -/
theorem IsAllocation.not_crossed (allocation : IsAllocation amount weights parts)
    (other : IsAllocation amount weights parts') (positive : 0 < weights.sum)
    {i j p q p' q' : ℕ} (pi : parts[i]? = some p) (qi : parts'[i]? = some q) (up : q < p)
    (pj : parts[j]? = some p') (qj : parts'[j]? = some q') : q' ≤ p' := by
  by_contra down
  have insideI : i < weights.length := by
    rw [← allocation.length]
    exact (List.getElem?_eq_some_iff.mp pi).1
  have insideJ : j < weights.length := by
    rw [← allocation.length]
    exact (List.getElem?_eq_some_iff.mp pj).1
  have foundI := List.getElem?_eq_getElem insideI
  have foundJ := List.getElem?_eq_getElem insideJ
  have boundsP := allocation.bounds positive foundI pi
  have boundsQ := other.bounds positive foundI qi
  have boundsP' := allocation.bounds positive foundJ pj
  have boundsQ' := other.bounds positive foundJ qj
  have before := allocation.largest i j _ _ _ _ foundI foundJ pi pj (by omega) (by omega)
  have after := other.largest j i _ _ _ _ foundJ foundI qj qi (by omega) (by omega)
  omega

theorem IsAllocation.unique (allocation : IsAllocation amount weights parts)
    (other : IsAllocation amount weights parts') (positive : 0 < weights.sum) :
    parts = parts' := by
  have lengths : parts.length = parts'.length := allocation.length.trans other.length.symm
  have totals : parts.sum = parts'.sum := allocation.total.trans other.total.symm
  by_cases above : ∃ (i p q : ℕ), parts[i]? = some p ∧ parts'[i]? = some q ∧ q < p
  · obtain ⟨i, p, q, pi, qi, up⟩ := above
    symm
    apply eq_of_le_of_sum _ totals.symm
    apply List.forall₂_iff_get.mpr
    refine ⟨lengths.symm, fun j inside' inside => ?_⟩
    exact allocation.not_crossed other positive pi qi up (List.getElem?_eq_getElem inside)
      (List.getElem?_eq_getElem inside')
  · apply eq_of_le_of_sum _ totals
    apply List.forall₂_iff_get.mpr
    refine ⟨lengths, fun j inside inside' => ?_⟩
    by_contra up
    exact above ⟨j, _, _, List.getElem?_eq_getElem inside, List.getElem?_eq_getElem inside',
      not_le.mp up⟩

end Unique

end OpenWrapper.Apportionment
