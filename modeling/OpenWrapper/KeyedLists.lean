import Mathlib.Data.List.Induction
import Mathlib.Data.List.Nodup
import Mathlib.Data.List.Pairwise
import Mathlib.Order.Lattice

/-! # Lists with one entry for each key

What a finite map looks like as a list: a property list in the order of
creation, or an ordered map. Both hold a partial function; in which order they
enumerate it is a matter of its own. -/

set_option autoImplicit false
set_option linter.unusedSectionVars false

namespace OpenWrapper.KeyedLists

variable {κ α β : Type} [DecidableEq κ]

abbrev keys (l : List (κ × α)) : List κ := l.map Prod.fst

@[simp] theorem keys_cons (m : κ × α) (l : List (κ × α)) : keys (m :: l) = m.1 :: keys l := rfl

structure Holds (l : List (κ × α)) (f : κ → Option α) : Prop where
  nodup : (keys l).Nodup
  mem : ∀ k v, (k, v) ∈ l ↔ f k = some v

/-- The last entry for the key. -/
def lastOf (k : κ) : List (κ × α) → Option α
  | [] => none
  | (k', v) :: rest =>
    match lastOf k rest with
    | some w => some w
    | none => if k' = k then some v else none

/-- The entry is replaced where it stands, or put at the end. -/
def setAt (k : κ) (v : α) : List (κ × α) → List (κ × α)
  | [] => [(k, v)]
  | (k', w) :: rest => if k' = k then (k, v) :: rest else (k', w) :: setAt k v rest

/-- The entry is replaced, or put at its place in the order. -/
def insertBy (before : κ → κ → Bool) (k : κ) (v : α) : List (κ × α) → List (κ × α)
  | [] => [(k, v)]
  | (k', w) :: rest =>
    if k = k' then (k, v) :: rest
    else if before k k' then (k, v) :: (k', w) :: rest
    else (k', w) :: insertBy before k v rest

section Mapping

theorem lastOf_eq_none {k : κ} {l : List (κ × α)} : lastOf k l = none ↔ k ∉ keys l := by
  induction l with
  | nil => simp [lastOf]
  | cons m rest ih =>
    obtain ⟨k', v⟩ := m
    rw [lastOf]
    cases found : lastOf k rest with
    | some w =>
      have present : k ∈ keys rest := by
        by_contra absent
        rw [ih.mpr absent] at found
        cases found
      simp [present]
    | none =>
      have absent := ih.mp found
      by_cases same : k' = k
      · simp [same]
      · simp only [same, if_false, keys_cons, List.mem_cons, true_iff, not_or]
        exact ⟨Ne.symm same, absent⟩

theorem lastOf_append (k k' : κ) (v : α) (l : List (κ × α)) :
    lastOf k (l ++ [(k', v)]) = if k' = k then some v else lastOf k l := by
  induction l with
  | nil =>
    by_cases same : k' = k
    · simp [lastOf, same]
    · simp [lastOf, same]
  | cons m rest ih =>
    obtain ⟨k'', w⟩ := m
    rw [List.cons_append, lastOf, ih]
    by_cases same : k' = k
    · simp [same]
    · simp only [same, if_false, lastOf]

theorem lastOf_cons (k k' : κ) (v : α) (l : List (κ × α)) :
    lastOf k ((k', v) :: l) =
      if k ∈ keys l then lastOf k l else if k' = k then some v else none := by
  rw [lastOf]
  by_cases present : k ∈ keys l
  · rw [if_pos present]
    cases found : lastOf k l with
    | some w => rfl
    | none => exact absurd present (lastOf_eq_none.mp found)
  · rw [if_neg present, lastOf_eq_none.mpr present]

theorem lastOf_cons_agree {k : κ} {v w : α} {l l' : List (κ × α)} (same : keys l = keys l') :
    (∀ a, lastOf a ((k, v) :: l) = lastOf a ((k, w) :: l')) ↔
      (k ∈ keys l ∨ v = w) ∧ ∀ a, lastOf a l = lastOf a l' := by
  simp only [lastOf_cons, ← same]
  constructor
  · intro agree
    constructor
    · by_cases present : k ∈ keys l
      · exact .inl present
      · have here := agree k
        rw [if_neg present, if_neg present, if_pos rfl, if_pos rfl] at here
        exact .inr (Option.some.inj here)
    · intro a
      by_cases present : a ∈ keys l
      · have there := agree a
        rwa [if_pos present, if_pos present] at there
      · rw [lastOf_eq_none.mpr present, lastOf_eq_none.mpr (same ▸ present)]
  · rintro ⟨first, others⟩ a
    by_cases present : a ∈ keys l
    · rw [if_pos present, if_pos present, others]
    · rw [if_neg present, if_neg present]
      by_cases here : k = a
      · rcases first with inside | rfl
        · exact absurd (here ▸ inside) present
        · rfl
      · rw [if_neg here, if_neg here]

end Mapping

section Building

variable {l : List (κ × α)} {f : κ → Option α} {k : κ} {v : α}

theorem holds_nil : Holds ([] : List (κ × α)) fun _ => none := by
  constructor
  · exact List.nodup_nil
  · simp

theorem Holds.key (h : Holds l f) : k ∈ keys l ↔ (f k).isSome = true := by
  rw [List.mem_map, Option.isSome_iff_exists]
  constructor
  · rintro ⟨⟨k', v⟩, mem, rfl⟩
    exact ⟨v, (h.mem _ _).mp mem⟩
  · rintro ⟨v, is⟩
    exact ⟨(k, v), (h.mem _ _).mpr is, rfl⟩

theorem Holds.perm {l' : List (κ × α)} (h : Holds l f) (same : l'.Perm l) : Holds l' f := by
  constructor
  · exact (same.map Prod.fst).nodup_iff.mpr h.nodup
  · intro k v
    rw [same.mem_iff, h.mem]

theorem Holds.filter (h : Holds l f) (p : κ → Bool) :
    Holds (l.filter fun m => p m.1) fun k => if p k then f k else none := by
  constructor
  · exact (List.filter_sublist.map Prod.fst).nodup h.nodup
  · intro k v
    rw [List.mem_filter, h.mem]
    by_cases kept : p k = true
    · simp [kept]
    · simp [kept]

theorem mem_setAt {k' : κ} {w : α} (nodup : (keys l).Nodup) :
    (k', w) ∈ setAt k v l ↔ if k = k' then w = v else (k', w) ∈ l := by
  induction l with
  | nil =>
    by_cases same : k = k'
    · simp [setAt, same]
    · simp [setAt, same, Ne.symm same]
  | cons m rest ih =>
    obtain ⟨k₁, w₁⟩ := m
    have apart := (List.nodup_cons.mp nodup).1
    have ih' := ih (List.nodup_cons.mp nodup).2
    rw [setAt]
    by_cases here : k₁ = k
    · rw [if_pos here]
      by_cases same : k = k'
      · subst here
        subst same
        have absent : (k₁, w) ∉ rest := fun mem => apart (List.mem_map.mpr ⟨_, mem, rfl⟩)
        simp [absent]
      · simp [same, Ne.symm same, here]
    · rw [if_neg here, List.mem_cons, ih', List.mem_cons]
      by_cases same : k = k'
      · have other : k' ≠ k₁ := fun is => here (is.symm.trans same.symm)
        simp [same, other]
      · simp [same]

theorem keys_setAt : keys (setAt k v l) = if k ∈ keys l then keys l else keys l ++ [k] := by
  induction l with
  | nil => simp [setAt]
  | cons m rest ih =>
    obtain ⟨k₁, w₁⟩ := m
    rw [setAt]
    by_cases here : k₁ = k
    · simp [here]
    · rw [if_neg here, keys_cons, keys_cons, ih]
      by_cases there : k ∈ keys rest
      · simp [there]
      · simp [there, Ne.symm here]

theorem Holds.setAt (h : Holds l f) : Holds (setAt k v l) (Function.update f k (some v)) := by
  constructor
  · rw [keys_setAt]
    split
    · exact h.nodup
    next new =>
      rw [List.nodup_append]
      exact ⟨h.nodup, List.nodup_singleton k, fun a mem b is same =>
        new (List.mem_singleton.mp is ▸ same ▸ mem)⟩
  · intro k' w
    rw [mem_setAt h.nodup]
    by_cases same : k = k'
    · subst same
      simp [eq_comm]
    · simp [same, Function.update_of_ne (Ne.symm same), h.mem]

variable {before : κ → κ → Bool}

/-- A strict order in which any two keys compare. -/
structure Orders (before : κ → κ → Bool) : Prop where
  asymm : ∀ a b, before a b = true → before b a = false
  trans : ∀ a b c, before a b = true → before b c = true → before a c = true
  total : ∀ a b, a ≠ b → before a b = false → before b a = true

def Sorted (before : κ → κ → Bool) (l : List (κ × α)) : Prop :=
  (keys l).Pairwise fun a b => before a b = true

theorem Orders.ne (order : Orders before) {a b : κ} (is : before a b = true) : a ≠ b := by
  rintro rfl
  have not_ := order.asymm a a is
  rw [is] at not_
  cases not_

theorem Sorted.nodup (order : Orders before) (sorted : Sorted before l) : (keys l).Nodup :=
  List.Pairwise.imp (fun is => order.ne is) sorted

theorem mem_keys_insertBy {k' : κ} :
    k' ∈ keys (insertBy before k v l) ↔ k' = k ∨ k' ∈ keys l := by
  induction l with
  | nil => simp [insertBy]
  | cons m rest ih =>
    obtain ⟨k₁, w₁⟩ := m
    rw [insertBy]
    split
    next same => simp [same]
    · split
      · simp
      · rw [keys_cons, List.mem_cons, ih, keys_cons, List.mem_cons]
        tauto

theorem Sorted.insertBy (order : Orders before) (sorted : Sorted before l) :
    Sorted before (insertBy before k v l) := by
  induction l with
  | nil => exact List.pairwise_singleton _ _
  | cons m rest ih =>
    obtain ⟨k₁, w₁⟩ := m
    obtain ⟨first, others⟩ := List.pairwise_cons.mp sorted
    rw [KeyedLists.insertBy]
    split
    next same =>
      subst same
      exact List.pairwise_cons.mpr ⟨first, others⟩
    next apart =>
      split
      next is =>
        refine List.pairwise_cons.mpr ⟨fun b mem => ?_, sorted⟩
        rcases List.mem_cons.mp mem with rfl | mem'
        · exact is
        · exact order.trans _ _ _ is (first b mem')
      next is =>
        refine List.pairwise_cons.mpr ⟨fun b mem => ?_, ih others⟩
        rcases mem_keys_insertBy.mp mem with rfl | mem'
        · exact order.total _ _ apart (by simpa using is)
        · exact first b mem'

theorem mem_insertBy {k' : κ} {w : α} (order : Orders before) (sorted : Sorted before l) :
    (k', w) ∈ insertBy before k v l ↔ if k = k' then w = v else (k', w) ∈ l := by
  induction l with
  | nil =>
    by_cases same : k = k'
    · simp [insertBy, same]
    · simp [insertBy, same, Ne.symm same]
  | cons m rest ih =>
    obtain ⟨k₁, w₁⟩ := m
    obtain ⟨first, others⟩ := List.pairwise_cons.mp sorted
    have ih' := ih others
    rw [insertBy]
    split
    next here =>
      by_cases same : k = k'
      · have absent : (k', w) ∉ rest := by
          intro mem
          exact order.ne (first k' (List.mem_map_of_mem mem)) (here.symm.trans same)
        simp [same, absent]
      · simp [same, Ne.symm same, ← here]
    next apart =>
      split
      next is =>
        by_cases same : k = k'
        · have absent : (k', w) ∉ (k₁, w₁) :: rest := by
            intro mem
            rcases List.mem_cons.mp mem with here | mem'
            · exact apart (same.trans (congrArg Prod.fst here))
            · have later := order.trans _ _ _ is (first k' (List.mem_map_of_mem mem'))
              exact order.ne later same
          rw [List.mem_cons]
          simp [same, absent]
        · rw [List.mem_cons]
          simp [same, Ne.symm same]
      · rw [List.mem_cons, ih', List.mem_cons]
        by_cases same : k = k'
        · have other : k' ≠ k₁ := fun is => apart (same.trans is)
          simp [same, other]
        · simp [same]

theorem Holds.insertBy (order : Orders before) (sorted : Sorted before l) (h : Holds l f) :
    Holds (insertBy before k v l) (Function.update f k (some v)) := by
  constructor
  · exact (sorted.insertBy order).nodup order
  · intro k' w
    rw [mem_insertBy order sorted]
    by_cases same : k = k'
    · subst same
      simp [eq_comm]
    · simp [same, Function.update_of_ne (Ne.symm same), h.mem]

def setAll (l : List (κ × α)) : List (κ × α) := l.foldl (fun o m => setAt m.1 m.2 o) []

def insertAll (before : κ → κ → Bool) (l : List (κ × α)) : List (κ × α) :=
  l.foldl (fun o m => insertBy before m.1 m.2 o) []

theorem update_lastOf (l : List (κ × α)) (k : κ) (v : α) :
    Function.update (fun k' => lastOf k' l) k (some v) = fun k' => lastOf k' (l ++ [(k, v)]) := by
  ext1 k'
  rw [lastOf_append]
  by_cases same : k = k'
  · subst same
    simp
  · rw [Function.update_of_ne (Ne.symm same), if_neg same]

theorem holds_setAll (l : List (κ × α)) : Holds (setAll l) fun k => lastOf k l := by
  induction l using List.reverseRecOn with
  | nil => exact holds_nil
  | append_singleton l m ih =>
    rw [setAll, List.foldl_append]
    have next := ih.setAt (k := m.1) (v := m.2)
    rw [update_lastOf] at next
    exact next

theorem sorted_insertAll (order : Orders before) (l : List (κ × α)) :
    Sorted before (insertAll before l) := by
  induction l using List.reverseRecOn with
  | nil => exact List.Pairwise.nil
  | append_singleton l m ih =>
    rw [insertAll, List.foldl_append]
    exact ih.insertBy order

theorem holds_insertAll (order : Orders before) (l : List (κ × α)) :
    Holds (insertAll before l) fun k => lastOf k l := by
  induction l using List.reverseRecOn with
  | nil => exact holds_nil
  | append_singleton l m ih =>
    rw [insertAll, List.foldl_append]
    have next := ih.insertBy (k := m.1) (v := m.2) order (sorted_insertAll order l)
    rw [update_lastOf] at next
    exact next

theorem mem_of_lastOf (found : lastOf k l = some v) : (k, v) ∈ l := by
  induction l with
  | nil => cases found
  | cons m rest ih =>
    obtain ⟨k', w⟩ := m
    rw [lastOf] at found
    cases later : lastOf k rest with
    | some w' =>
      rw [later] at found ih
      exact List.mem_cons_of_mem _ (ih found)
    | none =>
      rw [later] at found
      dsimp only at found
      split at found
      next same =>
        cases found
        rw [same]
        exact List.mem_cons_self
      · cases found

/-- A list that holds a function is read by its last entries. -/
theorem Holds.lastOf (h : Holds l f) (k : κ) : lastOf k l = f k := by
  cases found : KeyedLists.lastOf k l with
  | none =>
    have absent := mt h.key.mpr (lastOf_eq_none.mp found)
    rw [Bool.not_eq_true, Option.isSome_eq_false_iff, Option.isNone_iff_eq_none] at absent
    exact absent.symm
  | some w => exact ((h.mem k w).mp (mem_of_lastOf found)).symm

end Building

section Values

variable {g : α → β}

def mapValues (g : α → β) (l : List (κ × α)) : List (κ × β) := l.map fun m => (m.1, g m.2)

theorem keys_mapValues (l : List (κ × α)) : keys (mapValues g l) = keys l := by
  rw [keys, mapValues, List.map_map]
  rfl

theorem setAt_mapValues (k : κ) (v : α) (l : List (κ × α)) :
    setAt k (g v) (mapValues g l) = mapValues g (setAt k v l) := by
  induction l with
  | nil => rfl
  | cons m rest ih =>
    show (if m.1 = k then _ else _) = _
    rw [setAt]
    split
    · rfl
    · exact congrArg _ ih

theorem insertBy_mapValues (before : κ → κ → Bool) (k : κ) (v : α) (l : List (κ × α)) :
    insertBy before k (g v) (mapValues g l) = mapValues g (insertBy before k v l) := by
  induction l with
  | nil => rfl
  | cons m rest ih =>
    show (if k = m.1 then _ else if before k m.1 = true then _ else _) = _
    rw [insertBy]
    split
    · rfl
    · split
      · rfl
      · exact congrArg _ ih

theorem foldl_mapValues (put : ∀ {γ : Type}, κ → γ → List (κ × γ) → List (κ × γ))
    (natural : ∀ k v l, put k (g v) (mapValues g l) = mapValues g (put k v l))
    (l o : List (κ × α)) : (mapValues g l).foldl (fun o m => put m.1 m.2 o) (mapValues g o) =
      mapValues g (l.foldl (fun o m => put m.1 m.2 o) o) := by
  induction l generalizing o with
  | nil => rfl
  | cons m rest ih =>
    show (mapValues g rest).foldl _ (put m.1 (g m.2) (mapValues g o)) = _
    rw [natural, ih]
    rfl

theorem setAll_mapValues (l : List (κ × α)) : setAll (mapValues g l) = mapValues g (setAll l) :=
  foldl_mapValues (g := g) setAt setAt_mapValues l []

theorem insertAll_mapValues (before : κ → κ → Bool) (l : List (κ × α)) :
    insertAll before (mapValues g l) = mapValues g (insertAll before l) :=
  foldl_mapValues (g := g) (insertBy before) (insertBy_mapValues before) l []

end Values

section Sorting

variable {ρ : Type} [LinearOrder ρ] (rank : κ → ρ)

/-- The entries in the order of what their keys rank as. -/
def sortBy (l : List (κ × α)) : List (κ × α) :=
  l.mergeSort fun a b => decide (rank a.1 ≤ rank b.1)

theorem sortBy_perm (l : List (κ × α)) : (sortBy rank l).Perm l := List.mergeSort_perm l _

theorem sortBy_mapValues (g : α → β) (l : List (κ × α)) :
    sortBy rank (mapValues g l) = mapValues g (sortBy rank l) := by
  unfold sortBy mapValues
  rw [List.map_mergeSort (s := fun a b => decide (rank a.1 ≤ rank b.1))]
  intro a _ b _
  rfl

theorem sortBy_sorted {l : List (κ × α)} (nodup : (keys l).Nodup)
    (apart : ∀ a ∈ keys l, ∀ b ∈ keys l, rank a = rank b → a = b) :
    (keys (sortBy rank l)).Pairwise fun a b => rank a < rank b := by
  have weakly : (sortBy rank l).Pairwise fun a b => decide (rank a.1 ≤ rank b.1) = true := by
    apply List.pairwise_mergeSort
    · intro a b c one two
      simp only [decide_eq_true_eq] at one two ⊢
      exact le_trans one two
    · intro a b
      simp only [Bool.or_eq_true, decide_eq_true_eq]
      exact le_total _ _
  have ordered : (keys (sortBy rank l)).Pairwise fun a b => rank a ≤ rank b :=
    List.pairwise_map.mpr (weakly.imp of_decide_eq_true)
  have same : (keys (sortBy rank l)).Perm (keys l) := (sortBy_perm rank l).map Prod.fst
  have distinct := same.nodup_iff.mpr nodup
  apply (ordered.and distinct).imp_of_mem
  rintro a b mem mem' ⟨up, ne⟩
  exact lt_of_le_of_ne up fun tie => ne (apart a (same.mem_iff.mp mem) b (same.mem_iff.mp mem') tie)

end Sorting

section Enumerations

variable {l l' : List (κ × α)} {f f' : κ → Option α} {r s : κ → κ → Prop}

theorem eq_of_holds (asymm : ∀ a b, r a b → ¬ r b a) (h : Holds l f) (h' : Holds l' f)
    (sorted : (keys l).Pairwise r) (sorted' : (keys l').Pairwise r) : l = l' := by
  have nodup : l.Nodup := List.Nodup.of_map Prod.fst h.nodup
  have nodup' : l'.Nodup := List.Nodup.of_map Prod.fst h'.nodup
  have same : l.Perm l' := by
    rw [List.perm_ext_iff_of_nodup nodup nodup']
    rintro ⟨k, v⟩
    rw [h.mem, h'.mem]
  have entries : l.Pairwise fun a b => r a.1 b.1 := List.pairwise_map.mp sorted
  have entries' : l'.Pairwise fun a b => r a.1 b.1 := List.pairwise_map.mp sorted'
  exact same.eq_of_pairwise (fun a b _ _ one two => absurd two (asymm _ _ one)) entries entries'

theorem orders_agree {ks : List κ} (asymm : ∀ a b, s a b → ¬ s b a) (first : ks.Pairwise r)
    (second : ks.Pairwise s) {a b : κ} (mem : a ∈ ks) (mem' : b ∈ ks) (is : s a b) : r a b := by
  have both : ks.Pairwise fun a b => (s a b → r a b) ∧ (s b a → r b a) := by
    apply (first.and second).imp
    rintro a b ⟨one, two⟩
    exact ⟨fun _ => one, fun back => absurd back (asymm _ _ two)⟩
  have symm : Std.Symm fun a b => (s a b → r a b) ∧ (s b a → r b a) := ⟨fun _ _ both => both.symm⟩
  have apart : a ≠ b := by
    rintro rfl
    exact asymm a a is is
  exact (both.forall mem mem' apart).1 is

/-- Two enumerations are the same just when they hold the same and their orders
agree on the keys. -/
theorem holds_eq_iff (asymm : ∀ a b, r a b → ¬ r b a) (asymm' : ∀ a b, s a b → ¬ s b a)
    (h : Holds l f) (h' : Holds l' f') (sorted : (keys l).Pairwise r)
    (sorted' : (keys l').Pairwise s) :
    l = l' ↔ f = f' ∧ ∀ a ∈ keys l', ∀ b ∈ keys l', s a b → r a b := by
  constructor
  · rintro rfl
    constructor
    · ext k v
      rw [← h.mem, ← h'.mem]
    · intro a mem b mem'
      exact orders_agree asymm' sorted sorted' mem mem'
  · rintro ⟨rfl, agree⟩
    apply eq_of_holds asymm h h' sorted
    apply sorted'.imp_of_mem
    intro a b mem mem' is
    exact agree a mem b mem' is

end Enumerations

end OpenWrapper.KeyedLists
