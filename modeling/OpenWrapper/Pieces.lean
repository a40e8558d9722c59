import Mathlib.Data.List.DropRight

/-! # Pieces of a text

Trimming at both ends and splitting at a separator. Blanks beyond the ends of a
piece do not change what is left of it. -/

set_option autoImplicit false

namespace OpenWrapper.Pieces

variable {α : Type}

section Trimming

def trimBy (p : α → Bool) (s : List α) : List α := ((s.dropWhile p).reverse.dropWhile p).reverse

variable {p q : α → Bool} {s : List α}

theorem dropWhile_congr (same : ∀ a ∈ s, p a = q a) : s.dropWhile p = s.dropWhile q := by
  induction s with
  | nil => rfl
  | cons a rest ih =>
    have inner := ih fun b mem => same b (List.mem_cons_of_mem a mem)
    rw [List.dropWhile_cons, List.dropWhile_cons, same a List.mem_cons_self, inner]

theorem mem_of_mem_dropWhile {a : α} (mem : a ∈ s.dropWhile p) : a ∈ s :=
  (List.dropWhile_suffix p).subset mem

theorem trimBy_congr (same : ∀ a ∈ s, p a = q a) : trimBy p s = trimBy q s := by
  unfold trimBy
  rw [dropWhile_congr same]
  congr 1
  apply dropWhile_congr
  intro a mem
  exact same a (mem_of_mem_dropWhile (List.mem_reverse.mp mem))

theorem mem_of_mem_trimBy {a : α} (mem : a ∈ trimBy p s) : a ∈ s := by
  have kept := mem_of_mem_dropWhile (List.mem_reverse.mp mem)
  exact mem_of_mem_dropWhile (List.mem_reverse.mp kept)

theorem dropWhile_eq_self (plain : ∀ a ∈ s, p a = false) : s.dropWhile p = s := by
  cases s with
  | nil => rfl
  | cons a rest =>
    rw [List.dropWhile_cons, plain a List.mem_cons_self]
    rfl

theorem trimBy_eq_self (plain : ∀ a ∈ s, p a = false) : trimBy p s = s := by
  have back : s.reverse.dropWhile p = s.reverse :=
    dropWhile_eq_self fun a mem => plain a (List.mem_reverse.mp mem)
  rw [trimBy, dropWhile_eq_self plain, back, List.reverse_reverse]

theorem trimBy_dropWhile : trimBy p (s.dropWhile p) = trimBy p s := by
  rw [trimBy, List.dropWhile_idempotent, trimBy]

theorem trimBy_append_blank {r : List α} (blank : ∀ a ∈ r, p a = true) :
    trimBy p (s ++ r) = trimBy p s := by
  have dropped : r.reverse.dropWhile p = [] := by
    rw [List.dropWhile_eq_nil_iff]
    intro a mem
    exact blank a (List.mem_reverse.mp mem)
  have none_left : r.dropWhile p = [] := List.dropWhile_eq_nil_iff.mpr blank
  unfold trimBy
  rw [List.dropWhile_append]
  by_cases empty : s.dropWhile p = []
  · simp [empty, none_left]
  · have inner : (s.dropWhile p).isEmpty = false := by simpa using empty
    rw [inner, if_neg (by decide), List.reverse_append, List.dropWhile_append, dropped]
    simp

theorem trimBy_rdropWhile : trimBy p (s.rdropWhile p) = trimBy p s := by
  have split : s.rdropWhile p ++ s.rtakeWhile p = s := List.rdropWhile_append_rtakeWhile
  have blank : ∀ a ∈ s.rtakeWhile p, p a = true := fun a mem => List.mem_rtakeWhile_imp mem
  calc trimBy p (s.rdropWhile p) = trimBy p (s.rdropWhile p ++ s.rtakeWhile p) :=
        (trimBy_append_blank blank).symm
    _ = trimBy p s := by rw [split]

theorem trimBy_trimBy : trimBy p (trimBy p s) = trimBy p s := by
  calc trimBy p (trimBy p s) = trimBy p (s.dropWhile p) := trimBy_rdropWhile
    _ = trimBy p s := trimBy_dropWhile

/-- What is not trimmed keeps both sides apart. -/
theorem trimBy_append_cons {a b : List α} {sep : α} (kept : p sep = false) :
    trimBy p (a ++ sep :: b) = a.dropWhile p ++ sep :: b.rdropWhile p := by
  have left (x y : List α) : (x ++ sep :: y).dropWhile p = x.dropWhile p ++ sep :: y := by
    rw [List.dropWhile_append]
    by_cases empty : x.dropWhile p = []
    · simp [empty, kept]
    · simp [empty]
  unfold trimBy
  rw [left, List.reverse_append, List.reverse_cons, List.append_assoc, List.singleton_append, left,
    List.reverse_append, List.reverse_cons, List.reverse_reverse, List.append_assoc,
    List.singleton_append]
  rfl

end Trimming

section Splitting

variable [BEq α] [LawfulBEq α]

/-- What stands before the first separator and after it. -/
def splitOnce (sep : α) (s : List α) : Option (List α × List α) :=
  if s.contains sep then some (s.takeWhile (· != sep), (s.dropWhile (· != sep)).drop 1) else none

variable {sep : α} {s a b : List α}

theorem splitOnce_eq_none : splitOnce sep s = none ↔ sep ∉ s := by
  simp [splitOnce]

theorem splitOnce_append (first : sep ∉ a) : splitOnce sep (a ++ sep :: b) = some (a, b) := by
  have before : ∀ c ∈ a, (c != sep) = true := by
    intro c mem
    rw [bne_iff_ne]
    rintro rfl
    exact first mem
  have there : (a ++ sep :: b).contains sep = true := by simp
  rw [splitOnce, if_pos there, List.takeWhile_append_of_pos before,
    List.dropWhile_append_of_pos before]
  simp

theorem splitOnce_eq_some : splitOnce sep s = some (a, b) ↔ s = a ++ sep :: b ∧ sep ∉ a := by
  constructor
  · intro split
    have there : sep ∈ s := by
      by_contra absent
      rw [splitOnce_eq_none.mpr absent] at split
      cases split
    obtain ⟨x, y, rfl, first⟩ := List.eq_append_cons_of_mem there
    rw [splitOnce_append first] at split
    cases split
    exact ⟨rfl, first⟩
  · rintro ⟨rfl, first⟩
    exact splitOnce_append first

theorem mem_of_mem_splitOn {part : List α} {c : α} (listed : part ∈ s.splitOn sep)
    (mem : c ∈ part) : c ∈ s := by
  induction s generalizing part with
  | nil =>
    rw [List.splitOn_nil, List.mem_singleton] at listed
    rw [listed] at mem
    exact mem
  | cons d rest ih =>
    rw [List.splitOn_cons_eq_if_modifyHead] at listed
    split at listed
    · rcases List.mem_cons.mp listed with rfl | later
      · cases mem
      · exact List.mem_cons_of_mem d (ih later mem)
    · obtain ⟨first, others, is⟩ := List.exists_cons_of_ne_nil (List.splitOn_ne_nil sep rest)
      rw [is, List.modifyHead_cons] at listed
      rcases List.mem_cons.mp listed with rfl | later
      · rcases List.mem_cons.mp mem with rfl | inner
        · exact List.mem_cons_self
        · exact List.mem_cons_of_mem d (ih (by simp [is]) inner)
      · exact List.mem_cons_of_mem d (ih (by simp [is, later]) mem)

theorem splitOn_singleton : s.splitOn sep = [a] ↔ s = a ∧ sep ∉ a := by
  by_cases there : sep ∈ s
  · obtain ⟨x, y, rfl, first⟩ := List.eq_append_cons_of_mem there
    rw [List.splitOn_append_cons_self_of_not_mem first]
    constructor
    · intro same
      exact absurd (List.cons.inj same).2 (List.splitOn_ne_nil sep y)
    · rintro ⟨rfl, absent⟩
      exact absurd there absent
  · rw [List.splitOn_eq_singleton there]
    constructor
    · intro same
      cases same
      exact ⟨rfl, there⟩
    · rintro ⟨rfl, -⟩
      rfl

/-- Two pieces are there if there is one separator. -/
theorem splitOn_pair : s.splitOn sep = [a, b] ↔ splitOnce sep s = some (a, b) ∧ sep ∉ b := by
  by_cases there : sep ∈ s
  · obtain ⟨x, y, rfl, first⟩ := List.eq_append_cons_of_mem there
    rw [List.splitOn_append_cons_self_of_not_mem first, splitOnce_append first, List.cons.injEq,
      splitOn_singleton, Option.some.injEq, Prod.mk.injEq]
    constructor
    · rintro ⟨rfl, rfl, absent⟩
      exact ⟨⟨rfl, rfl⟩, absent⟩
    · rintro ⟨⟨rfl, rfl⟩, absent⟩
      exact ⟨rfl, rfl, absent⟩
  · rw [List.splitOn_eq_singleton there, splitOnce_eq_none.mpr there]
    simp

end Splitting

end OpenWrapper.Pieces
