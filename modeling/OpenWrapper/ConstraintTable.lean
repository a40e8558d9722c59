import Mathlib.Data.List.Pairwise
import Mathlib.Data.List.Basic

/-! # Tables with uniqueness constraints

A table is a list of rows no two of which clash. An insertion that would
clash is refused, and an update may only use a function that leaves clashes
as they are, so every table that can be built satisfies its constraint. -/

set_option autoImplicit false

namespace OpenWrapper.ConstraintTable

structure Table (α : Type) (Clash : α → α → Prop) where
  rows : List α
  distinct : rows.Pairwise fun a b => ¬ Clash a b

variable {α : Type} {Clash : α → α → Prop}

/-- `f` changes nothing the constraint looks at. -/
def Keeps (Clash : α → α → Prop) (f : α → α) : Prop :=
  ∀ a b, (Clash (f a) b ↔ Clash a b) ∧ (Clash a (f b) ↔ Clash a b)

namespace Table

def empty : Table α Clash := ⟨[], List.Pairwise.nil⟩

def insert [DecidableRel Clash] (t : Table α Clash) (a : α) :
    Option (Table α Clash) :=
  if fresh : ∀ b ∈ t.rows, ¬ Clash b a then
    some ⟨t.rows ++ [a], List.pairwise_append.mpr
      ⟨t.distinct, List.pairwise_singleton _ _, by simpa using fresh⟩⟩
  else none

def change (p : α → Bool) (f : α → α) (a : α) : α := if p a then f a else a

theorem keeps_change {p : α → Bool} {f : α → α} (keeps : Keeps Clash f) :
    Keeps Clash (change p f) := by
  intro a b
  constructor
  · unfold change
    split
    · exact (keeps a b).1
    · exact Iff.rfl
  · unfold change
    split
    · exact (keeps a b).2
    · exact Iff.rfl

def update (t : Table α Clash) (p : α → Bool) (f : α → α) (keeps : Keeps Clash f) :
    Table α Clash :=
  ⟨t.rows.map (change p f), List.pairwise_map.mpr (t.distinct.imp fun {a b} apart =>
    fun clash => apart (((keeps_change keeps) a b).2.mp
      (((keeps_change keeps) a (change p f b)).1.mp clash)))⟩

/-- An update that is refused where its result would clash. -/
def revise [DecidableRel Clash] (t : Table α Clash) (p : α → Bool) (f : α → α) :
    Option (Table α Clash) :=
  if apart : (t.rows.map (change p f)).Pairwise fun a b => ¬ Clash a b then some ⟨_, apart⟩
  else none

def affected (t : Table α Clash) (p : α → Bool) : ℕ := (t.rows.filter p).length

@[simp] theorem rows_empty : (empty : Table α Clash).rows = [] := rfl

@[simp] theorem rows_update (t : Table α Clash) (p : α → Bool) (f : α → α)
    (keeps : Keeps Clash f) : (t.update p f keeps).rows = t.rows.map (change p f) := rfl

theorem insert_eq_some [DecidableRel Clash] {t t' : Table α Clash} {a : α} :
    t.insert a = some t' ↔
      (∀ b ∈ t.rows, ¬ Clash b a) ∧ t'.rows = t.rows ++ [a] := by
  unfold insert
  constructor
  · intro inserted
    split at inserted
    next fresh =>
      cases inserted
      exact ⟨fresh, rfl⟩
    · cases inserted
  · rintro ⟨fresh, rows⟩
    rw [dif_pos fresh]
    cases t'
    simpa using rows.symm

theorem insert_eq_none [DecidableRel Clash] {t : Table α Clash} {a : α} :
    t.insert a = none ↔ ∃ b ∈ t.rows, Clash b a := by
  unfold insert
  split
  next fresh => simpa using fresh
  next taken => simpa using taken

theorem revise_eq_some [DecidableRel Clash] {t t' : Table α Clash} {p : α → Bool} {f : α → α}
    (revised : t.revise p f = some t') : t'.rows = t.rows.map (change p f) := by
  unfold revise at revised
  split at revised
  · cases revised
    rfl
  · cases revised

theorem eq_of_clash [Std.Symm Clash] (t : Table α Clash) {a b : α}
    (ha : a ∈ t.rows) (hb : b ∈ t.rows) (clash : Clash a b) : a = b := by
  have symm : Std.Symm fun a b => ¬ Clash a b :=
    ⟨fun _ _ apart clash => apart (Std.Symm.symm _ _ clash)⟩
  by_contra apart
  exact t.distinct.forall ha hb apart clash

/-- A test that only clashing rows can share finds the row it is true of. -/
theorem find_eq [Std.Symm Clash] (t : Table α Clash) {p : α → Bool} {a : α}
    (mem : a ∈ t.rows) (held : p a = true)
    (shared : ∀ b, p b = true → Clash b a) : t.rows.find? p = some a := by
  cases found : t.rows.find? p with
  | none => simp [List.find?_eq_none.mp found a mem] at held
  | some b =>
    have hb := List.mem_of_find?_eq_some found
    have pb := List.find?_some found
    rw [eq_of_clash t hb mem (shared b pb)]

theorem affected_eq_one [Std.Symm Clash] (t : Table α Clash) {p : α → Bool} {a : α}
    (mem : a ∈ t.rows) (held : p a = true) (shared : ∀ b, p b = true → Clash b a) :
    t.affected p = 1 := by
  have only : ∀ b ∈ t.rows.filter p, b = a := fun b hb =>
    eq_of_clash t (List.mem_of_mem_filter hb) mem (shared b (List.of_mem_filter hb))
  have apart : (t.rows.filter p).Pairwise fun a b => ¬ Clash a b := t.distinct.filter p
  have kept : a ∈ t.rows.filter p := List.mem_filter.mpr ⟨mem, held⟩
  unfold affected
  match t.rows.filter p, only, apart, kept with
  | [x], _, _, _ => rfl
  | x :: y :: rest, only, apart, _ =>
    have hx := only x List.mem_cons_self
    have hy := only y (List.mem_cons_of_mem _ List.mem_cons_self)
    have clear := (List.pairwise_cons.mp apart).1 y List.mem_cons_self
    rw [hx, hy] at clear
    exact absurd (shared a held) clear

theorem change_of_pos {p : α → Bool} {f : α → α} {a : α} (held : p a = true) :
    change p f a = f a := if_pos held

theorem change_of_neg {p : α → Bool} {f : α → α} {a : α} (fails : p a = false) :
    change p f a = a := if_neg (by simp [fails])

/-- One row may be revised to anything that clashes with none of the others. -/
theorem revise_one [DecidableRel Clash] [Std.Symm Clash] (t : Table α Clash) {p : α → Bool}
    {f : α → α} {a : α} (itself : Clash a a) (only : ∀ b ∈ t.rows, p b = true → b = a)
    (apart : ∀ b ∈ t.rows, p b = false → ¬ Clash (f a) b) : ∃ t', t.revise p f = some t' := by
  have pairs : (t.rows.map (change p f)).Pairwise fun a b => ¬ Clash a b := by
    rw [List.pairwise_map]
    refine t.distinct.imp_of_mem fun {b c} hb hc distinct => ?_
    cases pb : p b with
    | true =>
      have same := only b hb pb
      cases pc : p c with
      | true =>
        have same' := only c hc pc
        subst same same'
        exact absurd itself distinct
      | false =>
        rw [change_of_pos pb, change_of_neg pc, same]
        exact apart c hc pc
    | false =>
      rw [change_of_neg pb]
      cases pc : p c with
      | true =>
        rw [change_of_pos pc, only c hc pc]
        exact fun clash => apart b hb pb (Std.Symm.symm _ _ clash)
      | false =>
        rw [change_of_neg pc]
        exact distinct
  exact ⟨⟨_, pairs⟩, dif_pos pairs⟩

/-- A projection the update does not touch is unchanged on every row. -/
theorem change_proj {κ : Type} {p : α → Bool} {f : α → α} (proj : α → κ)
    (same : ∀ a, proj (f a) = proj a) (a : α) : proj (change p f a) = proj a := by
  unfold change
  split
  · exact same a
  · rfl

end Table

end OpenWrapper.ConstraintTable
