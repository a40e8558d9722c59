import OpenWrapper.Interleaving
import OpenWrapper.Lowerings

/-! # Coarse and fine settings

A fine setting carries out each effect of a coarse one by a program over finer
effects. Where every coarse reaction can be reproduced by fine reactions in a
row, every coarse run can be reproduced by a fine one: what holds of the state
in every fine run holds of it in every coarse run. -/

set_option autoImplicit false

namespace OpenWrapper.Refinements
open OpenWrapper.Suspended OpenWrapper.Suspended.Prog OpenWrapper.Interleaving
open OpenWrapper.Lowerings

variable {ε ε' : Type} {ρ : ε → Type} {ρ' : ε' → Type} {ω β σ χ χ' α : Type}

section Rows

/-- Reactions in a row, under these choices, that take a program from a state
to its answer. The events they leave come with the latest first. -/
inductive Row (react : σ → (e : ε') → χ' → Option (σ × ρ' e)) :
    σ → Prog ρ' α → List χ' → History ρ' → σ → α → Prop
  | done (s : σ) (a : α) : Row react s (.done a) [] [] s a
  | call (s : σ) (e : ε') (k : ρ' e → Prog ρ' α) (c : χ') (s' : σ) (r : ρ' e) (cs : List χ')
      (part : History ρ') (s'' : σ) (a : α) : react s e c = some (s', r) →
      Row react s' (k r) cs part s'' a → Row react s (.call e k) (c :: cs) (part ++ [⟨e, r⟩]) s'' a

variable {react : σ → (e : ε') → χ' → Option (σ × ρ' e)} {s s' : σ} {p : Prog ρ' α}
  {cs : List χ'} {part : History ρ'} {a : α}

theorem Row.runs (row : Row react s p cs part s' a) : Runs p part a := by
  induction row with
  | done s a => exact .done a
  | call s e k c s' r cs part s'' a reacted row ih => exact .call e k r part a ih

/-- An effect that is its own program is reproduced by the one reaction. -/
theorem row_perform {e : ε'} {c : χ'} {r : ρ' e} (reacted : react s e c = some (s', r)) :
    Row react s (perform e) [c] [⟨e, r⟩] s' r :=
  .call s e .done c s' r [] [] s' r reacted (.done s' r)

end Rows

section Runs

/-- The task, and the task whose effects are carried out by finer ones. -/
structure Refines (f : (e : ε) → Prog ρ' (ρ e)) (t : Task ρ ω β) (t' : Task ρ' ω β) : Prop where
  origin : t'.origin = t.origin
  history : Lowers f t.history t'.history
  rest : t'.rest = t.rest.translate f
  live : t'.live = t.live

structure RefinesWorld (f : (e : ε) → Prog ρ' (ρ e)) (w : World ρ ω β σ)
    (v : World ρ' ω β σ) : Prop where
  shared : v.shared = w.shared
  tasks : List.Forall₂ (Refines f) w.tasks v.tasks

/-- The fine setting reproduces every reaction of the coarse one. -/
structure Reproduces (f : (e : ε) → Prog ρ' (ρ e)) (S : Setting ρ ω β σ χ)
    (S' : Setting ρ' ω β σ χ') : Prop where
  body : ∀ o, S'.body o = (S.body o).translate f
  react : ∀ s e c s' r, S.react s e c = some (s', r) →
    ∃ cs part, Row S'.react s (f e) cs part s' r

variable {f : (e : ε) → Prog ρ' (ρ e)} {S : Setting ρ ω β σ χ} {S' : Setting ρ' ω β σ χ'}
  {w w' : World ρ ω β σ} {v : World ρ' ω β σ}

/-- A live task takes the steps of the row while the others stand still. -/
theorem run_row {p : Prog ρ' α} {cs : List χ'} {part : History ρ'} {s s' : σ} {a : α}
    (row : Row S'.react s p cs part s' a) {v : World ρ' ω β σ} {i : ℕ} {t : Task ρ' ω β}
    {k : α → Prog ρ' β} (found : v.tasks[i]? = some t) (live : t.live = true)
    (rest : t.rest = p >>= k) (at_ : v.shared = s) :
    run S' v (cs.map (Action.advance i)) =
      some ⟨s', v.tasks.set i ⟨t.origin, part ++ t.history, k a, t.live⟩⟩ := by
  induction row generalizing v t with
  | done s a =>
    obtain ⟨inside, is⟩ := List.getElem?_eq_some_iff.mp found
    have same : (⟨t.origin, [] ++ t.history, k a, t.live⟩ : Task ρ' ω β) = v.tasks[i] := by
      rw [is]
      obtain ⟨origin, history, rest', live'⟩ := t
      cases rest
      rfl
    rw [same, List.set_getElem_self, ← at_]
    rfl
  | call s e k' c s' r cs part s'' a reacted row ih =>
    have suspended : t.rest = .call e fun r => k' r >>= k := rest
    have stepped : step S' v (.advance i c) = some (v.answer i t s' r (k' r >>= k)) := by
      simp only [step, advance, found, live, suspended, at_, reacted]
    have inside : i < v.tasks.length := (List.getElem?_eq_some_iff.mp found).1
    have next : (v.answer i t s' r (k' r >>= k)).tasks[i]? = some (t.resumed r (k' r >>= k)) :=
      List.getElem?_set_self inside
    rw [List.map_cons, run, stepped]
    show run S' (v.answer i t s' r (k' r >>= k)) _ = _
    rw [ih next live rfl rfl]
    simp [World.answer, Task.resumed, List.set_set]

theorem forall₂_set {R : α → β → Prop} {l : List α} {l' : List β} (all : List.Forall₂ R l l')
    (i : ℕ) {a : α} {b : β} (related : R a b) : List.Forall₂ R (l.set i a) (l'.set i b) := by
  induction all generalizing i with
  | nil => exact .nil
  | cons head tail ih =>
    cases i with
    | zero => exact .cons related tail
    | succ i => exact .cons head (ih i)

theorem forall₂_getElem {R : α → β → Prop} {l : List α} {l' : List β} (all : List.Forall₂ R l l')
    {i : ℕ} {a : α} (found : l[i]? = some a) : ∃ b, l'[i]? = some b ∧ R a b := by
  induction all generalizing i with
  | nil => cases found
  | cons head tail ih =>
    cases i with
    | zero =>
      cases found
      exact ⟨_, rfl, head⟩
    | succ i => exact ih found

/-- One coarse step is some fine steps. -/
theorem RefinesWorld.step (reproduces : Reproduces f S S') (refines : RefinesWorld f w v)
    {a : Action ω χ} (stepped : Interleaving.step S w a = some w') :
    ∃ as v', run S' v as = some v' ∧ RefinesWorld f w' v' := by
  obtain ⟨o, rfl, rfl⟩ | ⟨i, c, rfl, ⟨adv⟩⟩ | ⟨i, t, rfl, found, rfl⟩ := step_cases stepped
  · refine ⟨[.spawn o], ⟨v.shared, v.tasks ++ [Task.start S' o]⟩, rfl, refines.shared, ?_⟩
    apply List.rel_append refines.tasks
    exact .cons ⟨rfl, .nil, reproduces.body o, rfl⟩ .nil
  · obtain ⟨t', found', related⟩ := forall₂_getElem refines.tasks adv.found
    obtain ⟨cs, part, row⟩ := reproduces.react _ _ _ _ _ adv.reacted
    have rest : t'.rest = f adv.effect >>= fun r => (adv.resume r).translate f := by
      rw [related.rest, adv.suspended, translate_call]
    have ran := run_row row found' (related.live.trans adv.live) rest refines.shared
    refine ⟨_, _, ran, adv.shared_eq.symm, ?_⟩
    rw [adv.tasks_eq]
    apply forall₂_set refines.tasks
    exact ⟨related.origin, .cons _ _ _ _ _ related.history row.runs, rfl, related.live⟩
  · obtain ⟨t', found', related⟩ := forall₂_getElem refines.tasks found
    refine ⟨[.cancel i], ⟨v.shared, v.tasks.set i t'.dropped⟩, ?_, refines.shared, ?_⟩
    · simp only [run, Interleaving.step, found']
    · apply forall₂_set refines.tasks
      exact ⟨related.origin, related.history, related.rest, rfl⟩

/-- Every coarse run is some fine run. -/
theorem RefinesWorld.run (reproduces : Reproduces f S S') (refines : RefinesWorld f w v)
    {as : List (Action ω χ)} (ran : Interleaving.run S w as = some w') :
    ∃ bs v', Interleaving.run S' v bs = some v' ∧ RefinesWorld f w' v' := by
  induction as generalizing w v with
  | nil =>
    cases ran
    exact ⟨[], v, rfl, refines⟩
  | cons a as ih =>
    simp only [Interleaving.run] at ran
    split at ran
    next w₁ stepped =>
      obtain ⟨bs, v₁, ran₁, refines₁⟩ := refines.step reproduces stepped
      obtain ⟨bs', v', ran', refines'⟩ := ih refines₁ ran
      refine ⟨bs ++ bs', v', ?_, refines'⟩
      rw [run_append, ran₁]
      exact ran'
    · cases ran

end Runs

section Views

/-! A setting may keep more in its state than another one sees of it. -/

variable {τ : Type} {view : σ → τ} {S : Setting ρ ω β σ χ} {S' : Setting ρ ω β τ χ'}
  {w w' : World ρ ω β σ}

/-- The world as one sees it who sees this much of the state. -/
def seen (view : σ → τ) (w : World ρ ω β σ) : World ρ ω β τ := ⟨view w.shared, w.tasks⟩

/-- Whatever the setting answers, the other one may answer to what it sees. -/
structure Views (view : σ → τ) (S : Setting ρ ω β σ χ) (S' : Setting ρ ω β τ χ') : Prop where
  body : ∀ o, S'.body o = S.body o
  react : ∀ s e c s' r, S.react s e c = some (s', r) →
    ∃ c', S'.react (view s) e c' = some (view s', r)

theorem Views.step (views : Views view S S') {a : Action ω χ}
    (stepped : Interleaving.step S w a = some w') :
    ∃ a', Interleaving.step S' (seen view w) a' = some (seen view w') := by
  obtain ⟨o, rfl, rfl⟩ | ⟨i, c, rfl, ⟨adv⟩⟩ | ⟨i, t, rfl, found, rfl⟩ := step_cases stepped
  · refine ⟨.spawn o, ?_⟩
    simp [Interleaving.step, seen, Task.start, views.body o]
  · obtain ⟨c', reacted⟩ := views.react _ _ _ _ _ adv.reacted
    refine ⟨.advance i c', ?_⟩
    have result : seen view w' = (seen view w).answer i adv.task (view adv.shared) adv.response
        (adv.resume adv.response) := congrArg (seen view) adv.result
    rw [result]
    simp only [Interleaving.step, advance, seen, adv.found, adv.live, adv.suspended, reacted]
  · refine ⟨.cancel i, ?_⟩
    simp only [Interleaving.step, seen, found]

/-- Every run is, to one who sees this much of it, a run of the other setting. -/
theorem Views.run (views : Views view S S') {as : List (Action ω χ)}
    (ran : Interleaving.run S w as = some w') :
    ∃ bs, Interleaving.run S' (seen view w) bs = some (seen view w') := by
  induction as generalizing w with
  | nil =>
    cases ran
    exact ⟨[], rfl⟩
  | cons a as ih =>
    simp only [Interleaving.run] at ran
    split at ran
    next w₁ stepped =>
      obtain ⟨a', stepped'⟩ := views.step stepped
      obtain ⟨bs, ran'⟩ := ih ran
      refine ⟨a' :: bs, ?_⟩
      rw [Interleaving.run, stepped']
      exact ran'
    · cases ran

end Views

end OpenWrapper.Refinements
