import OpenWrapper.Interleaving

/-! # Tasks one after another

A program that runs from its start to its answer with no other task in
between, and sequences of such runs. Every moment of a run keeps the state
before it, the event and what the environment chose. -/

set_option autoImplicit false

namespace OpenWrapper.Alone
open OpenWrapper.Suspended OpenWrapper.Interleaving

variable {ε : Type} {ρ : ε → Type} {ω β σ χ : Type}

structure Moment (ρ : ε → Type) (σ χ : Type) where
  before : σ
  event : Event ρ
  choice : χ

structure Finished (ρ : ε → Type) (β σ χ : Type) where
  shared : σ
  moments : List (Moment ρ σ χ)
  answer : β

def alone (S : Setting ρ ω β σ χ) : σ → Prog ρ β → List χ → Option (Finished ρ β σ χ)
  | s, .done a, [] => some ⟨s, [], a⟩
  | s, .call e k, c :: cs =>
    match S.react s e c with
    | some (s', r) =>
      (alone S s' (k r) cs).map fun f => ⟨f.shared, ⟨s, ⟨e, r⟩, c⟩ :: f.moments, f.answer⟩
    | none => none
  | _, .done _, _ :: _ => none
  | _, .call _ _, [] => none

section Cases

variable {S : Setting ρ ω β σ χ} {s : σ} {cs : List χ} {f : Finished ρ β σ χ}

theorem alone_done {a : β} (ran : alone S s (.done a) cs = some f) : f = ⟨s, [], a⟩ := by
  cases cs with
  | nil => exact (Option.some.inj ran).symm
  | cons c cs => cases ran

/-- A run that starts with an effect: its answer, then the rest of the run. -/
theorem alone_call {e : ε} {k : ρ e → Prog ρ β} (ran : alone S s (.call e k) cs = some f) :
    ∃ c cs' s' r f', S.react s e c = some (s', r) ∧ alone S s' (k r) cs' = some f' ∧
      f = ⟨f'.shared, ⟨s, ⟨e, r⟩, c⟩ :: f'.moments, f'.answer⟩ := by
  cases cs with
  | nil => cases ran
  | cons c cs =>
    rw [alone] at ran
    cases reacted : S.react s e c with
    | none =>
      rw [reacted] at ran
      cases ran
    | some result =>
      rw [reacted] at ran
      obtain ⟨f', rest, same⟩ := Option.map_eq_some_iff.mp ran
      exact ⟨c, cs, result.1, result.2, f', reacted, rest, same.symm⟩

end Cases

section Worlds

variable {S : Setting ρ ω β σ χ}

/-- The task that has run its program to the answer. -/
def finishedTask (t : Task ρ ω β) (f : Finished ρ β σ χ) : Task ρ ω β :=
  ⟨t.origin, (f.moments.map Moment.event).reverse ++ t.history, .done f.answer, t.live⟩

theorem run_task_alone {w : World ρ ω β σ} {i : ℕ} {t : Task ρ ω β} {cs : List χ}
    {f : Finished ρ β σ χ} (found : w.tasks[i]? = some t) (live : t.live = true)
    (ran : alone S w.shared t.rest cs = some f) :
    run S w (cs.map (Action.advance i)) =
      some ⟨f.shared, w.tasks.set i (finishedTask t f)⟩ := by
  induction cs generalizing w t f with
  | nil =>
    cases rest : t.rest with
    | done a =>
      rw [rest] at ran
      rw [alone_done ran]
      obtain ⟨inside, is⟩ := List.getElem?_eq_some_iff.mp found
      have same : finishedTask t (⟨w.shared, [], a⟩ : Finished ρ β σ χ) = w.tasks[i] := by
        rw [is]
        obtain ⟨origin, history, rest', live'⟩ := t
        cases rest
        rfl
      rw [same, List.set_getElem_self]
      rfl
    | call e k =>
      rw [rest] at ran
      cases ran
  | cons c cs ih =>
    cases rest : t.rest with
    | done a =>
      rw [rest] at ran
      cases ran
    | call e k =>
      rw [rest, alone] at ran
      cases reacted : S.react w.shared e c with
      | none =>
        rw [reacted] at ran
        cases ran
      | some result =>
        obtain ⟨s, r⟩ := result
        rw [reacted] at ran
        obtain ⟨f', rest', same⟩ := Option.map_eq_some_iff.mp ran
        have stepped : step S w (.advance i c) = some (w.answer i t s r (k r)) := by
          simp only [step, advance, found, live, rest, reacted]
        have inside : i < w.tasks.length := (List.getElem?_eq_some_iff.mp found).1
        have next : (w.answer i t s r (k r)).tasks[i]? = some (t.resumed r (k r)) :=
          List.getElem?_set_self inside
        rw [List.map_cons, run, stepped]
        show run S (w.answer i t s r (k r)) _ = _
        rw [ih next live rest', ← same]
        simp [World.answer, finishedTask, Task.resumed, List.set_set]

/-- What runs alone is a run of the system: a task is started and then only
advanced until it has its answer. -/
theorem run_of_alone {w : World ρ ω β σ} {o : ω} {cs : List χ} {f : Finished ρ β σ χ}
    (ran : alone S w.shared (S.body o) cs = some f) :
    run S w (.spawn o :: cs.map (Action.advance w.tasks.length)) =
      some ⟨f.shared, w.tasks ++ [finishedTask (Task.start S o) f]⟩ := by
  have found : (w.tasks ++ [Task.start S o])[w.tasks.length]? = some (Task.start S o) := by simp
  have finished := run_task_alone (S := S) (w := ⟨w.shared, w.tasks ++ [Task.start S o]⟩)
    found rfl ran
  simp only [run, step]
  rw [finished]
  simp

end Worlds

section Sequences

/-- Programs run one after another, each from the state the last one left. -/
def inTurn (S : Setting ρ ω β σ χ) :
    σ → List (Prog ρ β × List χ) → Option (List (Finished ρ β σ χ))
  | _, [] => some []
  | s, (p, cs) :: rest =>
    match alone S s p cs with
    | some f => (inTurn S f.shared rest).map fun later => f :: later
    | none => none

variable {S : Setting ρ ω β σ χ} {s : σ} {p : Prog ρ β} {cs : List χ}
  {rest : List (Prog ρ β × List χ)} {fs : List (Finished ρ β σ χ)}

theorem inTurn_cons (ran : inTurn S s ((p, cs) :: rest) = some fs) :
    ∃ f later, alone S s p cs = some f ∧ inTurn S f.shared rest = some later ∧
      fs = f :: later := by
  rw [inTurn] at ran
  cases first : alone S s p cs with
  | none =>
    rw [first] at ran
    cases ran
  | some f =>
    rw [first] at ran
    obtain ⟨later, ran', same⟩ := Option.map_eq_some_iff.mp ran
    exact ⟨f, later, rfl, ran', same.symm⟩

end Sequences

end OpenWrapper.Alone
