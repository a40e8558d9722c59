import OpenWrapper.Interleaving

/-! # Events that happen once

An event that leaves a mark on the shared state, and happens only where there
is none, happens at most once in a run, whichever tasks attempt it. An effect
that a task performs only after such an event of its own is performed at most
as often, and at most by its weight. -/

set_option autoImplicit false

namespace OpenWrapper.UniqueEvents
open OpenWrapper.Suspended OpenWrapper.Interleaving

variable {ε : Type} {ρ : ε → Type} {ω β σ χ : Type}

/-- The counted event needs a state without the mark and leaves one with it. -/
structure Marking (S : Setting ρ ω β σ χ) (f : Event ρ → ℕ) (M : σ → Prop) : Prop where
  small : ∀ ev, f ev = 0 ∨ f ev = 1
  fresh : ∀ {s : σ} {e : ε} {c : χ} {s' : σ} {r : ρ e}, S.react s e c = some (s', r) →
    f ⟨e, r⟩ = 1 → ¬ M s
  marks : ∀ {s : σ} {e : ε} {c : χ} {s' : σ} {r : ρ e}, S.react s e c = some (s', r) →
    f ⟨e, r⟩ = 1 → M s'
  stays : ∀ {s : σ} {e : ε} {c : χ} {s' : σ} {r : ρ e}, S.react s e c = some (s', r) →
    M s → M s'

/-- It has not happened yet, or once, and the mark is there. -/
def Once (f : Event ρ → ℕ) (M : σ → Prop) (w : World ρ ω β σ) : Prop :=
  total f w = 0 ∨ total f w = 1 ∧ M w.shared

variable {S : Setting ρ ω β σ χ} {f : Event ρ → ℕ} {M : σ → Prop} {w w' : World ρ ω β σ}

theorem Once.le_one (once : Once f M w) : total f w ≤ 1 := by
  rcases once with none_ | ⟨one, -⟩
  · omega
  · omega

theorem once_idle (idle : w.tasks = []) : Once f M w :=
  .inl (by simp [total, idle])

theorem Once.step (once : Once f M w) (marking : Marking S f M) {a : Action ω χ}
    (stepped : Interleaving.step S w a = some w') : Once f M w' := by
  obtain ⟨o, -, rfl⟩ | ⟨i, c, -, ⟨adv⟩⟩ | ⟨i, t, -, found, rfl⟩ := step_cases stepped
  · rw [Once, total_spawn]
    exact once
  · rw [Once, total_advance f adv, adv.shared_eq]
    rcases marking.small ⟨adv.effect, adv.response⟩ with nothing | counts
    · rw [nothing, zero_add]
      exact once.imp_right fun held => ⟨held.1, marking.stays adv.reacted held.2⟩
    · rcases once with none_ | ⟨-, marked⟩
      · exact .inr ⟨by omega, marking.marks adv.reacted counts⟩
      · exact absurd marked (marking.fresh adv.reacted counts)
  · rw [Once, total_cancel f w found]
    exact once

section Owed

variable {P : ω → History ρ → ε → Prop} {Q : ω → History ρ → β → Prop} {g : ε → ℕ}

/-- How often the history performed the counted effect, by its weight. -/
def performed (g : ε → ℕ) (h : History ρ) : ℕ := (h.map fun ev => g ev.1).sum

/-- And the one the task is suspended at. -/
def awaited (g : ε → ℕ) : Prog ρ β → ℕ
  | .call e _ => g e
  | .done _ => 0

/-- An event of this weight stands below effects that are not counted. -/
def Owed (g : ε → ℕ) (f : Event ρ → ℕ) (weight : ℕ) (h : History ρ) : Prop :=
  ∃ between ev rest, h = between ++ ev :: rest ∧ (∀ x ∈ between, g x.1 = 0) ∧ g ev.1 = 0 ∧
    weight ≤ f ev

/-- The counted effect is performed only where an event stands for it. -/
def Pays (f : Event ρ → ℕ) (g : ε → ℕ) (h : History ρ) (e : ε) : Prop :=
  g e = 0 ∨ Owed g f (g e) h

theorem performed_cons (g : ε → ℕ) (ev : Event ρ) (h : History ρ) :
    performed g (ev :: h) = g ev.1 + performed g h := rfl

theorem performed_quiet {between rest : History ρ} (quiet : ∀ x ∈ between, g x.1 = 0) :
    performed g (between ++ rest) = performed g rest := by
  induction between with
  | nil => rfl
  | cons x between ih =>
    rw [List.cons_append, performed_cons, quiet x List.mem_cons_self, zero_add]
    exact ih fun y mem => quiet y (List.mem_cons_of_mem _ mem)

theorem sum_suffix_le (f : Event ρ → ℕ) (between rest : History ρ) :
    (rest.map f).sum ≤ ((between ++ rest).map f).sum := by
  rw [List.map_append, List.sum_append]
  exact Nat.le_add_left _ _

/-- Where an event stands for one more, the history covers one more. -/
theorem Owed.covered {h : History ρ} {weight : ℕ} (owed : Owed g f weight h)
    (below : ∀ rest, rest <:+ h → rest.length < h.length → performed g rest ≤ (rest.map f).sum) :
    weight + performed g h ≤ (h.map f).sum := by
  obtain ⟨between, first, rest, rfl, quiet, silent, stands⟩ := owed
  have inside : rest <:+ between ++ first :: rest :=
    (List.suffix_cons _ _).trans (List.suffix_append _ _)
  have earlier := below rest inside (by simp; omega)
  have more := sum_suffix_le f between (first :: rest)
  rw [List.map_cons, List.sum_cons] at more
  rw [performed_quiet quiet, performed_cons, silent]
  omega

/-- The counted effects of a task are at most its events. -/
theorem performed_le {R : History ρ → ε → Prop} (pays : ∀ h e, R h e → Pays f g h e)
    (h : History ρ) (sound : Sound R h) : performed g h ≤ (h.map f).sum := by
  match h with
  | [] => exact Nat.le_refl 0
  | ev :: before =>
    rw [performed_cons, List.map_cons, List.sum_cons]
    rcases pays _ _ sound.1 with none_ | owed
    · have below := performed_le pays before sound.2
      omega
    · have covered := owed.covered fun rest inside shorter =>
        performed_le pays rest (sound.2.suffix inside)
      omega
termination_by h.length
decreasing_by
  · simp
  · simp only [List.length_cons]
    omega

/-- And so they are with the one it awaits. -/
theorem performed_awaited_le {t : Task ρ ω β} (pays : ∀ h e, P t.origin h e → Pays f g h e)
    (follows : Follows P Q t) :
    performed g t.history + awaited g t.rest ≤ (t.history.map f).sum := by
  have always := follows.1
  have performed_ := fun h => performed_le pays h
  cases suspended : t.rest with
  | done a => exact performed_ t.history follows.2
  | call e k =>
    rw [suspended] at always
    rcases pays _ _ always.1 with none_ | owed
    · simp only [awaited, none_]
      exact performed_ t.history follows.2
    · rw [add_comm]
      exact owed.covered fun rest inside _ => performed_ rest (follows.2.suffix inside)

/-- Over all tasks. -/
theorem performed_awaited_once (pays : ∀ o h e, P o h e → Pays f g h e)
    (follows : ∀ t ∈ w.tasks, Follows P Q t) (once : Once f M w) :
    (w.tasks.map fun t => performed g t.history + awaited g t.rest).sum ≤ 1 :=
  (sum_le_total fun t mem => performed_awaited_le (pays t.origin) (follows t mem)).trans once.le_one

end Owed

end OpenWrapper.UniqueEvents
