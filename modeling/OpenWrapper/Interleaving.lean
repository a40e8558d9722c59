import OpenWrapper.Suspended
import Mathlib.Algebra.Order.BigOperators.Group.List
import Mathlib.Algebra.Order.Group.Nat
import Mathlib.Algebra.Ring.Nat

/-! # Interleaved tasks over a shared state

Tasks run suspended programs against one shared state. An action starts a
task, lets one task perform the effect it is suspended at, or cancels a task
for good. `step_cases` says once what an action can do; the invariant rules
below are derived from it. -/

set_option autoImplicit false

namespace OpenWrapper.Interleaving
open OpenWrapper.Suspended

/-- What a system of tasks runs: the program of each origin, and how the
shared state answers an effect under a choice of its environment. -/
structure Setting {ε : Type} (ρ : ε → Type) (ω β σ χ : Type) where
  body : ω → Prog ρ β
  react : σ → (e : ε) → χ → Option (σ × ρ e)

structure Task {ε : Type} (ρ : ε → Type) (ω β : Type) where
  origin : ω
  history : History ρ
  rest : Prog ρ β
  live : Bool

structure World {ε : Type} (ρ : ε → Type) (ω β σ : Type) where
  shared : σ
  tasks : List (Task ρ ω β)

inductive Action (ω χ : Type) where
  | spawn (origin : ω)
  | advance (index : ℕ) (choice : χ)
  | cancel (index : ℕ)

variable {ε : Type} {ρ : ε → Type} {ω β σ χ : Type}

def Task.start (S : Setting ρ ω β σ χ) (o : ω) : Task ρ ω β :=
  ⟨o, [], S.body o, true⟩

/-- The task after its suspended effect was answered. -/
def Task.resumed (t : Task ρ ω β) {e : ε} (r : ρ e) (p : Prog ρ β) : Task ρ ω β :=
  ⟨t.origin, ⟨e, r⟩ :: t.history, p, t.live⟩

def Task.dropped (t : Task ρ ω β) : Task ρ ω β := { t with live := false }

/-- The task is live and about to perform an effect that passes the test. -/
def Task.awaiting (t : Task ρ ω β) (q : ε → Bool) : Bool :=
  t.live && match t.rest with
    | .call e _ => q e
    | .done _ => false

theorem Task.awaiting_iff {t : Task ρ ω β} {q : ε → Bool} :
    t.awaiting q = true ↔ t.live = true ∧ ∃ e k, t.rest = .call e k ∧ q e = true := by
  unfold Task.awaiting
  cases t.rest <;> simp

def World.answer (w : World ρ ω β σ) (i : ℕ) (t : Task ρ ω β) (s : σ) {e : ε}
    (r : ρ e) (p : Prog ρ β) : World ρ ω β σ :=
  ⟨s, w.tasks.set i (t.resumed r p)⟩

def advance (S : Setting ρ ω β σ χ) (w : World ρ ω β σ) (i : ℕ) (c : χ) :
    Option (World ρ ω β σ) :=
  match w.tasks[i]? with
  | none => none
  | some t =>
    match t.live, t.rest with
    | true, .call e k =>
      match S.react w.shared e c with
      | some (s, r) => some (w.answer i t s r (k r))
      | none => none
    | _, _ => none

def step (S : Setting ρ ω β σ χ) (w : World ρ ω β σ) :
    Action ω χ → Option (World ρ ω β σ)
  | .spawn o => some ⟨w.shared, w.tasks ++ [Task.start S o]⟩
  | .advance i c => advance S w i c
  | .cancel i =>
    match w.tasks[i]? with
    | some t => some ⟨w.shared, w.tasks.set i t.dropped⟩
    | none => none

def run (S : Setting ρ ω β σ χ) : World ρ ω β σ → List (Action ω χ) →
    Option (World ρ ω β σ)
  | w, [] => some w
  | w, a :: rest =>
    match step S w a with
    | some w' => run S w' rest
    | none => none

/-- One live task, suspended at an effect, and the reaction it received. -/
structure Advanced (S : Setting ρ ω β σ χ) (w : World ρ ω β σ) (i : ℕ) (c : χ)
    (w' : World ρ ω β σ) where
  task : Task ρ ω β
  effect : ε
  resume : ρ effect → Prog ρ β
  shared : σ
  response : ρ effect
  found : w.tasks[i]? = some task
  live : task.live = true
  suspended : task.rest = .call effect resume
  reacted : S.react w.shared effect c = some (shared, response)
  result : w' = w.answer i task shared response (resume response)

theorem Advanced.mem {S : Setting ρ ω β σ χ} {w w' : World ρ ω β σ} {i : ℕ}
    {c : χ} (adv : Advanced S w i c w') : adv.task ∈ w.tasks :=
  List.mem_of_getElem? adv.found

theorem Advanced.shared_eq {S : Setting ρ ω β σ χ} {w w' : World ρ ω β σ} {i : ℕ}
    {c : χ} (adv : Advanced S w i c w') : w'.shared = adv.shared :=
  congrArg World.shared adv.result

theorem Advanced.tasks_eq {S : Setting ρ ω β σ χ} {w w' : World ρ ω β σ} {i : ℕ}
    {c : χ} (adv : Advanced S w i c w') : w'.tasks = w.tasks.set i
      (adv.task.resumed adv.response (adv.resume adv.response)) :=
  congrArg World.tasks adv.result

theorem Advanced.mem_resumed {S : Setting ρ ω β σ χ} {w w' : World ρ ω β σ} {i : ℕ}
    {c : χ} (adv : Advanced S w i c w') :
    adv.task.resumed adv.response (adv.resume adv.response) ∈ w'.tasks := by
  have inside : i < w.tasks.length := (List.getElem?_eq_some_iff.mp adv.found).1
  rw [adv.tasks_eq]
  exact List.mem_of_getElem? (List.getElem?_set_self inside)

/-- What an advance is, once its event is known. -/
theorem Advanced.of_event {S : Setting ρ ω β σ χ} {w w' : World ρ ω β σ} {i : ℕ}
    {c : χ} (adv : Advanced S w i c w') {e : ε} {r : ρ e}
    (event : (⟨adv.effect, adv.response⟩ : Event ρ) = ⟨e, r⟩) :
    S.react w.shared e c = some (adv.shared, r) ∧ ∃ k, adv.task.rest = .call e k := by
  obtain ⟨task, effect, resume, shared, response, found, live, suspended, reacted, result⟩ := adv
  cases event
  exact ⟨reacted, resume, suspended⟩

/-- Under its index stands the task of the advance, and any other task where it
stood before. -/
theorem Advanced.index_cases {S : Setting ρ ω β σ χ} {w w' : World ρ ω β σ} {i j : ℕ}
    {c : χ} (adv : Advanced S w i c w') {t : Task ρ ω β} (found : w'.tasks[j]? = some t) :
    (j = i ∧ t = adv.task.resumed adv.response (adv.resume adv.response)) ∨
      (j ≠ i ∧ w.tasks[j]? = some t) := by
  rw [adv.tasks_eq] at found
  by_cases same : i = j
  · subst same
    have inside : i < w.tasks.length := (List.getElem?_eq_some_iff.mp adv.found).1
    rw [List.getElem?_set_self inside] at found
    exact .inl ⟨rfl, (Option.some.inj found).symm⟩
  · rw [List.getElem?_set_ne same] at found
    exact .inr ⟨Ne.symm same, found⟩

/-- Any other task is one of the earlier world, under an index of its own. -/
theorem Advanced.task_cases {S : Setting ρ ω β σ χ} {w w' : World ρ ω β σ} {i : ℕ}
    {c : χ} (adv : Advanced S w i c w') {t : Task ρ ω β} (mem : t ∈ w'.tasks) :
    t = adv.task.resumed adv.response (adv.resume adv.response) ∨
      ∃ j, j ≠ i ∧ w.tasks[j]? = some t := by
  obtain ⟨j, found⟩ := List.mem_iff_getElem?.mp mem
  rcases adv.index_cases found with ⟨-, is⟩ | ⟨other, before⟩
  · exact .inl is
  · exact .inr ⟨j, other, before⟩

/-- An event of the later world is the one of the advance, or an earlier one. -/
theorem Advanced.event_cases {S : Setting ρ ω β σ χ} {w w' : World ρ ω β σ} {i : ℕ}
    {c : χ} (adv : Advanced S w i c w') {t : Task ρ ω β} (mem : t ∈ w'.tasks) {ev : Event ρ}
    (known : ev ∈ t.history) :
    (ev = ⟨adv.effect, adv.response⟩ ∧ t.origin = adv.task.origin) ∨
      ∃ t₀ ∈ w.tasks, t₀.origin = t.origin ∧ ev ∈ t₀.history := by
  rcases adv.task_cases mem with rfl | ⟨j, -, found⟩
  · rcases List.mem_cons.mp known with rfl | earlier
    · exact .inl ⟨rfl, rfl⟩
    · exact .inr ⟨adv.task, adv.mem, rfl, earlier⟩
  · exact .inr ⟨t, List.mem_of_getElem? found, rfl, known⟩

theorem advance_inv {S : Setting ρ ω β σ χ} {w w' : World ρ ω β σ} {i : ℕ} {c : χ}
    (h : advance S w i c = some w') : Nonempty (Advanced S w i c w') := by
  unfold advance at h
  split at h
  · cases h
  next t found =>
    split at h
    next live e k isLive suspended =>
      split at h
      next s r reacted =>
        exact ⟨⟨t, e, k, s, r, found, isLive, suspended, reacted, by simpa using h.symm⟩⟩
      · cases h
    · cases h

/-- Everything an action can do to a world. -/
theorem step_cases {S : Setting ρ ω β σ χ} {w w' : World ρ ω β σ} {a : Action ω χ}
    (h : step S w a = some w') :
    (∃ o, a = .spawn o ∧ w' = ⟨w.shared, w.tasks ++ [Task.start S o]⟩) ∨
    (∃ i c, a = .advance i c ∧ Nonempty (Advanced S w i c w')) ∨
    (∃ i t, a = .cancel i ∧ w.tasks[i]? = some t ∧
      w' = ⟨w.shared, w.tasks.set i t.dropped⟩) := by
  cases a with
  | spawn o => exact .inl ⟨o, rfl, by simpa [step] using h.symm⟩
  | advance i c => exact .inr (.inl ⟨i, c, rfl, advance_inv h⟩)
  | cancel i =>
    simp only [step] at h
    split at h
    next t found => exact .inr (.inr ⟨i, t, rfl, found, by simpa using h.symm⟩)
    · cases h

/-- A task of this origin has met the event. -/
def Happened (w : World ρ ω β σ) (o : ω) (ev : Event ρ) : Prop :=
  ∃ t ∈ w.tasks, t.origin = o ∧ ev ∈ t.history

theorem Advanced.happened {S : Setting ρ ω β σ χ} {w w' : World ρ ω β σ} {i : ℕ} {c : χ}
    (adv : Advanced S w i c w') : Happened w' adv.task.origin ⟨adv.effect, adv.response⟩ :=
  ⟨_, adv.mem_resumed, rfl, List.mem_cons_self⟩

theorem Advanced.happened_cases {S : Setting ρ ω β σ χ} {w w' : World ρ ω β σ} {i : ℕ} {c : χ}
    (adv : Advanced S w i c w') {o : ω} {ev : Event ρ} (happened : Happened w' o ev) :
    (ev = ⟨adv.effect, adv.response⟩ ∧ o = adv.task.origin) ∨ Happened w o ev := by
  obtain ⟨t, mem, rfl, known⟩ := happened
  rcases adv.event_cases mem known with ⟨new, same⟩ | ⟨t₀, mem₀, same, old⟩
  · exact .inl ⟨new, same⟩
  · exact .inr ⟨t₀, mem₀, same, old⟩

/-- A step starts and stops tasks; what each was started with and has met stays. -/
theorem history_step {S : Setting ρ ω β σ χ} {w w' : World ρ ω β σ} {a : Action ω χ}
    {t : Task ρ ω β} (mem : t ∈ w.tasks) (stepped : step S w a = some w') :
    ∃ t' ∈ w'.tasks, t'.origin = t.origin ∧ t.history <:+ t'.history := by
  obtain ⟨o', -, rfl⟩ | ⟨i, c, -, ⟨adv⟩⟩ | ⟨i, t', -, found, rfl⟩ := step_cases stepped
  · exact ⟨t, List.mem_append_left _ mem, rfl, List.suffix_rfl⟩
  · obtain ⟨j, there⟩ := List.mem_iff_getElem?.mp mem
    by_cases here : i = j
    · subst here
      have one : t = adv.task := Option.some.inj (there.symm.trans adv.found)
      rw [one]
      exact ⟨_, adv.mem_resumed, rfl, List.suffix_cons _ _⟩
    · refine ⟨t, ?_, rfl, List.suffix_rfl⟩
      rw [adv.tasks_eq]
      exact List.mem_of_getElem? ((List.getElem?_set_ne here).trans there)
  · obtain ⟨j, there⟩ := List.mem_iff_getElem?.mp mem
    have inside : j < w.tasks.length := (List.getElem?_eq_some_iff.mp there).1
    by_cases here : i = j
    · subst here
      have one : t = t' := Option.some.inj (there.symm.trans found)
      rw [one]
      exact ⟨t'.dropped, List.mem_of_getElem? (List.getElem?_set_self inside), rfl,
        List.suffix_rfl⟩
    · exact ⟨t, List.mem_of_getElem? ((List.getElem?_set_ne here).trans there), rfl,
        List.suffix_rfl⟩

/-- What has happened stays in the histories. -/
theorem happened_step {S : Setting ρ ω β σ χ} {w w' : World ρ ω β σ} {a : Action ω χ} {o : ω}
    {ev : Event ρ} (happened : Happened w o ev) (stepped : step S w a = some w') :
    Happened w' o ev := by
  obtain ⟨t, mem, rfl, known⟩ := happened
  obtain ⟨t', mem', same, suffix⟩ := history_step mem stepped
  exact ⟨t', mem', same, suffix.subset known⟩

theorem origin_step {S : Setting ρ ω β σ χ} {w w' : World ρ ω β σ} {a : Action ω χ}
    {t : Task ρ ω β} (mem : t ∈ w.tasks) (stepped : step S w a = some w') :
    ∃ t' ∈ w'.tasks, t'.origin = t.origin := by
  obtain ⟨t', mem', same, -⟩ := history_step mem stepped
  exact ⟨t', mem', same⟩

/-- A task that was started has met nothing yet. -/
theorem happened_spawn {S : Setting ρ ω β σ χ} {w : World ρ ω β σ} {o o' : ω} {ev : Event ρ}
    (happened : Happened (⟨w.shared, w.tasks ++ [Task.start S o']⟩ : World ρ ω β σ) o ev) :
    Happened w o ev := by
  obtain ⟨t, mem, same, known⟩ := happened
  rcases List.mem_append.mp mem with old | new
  · exact ⟨t, old, same, known⟩
  · rw [List.mem_singleton.mp new] at known
    cases known

theorem happened_cancel {w : World ρ ω β σ} {i : ℕ} {t : Task ρ ω β}
    (found : w.tasks[i]? = some t) {o : ω} {ev : Event ρ}
    (happened : Happened (⟨w.shared, w.tasks.set i t.dropped⟩ : World ρ ω β σ) o ev) :
    Happened w o ev := by
  obtain ⟨t', mem, same, known⟩ := happened
  rcases List.mem_or_eq_of_mem_set mem with old | rfl
  · exact ⟨t', old, same, known⟩
  · exact ⟨t, List.mem_of_getElem? found, same, known⟩

theorem run_append (S : Setting ρ ω β σ χ) (w : World ρ ω β σ)
    (as bs : List (Action ω χ)) :
    run S w (as ++ bs) = (run S w as).bind fun w' => run S w' bs := by
  induction as generalizing w with
  | nil => rfl
  | cons a as ih =>
    simp only [List.cons_append, run]
    cases step S w a with
    | none => rfl
    | some w' => exact ih w'

/-- Every step of the run meets a condition on the state before it. -/
def Meets (S : Setting ρ ω β σ χ) (G : World ρ ω β σ → Action ω χ → Prop) :
    World ρ ω β σ → List (Action ω χ) → Prop
  | _, [] => True
  | w, a :: rest => G w a ∧ ∀ w', step S w a = some w' → Meets S G w' rest

theorem meets_true (S : Setting ρ ω β σ χ) (w : World ρ ω β σ)
    (as : List (Action ω χ)) : Meets S (fun _ _ => True) w as := by
  induction as generalizing w with
  | nil => trivial
  | cons a as ih => exact ⟨trivial, fun w' _ => ih w'⟩

theorem Meets.and {S : Setting ρ ω β σ χ} {G H : World ρ ω β σ → Action ω χ → Prop}
    {w : World ρ ω β σ} {as : List (Action ω χ)} (left : Meets S G w as)
    (right : Meets S H w as) : Meets S (fun w a => G w a ∧ H w a) w as := by
  induction as generalizing w with
  | nil => trivial
  | cons a as ih =>
    constructor
    · exact ⟨left.1, right.1⟩
    · intro w' stepped
      exact ih (left.2 w' stepped) (right.2 w' stepped)

/-- The condition on the last step of a run. -/
theorem Meets.last {S : Setting ρ ω β σ χ} {G : World ρ ω β σ → Action ω χ → Prop}
    {w w' : World ρ ω β σ} {as : List (Action ω χ)} {a : Action ω χ}
    (met : Meets S G w (as ++ [a])) (ran : run S w as = some w') : G w' a := by
  induction as generalizing w with
  | nil =>
    cases ran
    exact met.1
  | cons first rest ih =>
    simp only [run] at ran
    split at ran
    next w'' stepped => exact ih (met.2 w'' stepped) ran
    · cases ran

instance decidableMeets (S : Setting ρ ω β σ χ) (G : World ρ ω β σ → Action ω χ → Prop)
    [∀ w a, Decidable (G w a)] :
    (w : World ρ ω β σ) → (as : List (Action ω χ)) → Decidable (Meets S G w as)
  | _, [] => .isTrue trivial
  | w, a :: rest =>
    match stepped : step S w a with
    | none => decidable_of_iff (G w a) ⟨fun met => ⟨met, by simp [stepped]⟩, fun met => met.1⟩
    | some w' =>
      have := decidableMeets S G w' rest
      decidable_of_iff (G w a ∧ Meets S G w' rest)
        ⟨fun met => ⟨met.1, by simpa [stepped] using met.2⟩, fun met => ⟨met.1, met.2 w' stepped⟩⟩

/-- What every step that meets the condition preserves holds at the end of
every run whose steps meet it. -/
theorem run_invariant {S : Setting ρ ω β σ χ}
    {G : World ρ ω β σ → Action ω χ → Prop} {I : World ρ ω β σ → Prop}
    (preserved : ∀ w a w', I w → G w a → step S w a = some w' → I w')
    {w w' : World ρ ω β σ} {as : List (Action ω χ)}
    (initial : I w) (meets : Meets S G w as) (ran : run S w as = some w') : I w' := by
  induction as generalizing w with
  | nil =>
    cases ran
    exact initial
  | cons a as ih =>
    simp only [run] at ran
    split at ran
    next w'' stepped =>
      exact ih (preserved w a w'' initial meets.1 stepped) (meets.2 w'' stepped) ran
    · cases ran

theorem run_invariant' {S : Setting ρ ω β σ χ} {I : World ρ ω β σ → Prop}
    (preserved : ∀ w a w', I w → step S w a = some w' → I w')
    {w w' : World ρ ω β σ} {as : List (Action ω χ)}
    (initial : I w) (ran : run S w as = some w') : I w' :=
  run_invariant (fun w a w' held _ => preserved w a w' held) initial
    (meets_true S w as) ran

/-- What every step that meets the condition has, in a world with the
invariant, every step of such a run has. -/
theorem meets_of_invariant {S : Setting ρ ω β σ χ}
    {G L : World ρ ω β σ → Action ω χ → Prop} {I : World ρ ω β σ → Prop}
    (preserved : ∀ w a w', I w → G w a → step S w a = some w' → I w')
    (each : ∀ w a, I w → G w a → L w a)
    {w : World ρ ω β σ} {as : List (Action ω χ)}
    (initial : I w) (meets : Meets S G w as) : Meets S L w as := by
  induction as generalizing w with
  | nil => trivial
  | cons a as ih =>
    constructor
    · exact each w a initial meets.1
    · intro w' stepped
      exact ih (preserved w a w' initial meets.1 stepped) (meets.2 w' stepped)

/-- A run that ends in a world without the property refutes that every run
keeps it. -/
theorem run_refutes (S : Setting ρ ω β σ χ) {I : World ρ ω β σ → Prop} [DecidablePred I]
    (w : World ρ ω β σ) (as : List (Action ω χ))
    (ends_in : (run S w as).map (fun w' => decide (I w')) = some false) :
    ¬ ∀ w', run S w as = some w' → I w' := by
  intro kept
  obtain ⟨w', ran, fails⟩ := Option.map_eq_some_iff.mp ends_in
  exact of_decide_eq_false fails (kept w' ran)

section Tasks

/-- A predicate of tasks that holds of the fresh tasks and of every resumed
and cancelled one holds of all tasks. -/
theorem tasks_step {S : Setting ρ ω β σ χ} {I : Task ρ ω β → Prop}
    {w w' : World ρ ω β σ} {a : Action ω χ}
    (fresh : ∀ o, I (Task.start S o))
    (resumed : ∀ i c, (adv : Advanced S w i c w') → I adv.task →
      I (adv.task.resumed adv.response (adv.resume adv.response)))
    (dropped : ∀ t, I t → I t.dropped)
    (held : ∀ t ∈ w.tasks, I t) (stepped : step S w a = some w') :
    ∀ t ∈ w'.tasks, I t := by
  intro t mem
  obtain ⟨o, -, rfl⟩ | ⟨i, c, -, ⟨adv⟩⟩ | ⟨i, t', -, found, rfl⟩ := step_cases stepped
  · rcases List.mem_append.mp mem with old | new
    · exact held t old
    · rw [List.mem_singleton.mp new]
      exact fresh o
  · rw [adv.tasks_eq] at mem
    rcases List.mem_or_eq_of_mem_set mem with old | rfl
    · exact held t old
    · exact resumed i c adv (held _ adv.mem)
  · rcases List.mem_or_eq_of_mem_set mem with old | rfl
    · exact held t old
    · exact dropped t' (held _ (List.mem_of_getElem? found))

variable {P : ω → History ρ → ε → Prop} {Q : ω → History ρ → β → Prop}

/-- A task follows the contract of its origin. -/
def Follows (P : ω → History ρ → ε → Prop) (Q : ω → History ρ → β → Prop)
    (t : Task ρ ω β) : Prop :=
  Always (P t.origin) (Q t.origin) t.rest t.history ∧ Sound (P t.origin) t.history

theorem follows_step {S : Setting ρ ω β σ χ}
    (bodies : ∀ o, Always (P o) (Q o) (S.body o) [])
    {w w' : World ρ ω β σ} {a : Action ω χ}
    (held : ∀ t ∈ w.tasks, Follows P Q t) (stepped : step S w a = some w') :
    ∀ t ∈ w'.tasks, Follows P Q t := by
  refine tasks_step (fun o => ⟨bodies o, trivial⟩) ?_ (fun t h => h) held stepped
  intro i c adv follows
  have always := follows.1
  rw [adv.suspended] at always
  exact ⟨always.2 adv.response, always.1, follows.2⟩

theorem Advanced.licensed_event {S : Setting ρ ω β σ χ} {w w' : World ρ ω β σ} {i : ℕ}
    {c : χ} (adv : Advanced S w i c w') (held : ∀ t ∈ w.tasks, Follows P Q t) {e : ε} {r : ρ e}
    (event : (⟨adv.effect, adv.response⟩ : Event ρ) = ⟨e, r⟩) :
    P adv.task.origin adv.task.history e := by
  obtain ⟨k, suspended⟩ := (adv.of_event event).2
  have always := (held _ adv.mem).1
  rw [suspended] at always
  exact always.1

/-- The effect a task performs is licensed by its history. -/
theorem Advanced.licensed {S : Setting ρ ω β σ χ} {w w' : World ρ ω β σ} {i : ℕ}
    {c : χ} (adv : Advanced S w i c w') (held : ∀ t ∈ w.tasks, Follows P Q t) :
    P adv.task.origin adv.task.history adv.effect := by
  have follows := held _ adv.mem
  have always := follows.1
  rw [adv.suspended] at always
  exact always.1

end Tasks

section Observations

/-! What a response said stays true when it was true as the response was
given and no later reaction makes it false. -/

def Recorded (O : σ → Event ρ → Prop) (w : World ρ ω β σ) : Prop :=
  ∀ t ∈ w.tasks, ∀ ev ∈ t.history, O w.shared ev

theorem recorded_step {S : Setting ρ ω β σ χ} {O : σ → Event ρ → Prop}
    {w w' : World ρ ω β σ} {a : Action ω χ}
    (given : ∀ i c, (adv : Advanced S w i c w') →
      O adv.shared ⟨adv.effect, adv.response⟩)
    (kept : ∀ i c, (adv : Advanced S w i c w') → ∀ ev,
      O w.shared ev → O adv.shared ev)
    (held : Recorded O w) (stepped : step S w a = some w') : Recorded O w' := by
  obtain ⟨o, -, rfl⟩ | ⟨i, c, -, ⟨adv⟩⟩ | ⟨i, t', -, found, rfl⟩ := step_cases stepped
  · intro t mem ev recorded
    rcases List.mem_append.mp mem with old | new
    · exact held t old ev recorded
    · rw [List.mem_singleton.mp new] at recorded
      simp [Task.start] at recorded
  · intro t mem ev recorded
    rw [adv.shared_eq]
    rw [adv.tasks_eq] at mem
    rcases List.mem_or_eq_of_mem_set mem with old | rfl
    · exact kept i c adv ev (held t old ev recorded)
    · rcases List.mem_cons.mp recorded with rfl | earlier
      · exact given i c adv
      · exact kept i c adv ev (held _ adv.mem ev earlier)
  · intro t mem ev recorded
    rcases List.mem_or_eq_of_mem_set mem with old | rfl
    · exact held t old ev recorded
    · exact held t' (List.mem_of_getElem? found) ev recorded

end Observations

section Totals

variable {M : Type} [AddCommMonoid M]

/-- The sum of a measure of events over the histories of all tasks. -/
def total (f : Event ρ → M) (w : World ρ ω β σ) : M :=
  (w.tasks.map fun t => (t.history.map f).sum).sum

theorem sum_map_set {α : Type} (g : α → M) (l : List α) (i : ℕ) (a b : α) (x : M)
    (found : l[i]? = some a) (grown : g b = x + g a) :
    ((l.set i b).map g).sum = x + (l.map g).sum := by
  induction l generalizing i with
  | nil => simp at found
  | cons head tail ih =>
    cases i with
    | zero =>
      simp only [List.getElem?_cons_zero, Option.some.injEq] at found
      subst found
      simp [grown, add_assoc]
    | succ i =>
      simp only [List.getElem?_cons_succ] at found
      simp only [List.set_cons_succ, List.map_cons, List.sum_cons, ih i found]
      exact add_left_comm _ _ _

theorem total_spawn (f : Event ρ → M) (S : Setting ρ ω β σ χ) (w : World ρ ω β σ)
    (o : ω) : total f ⟨w.shared, w.tasks ++ [Task.start S o]⟩ = total f w := by
  simp [total, Task.start]

theorem total_cancel (f : Event ρ → M) (w : World ρ ω β σ) {i : ℕ}
    {t : Task ρ ω β} (found : w.tasks[i]? = some t) :
    total f ⟨w.shared, w.tasks.set i t.dropped⟩ = total f w := by
  have grown := sum_map_set (fun t : Task ρ ω β => (t.history.map f).sum)
    w.tasks i t t.dropped 0 found (by simp [Task.dropped])
  simpa [total] using grown

theorem total_advance (f : Event ρ → M) {S : Setting ρ ω β σ χ}
    {w w' : World ρ ω β σ} {i : ℕ} {c : χ} (adv : Advanced S w i c w') :
    total f w' = f ⟨adv.effect, adv.response⟩ + total f w := by
  unfold total
  rw [adv.tasks_eq]
  exact sum_map_set (fun t : Task ρ ω β => (t.history.map f).sum)
    w.tasks i adv.task _ _ adv.found (by simp [Task.resumed])

/-- A count of each task that its history covers is covered by the total. -/
theorem sum_le_total {f : Event ρ → ℕ} {g : Task ρ ω β → ℕ} {w : World ρ ω β σ}
    (covered : ∀ t ∈ w.tasks, g t ≤ (t.history.map f).sum) :
    (w.tasks.map g).sum ≤ total f w := by
  unfold total
  exact List.sum_le_sum covered

theorem index_unique {α : Type} {g : α → ℕ} {l : List α} (once : (l.map g).sum ≤ 1) {i j : ℕ}
    {a b : α} (found : l[i]? = some a) (found' : l[j]? = some b) (has : 1 ≤ g a)
    (has' : 1 ≤ g b) : i = j := by
  induction l generalizing i j with
  | nil => simp at found
  | cons head tail ih =>
    simp only [List.map_cons, List.sum_cons] at once
    have member : ∀ {x : α} {k : ℕ}, tail[k]? = some x → g x ≤ (tail.map g).sum :=
      fun found => List.le_sum_of_mem (List.mem_map_of_mem (List.mem_of_getElem? found))
    cases i with
    | zero =>
      cases j with
      | zero => rfl
      | succ j =>
        simp only [List.getElem?_cons_zero, Option.some.injEq] at found
        simp only [List.getElem?_cons_succ] at found'
        have other := member found'
        subst found
        omega
    | succ i =>
      simp only [List.getElem?_cons_succ] at found
      have first := member found
      cases j with
      | zero =>
        simp only [List.getElem?_cons_zero, Option.some.injEq] at found'
        subst found'
        omega
      | succ j =>
        simp only [List.getElem?_cons_succ] at found'
        have rest : (tail.map g).sum ≤ 1 := by omega
        exact congrArg Nat.succ (ih rest found found')

/-- Where one element at most has a measure, and that at most one, so has the sum. -/
theorem sum_le_one {α : Type} {g : α → ℕ} {l : List α} (few : ∀ a ∈ l, g a ≤ 1)
    (sole : ∀ (i j : ℕ) (a b : α), l[i]? = some a → l[j]? = some b → 1 ≤ g a → 1 ≤ g b → i = j) :
    (l.map g).sum ≤ 1 := by
  induction l with
  | nil => simp
  | cons head tail ih =>
    rw [List.map_cons, List.sum_cons]
    by_cases has : 1 ≤ g head
    · have others : (tail.map g).sum = 0 := by
        apply List.sum_eq_zero
        intro x mem
        obtain ⟨a, there, rfl⟩ := List.mem_map.mp mem
        obtain ⟨j, found⟩ := List.mem_iff_getElem?.mp there
        by_contra some_
        have same := sole 0 (j + 1) head a rfl found has (Nat.one_le_iff_ne_zero.mpr some_)
        omega
      have first := few head List.mem_cons_self
      omega
    · have rest := ih (fun a mem => few a (List.mem_cons_of_mem _ mem))
        fun i j a b found found' has has' =>
          Nat.succ.inj (sole (i + 1) (j + 1) a b found found' has has')
      omega

theorem history_le_total {f : Event ρ → ℕ} {w : World ρ ω β σ} {t : Task ρ ω β}
    (mem : t ∈ w.tasks) : (t.history.map f).sum ≤ total f w :=
  List.le_sum_of_mem (List.mem_map_of_mem mem)

/-- At most one task has an event that is counted at most once. -/
theorem task_unique {f : Event ρ → ℕ} {w : World ρ ω β σ} (once : total f w ≤ 1) {i j : ℕ}
    {t t' : Task ρ ω β} (found : w.tasks[i]? = some t) (found' : w.tasks[j]? = some t')
    {ev ev' : Event ρ} (mem : ev ∈ t.history) (mem' : ev' ∈ t'.history) (counts : 1 ≤ f ev)
    (counts' : 1 ≤ f ev') : i = j := by
  have covers : ∀ {h : History ρ} {ev : Event ρ}, ev ∈ h → f ev ≤ (h.map f).sum :=
    fun mem => List.le_sum_of_mem (List.mem_map_of_mem mem)
  exact index_unique once found found' (counts.trans (covers mem)) (counts'.trans (covers mem'))

end Totals

section Driving

/-- One program answered on its own, choice by choice. -/
def drive (S : Setting ρ ω β σ χ) : σ → Prog ρ β → List χ → Option (σ × Prog ρ β)
  | s, p, [] => some (s, p)
  | s, .call e k, c :: cs =>
    match S.react s e c with
    | some (s', r) => drive S s' (k r) cs
    | none => none
  | _, .done _, _ :: _ => none

/-- Answered by these choices, the program leaves this state. -/
def Drives (S : Setting ρ ω β σ χ) (s : σ) (p : Prog ρ β) (cs : List χ) (s' : σ) : Prop :=
  ∃ p', drive S s p cs = some (s', p')

theorem drives_nil (S : Setting ρ ω β σ χ) (s : σ) (p : Prog ρ β) : Drives S s p [] s :=
  ⟨p, by rw [drive]⟩

theorem drives_call {S : Setting ρ ω β σ χ} {s s' s'' : σ} {e : ε} {k : ρ e → Prog ρ β} {c : χ}
    {r : ρ e} {cs : List χ} (reacted : S.react s e c = some (s', r))
    (rest : Drives S s' (k r) cs s'') : Drives S s (.call e k) (c :: cs) s'' := by
  obtain ⟨p', driven⟩ := rest
  exact ⟨p', by rw [drive, reacted]; exact driven⟩

/-- A live task can take the steps its program takes alone. -/
theorem run_of_drives {S : Setting ρ ω β σ χ} {w : World ρ ω β σ} {i : ℕ} {t : Task ρ ω β}
    {cs : List χ} {s' : σ} (found : w.tasks[i]? = some t) (live : t.live = true)
    (drives : Drives S w.shared t.rest cs s') :
    ∃ w', run S w (cs.map (Action.advance i)) = some w' ∧ w'.shared = s' := by
  obtain ⟨p', driven⟩ := drives
  induction cs generalizing w t with
  | nil =>
    rw [drive] at driven
    cases driven
    exact ⟨w, rfl, rfl⟩
  | cons c cs ih =>
    cases suspended : t.rest with
    | done answer =>
      rw [suspended, drive] at driven
      cases driven
    | call e k =>
      rw [suspended, drive] at driven
      cases reacted : S.react w.shared e c with
      | none =>
        rw [reacted] at driven
        cases driven
      | some result =>
        obtain ⟨s, r⟩ := result
        rw [reacted] at driven
        have stepped : step S w (.advance i c) = some (w.answer i t s r (k r)) := by
          simp only [step, advance, found, live, suspended, reacted]
        have inside : i < w.tasks.length := (List.getElem?_eq_some_iff.mp found).1
        have next : (w.answer i t s r (k r)).tasks[i]? = some (t.resumed r (k r)) :=
          List.getElem?_set_self inside
        simp only [List.map_cons, run, stepped]
        exact ih next live driven

/-- A fresh task runs its program alone while the others stand still. -/
theorem run_of_spawn {S : Setting ρ ω β σ χ} {w : World ρ ω β σ} (o : ω) {cs : List χ} {s' : σ}
    (drives : Drives S w.shared (S.body o) cs s') :
    ∃ w', run S w (.spawn o :: cs.map (Action.advance w.tasks.length)) = some w' ∧
      w'.shared = s' := by
  have found : (w.tasks ++ [Task.start S o])[w.tasks.length]? = some (Task.start S o) := by simp
  simp only [run, step]
  exact run_of_drives found rfl drives

end Driving

end OpenWrapper.Interleaving
