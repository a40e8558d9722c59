import Mathlib.Data.List.Infix

/-! # Suspended programs

A program over a family of effects is either finished with an answer or
suspended at an effect, holding the function that resumes it with the
response. `Always` is the contract of a program over its own history: what
holds whenever it is suspended at an effect, and what holds of its answer.
Its rules follow the constructors, so a contract of a composite program is
assembled from the contracts of the parts. -/

set_option autoImplicit false

namespace OpenWrapper.Suspended

variable {ε ε' : Type} {ρ : ε → Type} {ρ' : ε' → Type} {α β σ : Type}

inductive Prog (ρ : ε → Type) (α : Type) : Type where
  | done (answer : α)
  | call (effect : ε) (resume : ρ effect → Prog ρ α)

namespace Prog

def bind : Prog ρ α → (α → Prog ρ β) → Prog ρ β
  | done a, f => f a
  | call e k, f => call e fun r => (k r).bind f

instance : Monad (Prog ρ) where
  pure := done
  bind := bind

def perform (e : ε) : Prog ρ (ρ e) := call e done

/-- Run a program over another family of effects, each effect replaced by a
program that produces its response. -/
def translate (f : (e : ε) → Prog ρ' (ρ e)) : Prog ρ α → Prog ρ' α
  | done a => done a
  | call e k => (f e).bind fun r => (k r).translate f

@[simp] theorem pure_eq (a : α) : (pure a : Prog ρ α) = done a := rfl

@[simp] theorem done_bind (a : α) (f : α → Prog ρ β) : (done a >>= f) = f a := rfl

@[simp] theorem call_bind (e : ε) (k : ρ e → Prog ρ α) (f : α → Prog ρ β) :
    (call e k >>= f) = call e fun r => k r >>= f := rfl

@[simp] theorem perform_bind (e : ε) (f : ρ e → Prog ρ β) :
    (perform e >>= f) = call e f := rfl

@[simp] theorem bind_eq (p : Prog ρ α) (f : α → Prog ρ β) : p.bind f = (p >>= f) := rfl

theorem bind_assoc {γ : Type} (p : Prog ρ α) (f : α → Prog ρ β) (g : β → Prog ρ γ) :
    (p >>= f) >>= g = p >>= fun a => f a >>= g := by
  induction p with
  | done a => rfl
  | call e k ih =>
    simp only [call_bind]
    exact congrArg (call e) (funext ih)

@[simp] theorem translate_done (f : (e : ε) → Prog ρ' (ρ e)) (a : α) :
    (done a : Prog ρ α).translate f = done a := rfl

@[simp] theorem translate_call (f : (e : ε) → Prog ρ' (ρ e)) (e : ε)
    (k : ρ e → Prog ρ α) :
    (call e k).translate f = f e >>= fun r => (k r).translate f := rfl

end Prog

open Prog

/-- An effect together with the response it received. -/
abbrev Event (ρ : ε → Type) := Sigma ρ

/-! Histories list the latest event first. -/

abbrev History (ρ : ε → Type) := List (Event ρ)

section Contracts

variable {P P' : History ρ → ε → Prop}

/-- From history `h` on, `P` holds whenever the program is suspended at an
effect and `Q` holds of every answer it can finish with, whatever the
responses are. -/
def Always (P : History ρ → ε → Prop) (Q : History ρ → α → Prop) :
    Prog ρ α → History ρ → Prop
  | done a, h => Q h a
  | call e k, h => P h e ∧ ∀ r, Always P Q (k r) (⟨e, r⟩ :: h)

@[simp] theorem always_done (Q : History ρ → α → Prop) (a : α) (h : History ρ) :
    Always P Q (done a) h ↔ Q h a := Iff.rfl

@[simp] theorem always_call (Q : History ρ → α → Prop) (e : ε)
    (k : ρ e → Prog ρ α) (h : History ρ) :
    Always P Q (call e k) h ↔ P h e ∧ ∀ r, Always P Q (k r) (⟨e, r⟩ :: h) := Iff.rfl

/-- A composite program keeps a contract when its first part establishes a
condition from which the second part keeps it. -/
theorem always_bind {R : History ρ → α → Prop} {Q : History ρ → β → Prop}
    {f : α → Prog ρ β} (p : Prog ρ α) (h : History ρ)
    (first : Always P R p h)
    (second : ∀ h' a, h <:+ h' → R h' a → Always P Q (f a) h') :
    Always P Q (p >>= f) h := by
  induction p generalizing h with
  | done a => exact second h a (List.suffix_refl h) first
  | call e k ih =>
    refine ⟨first.1, fun r => ih r _ (first.2 r) ?_⟩
    intro h' a suffix held
    exact second h' a ((List.suffix_cons _ h).trans suffix) held

theorem Always.mono {Q Q' : History ρ → α → Prop} {p : Prog ρ α}
    {h : History ρ} (always : Always P Q p h)
    (license : ∀ h e, P h e → P' h e) (answer : ∀ h a, Q h a → Q' h a) :
    Always P' Q' p h := by
  induction p generalizing h with
  | done a => exact answer h a always
  | call e k ih => exact ⟨license h e always.1, fun r => ih r (always.2 r)⟩

theorem Always.and {Q Q' : History ρ → α → Prop} {p : Prog ρ α}
    {h : History ρ} (left : Always P Q p h) (right : Always P' Q' p h) :
    Always (fun h e => P h e ∧ P' h e) (fun h a => Q h a ∧ Q' h a) p h := by
  induction p generalizing h with
  | done a => exact ⟨left, right⟩
  | call e k ih => exact ⟨⟨left.1, right.1⟩, fun r => ih r (left.2 r) (right.2 r)⟩

/-- A program that keeps each contract of a family keeps them all. -/
theorem always_forall {ι : Type} {P : ι → History ρ → ε → Prop} {p : Prog ρ α} {h : History ρ}
    (each : ∀ i, Always (P i) (fun _ _ => True) p h) :
    Always (fun h e => ∀ i, P i h e) (fun _ _ => True) p h := by
  induction p generalizing h with
  | done a => trivial
  | call e k ih => exact ⟨fun i => (each i).1, fun r => ih r fun i => (each i).2 r⟩

/-- A program never forgets the history it started from. -/
theorem always_suffix (p : Prog ρ α) (h : History ρ) :
    Always (fun h' _ => h <:+ h') (fun h' _ => h <:+ h') p h := by
  suffices grows : ∀ h', h <:+ h' → Always (fun h' _ => h <:+ h') (fun h' _ => h <:+ h') p h' from
    grows h (List.suffix_refl h)
  induction p with
  | done a => exact fun h' suffix => suffix
  | call e k ih =>
    intro h' suffix
    exact ⟨suffix, fun r => ih r _ (suffix.trans (List.suffix_cons _ _))⟩

theorem always_true (p : Prog ρ α) (h : History ρ) :
    Always (fun _ _ => True) (fun _ _ => True) p h :=
  (always_suffix p h).mono (fun _ _ _ => trivial) fun _ _ _ => trivial

/-- Every effect the program can come to is one of these. -/
def Confined (S : ε → Prop) : Prog ρ α → Prop
  | done _ => True
  | call e k => S e ∧ ∀ r, Confined S (k r)

@[simp] theorem confined_done (S : ε → Prop) (a : α) : Confined S (done a : Prog ρ α) := trivial

@[simp] theorem confined_call (S : ε → Prop) (e : ε) (k : ρ e → Prog ρ α) :
    Confined S (call e k) ↔ S e ∧ ∀ r, Confined S (k r) := Iff.rfl

theorem confined_bind {S : ε → Prop} {f : α → Prog ρ β} {p : Prog ρ α} (first : Confined S p)
    (second : ∀ a, Confined S (f a)) : Confined S (p >>= f) := by
  induction p with
  | done a => exact second a
  | call e k ih => exact ⟨first.1, fun r => ih r (first.2 r)⟩

theorem Confined.weaken {S S' : ε → Prop} {p : Prog ρ α} (confined : Confined S p)
    (weaker : ∀ e, S e → S' e) : Confined S' p := by
  induction p with
  | done a => trivial
  | call e k ih => exact ⟨weaker e confined.1, fun r => ih r (confined.2 r)⟩

/-- And so is every effect of the histories it leaves. -/
theorem Confined.histories {S : ε → Prop} {p : Prog ρ α} (confined : Confined S p)
    {h : History ρ} (before : ∀ ev ∈ h, S ev.1) :
    Always (fun h e => S e ∧ ∀ ev ∈ h, S ev.1) (fun h _ => ∀ ev ∈ h, S ev.1) p h := by
  induction p generalizing h with
  | done a => exact before
  | call e k ih =>
    refine ⟨⟨confined.1, before⟩, fun r => ih r (confined.2 r) ?_⟩
    intro ev mem
    rcases List.mem_cons.mp mem with rfl | earlier
    · exact confined.1
    · exact before ev earlier

/-- A program keeps what each of its effects keeps after this history. -/
theorem Confined.always {S : ε → Prop} {p : Prog ρ α} {h : History ρ} (confined : Confined S p)
    (within : ∀ h' e, h <:+ h' → S e → P h' e) : Always P (fun _ _ => True) p h := by
  induction p generalizing h with
  | done a => trivial
  | call e k ih =>
    refine ⟨within h e List.suffix_rfl confined.1, fun r => ih r (confined.2 r) ?_⟩
    exact fun h' e' suffix => within h' e' ((List.suffix_cons _ h).trans suffix)

/-- Every event of the history was licensed when it happened. -/
def Sound (P : History ρ → ε → Prop) : History ρ → Prop
  | [] => True
  | ev :: h => P h ev.1 ∧ Sound P h

@[simp] theorem sound_cons (ev : Event ρ) (h : History ρ) :
    Sound P (ev :: h) ↔ P h ev.1 ∧ Sound P h := Iff.rfl

theorem Sound.suffix {h h' : History ρ} (sound : Sound P h) (suffix : h' <:+ h) : Sound P h' := by
  induction h with
  | nil =>
    rw [List.suffix_nil.mp suffix]
    trivial
  | cons head tail ih =>
    rcases List.suffix_cons_iff.mp suffix with same | inner
    · rw [same]
      exact sound
    · exact ih sound.2 inner

theorem Sound.license {h h' : History ρ} {ev : Event ρ} (sound : Sound P h)
    (suffix : (ev :: h') <:+ h) : P h' ev.1 := (sound.suffix suffix).1

/-- What holds of every event held of the history before each. -/
theorem sound_and {T : Event ρ → Prop} {h : History ρ} (sound : Sound P h)
    (all : ∀ ev ∈ h, T ev) : Sound (fun h e => P h e ∧ ∀ ev ∈ h, T ev) h := by
  induction h with
  | nil => trivial
  | cons ev h ih =>
    have below : ∀ ev ∈ h, T ev := fun ev mem => all ev (List.mem_cons_of_mem _ mem)
    exact ⟨⟨sound.1, below⟩, ih sound.2 below⟩

theorem Sound.of_mem {h : History ρ} {ev : Event ρ} (sound : Sound P h)
    (mem : ev ∈ h) : ∃ h', (ev :: h') <:+ h ∧ P h' ev.1 := by
  obtain ⟨before, after, split⟩ := List.append_of_mem mem
  have suffix : (ev :: after) <:+ h := ⟨before, split.symm⟩
  exact ⟨after, suffix, sound.license suffix⟩

end Contracts

section Serial

/-! A program run alone, every effect answered in turn by a step that may
depend on how many effects came before it. -/

variable (respond : ℕ → σ → (e : ε) → σ × ρ e)

def serial : ℕ → σ → Prog ρ α → σ × α
  | _, s, done a => (s, a)
  | n, s, call e k => serial (n + 1) (respond n s e).1 (k (respond n s e).2)

/-- The state after at most `budget` effects, with the answer if the program
finished within them. -/
def halted : ℕ → ℕ → σ → Prog ρ α → σ × Option α
  | _, _, s, done a => (s, some a)
  | _, 0, s, call _ _ => (s, none)
  | n, budget + 1, s, call e k =>
    halted (n + 1) budget (respond n s e).1 (k (respond n s e).2)

@[simp] theorem serial_done (n : ℕ) (s : σ) (a : α) :
    serial respond n s (done a : Prog ρ α) = (s, a) := rfl

@[simp] theorem serial_call (n : ℕ) (s : σ) (e : ε) (k : ρ e → Prog ρ α) :
    serial respond n s (call e k)
      = serial respond (n + 1) (respond n s e).1 (k (respond n s e).2) := rfl

@[simp] theorem halted_done (n budget : ℕ) (s : σ) (a : α) :
    halted respond n budget s (done a : Prog ρ α) = (s, some a) := by
  cases budget <;> rfl

@[simp] theorem halted_zero (n : ℕ) (s : σ) (e : ε) (k : ρ e → Prog ρ α) :
    halted respond n 0 s (call e k) = (s, none) := rfl

@[simp] theorem halted_succ (n budget : ℕ) (s : σ) (e : ε) (k : ρ e → Prog ρ α) :
    halted respond n (budget + 1) s (call e k)
      = halted respond (n + 1) budget (respond n s e).1 (k (respond n s e).2) := rfl

/-- The events of the serial run, each with the state it happened in. -/
def log : ℕ → σ → Prog ρ α → List (σ × Event ρ)
  | _, _, done _ => []
  | n, s, call e k =>
    (s, ⟨e, (respond n s e).2⟩) :: log (n + 1) (respond n s e).1 (k (respond n s e).2)

@[simp] theorem log_done (n : ℕ) (s : σ) (a : α) : log respond n s (done a : Prog ρ α) = [] := rfl

@[simp] theorem log_call (n : ℕ) (s : σ) (e : ε) (k : ρ e → Prog ρ α) :
    log respond n s (call e k) = (s, ⟨e, (respond n s e).2⟩) ::
      log respond (n + 1) (respond n s e).1 (k (respond n s e).2) := rfl

/-- The serial run ends in a state and an answer related by `R`. -/
def Ends (R : σ → α → Prop) (n : ℕ) (s : σ) (p : Prog ρ α) : Prop :=
  R (serial respond n s p).1 (serial respond n s p).2

@[simp] theorem ends_done (R : σ → α → Prop) (n : ℕ) (s : σ) (a : α) :
    Ends respond R n s (done a) ↔ R s a := Iff.rfl

theorem ends_call (R : σ → α → Prop) (n : ℕ) (s : σ) (e : ε) (k : ρ e → Prog ρ α) :
    Ends respond R n s (call e k) ↔
      Ends respond R (n + 1) (respond n s e).1 (k (respond n s e).2) := Iff.rfl

/-- What is always answered is answered here. -/
theorem ends_of_always {P : History ρ → ε → Prop} {Q : α → Prop} {p : Prog ρ α} {h : History ρ}
    (always : Always P (fun _ a => Q a) p h) (n : ℕ) (s : σ) :
    Ends respond (fun _ a => Q a) n s p := by
  induction p generalizing h n s with
  | done a => exact always
  | call e k ih => exact ih _ (always.2 _) _ _

/-- Wherever the run is cut short, it leaves a state that satisfies `R`. -/
def Leaves (R : σ → Prop) (n : ℕ) (s : σ) (p : Prog ρ α) : Prop :=
  ∀ budget, R (halted respond n budget s p).1

@[simp] theorem leaves_done (R : σ → Prop) (n : ℕ) (s : σ) (a : α) :
    Leaves respond R n s (done a) ↔ R s := by
  constructor
  · intro left
    exact left 0
  · intro held budget
    rw [halted_done]
    exact held

theorem leaves_call (R : σ → Prop) (n : ℕ) (s : σ) (e : ε) (k : ρ e → Prog ρ α) :
    Leaves respond R n s (call e k) ↔
      R s ∧ Leaves respond R (n + 1) (respond n s e).1 (k (respond n s e).2) := by
  constructor
  · intro left
    exact ⟨left 0, fun budget => left (budget + 1)⟩
  · rintro ⟨held, rest⟩ budget
    cases budget with
    | zero => exact held
    | succ budget => exact rest budget

/-- Wherever the run is cut short, and where it ends, `R` relates the state to
the answer that is there by then. -/
def Stops (R : σ → Option α → Prop) (n : ℕ) (s : σ) (p : Prog ρ α) : Prop :=
  ∀ budget, R (halted respond n budget s p).1 (halted respond n budget s p).2

@[simp] theorem stops_done (R : σ → Option α → Prop) (n : ℕ) (s : σ) (a : α) :
    Stops respond R n s (done a) ↔ R s (some a) := by
  constructor
  · intro stopped
    exact stopped 0
  · intro held budget
    rw [halted_done]
    exact held

theorem stops_call (R : σ → Option α → Prop) (n : ℕ) (s : σ) (e : ε) (k : ρ e → Prog ρ α) :
    Stops respond R n s (call e k) ↔
      R s none ∧ Stops respond R (n + 1) (respond n s e).1 (k (respond n s e).2) := by
  constructor
  · intro stopped
    exact ⟨stopped 0, fun budget => stopped (budget + 1)⟩
  · rintro ⟨held, rest⟩ budget
    cases budget with
    | zero => exact held
    | succ budget => exact rest budget

theorem Stops.mono {R S : σ → Option α → Prop} {n : ℕ} {s : σ} {p : Prog ρ α}
    (stopped : Stops respond R n s p) (license : ∀ s a, R s a → S s a) : Stops respond S n s p :=
  fun budget => license _ _ (stopped budget)

/-- `T` as long as there is no answer, and `S` of the answer. -/
def Until (T : σ → Prop) (S : σ → α → Prop) (s : σ) : Option α → Prop
  | none => T s
  | some a => S s a

/-- What follows a part of the program starts from where that part ends. -/
theorem stops_bind {R : σ → Option β → Prop} {T : σ → Prop} {S : σ → α → Prop} {n : ℕ} {s : σ}
    {p : Prog ρ α} {f : α → Prog ρ β} (first : Stops respond (Until T S) n s p)
    (cut : ∀ s, T s → R s none) (second : ∀ m s a, S s a → Stops respond R m s (f a)) :
    Stops respond R n s (p >>= f) := by
  induction p generalizing n s with
  | done a => exact second n s a ((stops_done respond _ n s a).mp first)
  | call e k ih =>
    rw [stops_call] at first
    rw [call_bind, stops_call]
    exact ⟨cut s first.1, ih _ first.2⟩

/-- Where the state satisfies `R` wherever the run is cut short, it does at the
end. -/
theorem Leaves.ends {R : σ → Prop} {n : ℕ} {s : σ} {p : Prog ρ α}
    (leaves : Leaves respond R n s p) : R (serial respond n s p).1 := by
  induction p generalizing n s with
  | done a => exact (leaves_done respond R n s a).mp leaves
  | call e k ih => exact ih _ ((leaves_call respond R n s e k).mp leaves).2

/-- The events of the serial run, the latest first. -/
def past : ℕ → σ → Prog ρ α → History ρ
  | _, _, done _ => []
  | n, s, call e k =>
    past (n + 1) (respond n s e).1 (k (respond n s e).2) ++ [⟨e, (respond n s e).2⟩]

@[simp] theorem past_done (n : ℕ) (s : σ) (a : α) :
    past respond n s (done a : Prog ρ α) = [] := rfl

@[simp] theorem past_call (n : ℕ) (s : σ) (e : ε) (k : ρ e → Prog ρ α) :
    past respond n s (call e k) =
      past respond (n + 1) (respond n s e).1 (k (respond n s e).2) ++
        [⟨e, (respond n s e).2⟩] := rfl

end Serial

section Steady

variable (react : σ → (e : ε) → σ × ρ e)

/-- Where the step does not depend on how many effects came before it, the
count is irrelevant. -/
theorem serial_steady (n m : ℕ) (s : σ) (p : Prog ρ α) :
    serial (fun _ => react) n s p = serial (fun _ => react) m s p := by
  induction p generalizing n m s with
  | done a => rfl
  | call e k ih => exact ih _ (n + 1) (m + 1) _

theorem past_steady (n m : ℕ) (s : σ) (p : Prog ρ α) :
    past (fun _ => react) n s p = past (fun _ => react) m s p := by
  induction p generalizing n m s with
  | done a => rfl
  | call e k ih =>
    simp only [past_call]
    rw [ih _ (n + 1) (m + 1)]

theorem serial_bind_steady (n : ℕ) (s : σ) (p : Prog ρ α) (f : α → Prog ρ β) :
    serial (fun _ => react) n s (p >>= f) = serial (fun _ => react) n
      (serial (fun _ => react) n s p).1 (f (serial (fun _ => react) n s p).2) := by
  induction p generalizing n s with
  | done a => rfl
  | call e k ih =>
    simp only [call_bind, serial_call]
    rw [ih, serial_steady react (n + 1) n]

theorem past_bind_steady (n : ℕ) (s : σ) (p : Prog ρ α) (f : α → Prog ρ β) :
    past (fun _ => react) n s (p >>= f) = past (fun _ => react) n
      (serial (fun _ => react) n s p).1 (f (serial (fun _ => react) n s p).2) ++
        past (fun _ => react) n s p := by
  induction p generalizing n s with
  | done a =>
    rw [done_bind, past_done, List.append_nil]
    rfl
  | call e k ih =>
    simp only [call_bind, past_call, serial_call]
    rw [ih, List.append_assoc, past_steady react (n + 1) n _ (f _)]

end Steady

section SerialContracts

variable {respond : ℕ → σ → (e : ε) → σ × ρ e} {P : History ρ → ε → Prop} {A : Event ρ → Prop}

/-- A contract holds of the serial run. -/
theorem sound_past {Q : History ρ → α → Prop} {p : Prog ρ α} {h : History ρ}
    (always : Always P Q p h) (sound : Sound P h) (n : ℕ) (s : σ) :
    Sound P (past respond n s p ++ h) ∧
      Q (past respond n s p ++ h) (serial respond n s p).2 := by
  induction p generalizing n s h with
  | done a => exact ⟨sound, always⟩
  | call e k ih =>
    have rest := ih _ (always.2 (respond n s e).2) ⟨always.1, sound⟩ (n + 1) (respond n s e).1
    rw [past_call, List.append_assoc]
    exact rest

theorem past_answers (answers : ∀ n s e, A ⟨e, (respond n s e).2⟩) (p : Prog ρ α) (n : ℕ)
    (s : σ) : ∀ ev ∈ past respond n s p, A ev := by
  induction p generalizing n s with
  | done a =>
    intro ev mem
    cases mem
  | call e k ih =>
    intro ev mem
    rcases List.mem_append.mp mem with later | now
    · exact ih _ (n + 1) _ ev later
    · cases List.mem_singleton.mp now
      exact answers n s e

/-- Every event was licensed after events that were. -/
theorem Sound.deep {h : History ρ} (sound : Sound P h) :
    Sound (fun h e => P h e ∧ Sound P h) h := by
  induction h with
  | nil => trivial
  | cons ev h ih => exact ⟨⟨sound.1, sound.2⟩, ih sound.2⟩

theorem Sound.mono {P' : History ρ → ε → Prop} {h : History ρ} (sound : Sound P h)
    (license : ∀ h e, P h e → P' h e) : Sound P' h := by
  induction h with
  | nil => trivial
  | cons ev h ih => exact ⟨license h ev.1 sound.1, ih sound.2⟩

/-- What is licensed by admitted histories only, an admitted history licensed. -/
theorem Sound.admitted {h : History ρ} (sound : Sound (fun h e => (∀ ev ∈ h, A ev) → P h e) h)
    (admits : ∀ ev ∈ h, A ev) : Sound (fun h e => (∀ ev ∈ h, A ev) ∧ P h e) h := by
  induction h with
  | nil => trivial
  | cons ev h ih =>
    have earlier : ∀ ev ∈ h, A ev := fun ev mem => admits ev (List.mem_cons_of_mem _ mem)
    exact ⟨⟨earlier, sound.1 earlier⟩, ih sound.2 earlier⟩

/-- A state invariant under the licensed effects holds wherever a run is cut
short, when the states it holds in give admitted answers only. -/
theorem leaves_of_always {R : σ → Prop} {Q : History ρ → α → Prop} {p : Prog ρ α} {h : History ρ}
    (answers : ∀ n s e, R s → A ⟨e, (respond n s e).2⟩)
    (keeps : ∀ n s h e, R s → P h e → R (respond n s e).1)
    (always : Always (fun h e => (∀ ev ∈ h, A ev) → P h e) Q p h) (admits : ∀ ev ∈ h, A ev)
    {n : ℕ} {s : σ} (initial : R s) : Leaves respond R n s p := by
  induction p generalizing n s h with
  | done a => exact (leaves_done respond R n s a).mpr initial
  | call e k ih =>
    rw [leaves_call]
    refine ⟨initial, ih _ (always.2 _) ?_ (keeps n s h e initial (always.1 admits))⟩
    intro ev mem
    rcases List.mem_cons.mp mem with rfl | earlier
    · exact answers n s e initial
    · exact admits ev earlier

end SerialContracts

end OpenWrapper.Suspended
