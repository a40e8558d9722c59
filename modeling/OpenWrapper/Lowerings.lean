import OpenWrapper.Suspended

/-! # Programs over finer effects

A program is carried out over another family of effects by a program for each
of its effects. Its history there is put together from the histories of these
parts, so a contract of the fine program needs only contracts of the parts. -/

set_option autoImplicit false

namespace OpenWrapper.Lowerings
open OpenWrapper.Suspended OpenWrapper.Suspended.Prog

variable {ε ε' : Type} {ρ : ε → Type} {ρ' : ε' → Type} {α β : Type}

theorem translate_bind (f : (e : ε) → Prog ρ' (ρ e)) (p : Prog ρ α) (g : α → Prog ρ β) :
    (p >>= g).translate f = p.translate f >>= fun a => (g a).translate f := by
  induction p with
  | done a => rfl
  | call e k ih => simp only [call_bind, translate_call, ih, bind_assoc]

/-- These events, the latest first, take the program to its answer. -/
inductive Runs : Prog ρ α → History ρ → α → Prop
  | done (a : α) : Runs (.done a) [] a
  | call (e : ε) (k : ρ e → Prog ρ α) (r : ρ e) (part : History ρ) (a : α) :
      Runs (k r) part a → Runs (.call e k) (part ++ [⟨e, r⟩]) a

section Runs

variable {a b : α} {e : ε} {k : ρ e → Prog ρ α} {part : History ρ}

theorem runs_done (ran : Runs (.done a) part b) : part = [] ∧ b = a := by
  cases ran
  exact ⟨rfl, rfl⟩

theorem runs_call (ran : Runs (.call e k) part a) :
    ∃ r rest, part = rest ++ [⟨e, r⟩] ∧ Runs (k r) rest a := by
  cases ran with
  | call e k r rest a ran => exact ⟨r, rest, rfl, ran⟩

theorem runs_perform {r : ρ e} (ran : Runs (perform e) part r) : part = [⟨e, r⟩] := by
  obtain ⟨r', rest, is, ended⟩ := runs_call ran
  obtain ⟨none_, rfl⟩ := runs_done ended
  rw [is, none_]
  rfl

/-- What a program adds to the history it starts from is a run of it. -/
theorem always_runs (p : Prog ρ α) (g : History ρ) :
    Always (fun _ _ => True) (fun g' a => ∃ part, g' = part ++ g ∧ Runs p part a) p g := by
  induction p generalizing g with
  | done a => exact ⟨[], rfl, .done a⟩
  | call e k ih =>
    refine ⟨trivial, fun r => ?_⟩
    apply (ih r (⟨e, r⟩ :: g)).mono fun _ _ _ => trivial
    rintro g' a ⟨part, rfl, ran⟩
    exact ⟨part ++ [⟨e, r⟩], by simp, .call e k r part a ran⟩

/-- What always holds of the answer holds of it after such events. -/
theorem Runs.answers {P : History ρ → ε → Prop} {Q : History ρ → α → Prop} {p : Prog ρ α}
    {g : History ρ} (ran : Runs p part a) (always : Always P Q p g) : Q (part ++ g) a := by
  induction ran generalizing g with
  | done a => exact always
  | call e k r part a ran ih =>
    rw [List.append_assoc]
    exact ih (always.2 r)

end Runs

/-- What a program does, it does after events that were licensed. -/
theorem always_sound {P : History ρ → ε → Prop} {Q : History ρ → α → Prop} {p : Prog ρ α}
    {h : History ρ} (always : Always P Q p h) (sound : Sound P h) :
    Always (fun h e => P h e ∧ Sound P h) Q p h := by
  induction p generalizing h with
  | done a => exact always
  | call e k ih => exact ⟨⟨always.1, sound⟩, fun r => ih r (always.2 r) ⟨always.1, sound⟩⟩

section Lowering

variable {f : (e : ε) → Prog ρ' (ρ e)} {P : History ρ → ε → Prop} {Q : History ρ → α → Prop}
  {P' : History ρ' → ε' → Prop} {h : History ρ} {g : History ρ'}

/-- A history, and one of the same effects carried out by their programs. -/
inductive Lowers (f : (e : ε) → Prog ρ' (ρ e)) : History ρ → History ρ' → Prop
  | nil : Lowers f [] []
  | cons (e : ε) (r : ρ e) (part : History ρ') (h : History ρ) (g : History ρ') :
      Lowers f h g → Runs (f e) part r → Lowers f (⟨e, r⟩ :: h) (part ++ g)

theorem lowers_cons {e : ε} {r : ρ e} (lowers : Lowers f (⟨e, r⟩ :: h) g) :
    ∃ part g', g = part ++ g' ∧ Lowers f h g' ∧ Runs (f e) part r := by
  cases lowers with
  | cons e r part h g' rest ran => exact ⟨part, g', rfl, rest, ran⟩

/-- Each event of the history was carried out somewhere in the other. -/
theorem lowers_mem (lowers : Lowers f h g) (ev : Event ρ) (mem : ev ∈ h) :
    ∃ part, Runs (f ev.1) part ev.2 ∧ part ⊆ g := by
  induction lowers with
  | nil => cases mem
  | cons e r part h g rest ran ih =>
    rcases List.mem_cons.mp mem with rfl | earlier
    · exact ⟨part, ran, List.subset_append_left _ _⟩
    · obtain ⟨part', ran', inside⟩ := ih earlier
      exact ⟨part', ran', List.Subset.trans inside (List.subset_append_right _ _)⟩

/-- Where each licensed effect is carried out within a contract, so is the
whole program. -/
theorem always_translate {p : Prog ρ α} (always : Always P Q p h) (lowers : Lowers f h g)
    (each : ∀ h g e, P h e → Lowers f h g → Always P' (fun _ _ => True) (f e) g) :
    Always P' (fun g a => ∃ h, Lowers f h g ∧ Q h a) (p.translate f) g := by
  induction p generalizing h g with
  | done a => exact ⟨h, lowers, always⟩
  | call e k ih =>
    have part := (each h g e always.1 lowers).and (always_runs (f e) g)
    rw [translate_call]
    apply always_bind (f e) g (part.mono (fun _ _ held => held.1) fun _ _ held => held.2)
    rintro g' r - ⟨part, rfl, ran⟩
    exact ih r (always.2 r) (.cons e r part h g lowers ran)

end Lowering

end OpenWrapper.Lowerings
