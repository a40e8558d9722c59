import Mathlib.Data.List.Chain

/-! # Traces

The states a deterministic system passes through under a list of calls. What
every call preserves holds of all of them, what every call relates holds of
neighbours, and an observation that each call moves by a rule traces a path of
that rule. -/

set_option autoImplicit false

namespace OpenWrapper.Traces

variable {σ γ κ : Type} {f : σ → γ → σ} {P : γ → Prop} {I : σ → Prop} {R : σ → σ → Prop}

def trace (f : σ → γ → σ) : σ → List γ → List σ
  | s, [] => [s]
  | s, c :: cs => s :: trace f (f s c) cs

theorem foldl_mem_trace (s : σ) (cs : List γ) : cs.foldl f s ∈ trace f s cs := by
  induction cs generalizing s with
  | nil => exact List.mem_singleton.mpr rfl
  | cons c cs ih => exact List.mem_cons_of_mem _ (ih (f s c))

theorem trace_invariant (preserved : ∀ s c, I s → P c → I (f s c)) {s : σ} {cs : List γ}
    (initial : I s) (allowed : ∀ c ∈ cs, P c) : ∀ s' ∈ trace f s cs, I s' := by
  induction cs generalizing s with
  | nil =>
    intro s' mem
    rw [List.mem_singleton.mp mem]
    exact initial
  | cons c cs ih =>
    intro s' mem
    rcases List.mem_cons.mp mem with rfl | later
    · exact initial
    · exact ih (preserved s c initial (allowed c List.mem_cons_self))
        (fun c' mem' => allowed c' (List.mem_cons_of_mem _ mem')) s' later

theorem foldl_invariant (preserved : ∀ s c, I s → P c → I (f s c)) {s : σ} {cs : List γ}
    (initial : I s) (allowed : ∀ c ∈ cs, P c) : I (cs.foldl f s) :=
  trace_invariant preserved initial allowed _ (foldl_mem_trace s cs)

/-- What one of the calls establishes and every call keeps holds at the end. -/
theorem foldl_established {Q : σ → Prop} (preserved : ∀ s c, I s → P c → I (f s c))
    (kept : ∀ s c, Q s → Q (f s c)) {c : γ} (establishes : ∀ s, I s → Q (f s c)) {s : σ}
    {cs : List γ} (initial : I s) (allowed : ∀ c ∈ cs, P c) (mem : c ∈ cs) :
    Q (cs.foldl f s) := by
  induction cs generalizing s with
  | nil => cases mem
  | cons c' cs ih =>
    have rest : ∀ c ∈ cs, P c := fun c mem => allowed c (List.mem_cons_of_mem _ mem)
    rw [List.foldl_cons]
    rcases List.mem_cons.mp mem with rfl | later
    · exact foldl_invariant (P := fun _ => True) (fun s c held _ => kept s c held)
        (establishes s initial) fun _ _ => trivial
    · exact ih (preserved s c' initial (allowed c' List.mem_cons_self)) rest later

/-- Neighbours in a trace are related as every call relates its states. -/
theorem trace_chain (preserved : ∀ s c, I s → P c → I (f s c))
    (related : ∀ s c, I s → P c → R s (f s c)) {s : σ} {cs : List γ} (initial : I s)
    (allowed : ∀ c ∈ cs, P c) : (trace f s cs).IsChain R := by
  induction cs generalizing s with
  | nil => exact List.isChain_singleton _
  | cons c cs ih =>
    have first := allowed c List.mem_cons_self
    have rest := ih (preserved s c initial first)
      fun c' mem => allowed c' (List.mem_cons_of_mem _ mem)
    rw [trace]
    cases cs with
    | nil => exact List.isChain_cons_cons.mpr ⟨related s c initial first, rest⟩
    | cons c' cs => exact List.isChain_cons_cons.mpr ⟨related s c initial first, rest⟩

section Observations

variable {look : σ → Option κ} {next : κ → κ → Prop} {first : κ → Prop}

theorem seen_chain (kept : ∀ s s' k, R s s' → look s = some k → ∃ k', look s' = some k' ∧ next k k')
    {s : σ} {k : κ} {rest : List σ} (chain : (s :: rest).IsChain R) (seen : look s = some k) :
    (k :: rest.filterMap look).IsChain next := by
  induction rest generalizing s k with
  | nil => exact List.isChain_singleton _
  | cons s' rest ih =>
    obtain ⟨related, rest_⟩ := List.isChain_cons_cons.mp chain
    obtain ⟨k', seen', moved⟩ := kept s s' k related seen
    rw [List.filterMap_cons_some seen']
    exact List.isChain_cons_cons.mpr ⟨moved, ih rest_ seen'⟩

/-- What is not seen at first is first seen as `first` says and then moves by
`next`. -/
theorem observed_chain (look : σ → Option κ)
    (kept : ∀ s s' k, R s s' → look s = some k → ∃ k', look s' = some k' ∧ next k k')
    (appeared : ∀ s s' k, R s s' → look s = none → look s' = some k → first k)
    {s : σ} {rest : List σ} (chain : (s :: rest).IsChain R) (unseen : look s = none) :
    ((s :: rest).filterMap look).IsChain next ∧
      ∀ k ∈ ((s :: rest).filterMap look).head?, first k := by
  induction rest generalizing s with
  | nil => simp [unseen]
  | cons s' rest ih =>
    obtain ⟨related, rest_⟩ := List.isChain_cons_cons.mp chain
    rw [List.filterMap_cons_none unseen]
    cases seen : look s' with
    | none => exact ih rest_ seen
    | some k =>
      rw [List.filterMap_cons_some seen]
      refine ⟨seen_chain kept rest_ seen, fun k' head => ?_⟩
      cases head
      exact appeared s s' k related unseen seen

end Observations

end OpenWrapper.Traces
