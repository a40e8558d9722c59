import Mathlib.Data.List.Basic

/-! # Queues of numbered entries

Entries are appended under increasing numbers and taken out by their number.
An entry once held stays the only one of its number, whether or not it is
still queued. -/

set_option autoImplicit false

namespace OpenWrapper.Queues

variable {δ : Type} {tag : δ → ℕ} {queue queue' : List δ} {next next' : ℕ} {d new : δ}

/-- The entry was given a number that no other entry has. -/
def Issued (tag : δ → ℕ) (queue : List δ) (next : ℕ) (d : δ) : Prop :=
  tag d < next ∧ ∀ d' ∈ queue, tag d' = tag d → d' = d

def Fresh (tag : δ → ℕ) (queue : List δ) (next : ℕ) : Prop :=
  ∀ d ∈ queue, Issued tag queue next d

theorem fresh_nil : Fresh tag [] next := by
  intro d mem
  cases mem

theorem issued_push (issued : Issued tag queue next d) (numbered : tag new = next) :
    Issued tag (queue ++ [new]) (next + 1) d := by
  have below := issued.1
  constructor
  · omega
  · intro d' mem same
    rcases List.mem_append.mp mem with old | last
    · exact issued.2 d' old same
    · rw [List.mem_singleton.mp last] at same
      omega

theorem issued_mono (issued : Issued tag queue next d) (fewer : queue' ⊆ queue)
    (later : next ≤ next') : Issued tag queue' next' d := by
  constructor
  · exact Nat.lt_of_lt_of_le issued.1 later
  · intro d' mem same
    exact issued.2 d' (fewer mem) same

theorem fresh_push (fresh : Fresh tag queue next) (numbered : tag new = next) :
    Fresh tag (queue ++ [new]) (next + 1) := by
  intro d mem
  rcases List.mem_append.mp mem with old | last
  · exact issued_push (fresh d old) numbered
  · rw [List.mem_singleton.mp last]
    constructor
    · omega
    · intro d' mem' same
      rcases List.mem_append.mp mem' with old' | last'
      · have below := (fresh d' old').1
        omega
      · exact List.mem_singleton.mp last'

theorem fresh_mono (fresh : Fresh tag queue next) (fewer : queue' ⊆ queue)
    (later : next ≤ next') : Fresh tag queue' next' :=
  fun d mem => issued_mono (fresh d (fewer mem)) fewer later

end OpenWrapper.Queues
