import Mathlib.Data.List.Basic

/-! # Retry loops

A loop that sends one request until it is answered, counting the rounds that
failed. How often it sends depends on how its rounds go and on how many rounds
the counter lets it make. -/

set_option autoImplicit false

namespace OpenWrapper.Retries

/-- What becomes of a round: it ends the loop before it sends, it sends and ends
the loop, or it sends and may be repeated. -/
inductive Fate where
  | withheld
  | last
  | again
deriving DecidableEq

/-- The attempts of these rounds, if nobody counts them. -/
def patience : List Fate → ℕ
  | [] => 0
  | .withheld :: _ => 0
  | .last :: _ => 1
  | .again :: rest => patience rest + 1

def below (limit count : ℕ) : Bool := decide (count < limit)

/-- The attempts of a loop that goes on while its counter allows it. -/
def attempts (more : ℕ → Bool) (next : ℕ → ℕ) (count : ℕ) : List Fate → ℕ
  | [] => 0
  | fate :: rest =>
    if more count then
      match fate with
      | .withheld => 0
      | .last => 1
      | .again => attempts more next (next count) rest + 1
    else 0

variable {more : ℕ → Bool} {next : ℕ → ℕ} {count limit : ℕ}

theorem attempts_stopped (stops : more count = false) (fates : List Fate) :
    attempts more next count fates = 0 := by
  cases fates with
  | nil => rfl
  | cons fate rest => cases fate <;> simp [attempts, stops]

theorem attempts_going (goes : more count = true) (fate : Fate) (rest : List Fate) :
    attempts more next count (fate :: rest) =
      match fate with
      | .withheld => 0
      | .last => 1
      | .again => attempts more next (next count) rest + 1 := by
  cases fate <;> simp [attempts, goes]

/-- A counter that counts, and a limit it can reach. -/
theorem attempts_limited (counts : ∀ n < limit, next n = n + 1) (goes : ∀ n < limit, more n = true)
    (stops : more limit = false) (inside : count ≤ limit) (fates : List Fate) :
    attempts more next count fates = min (limit - count) (patience fates) := by
  induction fates generalizing count with
  | nil => simp [attempts, patience]
  | cons fate rest ih =>
    by_cases reached : count = limit
    · rw [reached, attempts_stopped stops]
      omega
    · have below : count < limit := by omega
      rw [attempts_going (goes count below)]
      cases fate with
      | withheld => simp [patience]
      | last =>
        simp only [patience]
        omega
      | again =>
        simp only [patience]
        rw [counts count below, ih below]
        omega

/-- A counter that never comes to its limit. -/
theorem attempts_unlimited (reached : ℕ → Prop) (stays : ∀ n, reached n → reached (next n))
    (goes : ∀ n, reached n → more n = true) (start : reached count) (fates : List Fate) :
    attempts more next count fates = patience fates := by
  induction fates generalizing count with
  | nil => rfl
  | cons fate rest ih =>
    rw [attempts_going (goes count start)]
    cases fate with
    | withheld => rfl
    | last => rfl
    | again => simp only [patience, ih (stays count start)]

end OpenWrapper.Retries
