import OpenWrapper.CallbackRoutes
import OpenWrapper.StatementRules

/-! # What a callback overwrites

The rows that the executed updates of a webhook route overwrite, with what is
assigned to them, when the request is handled alone: at most the one row its
lookup found, and only if the guard lets the status through. -/

set_option autoImplicit false

namespace OpenWrapper.CallbackWrites
open OpenWrapper.Ids OpenWrapper.Payments OpenWrapper.Schema OpenWrapper.ConstraintTable
open OpenWrapper.WebDatabase OpenWrapper.CallbackRoutes
open OpenWrapper.Suspended OpenWrapper.Suspended.Prog

/-- The row that an executed update is about, and what it assigns. -/
def overwritten : Database × WebEvent → Option (PaymentRow × WebEdit)
  | (D, ⟨.update id edit, .ok ()⟩) =>
    (D.ledger.payments.rows.find? fun row => row.id == id).map fun row => (row, edit)
  | _ => none

/-- What a handler overwrites, each of its effects meeting its own draw. -/
def writes {α : Type} (draws : ℕ → WebDraw) (n : ℕ) (D : Database) (p : Web α) :
    List (PaymentRow × WebEdit) :=
  (log (fun n => respond (draws n)) n D p).filterMap overwritten

section Rules

variable {α β : Type} {draws : ℕ → WebDraw} {n : ℕ} {D : Database}

@[simp] theorem writes_done (a : α) : writes draws n D (.done a : Web α) = [] := rfl

theorem writes_call (e : WebEffect) (k : e.Response → Web α) :
    writes draws n D (.call e k) =
      (overwritten (D, ⟨e, (respond (draws n) D e).2⟩)).toList ++
        writes draws (n + 1) (respond (draws n) D e).1 (k (respond (draws n) D e).2) := by
  rw [writes, log_call, List.filterMap_cons]
  cases overwritten (D, ⟨e, (respond (draws n) D e).2⟩) <;> rfl

theorem writes_bind_done (p : Web α) (f : α → β) :
    writes draws n D (p >>= fun a => .done (f a)) = writes draws n D p := by
  induction p generalizing n D with
  | done a => rfl
  | call e k ih => rw [call_bind, writes_call, writes_call, ih]

/-- The effect writes no payment. -/
def isPassive : WebEffect → Bool
  | .update _ _ | .upsert _ _ | .gateway _ => false
  | _ => true

/-- The program writes no payment. -/
def Silent : Web α → Prop
  | .done _ => True
  | .call e k => isPassive e = true ∧ ∀ r, Silent (k r)

theorem Silent.bind {p : Web α} {f : α → Web β} (first : Silent p) (rest : ∀ a, Silent (f a)) :
    Silent (p >>= f) := by
  induction p with
  | done a => exact rest a
  | call e k ih => exact ⟨first.1, fun r => ih r (first.2 r)⟩

theorem Silent.writes {p : Web α} (silent : Silent p) : writes draws n D p = [] := by
  induction p generalizing n D with
  | done a => rfl
  | call e k ih =>
    rw [writes_call, ih _ (silent.2 _), List.append_nil]
    cases e with
    | update id edit => exact absurd silent.1 (by simp [isPassive])
    | _ => rfl

theorem Silent.always {P : History WebEffect.Response → WebEffect → Prop} {p : Web α}
    {h : History WebEffect.Response} (silent : Silent p)
    (passive : ∀ h e, isPassive e = true → P h e) : Always P (fun _ _ => True) p h := by
  induction p generalizing h with
  | done a => trivial
  | call e k ih => exact ⟨passive h e silent.1, fun r => ih r (silent.2 r)⟩

theorem silent_eventIdOr (lead known : String) : Silent (eventIdOr lead known) := by
  unfold eventIdOr
  split
  · exact ⟨rfl, fun _ => trivial⟩
  · trivial

theorem silent_record (eventId provider : String) (paymentId : Option (Text PaymentId)) :
    Silent (Web.recordEvent eventId provider paymentId) := ⟨rfl, fun _ => trivial⟩

theorem find_row {row : PaymentRow} (mem : row ∈ D.ledger.payments.rows) :
    (D.ledger.payments.rows.find? fun other => other.id == row.id) = some row :=
  D.ledger.payments.find_eq mem (by simp) fun other same => .inl (by simpa using same)

/-- A row that was found is overwritten if the guard lets the status through
and the statement is executed. -/
theorem writes_settle {row : PaymentRow} {status : PaymentStatus} {edit : SharedRow → WebEdit}
    {k : Except SqlError (Option (Text PaymentId)) → Web β} (mem : row ∈ D.ledger.payments.rows)
    (silent : ∀ r, Silent (k r)) :
    writes draws n D (settle (some (D.row row)) status edit >>= k) =
      if isIllegal row.status status || (draws n).fails then [] else [(row, edit (D.row row))] := by
  have named : (D.row row).payment = row := rfl
  unfold settle
  by_cases illegal : isIllegal row.status status = true
  · simp [named, illegal, (silent _).writes]
  · cases fails : (draws n).fails
    · simp [named, illegal, fails, writes_call, respond, overwritten, find_row mem, (silent _).writes]
    · simp [named, illegal, fails, writes_call, respond, overwritten, (silent _).writes]

theorem not_mem_writes_settle {status : PaymentStatus} {edit : SharedRow → WebEdit}
    {k : Except SqlError (Option (Text PaymentId)) → Web β} {w : PaymentRow × WebEdit}
    (silent : ∀ r, Silent (k r)) : w ∉ writes draws n D (settle none status edit >>= k) := by
  simp [settle, (silent _).writes]

theorem mem_writes_settle {row : PaymentRow} {status : PaymentStatus} {edit : SharedRow → WebEdit}
    {k : Except SqlError (Option (Text PaymentId)) → Web β} {w : PaymentRow × WebEdit}
    (mem : row ∈ D.ledger.payments.rows) (silent : ∀ r, Silent (k r))
    (wrote : w ∈ writes draws n D (settle (some (D.row row)) status edit >>= k)) :
    w = (row, edit (D.row row)) ∧ isIllegal row.status status = false := by
  rw [writes_settle mem silent] at wrote
  split at wrote
  · cases wrote
  next executed =>
    simp only [Bool.or_eq_true, not_or, Bool.not_eq_true] at executed
    exact ⟨List.mem_singleton.mp wrote, executed.1⟩

theorem selectOne_mem {visit : PaymentRow → ℕ} {test : PaymentRow → Bool} {found : SharedRow}
    (selected : D.selectOne visit test = some found) :
    ∃ row ∈ D.ledger.payments.rows, found = D.row row ∧ test row = true := by
  obtain ⟨row, search, rfl⟩ := Option.map_eq_some_iff.mp selected
  have mem := List.mem_of_find?_eq_some search
  exact ⟨row, (List.mem_insertionSort _).mp mem, rfl, List.find?_some search⟩

/-- Draws under which every statement is executed and a query comes to the
given row first. -/
def favouring (row : PaymentRow) : WebDraw where
  clock := ⟨0⟩
  visit other := if other = row then 0 else 1
  fails := false
  fresh := ⟨0⟩
  uuid := ""
  apiKey := none
  gateway := .lost ""
  session := .error ""
  sessionStatus := .error ""

theorem selectOne_favoured {test : PaymentRow → Bool} {row : PaymentRow}
    (mem : row ∈ D.ledger.payments.rows) (passes : test row = true) :
    D.selectOne (favouring row).visit test = some (D.row row) := by
  have before : ∀ other, other ≠ row → (favouring row).visit row < (favouring row).visit other :=
    fun other apart => by simp [favouring, apart]
  obtain ⟨rest, visited⟩ := StatementRules.insertionSort_first mem before
  simp [Database.selectOne, visited, passes]

theorem selectOne_none {visit : PaymentRow → ℕ} {test : PaymentRow → Bool}
    (absent : ∀ row ∈ D.ledger.payments.rows, test row = false) :
    D.selectOne visit test = none := by
  rw [Database.selectOne, Option.map_eq_none_iff, List.find?_eq_none]
  intro row mem
  simp [absent row ((List.mem_insertionSort _).mp mem)]

theorem selectOne_absent {visit : PaymentRow → ℕ} {test : PaymentRow → Bool}
    (missing : D.selectOne visit test = none) :
    ∀ row ∈ D.ledger.payments.rows, test row = false := by
  intro row mem
  rw [Database.selectOne, Option.map_eq_none_iff, List.find?_eq_none] at missing
  simpa using missing row ((List.mem_insertionSort _).mpr mem)

/-- A lookup that is made finds the row possible. -/
def finds (test : Option (PaymentRow → Bool)) (row : PaymentRow) : Bool :=
  match test with
  | some test => test row
  | none => false

def Looked (D : Database) (test : Option (PaymentRow → Bool)) :
    Except SqlError (Option SharedRow) → Prop
  | .error _ => True
  | .ok none => ∀ row ∈ D.ledger.payments.rows, finds test row = false
  | .ok (some found) => ∃ row ∈ D.ledger.payments.rows, finds test row = true ∧ found = D.row row

/-- A lookup overwrites nothing itself. -/
theorem mem_writes_lookup {test : Option (PaymentRow → Bool)}
    {f : Except SqlError (Option SharedRow) → Web β} {w : PaymentRow × WebEdit}
    (wrote : w ∈ writes draws n D (lookup test >>= f)) :
    ∃ m r, Looked D test r ∧ w ∈ writes draws m D (f r) := by
  cases test with
  | none => exact ⟨n, .ok none, fun row mem => rfl, wrote⟩
  | some test =>
    have step : writes draws n D (lookup (some test) >>= f) = _ := writes_call (.select test) f
    rw [step] at wrote
    refine ⟨n + 1, (respond (draws n) D (.select test)).2, ?_, wrote⟩
    by_cases fails : (draws n).fails = true
    · simp [respond, fails, Looked]
    · simp only [respond, fails]
      cases selected : D.selectOne (draws n).visit test with
      | none => exact selectOne_absent selected
      | some found =>
        obtain ⟨row, mem, is, passes⟩ := selectOne_mem selected
        exact ⟨row, mem, passes, is⟩

theorem writes_lookup_favoured {test : Option (PaymentRow → Bool)} {row : PaymentRow}
    {f : Except SqlError (Option SharedRow) → Web β} (mem : row ∈ D.ledger.payments.rows)
    (passes : finds test row = true) :
    writes (fun _ => favouring row) n D (lookup test >>= f) =
      writes (fun _ => favouring row) (n + 1) D (f (.ok (some (D.row row)))) := by
  cases test with
  | none => cases passes
  | some test =>
    have found : (respond (favouring row) D (.select test)).2 = .ok (some (D.row row)) :=
      congrArg Except.ok (selectOne_favoured mem passes)
    have step : writes (fun _ => favouring row) n D (lookup (some test) >>= f) = _ :=
      writes_call (.select test) f
    rw [found] at step
    exact step

theorem writes_lookup_absent {test : Option (PaymentRow → Bool)} {row : PaymentRow}
    {f : Except SqlError (Option SharedRow) → Web β}
    (absent : ∀ other ∈ D.ledger.payments.rows, finds test other = false) :
    ∃ m, writes (fun _ => favouring row) n D (lookup test >>= f) =
      writes (fun _ => favouring row) m D (f (.ok none)) := by
  cases test with
  | none => exact ⟨n, rfl⟩
  | some test =>
    have missing : (respond (favouring row) D (.select test)).2 = .ok none :=
      congrArg Except.ok (selectOne_none absent)
    have step : writes (fun _ => favouring row) n D (lookup (some test) >>= f) = _ :=
      writes_call (.select test) f
    rw [missing] at step
    exact ⟨n + 1, step⟩

/-- What a lookup and its update overwrite: a row that the lookup finds and the
guard lets through. -/
theorem mem_writes_lookupAndSettle {test : Option (PaymentRow → Bool)} {status : PaymentStatus}
    {edit : SharedRow → WebEdit} {k : Except SqlError (Option (Text PaymentId)) → Web β}
    {w : PaymentRow × WebEdit} (silent : ∀ r, Silent (k r))
    (wrote : w ∈ writes draws n D (lookupAndSettle test status edit >>= k)) :
    w.1 ∈ D.ledger.payments.rows ∧ finds test w.1 = true ∧
      isIllegal w.1.status status = false ∧ w.2 = edit (D.row w.1) := by
  rw [lookupAndSettle, bind_assoc] at wrote
  obtain ⟨m, r, looked, wrote⟩ := mem_writes_lookup wrote
  match r, looked, wrote with
  | .error e, _, wrote => simp [(silent _).writes] at wrote
  | .ok none, _, wrote => exact absurd wrote (not_mem_writes_settle silent)
  | .ok (some _), ⟨row, mem, passes, rfl⟩, wrote =>
    obtain ⟨rfl, legal⟩ := mem_writes_settle mem silent wrote
    exact ⟨mem, passes, legal, rfl⟩

/-- A favoured row is overwritten if the guard lets the status through. -/
theorem writes_settle_favoured {row : PaymentRow} {status : PaymentStatus}
    {edit : SharedRow → WebEdit} {k : Except SqlError (Option (Text PaymentId)) → Web β}
    (mem : row ∈ D.ledger.payments.rows) (silent : ∀ r, Silent (k r))
    (legal : isIllegal row.status status = false) :
    writes (fun _ => favouring row) n D (settle (some (D.row row)) status edit >>= k) =
      [(row, edit (D.row row))] := by
  rw [writes_settle mem silent, legal]
  rfl

theorem writes_lookupAndSettle_favoured {test : Option (PaymentRow → Bool)}
    {status : PaymentStatus} {edit : SharedRow → WebEdit} {row : PaymentRow}
    {k : Except SqlError (Option (Text PaymentId)) → Web β} (silent : ∀ r, Silent (k r))
    (mem : row ∈ D.ledger.payments.rows) (passes : finds test row = true)
    (legal : isIllegal row.status status = false) :
    writes (fun _ => favouring row) n D (lookupAndSettle test status edit >>= k) =
      [(row, edit (D.row row))] := by
  rw [lookupAndSettle, bind_assoc, writes_lookup_favoured mem passes]
  exact writes_settle_favoured mem silent legal

/-- Minting an event id overwrites nothing. -/
theorem writes_eventIdOr (lead known : String) (f : String → Web β) :
    ∃ m eventId, writes draws n D (eventIdOr lead known >>= f) = writes draws m D (f eventId) := by
  unfold eventIdOr
  by_cases minted : known = ""
  · simp only [minted]
    exact ⟨n + 1, _, writes_call _ _⟩
  · simp only [minted]
    exact ⟨n, _, rfl⟩

end Rules

end OpenWrapper.CallbackWrites
