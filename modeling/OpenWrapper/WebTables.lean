import OpenWrapper.PaymentRoutes

/-! # The web application's own tables

Without a gateway the payments are in a table that the web application set up
itself. Its unique indexes are of the keys of one user; a row that nobody owns
is in neither of them. -/

set_option autoImplicit false

namespace OpenWrapper.WebTables
open OpenWrapper.Ids OpenWrapper.Payments OpenWrapper.Schema OpenWrapper.ConstraintTable
open OpenWrapper.WebDatabase OpenWrapper.PaymentRoutes

section Indexes

/-- `idx_payments_user_idempotency`. -/
def UserIndex (a b : PaymentRow) : Prop :=
  a.userId.isSome = true ∧ a.userId = b.userId ∧
    keyText a.idempotencyKey = keyText b.idempotencyKey

/-- `idx_payments_user_env_idempotency`. -/
def UserEnvIndex (a b : PaymentRow) : Prop :=
  a.userId.isSome = true ∧ a.userId = b.userId ∧ a.environment = b.environment ∧
    keyText a.idempotencyKey = keyText b.idempotencyKey

/-- The primary key, or one of the unique indexes. -/
def IndexClash (a b : PaymentRow) : Prop :=
  idText a.id = idText b.id ∨ UserIndex a b ∨ UserEnvIndex a b

instance : DecidableRel UserIndex := fun _ _ => inferInstanceAs (Decidable (_ ∧ _ ∧ _))

instance : DecidableRel UserEnvIndex := fun _ _ => inferInstanceAs (Decidable (_ ∧ _ ∧ _ ∧ _))

instance : DecidableRel IndexClash := fun a b =>
  inferInstanceAs (Decidable (_ ∨ UserIndex a b ∨ UserEnvIndex a b))

/-- The index with the environment adds nothing. -/
theorem clash_iff {a b : PaymentRow} :
    IndexClash a b ↔ idText a.id = idText b.id ∨ UserIndex a b := by
  constructor
  · rintro (same | index | ⟨owned, owner, -, key⟩)
    · exact .inl same
    · exact .inr index
    · exact .inr ⟨owned, owner, key⟩
  · rintro (same | index)
    · exact .inl same
    · exact .inr (.inl index)

instance : Std.Symm IndexClash := ⟨fun a b clash => by
  rw [clash_iff] at clash ⊢
  rcases clash with same | ⟨owned, owner, key⟩
  · exact .inl same.symm
  · exact .inr ⟨owner ▸ owned, owner.symm, key.symm⟩⟩

end Indexes

structure Tables where
  payments : Table PaymentRow IndexClash
  web : Text PaymentId → WebColumns

namespace Tables

def row (D : Tables) (row : PaymentRow) : SharedRow := ⟨row, D.web row.id⟩

def setWeb (D : Tables) (id : Text PaymentId) (web : WebColumns) : Tables :=
  { D with web := fun other => if other = id then web else D.web other }

def update (D : Tables) (id : Text PaymentId) (edit : WebEdit) (now : Instant) : Tables :=
  { payments := D.payments.update (targets id false) (edit.apply now)
      fun _ _ => ⟨Iff.rfl, Iff.rfl⟩
    web := (D.setWeb id (edit.applyWeb (D.web id))).web }

def sameId (id : Text PaymentId) (row : PaymentRow) : Bool := idText row.id == idText id

/-- `INSERT … ON CONFLICT (id) DO UPDATE … RETURNING *`: the owner it assigns
may clash too. -/
def upsert (D : Tables) (input : PersistInput) (now : Instant) :
    Except SqlError (Tables × SharedRow) :=
  match D.payments.rows.find? (sameId input.id) with
  | some row =>
    match D.payments.revise (sameId input.id) (input.assigned now) with
    | some payments =>
      .ok (⟨payments, (D.setWeb row.id input.web).web⟩, ⟨input.assigned now row, input.web⟩)
    | none => .error .constraint
  | none =>
    match D.payments.insert (input.inserted now) with
    | some payments =>
      .ok (⟨payments, (D.setWeb input.id input.web).web⟩, ⟨input.inserted now, input.web⟩)
    | none => .error .constraint

/-- The first row that passes the test, in the order the engine visits rows. -/
def selectOne (D : Tables) (visit : PaymentRow → ℕ) (test : PaymentRow → Bool) :
    Option SharedRow :=
  (((D.payments.rows.insertionSort fun a b => visit a ≤ visit b).find? test).map D.row)

end Tables

/-- No gateway shares these tables. -/
def respond (d : WebDraw) (D : Tables) : (e : WebEffect) → Option (Tables × e.Response)
  | .select test => some (D, if d.fails then .error .failed else .ok (D.selectOne d.visit test))
  | .update id edit =>
    some (if d.fails then (D, .error .failed) else (D.update id edit d.clock, .ok ()))
  | .upsert input now =>
    some (if d.fails then (D, .error .failed)
      else match D.upsert input now with
        | .ok (D', row) => (D', .ok row)
        | .error e => (D, .error e))
  | .recordEvent _ _ _ => some (D, if d.fails then .error .failed else .ok ())
  | .findApiKey _ => some (D, if d.fails then .error .failed else .ok d.apiKey)
  | .randomUUID => some (D, d.uuid)
  | .now => some (D, d.clock)
  | .forward _ _ => some (D, d.gateway)
  | .fetch _ => some (D, d.gateway)
  | .createSession _ _ => some (D, d.session)
  | .retrieveSession _ => some (D, d.sessionStatus)
  | .gateway _ => none

section Statements

variable {D D' : Tables} {input : PersistInput} {now : Instant} {found : SharedRow}

theorem selectOne_some {visit : PaymentRow → ℕ} {test : PaymentRow → Bool}
    (selected : D.selectOne visit test = some found) :
    ∃ row ∈ D.payments.rows, test row = true ∧ found = D.row row := by
  obtain ⟨row, search, rfl⟩ := Option.map_eq_some_iff.mp selected
  have mem := List.mem_of_find?_eq_some search
  exact ⟨row, (List.perm_insertionSort _ _).mem_iff.mp mem, List.find?_some search, rfl⟩

theorem selectOne_none {visit : PaymentRow → ℕ} {test : PaymentRow → Bool}
    (missing : D.selectOne visit test = none) : ∀ row ∈ D.payments.rows, test row = false := by
  rw [Tables.selectOne, Option.map_eq_none_iff, List.find?_eq_none] at missing
  intro row mem
  exact Bool.eq_false_iff.mpr (missing row ((List.perm_insertionSort _ _).mem_iff.mpr mem))

/-- The row with an id. -/
theorem sameId_unique {a b : PaymentRow} (ha : a ∈ D.payments.rows) (hb : b ∈ D.payments.rows)
    (same : idText a.id = idText b.id) : a = b :=
  D.payments.eq_of_clash ha hb (.inl same)

/-- An upsert assigns to the row with the id, or inserts one that clashes with
no other. -/
theorem upsert_cases (stored : D.upsert input now = .ok (D', found)) :
    (∃ row ∈ D.payments.rows, idText row.id = idText input.id ∧
      found = ⟨input.assigned now row, input.web⟩ ∧ D'.payments.rows =
        D.payments.rows.map (Table.change (Tables.sameId input.id) (input.assigned now))) ∨
    ((∀ row ∈ D.payments.rows, idText row.id ≠ idText input.id) ∧
      found = ⟨input.inserted now, input.web⟩ ∧
      D'.payments.rows = D.payments.rows ++ [input.inserted now]) := by
  unfold Tables.upsert at stored
  split at stored
  next row search =>
    split at stored
    next payments revised =>
      cases stored
      have is := List.find?_some search
      exact .inl ⟨row, List.mem_of_find?_eq_some search, by simpa [Tables.sameId] using is, rfl,
        Table.revise_eq_some revised⟩
    · cases stored
  next missing =>
    split at stored
    next payments inserted =>
      cases stored
      rw [List.find?_eq_none] at missing
      refine .inr ⟨fun row mem => ?_, rfl, (Table.insert_eq_some.mp inserted).2⟩
      simpa [Tables.sameId] using missing row mem
    · cases stored

/-- The row with the id may be assigned a free key of its owner. -/
theorem upsert_assigns (now : Instant) {row : PaymentRow} (mem : row ∈ D.payments.rows)
    (same : idText row.id = idText input.id)
    (free : ∀ other ∈ D.payments.rows, idText other.id ≠ idText input.id →
      other.userId = some input.userId →
      keyText other.idempotencyKey ≠ keyText row.idempotencyKey) :
    ∃ D', D.upsert input now = .ok (D', ⟨input.assigned now row, input.web⟩) := by
  have found : D.payments.rows.find? (Tables.sameId input.id) = some row := by
    refine D.payments.find_eq mem (by simp [Tables.sameId, same]) fun b is => .inl ?_
    rw [same]
    simpa [Tables.sameId] using is
  have only : ∀ b ∈ D.payments.rows, Tables.sameId input.id b = true → b = row := by
    intro b memb is
    apply sameId_unique memb mem
    rw [same]
    simpa [Tables.sameId] using is
  have apart : ∀ b ∈ D.payments.rows, Tables.sameId input.id b = false →
      ¬ IndexClash (input.assigned now row) b := by
    intro b memb other
    have differs : idText b.id ≠ idText input.id := by simpa [Tables.sameId] using other
    rw [clash_iff]
    rintro (is | ⟨-, owner, key⟩)
    · exact differs (is.symm.trans same)
    · exact free b memb differs owner.symm key.symm
  obtain ⟨payments, revised⟩ := D.payments.revise_one (.inl rfl) only apart
  refine ⟨⟨payments, (D.setWeb row.id input.web).web⟩, ?_⟩
  rw [Tables.upsert, found]
  simp only [revised]

/-- A row with a new id and a free key of its owner is inserted. -/
theorem upsert_inserts (now : Instant)
    (fresh : ∀ row ∈ D.payments.rows, idText row.id ≠ idText input.id)
    (free : ∀ row ∈ D.payments.rows, row.userId = some input.userId →
      keyText row.idempotencyKey ≠ keyText input.idempotencyKey) :
    ∃ D', D.upsert input now = .ok (D', ⟨input.inserted now, input.web⟩) := by
  have missing : D.payments.rows.find? (Tables.sameId input.id) = none := by
    rw [List.find?_eq_none]
    intro row mem
    simpa [Tables.sameId] using fresh row mem
  have apart : ∀ row ∈ D.payments.rows, ¬ IndexClash row (input.inserted now) := by
    intro row mem
    rw [clash_iff]
    rintro (is | ⟨-, owner, key⟩)
    · exact fresh row mem is
    · exact free row mem owner key
  obtain ⟨payments, inserted⟩ :
      ∃ payments, D.payments.insert (input.inserted now) = some payments := by
    cases inserted : D.payments.insert (input.inserted now) with
    | some payments => exact ⟨payments, rfl⟩
    | none =>
      obtain ⟨row, mem, clash⟩ := Table.insert_eq_none.mp inserted
      exact absurd clash (apart row mem)
  exact ⟨⟨payments, (D.setWeb input.id input.web).web⟩,
    by rw [Tables.upsert, missing]; simp only [inserted]⟩

end Statements

end OpenWrapper.WebTables
