import OpenWrapper.StatusWrites
import OpenWrapper.WebCreations

/-! # Creations under one key, interleaved

Requests of one user under one key run against the web application's own
tables. The key is looked up before the provider is called and stored after, so
a lookup in vain must meet no request that is between the two. A call of the
provider counts from the moment the task awaits it. -/

set_option autoImplicit false

namespace OpenWrapper.WebCreateOnce
open OpenWrapper.Ids OpenWrapper.Payments OpenWrapper.Schema OpenWrapper.ConstraintTable
open OpenWrapper.WebDatabase OpenWrapper.CallbackRoutes OpenWrapper.ApiRequests
open OpenWrapper.PaymentRoutes OpenWrapper.WebTables OpenWrapper.WebCreations
open OpenWrapper.Suspended OpenWrapper.Suspended.Prog OpenWrapper.Interleaving

def setting (c : Scope) : Setting WebEffect.Response (Sent c) Answer Tables WebDraw where
  body o := post c.host o.req
  react D e d := respond d D e

abbrev State (c : Scope) := World WebEffect.Response (Sent c) Answer Tables

abbrev Step (c : Scope) := Action (Sent c) WebDraw

abbrev Request (c : Scope) := Task WebEffect.Response (Sent c) Answer

section Property

variable {c : Scope}

def isLookup : WebEffect → Bool
  | .select _ => true
  | _ => false

def creations : WebEffect → ℕ
  | .createSession _ _ => 1
  | _ => 0

def awaited : Web Answer → ℕ
  | .call e _ => creations e
  | .done _ => 0

def created (t : Request c) : ℕ := (t.history.map fun ev => creations ev.1).sum

/-- The calls of the provider that create a payment, over all requests. -/
def providerCalls (w : State c) : ℕ := (w.tasks.map fun t => created t + awaited t.rest).sum

/-- Every answer with a payment is of the stored payment of the key. -/
structure CreateOnce (w : State c) : Prop where
  once : providerCalls w ≤ 1
  single : ∀ row ∈ w.shared.payments.rows, ∀ row' ∈ w.shared.payments.rows,
    c.Owns row → c.Owns row' → row = row'
  stored : ∀ t ∈ w.tasks, ∀ answer id, t.rest = .done answer → paid answer = some id →
    ∃ row ∈ w.shared.payments.rows, c.Owns row ∧ row.id = id ∧
      t.origin.fingerprint = some row.requestFingerprint
  agreed : ∀ t ∈ w.tasks, ∀ t' ∈ w.tasks, ∀ answer answer' id id',
    t.rest = .done answer → t'.rest = .done answer' →
    paid answer = some id → paid answer' = some id' →
    id = id' ∧ t.origin.fingerprint = t'.origin.fingerprint

/-- A task that is about to perform an effect, and what the effect will meet. -/
structure Performed (c : Scope) where
  index : ℕ
  task : Request c
  effect : WebEffect
  draw : WebDraw

def performed (w : State c) : Step c → Option (Performed c)
  | .advance i d =>
    match w.tasks[i]? with
    | some t =>
      match t.rest with
      | .call e _ => some ⟨i, t, e, d⟩
      | .done _ => none
    | none => none
  | _ => none

/-- A request with another body that looks the key of a stored payment up is
answered with the conflict. -/
def Conflicts (w : State c) (a : Step c) : Prop :=
  ∀ p ∈ performed w a, isLookup p.effect = true → ∀ row ∈ w.shared.payments.rows, c.Owns row →
    p.task.origin.fingerprint ≠ some row.requestFingerprint →
    ∀ w', step (setting c) w a = some w' →
      ∃ t, w'.tasks[p.index]? = some t ∧ t.rest = .done conflict

end Property

section Conditions

variable {c : Scope} (w : State c)

/-- An API key that is found is the user's. -/
def Performed.ByUser (p : Performed c) : Prop :=
  match p.effect with
  | .findApiKey _ => ∀ key ∈ p.draw.apiKey, c.Calls p.task.origin.req (callerOf key)
  | _ => True

instance : (p : Performed c) → Decidable p.ByUser
  | ⟨_, t, .findApiKey _, d⟩ =>
    inferInstanceAs (Decidable (∀ key ∈ d.apiKey, c.Calls t.origin.req (callerOf key)))
  | ⟨_, _, .select _, _⟩ | ⟨_, _, .update _ _, _⟩ | ⟨_, _, .upsert _ _, _⟩
  | ⟨_, _, .recordEvent _ _ _, _⟩ | ⟨_, _, .randomUUID, _⟩ | ⟨_, _, .now, _⟩
  | ⟨_, _, .forward _ _, _⟩ | ⟨_, _, .fetch _, _⟩ | ⟨_, _, .createSession _ _, _⟩
  | ⟨_, _, .retrieveSession _, _⟩ | ⟨_, _, .gateway _, _⟩ => .isTrue trivial

def ByUser (a : Step c) : Prop := ∀ p ∈ performed w a, p.ByUser

instance (a : Step c) : Decidable (ByUser w a) :=
  inferInstanceAs (Decidable (∀ p ∈ performed w a, p.ByUser))

def isAnswered : Web Answer → Bool
  | .done _ => true
  | .call _ _ => false

/-- The request has looked the key up and is not answered. One that was stopped
stays so. -/
def UnderWay (t : Request c) : Prop :=
  (t.history.any fun ev => isLookup ev.1) = true ∧ isAnswered t.rest = false

instance (t : Request c) : Decidable (UnderWay t) := inferInstanceAs (Decidable (_ ∧ _))

def Stored : Prop := ∃ row ∈ w.shared.payments.rows, c.Owns row

instance : Decidable (Stored w) := inferInstanceAs (Decidable (∃ row ∈ _, c.Owns row))

/-- A lookup is executed, and finds a payment or no other request under way; a
generated id is new; the provider creates, and what it created is stored. -/
def Performed.Orderly (p : Performed c) : Prop :=
  match p.effect with
  | .select _ => p.draw.fails = false ∧
      (Stored w ∨ ∀ t ∈ w.tasks.eraseIdx p.index, ¬ UnderWay t)
  | .randomUUID => ∀ row ∈ w.shared.payments.rows, idText row.id ≠ localId p.draw.uuid
  | .createSession _ _ => p.draw.session.isOk = true
  | .upsert _ _ => Stored w ∨ p.draw.fails = false
  | _ => True

instance : (p : Performed c) → Decidable (p.Orderly w)
  | ⟨i, _, .select _, d⟩ => inferInstanceAs (Decidable (d.fails = false ∧
      (Stored w ∨ ∀ t ∈ w.tasks.eraseIdx i, ¬ UnderWay t)))
  | ⟨_, _, .randomUUID, d⟩ => inferInstanceAs (Decidable
      (∀ row ∈ w.shared.payments.rows, idText row.id ≠ localId d.uuid))
  | ⟨_, _, .createSession _ _, d⟩ => inferInstanceAs (Decidable (d.session.isOk = true))
  | ⟨_, _, .upsert _ _, d⟩ => inferInstanceAs (Decidable (Stored w ∨ d.fails = false))
  | ⟨_, _, .update _ _, _⟩ | ⟨_, _, .recordEvent _ _ _, _⟩ | ⟨_, _, .findApiKey _, _⟩
  | ⟨_, _, .now, _⟩ | ⟨_, _, .forward _ _, _⟩ | ⟨_, _, .fetch _, _⟩
  | ⟨_, _, .retrieveSession _, _⟩ | ⟨_, _, .gateway _, _⟩ => .isTrue trivial

def Orderly (a : Step c) : Prop := ∀ p ∈ performed w a, p.Orderly w

instance (a : Step c) : Decidable (Orderly w a) :=
  inferInstanceAs (Decidable (∀ p ∈ performed w a, p.Orderly w))

/-- The user has no payment under the key in another environment. -/
def OneEnvironment (c : Scope) (D : Tables) : Prop :=
  ∀ row ∈ D.payments.rows, row.userId = some c.userId → keyText row.idempotencyKey = c.key →
    row.environment = c.environment

end Conditions

section Requests

/-! What a request does next, in each of its stages. -/

variable {c : Scope} {o : Sent c} {D D' : Tables} {d : WebDraw} {e : WebEffect} {r : e.Response}
  {k : e.Response → Web Answer}

theorem waits_step (waits : Waits o (.call e k))
    (reacted : WebTables.respond d D e = some (D', r))
    (users : ∀ hash, e = .findApiKey hash → ∀ key ∈ d.apiKey, c.Calls o.req (callerOf key))
    (executed : isLookup e = true → d.fails = false) :
    D' = D ∧ creations e = 0 ∧ (isLookup e = false ∧ Waits o (k r) ∨
      isLookup e = true ∧
        ((∃ row ∈ D.payments.rows, c.Owns row ∧ Replays o row.id row.requestFingerprint (k r) ∧
          (o.fingerprint ≠ some row.requestFingerprint → k r = .done conflict)) ∨
        (∀ row ∈ D.payments.rows, ¬ c.Owns row) ∧ ∀ rows, Creates o rows 0 (k r))) := by
  cases e with
  | findApiKey hash =>
    cases reacted
    refine ⟨rfl, rfl, .inl ⟨rfl, waits _ fun key is => ?_⟩⟩
    split at is
    · cases is
    · exact users hash rfl key (Except.ok.inj is)
  | select test =>
    obtain ⟨rfl, found, missed⟩ := waits
    have executed : d.fails = false := executed rfl
    simp only [WebTables.respond, executed, Option.some.injEq, Prod.mk.injEq] at reacted
    obtain ⟨rfl, rfl⟩ := reacted
    refine ⟨rfl, rfl, .inr ⟨rfl, ?_⟩⟩
    cases selected : D.selectOne d.visit (ownKey c.userId c.key c.environment) with
    | some row =>
      obtain ⟨payment, mem, owns, rfl⟩ := selectOne_some selected
      exact .inl ⟨payment, mem, owns, found (D.row payment) owns⟩
    | none =>
      exact .inr ⟨fun row mem => Bool.eq_false_iff.mp (selectOne_none selected row mem), missed⟩
  | _ => exact waits.elim

theorem replays_step {row : PaymentRow} (mem : row ∈ D.payments.rows) (owns : c.Owns row)
    (replays : Replays o row.id row.requestFingerprint (.call e k))
    (reacted : WebTables.respond d D e = some (D', r)) :
    creations e = 0 ∧ isLookup e = false ∧ ∃ row' ∈ D'.payments.rows, c.Owns row' ∧
      row'.id = row.id ∧ row'.requestFingerprint = row.requestFingerprint ∧
      Replays o row.id row.requestFingerprint (k r) := by
  cases e with
  | now =>
    cases reacted
    exact ⟨rfl, rfl, row, mem, owns, rfl, rfl, replays _⟩
  | upsert input now =>
    obtain ⟨id, fingerprint, brings, stored, failed⟩ := replays
    refine ⟨rfl, rfl, ?_⟩
    have kept : ∃ row' ∈ D.payments.rows, c.Owns row' ∧ row'.id = row.id ∧
        row'.requestFingerprint = row.requestFingerprint := ⟨row, mem, owns, rfl, rfl⟩
    simp only [WebTables.respond, Option.some.injEq] at reacted
    split at reacted
    · cases reacted
      obtain ⟨row', there, owns', same, same'⟩ := kept
      exact ⟨row', there, owns', same, same', failed _⟩
    · split at reacted
      next upserted =>
        cases reacted
        rcases upsert_cases upserted with ⟨row', there, same, found, rows⟩ | ⟨absent, -⟩
        · have is : row' = row := sameId_unique there mem (same.trans (congrArg idText id))
          subst is
          refine ⟨input.assigned now row', ?_, ?_, rfl, fingerprint, stored _ ?_⟩
          · rw [rows]
            refine List.mem_map.mpr ⟨row', mem, Table.change_of_pos ?_⟩
            simp [Tables.sameId, same]
          · obtain ⟨-, key, -⟩ := Scope.owns_iff.mp owns
            exact Scope.owns_iff.mpr ⟨congrArg some brings.user, key, brings.environment⟩
          · rw [found]
            rfl
        · exact absurd (congrArg idText id.symm) (absent row mem)
      · cases reacted
        obtain ⟨row', there, owns', same, same'⟩ := kept
        exact ⟨row', there, owns', same, same', failed _⟩
  | _ => exact replays.elim

theorem creates_step {calls : ℕ} (creates : Creates o D.payments.rows calls (.call e k))
    (free : ∀ row ∈ D.payments.rows, row.userId = some c.userId →
      keyText row.idempotencyKey ≠ c.key)
    (reacted : WebTables.respond d D e = some (D', r))
    (executed : isLookup e = true → d.fails = false)
    (fresh : e = .randomUUID → ∀ row ∈ D.payments.rows, idText row.id ≠ localId d.uuid)
    (created : creations e = 1 → d.session.isOk = true)
    (stores : ∀ input now, e = .upsert input now → d.fails = false) :
    (D' = D ∧ Creates o D.payments.rows (creations e + calls) (k r)) ∨
      isLookup e = false ∧ creations e = 0 ∧ ∃ row ∈ D'.payments.rows, c.Owns row ∧
        ∃ answer, k r = .done answer ∧ paid answer = some row.id ∧
          o.fingerprint = some row.requestFingerprint := by
  cases e with
  | select test =>
    obtain ⟨rfl, missed, found⟩ := creates
    have executed : d.fails = false := executed rfl
    simp only [WebTables.respond, executed, Option.some.injEq, Prod.mk.injEq] at reacted
    obtain ⟨rfl, rfl⟩ := reacted
    refine .inl ⟨rfl, ?_⟩
    cases selected : D.selectOne d.visit test with
    | some row =>
      obtain ⟨payment, mem, passes, rfl⟩ := selectOne_some selected
      exact found _ mem passes
    | none => exact missed
  | randomUUID =>
    cases reacted
    refine .inl ⟨rfl, ?_⟩
    show Creates o D.payments.rows (0 + calls) (k _)
    rw [Nat.zero_add]
    exact creates.2 _ (fresh rfl)
  | now =>
    cases reacted
    refine .inl ⟨rfl, ?_⟩
    show Creates o D.payments.rows (0 + calls) (k _)
    rw [Nat.zero_add]
    exact creates.2 _
  | createSession request key =>
    obtain ⟨rfl, goes⟩ := creates
    cases reacted
    have worked : d.session.isOk = true := created rfl
    cases is : d.session with
    | error message =>
      rw [is] at worked
      cases worked
    | ok session => exact .inl ⟨rfl, goes session⟩
  | upsert input now =>
    obtain ⟨few, brings, target, tells⟩ := creates
    have executed : d.fails = false := stores input now rfl
    refine .inr ⟨rfl, rfl, ?_⟩
    simp only [WebTables.respond, executed, Option.some.injEq] at reacted
    rcases target with absent | ⟨row, mem, same, key⟩
    · obtain ⟨D₁, upserted⟩ := upsert_inserts now absent fun row mem owner =>
        brings.key ▸ free row mem (brings.user ▸ owner)
      rw [upserted] at reacted
      cases reacted
      obtain ⟨answer, is, told⟩ := tells ⟨input.inserted now, input.web⟩
      rcases upsert_cases upserted with ⟨row, mem, same, -⟩ | ⟨-, -, rows⟩
      · exact absurd same (absent row mem)
      · refine ⟨input.inserted now, ?_, ?_, answer, is, told, brings.fingerprint⟩
        · rw [rows]
          exact List.mem_append_right _ (List.mem_singleton_self _)
        · exact Scope.owns_iff.mpr ⟨congrArg some brings.user, brings.key, brings.environment⟩
    · obtain ⟨D₁, upserted⟩ := upsert_assigns now mem same fun other there _ owner =>
        key ▸ free other there (brings.user ▸ owner)
      rw [upserted] at reacted
      cases reacted
      obtain ⟨answer, is, told⟩ := tells ⟨input.assigned now row, input.web⟩
      rcases upsert_cases upserted with ⟨row', mem', same', -, rows⟩ | ⟨absent, -⟩
      · refine ⟨input.assigned now row, ?_, ?_, answer, is, told, brings.fingerprint⟩
        · rw [rows]
          refine List.mem_map.mpr ⟨row, mem, Table.change_of_pos ?_⟩
          simp [Tables.sameId, same]
        · exact Scope.owns_iff.mpr ⟨congrArg some brings.user, key, brings.environment⟩
      · exact absurd same (absent row mem)
  | _ => exact creates.elim

theorem waits_awaited {p : Web Answer} (waits : Waits o p) : awaited p = 0 := by
  cases p with
  | done answer => rfl
  | call e k => cases e <;> first | rfl | exact waits.elim

theorem replays_awaited {id : Text PaymentId} {fingerprint : String} {p : Web Answer}
    (replays : Replays o id fingerprint p) : awaited p = 0 := by
  cases p with
  | done answer => rfl
  | call e k => cases e <;> first | rfl | exact replays.elim

theorem creates_awaited {rows : List PaymentRow} {calls : ℕ} {p : Web Answer}
    (creates : Creates o rows calls p) : calls + awaited p ≤ 1 := by
  cases p with
  | done answer =>
    rw [creates.1, awaited]
    exact Nat.zero_le 1
  | call e k =>
    cases e with
    | select test =>
      rw [creates.1]
      exact Nat.zero_le 1
    | randomUUID =>
      rw [creates.1]
      exact Nat.zero_le 1
    | createSession request key =>
      rw [creates.1]
      exact Nat.le_refl 1
    | now => exact creates.1
    | upsert input now => exact creates.1
    | _ => exact creates.elim

end Requests

section Invariant

variable {c : Scope} {w w' : State c}

/-- The payment is not stored. Only a request under way may have called the
provider, and only one is under way. -/
structure Unstored (w : State c) : Prop where
  free : ∀ row ∈ w.shared.payments.rows, row.userId = some c.userId →
    keyText row.idempotencyKey ≠ c.key
  each : ∀ t ∈ w.tasks, (created t = 0 ∧ Waits t.origin t.rest) ∨
    ((t.history.any fun ev => isLookup ev.1) = true ∧
      Creates t.origin w.shared.payments.rows (created t) t.rest)
  alone : ∀ (i j : ℕ) (t t' : Request c), w.tasks[i]? = some t → w.tasks[j]? = some t' →
    UnderWay t → UnderWay t' → i = j

/-- The payment is stored, and every request that gets to it replays it. -/
structure StoredAs (row : PaymentRow) (w : State c) : Prop where
  mem : row ∈ w.shared.payments.rows
  owns : c.Owns row
  once : providerCalls w ≤ 1
  each : ∀ t ∈ w.tasks, Waits t.origin t.rest ∨
    Replays t.origin row.id row.requestFingerprint t.rest

def Standing (w : State c) : Prop := Unstored w ∨ ∃ row, StoredAs row w

theorem Unstored.not_owned (inv : Unstored w) : ∀ row ∈ w.shared.payments.rows, ¬ c.Owns row := by
  intro row mem owns
  obtain ⟨user, key, -⟩ := Scope.owns_iff.mp owns
  exact inv.free row mem user key

theorem Unstored.not_stored (inv : Unstored w) : ¬ Stored w := by
  rintro ⟨row, mem, owns⟩
  exact inv.not_owned row mem owns

/-- A call of the provider is of a request under way. -/
theorem Unstored.underWay (inv : Unstored w) {t : Request c} (mem : t ∈ w.tasks)
    (called : 1 ≤ created t + awaited t.rest) : UnderWay t := by
  rcases inv.each t mem with ⟨none_, waits⟩ | ⟨looked, creates⟩
  · rw [none_, waits_awaited waits] at called
    cases called
  · refine ⟨looked, ?_⟩
    cases rest : t.rest with
    | call e k => rfl
    | done answer =>
      rw [rest] at creates called
      rw [creates.1] at called
      cases called

theorem Unstored.once (inv : Unstored w) : providerCalls w ≤ 1 := by
  apply sum_le_one
  · intro t mem
    rcases inv.each t mem with ⟨none_, waits⟩ | ⟨-, creates⟩
    · rw [none_, waits_awaited waits]
      exact Nat.zero_le 1
    · exact creates_awaited creates
  · intro i j t t' found found' called called'
    exact inv.alone i j t t' found found' (inv.underWay (List.mem_of_getElem? found) called)
      (inv.underWay (List.mem_of_getElem? found') called')

/-- The row with the user's key is one. -/
theorem owns_unique {D : Tables} {row row' : PaymentRow} (mem : row ∈ D.payments.rows)
    (mem' : row' ∈ D.payments.rows) (owns : c.Owns row) (owns' : c.Owns row') : row = row' := by
  obtain ⟨user, key, -⟩ := Scope.owns_iff.mp owns
  obtain ⟨user', key', -⟩ := Scope.owns_iff.mp owns'
  apply D.payments.eq_of_clash mem mem'
  exact .inr (.inl ⟨by rw [user]; rfl, user.trans user'.symm, key.trans key'.symm⟩)

theorem StoredAs.createOnce {row : PaymentRow} (inv : StoredAs row w) : CreateOnce w := by
  have told : ∀ t ∈ w.tasks, ∀ answer id, t.rest = .done answer → paid answer = some id →
      id = row.id ∧ t.origin.fingerprint = some row.requestFingerprint := by
    intro t mem answer id rest is
    have stands := inv.each t mem
    rw [rest] at stands
    rcases stands with waits | replays
    · rw [Waits, is] at waits
      cases waits
    · exact replays id is
  constructor
  · exact inv.once
  · intro a ha b hb owns owns'
    exact owns_unique ha hb owns owns'
  · intro t mem answer id rest is
    obtain ⟨same, fingerprint⟩ := told t mem answer id rest is
    exact ⟨row, inv.mem, inv.owns, same.symm, fingerprint⟩
  · intro t mem t' mem' answer answer' id id' rest rest' is is'
    obtain ⟨same, fingerprint⟩ := told t mem answer id rest is
    obtain ⟨same', fingerprint'⟩ := told t' mem' answer' id' rest' is'
    exact ⟨same.trans same'.symm, fingerprint.trans fingerprint'.symm⟩

theorem Unstored.createOnce (inv : Unstored w) : CreateOnce w := by
  have silent : ∀ t ∈ w.tasks, ∀ answer id, t.rest = .done answer → paid answer ≠ some id := by
    intro t mem answer id rest is
    have stands := inv.each t mem
    rw [rest] at stands
    rcases stands with ⟨-, waits⟩ | ⟨-, creates⟩
    · rw [Waits, is] at waits
      cases waits
    · have refused := creates.2
      rw [is] at refused
      cases refused
  constructor
  · exact inv.once
  · intro a ha b hb owns owns'
    exact owns_unique ha hb owns owns'
  · intro t mem answer id rest is
    exact absurd is (silent t mem answer id rest)
  · intro t mem t' mem' answer answer' id id' rest rest' is is'
    exact absurd is (silent t mem answer id rest)

theorem Standing.createOnce (inv : Standing w) : CreateOnce w := by
  rcases inv with unstored | ⟨row, stored⟩
  · exact unstored.createOnce
  · exact stored.createOnce

end Invariant

section Steps

variable {c : Scope} {w w' : State c} {i : ℕ} {d : WebDraw}

theorem performed_advanced (adv : Advanced (setting c) w i d w') :
    performed w (.advance i d) = some ⟨i, adv.task, adv.effect, d⟩ := by
  simp only [performed, adv.found, adv.suspended]

theorem created_resumed (t : Request c) {e : WebEffect} (r : e.Response) (p : Web Answer) :
    created (t.resumed r p) = creations e + created t := by
  simp [created, Task.resumed]

theorem looked_resumed (t : Request c) {e : WebEffect} (r : e.Response) (p : Web Answer) :
    ((t.resumed r p).history.any fun ev => isLookup ev.1) =
      (isLookup e || t.history.any fun ev => isLookup ev.1) := rfl

/-- A step that neither calls the provider nor comes to do so. -/
theorem providerCalls_advanced (adv : Advanced (setting c) w i d w')
    (none_ : creations adv.effect = 0) (quiet : awaited (adv.resume adv.response) = 0) :
    providerCalls w' = providerCalls w := by
  have grown : created (adv.task.resumed adv.response (adv.resume adv.response)) +
      awaited (adv.task.resumed adv.response (adv.resume adv.response)).rest =
        0 + (created adv.task + awaited adv.task.rest) := by
    rw [created_resumed, none_, adv.suspended, awaited, none_]
    exact congrArg (0 + created adv.task + ·) quiet |>.trans (by omega)
  have sum := sum_map_set (fun t : Request c => created t + awaited t.rest) w.tasks i adv.task _ 0
    adv.found grown
  rw [providerCalls, adv.tasks_eq, sum, Nat.zero_add]
  rfl

/-- What the conditions say of the step of an advance. -/
structure Conditions (adv : Advanced (setting c) w i d w') : Prop where
  users : ∀ hash, adv.effect = .findApiKey hash → ∀ key ∈ d.apiKey,
    c.Calls adv.task.origin.req (callerOf key)
  executed : isLookup adv.effect = true → d.fails = false
  sole : isLookup adv.effect = true → Stored w ∨
    ∀ j ≠ i, ∀ t ∈ w.tasks[j]?, ¬ UnderWay t
  fresh : adv.effect = .randomUUID →
    ∀ row ∈ w.shared.payments.rows, idText row.id ≠ localId d.uuid
  created : creations adv.effect = 1 → d.session.isOk = true
  stores : ∀ input now, adv.effect = .upsert input now → Stored w ∨ d.fails = false

theorem conditions_of (adv : Advanced (setting c) w i d w')
    (users : ByUser w (.advance i d)) (orderly : Orderly w (.advance i d)) : Conditions adv := by
  have users := users _ (performed_advanced adv)
  have orderly := orderly _ (performed_advanced adv)
  unfold Performed.ByUser at users
  unfold Performed.Orderly at orderly
  constructor
  · intro hash is
    simpa only [is] using users
  · intro looks
    cases is : adv.effect with
    | select test =>
      simp only [is] at orderly
      exact orderly.1
    | _ =>
      rw [is] at looks
      cases looks
  · intro looks
    cases is : adv.effect with
    | select test =>
      simp only [is] at orderly
      refine orderly.2.imp_right fun alone j other t found => alone t ?_
      exact List.mem_eraseIdx_iff_getElem?.mpr ⟨j, other, found⟩
    | _ =>
      rw [is] at looks
      cases looks
  · intro is
    simpa only [is] using orderly
  · intro creates
    cases is : adv.effect with
    | createSession request key => simpa only [is] using orderly
    | _ =>
      rw [is] at creates
      cases creates
  · intro input now is
    simpa only [is] using orderly

/-- Where no other request is under way, the one of the advance may be. -/
theorem sole_advanced (adv : Advanced (setting c) w i d w')
    (others : ∀ j ≠ i, ∀ t ∈ w.tasks[j]?, ¬ UnderWay t) (j j' : ℕ) (t t' : Request c)
    (found : w'.tasks[j]? = some t) (found' : w'.tasks[j']? = some t') (under : UnderWay t)
    (under' : UnderWay t') : j = j' := by
  rcases adv.index_cases found with ⟨rfl, -⟩ | ⟨other, before⟩
  · rcases adv.index_cases found' with ⟨rfl, -⟩ | ⟨other', before'⟩
    · rfl
    · exact absurd under' (others j' other' t' before')
  · exact absurd under (others j other t before)

/-- A step to which the request was under way before leaves one under way. -/
theorem Unstored.alone_advanced (inv : Unstored w) (adv : Advanced (setting c) w i d w')
    (before : UnderWay (adv.task.resumed adv.response (adv.resume adv.response)) →
      UnderWay adv.task) (j j' : ℕ) (t t' : Request c) (found : w'.tasks[j]? = some t)
    (found' : w'.tasks[j']? = some t') (under : UnderWay t) (under' : UnderWay t') : j = j' := by
  rcases adv.index_cases found with ⟨rfl, rfl⟩ | ⟨-, old⟩
  · rcases adv.index_cases found' with ⟨rfl, -⟩ | ⟨-, old'⟩
    · rfl
    · exact inv.alone j j' adv.task t' adv.found old' (before under) under'
  · rcases adv.index_cases found' with ⟨rfl, rfl⟩ | ⟨-, old'⟩
    · exact inv.alone j j' t adv.task old adv.found under (before under')
    · exact inv.alone j j' t t' old old' under under'

theorem Unstored.advance (inv : Unstored w) (adv : Advanced (setting c) w i d w')
    (met : Conditions adv) : Standing w' := by
  have reacted : WebTables.respond d w.shared adv.effect = some (adv.shared, adv.response) :=
    adv.reacted
  have stored : ∀ {P : Prop}, Stored w ∨ P → P := fun either =>
    either.resolve_left inv.not_stored
  have unanswered : isAnswered adv.task.rest = false := by
    rw [adv.suspended]
    rfl
  rcases inv.each adv.task adv.mem with ⟨none_, waits⟩ | ⟨looked, creates⟩
  · rw [adv.suspended] at waits
    obtain ⟨same, calls, ⟨looks, waits'⟩ | ⟨looks, ⟨row, mem, owns, -⟩ | ⟨-, missed⟩⟩⟩ :=
      waits_step waits reacted met.users met.executed
    · left
      constructor
      · rw [adv.shared_eq, same]
        exact inv.free
      · intro t mem
        rw [adv.shared_eq, same]
        rcases adv.task_cases mem with rfl | ⟨j, -, old⟩
        · exact .inl ⟨by rw [created_resumed, calls, none_], waits'⟩
        · exact inv.each t (List.mem_of_getElem? old)
      · apply inv.alone_advanced adv
        intro under
        refine ⟨?_, unanswered⟩
        rw [UnderWay, looked_resumed, looks, Bool.false_or] at under
        exact under.1
    · exact absurd owns (inv.not_owned row mem)
    · left
      constructor
      · rw [adv.shared_eq, same]
        exact inv.free
      · intro t mem
        rw [adv.shared_eq, same]
        rcases adv.task_cases mem with rfl | ⟨j, -, old⟩
        · refine .inr ⟨by rw [looked_resumed, looks, Bool.true_or], ?_⟩
          rw [created_resumed, calls, none_]
          exact missed _
        · exact inv.each t (List.mem_of_getElem? old)
      · exact sole_advanced adv (stored (met.sole looks))
  · rw [adv.suspended] at creates
    rcases creates_step creates inv.free reacted met.executed met.fresh met.created
      (fun input now is => stored (met.stores input now is)) with
      ⟨same, creates'⟩ | ⟨-, calls, row, mem, owns, answer, answers, told, fingerprint⟩
    · left
      constructor
      · rw [adv.shared_eq, same]
        exact inv.free
      · intro t mem
        rw [adv.shared_eq, same]
        rcases adv.task_cases mem with rfl | ⟨j, -, old⟩
        · refine .inr ⟨by rw [looked_resumed, looked, Bool.or_true], ?_⟩
          rw [created_resumed]
          exact creates'
        · exact inv.each t (List.mem_of_getElem? old)
      · exact inv.alone_advanced adv fun _ => ⟨looked, unanswered⟩
    · right
      refine ⟨row, ?_, owns, ?_, ?_⟩
      · rw [adv.shared_eq]
        exact mem
      · rw [providerCalls_advanced adv calls (by rw [answers, awaited])]
        exact inv.once
      · intro t there
        rcases adv.task_cases there with rfl | ⟨j, other, old⟩
        · right
          show Replays adv.task.origin _ _ (adv.resume adv.response)
          rw [answers]
          intro id is
          exact ⟨Option.some.inj (is.symm.trans told), fingerprint⟩
        · left
          rcases inv.each t (List.mem_of_getElem? old) with ⟨-, waits⟩ | ⟨looked', creates'⟩
          · exact waits
          · cases rest : t.rest with
            | done answer' =>
              rw [rest] at creates'
              exact creates'.2
            | call e k =>
              have under : UnderWay t := ⟨looked', by rw [rest, isAnswered]⟩
              exact absurd (inv.alone j i t adv.task old adv.found under ⟨looked, unanswered⟩) other

theorem StoredAs.advance {row : PaymentRow} (inv : StoredAs row w)
    (adv : Advanced (setting c) w i d w') (met : Conditions adv) : Standing w' := by
  have reacted : WebTables.respond d w.shared adv.effect = some (adv.shared, adv.response) :=
    adv.reacted
  have advanced := inv.each adv.task adv.mem
  rw [adv.suspended] at advanced
  right
  rcases advanced with waits | replays
  · obtain ⟨same, calls, next⟩ := waits_step waits reacted met.users met.executed
    have goes : Waits adv.task.origin (adv.resume adv.response) ∨
        Replays adv.task.origin row.id row.requestFingerprint (adv.resume adv.response) := by
      rcases next with ⟨-, waits'⟩ | ⟨-, ⟨row', mem', owns', replays, -⟩ | ⟨missed, -⟩⟩
      · exact .inl waits'
      · rw [owns_unique inv.mem mem' inv.owns owns']
        exact .inr replays
      · exact absurd inv.owns (missed row inv.mem)
    have quiet : awaited (adv.resume adv.response) = 0 := goes.elim waits_awaited replays_awaited
    refine ⟨row, ?_, inv.owns, ?_, ?_⟩
    · rw [adv.shared_eq, same]
      exact inv.mem
    · rw [providerCalls_advanced adv calls quiet]
      exact inv.once
    · intro t mem
      rcases adv.task_cases mem with rfl | ⟨j, -, old⟩
      · exact goes
      · exact inv.each t (List.mem_of_getElem? old)
  · obtain ⟨calls, -, row', mem', owns', id, fingerprint, replays'⟩ :=
      replays_step inv.mem inv.owns replays reacted
    refine ⟨row', ?_, owns', ?_, ?_⟩
    · rw [adv.shared_eq]
      exact mem'
    · rw [providerCalls_advanced adv calls (replays_awaited replays')]
      exact inv.once
    · intro t mem
      rw [id, fingerprint]
      rcases adv.task_cases mem with rfl | ⟨j, -, old⟩
      · exact .inr replays'
      · exact inv.each t (List.mem_of_getElem? old)

theorem Standing.spawn (inv : Standing w) (o : Sent c) :
    Standing (⟨w.shared, w.tasks ++ [Task.start (setting c) o]⟩ : State c) := by
  rcases inv with unstored | ⟨row, stored⟩
  · left
    constructor
    · exact unstored.free
    · intro t mem
      rcases List.mem_append.mp mem with old | new
      · exact unstored.each t old
      · rw [List.mem_singleton.mp new]
        exact .inl ⟨rfl, waits_post o⟩
    · intro i j t t' found found' under under'
      have old : ∀ (j : ℕ) (t : Request c), (w.tasks ++ [Task.start (setting c) o])[j]? = some t →
          UnderWay t → w.tasks[j]? = some t := by
        intro j t found under
        by_cases inside : j < w.tasks.length
        · rwa [List.getElem?_append_left inside] at found
        · rw [List.getElem?_append_right (not_lt.mp inside)] at found
          rw [List.mem_singleton.mp (List.mem_of_getElem? found)] at under
          cases under.1
      exact unstored.alone i j t t' (old i t found under) (old j t' found' under') under under'
  · right
    refine ⟨row, stored.mem, stored.owns, ?_, ?_⟩
    · have waits : awaited (post c.host o.req) = 0 := waits_awaited (waits_post o)
      have once := stored.once
      unfold providerCalls at once ⊢
      rw [List.map_append, List.sum_append]
      simpa [Task.start, created, setting, waits] using once
    · intro t mem
      rcases List.mem_append.mp mem with old | new
      · exact stored.each t old
      · rw [List.mem_singleton.mp new]
        exact .inl (waits_post o)

theorem Standing.cancel (inv : Standing w) {t : Request c} (found : w.tasks[i]? = some t) :
    Standing (⟨w.shared, w.tasks.set i t.dropped⟩ : State c) := by
  have mem := List.mem_of_getElem? found
  rcases inv with unstored | ⟨row, stored⟩
  · left
    constructor
    · exact unstored.free
    · intro t' mem'
      rcases List.mem_or_eq_of_mem_set mem' with old | rfl
      · exact unstored.each t' old
      · exact unstored.each t mem
    · intro j j' t₁ t₂ found₁ found₂ under₁ under₂
      have old : ∀ (j : ℕ) (t' : Request c), (w.tasks.set i t.dropped)[j]? = some t' →
          UnderWay t' → ∃ t₀, w.tasks[j]? = some t₀ ∧ UnderWay t₀ := by
        intro j t' found' under
        by_cases same : i = j
        · subst same
          have inside : i < w.tasks.length := (List.getElem?_eq_some_iff.mp found).1
          rw [List.getElem?_set_self inside] at found'
          rw [← Option.some.inj found'] at under
          exact ⟨t, found, under⟩
        · rw [List.getElem?_set_ne same] at found'
          exact ⟨t', found', under⟩
      obtain ⟨_, there₁, before₁⟩ := old j t₁ found₁ under₁
      obtain ⟨_, there₂, before₂⟩ := old j' t₂ found₂ under₂
      exact unstored.alone j j' _ _ there₁ there₂ before₁ before₂
  · right
    refine ⟨row, stored.mem, stored.owns, ?_, ?_⟩
    · have sum := sum_map_set (fun t : Request c => created t + awaited t.rest) w.tasks i t
        t.dropped 0 found (by rw [Nat.zero_add]; rfl)
      rw [providerCalls, sum, Nat.zero_add]
      exact stored.once
    · intro t' mem'
      rcases List.mem_or_eq_of_mem_set mem' with old | rfl
      · exact stored.each t' old
      · exact stored.each t mem

theorem Standing.step {a : Step c} (inv : Standing w) (users : ByUser w a)
    (orderly : Orderly w a) (stepped : step (setting c) w a = some w') : Standing w' := by
  obtain ⟨o, -, rfl⟩ | ⟨i, d, rfl, ⟨adv⟩⟩ | ⟨i, t, -, found, rfl⟩ := step_cases stepped
  · exact inv.spawn o
  · have met := conditions_of adv users orderly
    rcases inv with unstored | ⟨row, stored⟩
    · exact unstored.advance adv met
    · exact stored.advance adv met
  · exact inv.cancel found

theorem standing_start {D : Tables} (one : OneEnvironment c D) :
    Standing (⟨D, []⟩ : State c) := by
  by_cases stored : ∃ row ∈ D.payments.rows, c.Owns row
  · obtain ⟨row, mem, owns⟩ := stored
    exact .inr ⟨row, mem, owns, Nat.zero_le 1, fun t there => absurd there List.not_mem_nil⟩
  · left
    constructor
    · intro row mem user key
      exact stored ⟨row, mem, Scope.owns_iff.mpr ⟨user, key, one row mem user key⟩⟩
    · intro t there
      cases there
    · intro i j t t' found
      simp at found

theorem Standing.conflicts {a : Step c} (inv : Standing w) (users : ByUser w a)
    (orderly : Orderly w a) : Conflicts w a := by
  intro p performs looks row mem owns differs w' stepped
  obtain ⟨o, rfl, -⟩ | ⟨i, d, rfl, ⟨adv⟩⟩ | ⟨i, t, rfl, -, -⟩ := step_cases stepped
  · cases performs
  · have met := conditions_of adv users orderly
    rw [performed_advanced adv] at performs
    cases performs
    have inside : i < w.tasks.length := (List.getElem?_eq_some_iff.mp adv.found).1
    refine ⟨_, by rw [adv.tasks_eq]; exact List.getElem?_set_self inside, ?_⟩
    rcases inv with unstored | ⟨row', stored⟩
    · exact absurd owns (unstored.not_owned row mem)
    · have advanced := stored.each adv.task adv.mem
      rw [adv.suspended] at advanced
      rcases advanced with waits | replays
      · obtain ⟨-, -, ⟨none_, -⟩ | ⟨-, ⟨row'', mem'', owns'', -, answers⟩ | ⟨missed, -⟩⟩⟩ :=
          waits_step waits adv.reacted met.users met.executed
        · rw [none_] at looks
          cases looks
        · rw [owns_unique mem mem'' owns owns''] at differs
          exact answers differs
        · exact absurd owns (missed row mem)
      · obtain ⟨-, none_, -⟩ := replays_step stored.mem stored.owns replays adv.reacted
        rw [none_] at looks
        cases looks
  · cases performs

end Steps

section Samples

open OpenWrapper.JsonValue

def stripeBody : String :=
  "\x7b\"provider\":\"stripe\",\"amount\":100,\"customer\":\x7b\"phone\":\"01000000000\"\x7d\x7d"

def stripeDocument : Json := .obj [("provider", .str "stripe"), ("amount", .num "100"),
  ("customer", .obj [("phone", .str "01000000000")])]

def stripeHost : ApiHost :=
  { StatusWrites.webHost [] with
    toHost := CallbackAuthentication.hostOf [("STRIPE_SECRET_KEY", "sk")]
      [(stripeBody, stripeDocument)] }

def merchant : Scope := ⟨stripeHost, "user-1", "order-1", "live", by decide⟩

def stripeOrder : Sent merchant where
  req := ⟨"v1", [("idempotency-key", "order-1"), ("x-api-key", "ow_live_1")], 75, stripeBody⟩
  keyed := rfl
  ambient := by
    intro caller is
    cases is

def noTables : Tables := ⟨Table.empty, fun _ => WebColumns.unset⟩

/-- Everything works, and this UUID is generated. -/
def working (uuid : String) : WebDraw where
  clock := ⟨0⟩
  visit _ := 0
  fails := false
  fresh := ⟨0⟩
  uuid := uuid
  apiKey := some ⟨1, "user-1", "live", "ow_live"⟩
  gateway := .lost ""
  session := .ok ⟨"cs_1", none⟩
  sessionStatus := .error ""

/-- Both requests look the key up before either creates. -/
def overlapping : List (Step merchant) :=
  [.spawn stripeOrder, .spawn stripeOrder, .advance 0 (working "a"), .advance 0 (working "a"),
    .advance 0 (working "a"), .advance 1 (working "b"), .advance 1 (working "b"),
    .advance 1 (working "b"), .advance 0 (working "a"), .advance 1 (working "b")]

/-- One after the other: the second finds what the first stored. -/
def successive : List (Step merchant) :=
  [.spawn stripeOrder, .advance 0 (working "a"), .advance 0 (working "a"),
    .advance 0 (working "a"), .advance 0 (working "a"), .advance 0 (working "a"),
    .advance 0 (working "a"), .advance 0 (working "a"), .spawn stripeOrder,
    .advance 1 (working "b"), .advance 1 (working "b"), .advance 1 (working "b"),
    .advance 1 (working "b")]

end Samples

section Main

/-- Where every lookup finds the payment or no other request under way, and what
is created is stored, the payment of the key is created once. -/
theorem web_create_once (c : Scope) (D : Tables) (one : OneEnvironment c D) (as : List (Step c))
    (meets : Meets (setting c) (fun w a => ByUser w a ∧ Orderly w a) ⟨D, []⟩ as) :
    (∀ w, run (setting c) ⟨D, []⟩ as = some w → CreateOnce w) ∧
      Meets (setting c) Conflicts ⟨D, []⟩ as := by
  have kept : ∀ (w : State c) (a : Step c) (w' : State c), Standing w →
      ByUser w a ∧ Orderly w a → step (setting c) w a = some w' → Standing w' :=
    fun w a w' inv met stepped => inv.step met.1 met.2 stepped
  constructor
  · intro w ran
    exact (run_invariant kept (standing_start one) meets ran).createOnce
  · exact meets_of_invariant kept (fun w a inv met => inv.conflicts met.1 met.2)
      (standing_start one) meets

theorem web_create_once_successive :
    (∀ w, run (setting merchant) ⟨noTables, []⟩ successive = some w → CreateOnce w) ∧
      Meets (setting merchant) Conflicts ⟨noTables, []⟩ successive := by
  have one : OneEnvironment merchant noTables := by
    intro row mem
    cases mem
  exact web_create_once merchant noTables one successive (by decide +kernel)

/-- Two requests that look the key up before either is stored both call the
provider, on empty tables and with nothing failing. -/
theorem web_created_twice : ¬ ∀ (c : Scope) (D : Tables) (as : List (Step c)),
    OneEnvironment c D → Meets (setting c) ByUser ⟨D, []⟩ as →
      ∀ w, run (setting c) ⟨D, []⟩ as = some w → CreateOnce w := by
  intro claim
  have one : OneEnvironment merchant noTables := by
    intro row mem
    cases mem
  have kept := claim merchant noTables overlapping one (by decide +kernel)
  exact run_refutes (setting merchant) (I := fun w => providerCalls w ≤ 1) ⟨noTables, []⟩
    overlapping (by decide +kernel) fun w ran => (kept w ran).once

end Main

end OpenWrapper.WebCreateOnce
