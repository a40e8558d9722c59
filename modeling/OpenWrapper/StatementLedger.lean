import OpenWrapper.IssuedStatements
import OpenWrapper.SqliteLedger
import OpenWrapper.StatementRuns
import OpenWrapper.StatusLegality
import OpenWrapper.UniqueEvents

/-! # The Postgres tables under interleaved statements

No statement on Postgres checks the reference of the row it updates. It is
written once all the same: only the task that inserted a row assigns its
reference, and only right after the provider answered the one call that the
insertion stands for. -/

set_option autoImplicit false

namespace OpenWrapper.StatementLedger
open OpenWrapper.Ids OpenWrapper.Errors OpenWrapper.Payments OpenWrapper.Schema
open OpenWrapper.ConstraintTable OpenWrapper.PaymentStore OpenWrapper.Providers
open OpenWrapper.Effects OpenWrapper.Gateway OpenWrapper.Contracts OpenWrapper.Evolution
open OpenWrapper.Claimants OpenWrapper.SqliteLedger OpenWrapper.StatementRuns
open OpenWrapper.StatusLegality OpenWrapper.IssuedStatements OpenWrapper.UniqueEvents
open OpenWrapper.Lowerings
open OpenWrapper.Suspended OpenWrapper.Suspended.Prog OpenWrapper.Interleaving

section Statements

/-- What a statement may make of the tables. -/
inductive Makes (L : Ledger) : Stmt → Ledger → Prop
  | kept (e : Stmt) : Makes L e L
  | wrote (w : Write) (L' : Ledger) (rows : ℕ) :
      w.perform .postgres L = .ok (L', rows) → Makes L (.write w) L'
  | committed (ws : List Write) (L' : Ledger) :
      performAll .postgres L ws = .ok L' → Makes L (.transaction ws) L'

variable {d : Draw} {L L' : Ledger} {e : Stmt} {w : Write} {rows : ℕ}

theorem exec_makes : Makes L e (exec .postgres d 0 (Session.on L) e).1.ledger := by
  cases fails : d.fails 0 with
  | true =>
    have same : (exec .postgres d 0 (Session.on L) e).1.ledger = L := by
      cases e <;> simp [exec, Stmt.refused, Stmt.run, fails, Session.on]
    rw [same]
    exact .kept e
  | false =>
    simp only [exec, fails]
    cases e with
    | write w =>
      simp only [Stmt.run, Session.on]
      cases performed : w.perform .postgres L with
      | error e => exact .kept _
      | ok after => exact .wrote w after.1 after.2 performed
    | transaction ws =>
      simp only [Stmt.run, Session.on]
      cases performed : performAll .postgres L ws with
      | error e => exact .kept _
      | ok L' => exact .committed ws L' performed
    | _ => exact .kept _

/-- A write that is answered well has been performed. -/
theorem exec_write {count : ℕ} (answered : (exec .postgres d 0 (Session.on L) (.write w)).2 =
    .ok count) : w.perform .postgres L =
      .ok ((exec .postgres d 0 (Session.on L) (.write w)).1.ledger, count) := by
  cases fails : d.fails 0 with
  | true => simp [exec, Stmt.refused, fails] at answered
  | false =>
    simp only [exec, fails, Stmt.run, Session.on] at answered ⊢
    cases performed : w.perform .postgres L with
    | error e => simp [performed] at answered
    | ok after =>
      simp only [performed, Except.ok.injEq] at answered ⊢
      exact Prod.ext rfl answered

/-- What each write of a transaction brings about, one after another, they
bring about together. -/
theorem performAll_induction {R : Ledger → Ledger → Prop} (refl : ∀ L, R L L)
    (trans : ∀ {L₁ L₂ L₃}, R L₁ L₂ → R L₂ L₃ → R L₁ L₃) {ws : List Write}
    (each : ∀ w ∈ ws, ∀ L L' rows, w.perform .postgres L = .ok (L', rows) → R L L')
    (performed : performAll .postgres L ws = .ok L') : R L L' := by
  induction ws generalizing L with
  | nil =>
    cases performed
    exact refl _
  | cons w ws ih =>
    simp only [performAll] at performed
    split at performed
    next L₁ rows first =>
      have rest := ih (fun w' mem => each w' (List.mem_cons_of_mem _ mem)) performed
      exact trans (each w List.mem_cons_self _ L₁ rows first) rest
    · cases performed

theorem write_evolves (performed : w.perform .postgres L = .ok (L', rows)) : Evolves L L' := by
  cases w with
  | insertPayment row =>
    simp only [Write.perform] at performed
    split at performed
    next payments inserted =>
      cases performed
      exact evolves_insertPayment inserted
    · cases performed
  | updatePayment id guarded edit =>
    cases performed
    exact evolves_updatePayment _ _ _ _
  | insertWebhookEvent row =>
    simp only [Write.perform] at performed
    split at performed
    next webhookEvents inserted =>
      cases performed
      exact evolves_insertWebhookEvent inserted
    · cases performed
  | insertRefund row =>
    simp only [Write.perform] at performed
    split at performed
    next refunds inserted =>
      cases performed
      exact evolves_insertRefund inserted
    · cases performed

/-- No statement removes a row. -/
theorem makes_evolves (makes : Makes L e L') : Evolves L L' := by
  cases makes with
  | kept => exact Evolves.refl L
  | wrote w L' rows performed => exact write_evolves performed
  | committed ws L' performed =>
    exact performAll_induction Evolves.refl Evolves.trans (fun _ _ _ _ _ => write_evolves) performed

theorem retains_refl (L : Ledger) : Retains L L := fun row mem => ⟨row, mem, Frozen.refl row⟩

/-- The columns of a claim stay, and no row comes to a reference. -/
structure Conserves (L L' : Ledger) : Prop where
  retained : Retains L L'
  known : ∀ row' ∈ L'.payments.rows, row'.providerReference ≠ none →
    ∃ row ∈ L.payments.rows, row.id = row'.id ∧ row.providerReference ≠ none

theorem conserves_of_payments (same : L'.payments = L.payments) : Conserves L L' := by
  constructor
  · intro row mem
    exact ⟨row, by rw [same]; exact mem, Frozen.refl row⟩
  · intro row mem named
    exact ⟨row, by rw [← same]; exact mem, rfl, named⟩

theorem Conserves.trans {L₁ L₂ L₃ : Ledger} (first : Conserves L₁ L₂) (second : Conserves L₂ L₃) :
    Conserves L₁ L₃ where
  retained := Trans.trans first.retained second.retained
  known := by
    intro row₃ mem₃ named₃
    obtain ⟨row₂, mem₂, is₂, named₂⟩ := second.known row₃ mem₃ named₃
    obtain ⟨row₁, mem₁, is₁, named₁⟩ := first.known row₂ mem₂ named₂
    exact ⟨row₁, mem₁, is₁.trans is₂, named₁⟩

/-- An update that finds no reference where it sets one. -/
theorem retains_updatePayment {target : Text PaymentId} {guarded : Bool} {edit : PaymentEdit}
    (unnamed : ∀ r, edit.providerReference = some r → ∀ row ∈ L.payments.rows, row.id = target →
      row.providerReference = none) : Retains L (L.updatePayment target guarded edit) := by
  intro row mem
  refine ⟨_, List.mem_map_of_mem mem, ?_⟩
  by_cases targeted : targets target guarded row = true
  · rw [Table.change_of_pos targeted]
    simp only [targets, Bool.and_eq_true, beq_iff_eq] at targeted
    refine ⟨rfl, fun r named => ?_⟩
    cases assigned : edit.providerReference with
    | none => simpa [PaymentEdit.apply, assigned] using named
    | some r' =>
      have none_ := unnamed r' assigned row mem targeted.1
      rw [named] at none_
      cases none_
  · rw [Table.change_of_neg (by simpa using targeted)]
    exact Frozen.refl row

theorem conserves_updatePayment {target : Text PaymentId} {guarded : Bool} {edit : PaymentEdit}
    (silent : edit.providerReference = none) :
    Conserves L (L.updatePayment target guarded edit) where
  retained := retains_updatePayment fun r sets => by rw [silent] at sets; cases sets
  known := by
    intro row' mem named
    obtain ⟨row, was, rfl⟩ := List.mem_map.mp mem
    refine ⟨row, was, (continues_change _ _ row).id.symm, fun none_ => named ?_⟩
    unfold Table.change
    split
    · simp [PaymentEdit.apply, silent, none_]
    · exact none_

theorem conserves_insertPayment {row : PaymentRow} {payments : Table PaymentRow PaymentClash}
    (unnamed : row.providerReference = none) (inserted : L.payments.insert row = some payments) :
    Conserves L { L with payments } := by
  have rows := (Table.insert_eq_some.mp inserted).2
  constructor
  · intro old mem
    exact ⟨old, by simp [rows, mem], Frozen.refl old⟩
  · intro row' mem named
    simp only [rows, List.mem_append, List.mem_singleton] at mem
    rcases mem with old | rfl
    · exact ⟨row', old, rfl, named⟩
    · exact absurd unnamed named

/-- The write sets no reference. -/
def Nameless : Write → Prop
  | .updatePayment _ _ edit => edit.providerReference = none
  | .insertPayment row => row.providerReference = none
  | _ => True

theorem write_conserves (nameless : Nameless w)
    (performed : w.perform .postgres L = .ok (L', rows)) : Conserves L L' := by
  cases w with
  | insertPayment row =>
    simp only [Write.perform] at performed
    split at performed
    next payments inserted =>
      cases performed
      have unnamed : (row.kept .postgres).providerReference = none := nameless
      exact conserves_insertPayment unnamed inserted
    · cases performed
  | updatePayment id guarded edit =>
    cases performed
    exact conserves_updatePayment nameless
  | insertWebhookEvent row =>
    simp only [Write.perform] at performed
    split at performed <;> cases performed
    exact conserves_of_payments rfl
  | insertRefund row =>
    simp only [Write.perform] at performed
    split at performed <;> cases performed
    exact conserves_of_payments rfl

end Statements

section Contract

/-- The task has just inserted the row of this request. -/
def Claiming (app : App) (h : Record) (id : PaymentId) (request : PaymentRequest) : Prop :=
  ∃ owner now count rest, h = ⟨.stmt (.write (.insertPayment
    (newRow app.fingerprint request owner id now))), .ok count⟩ :: rest

/-- The provider has just answered the call that the insertion stands for. -/
def Answering (app : App) (h : Record) (id : PaymentId) : Prop :=
  ∃ now p request r rest, h = ⟨.stmt .now, now⟩ ::
    ⟨.other (.createPayment p id request), r⟩ :: rest ∧ Claiming app rest id request

/-- What a task has done before it inserts, calls or names a payment. -/
def Founded (app : App) (h : Record) : Await → Prop
  | .stmt (.write (.insertPayment row)) =>
    ∃ request owner id now, row = newRow app.fingerprint request owner id now
  | .stmt (.write (.updatePayment target _ edit)) => edit.providerReference = none ∨
    ∃ id, target = .stored id ∧ Answering app h id
  | .stmt (.transaction ws) => ∀ w ∈ ws, Nameless w
  | .other (.createPayment _ id request) => Claiming app h id request
  | _ => True

variable {app : App} {o : Origin} {past : Past} {h : Record}

theorem always_confined {α : Type} {S : Stmt → Prop} {P : Record → Await → Prop} {p : Sql α}
    (confined : Confined S p) (each : ∀ h' e, h <:+ h' → S e → P h' (.stmt e)) :
    Always P (fun _ _ => True) (lowered p) h := by
  induction p generalizing h with
  | done a => trivial
  | call e k ih =>
    refine ⟨each h e (List.suffix_refl h) confined.1, fun r => ih r (confined.2 r) ?_⟩
    exact fun h' e' suffix => each h' e' ((List.suffix_cons _ h).trans suffix)

theorem founded_of_updates {id : Text PaymentId} {guarded : Bool} {edit : Instant → PaymentEdit}
    {e : Stmt} (updates : Updates id guarded edit e)
    (silent : ∀ now, (edit now).providerReference = none) : Founded app h (.stmt e) := by
  unfold Updates at updates
  split at updates
  · obtain ⟨now, rfl⟩ := updates
    exact .inl (silent now)
  · cases updates

/-- The statements of every operation but one set no reference. -/
theorem founded_of_issues {op : StoreOp} {e : Stmt} (issues : Issues app.fingerprint op e)
    (other : ∀ id reference status action, op ≠ .recordCreationResult id reference status action) :
    Founded app h (.stmt e) := by
  rcases issues with reads | writes
  · cases e <;> trivial
  · cases op with
    | beginPaymentWithOwner request owner =>
      obtain ⟨id, now, rfl⟩ := writes
      exact ⟨request, owner, id, now, rfl⟩
    | recordCreationResult id reference status action => exact absurd rfl (other _ _ _ _)
    | applyWebhookEvent event =>
      obtain ⟨id, ⟨now, rfl⟩ | updates⟩ := writes
      · trivial
      · exact founded_of_updates updates fun _ => rfl
    | markTerminalWithoutProviderReference id status => exact founded_of_updates writes fun _ => rfl
    | markUnknown id => exact founded_of_updates writes fun _ => rfl
    | applyReconciliationResult id t => exact founded_of_updates writes fun _ => rfl
    | touchReconciliationAttempt id => exact founded_of_updates writes fun _ => rfl
    | recordRefund refund status =>
      obtain ⟨now, rfl⟩ := writes
      intro w mem
      rcases List.mem_pair.mp mem with rfl | rfl
      · trivial
      · rfl
    | _ => cases writes

/-- A task that was let proceed has inserted the row. -/
theorem claiming_of_begun {id : PaymentId} {request : PaymentRequest} {owner : Option ApiKeyInfo}
    (lowers : Lowers (lower app)
      (told (.beginPaymentWithOwner request owner) (.proceed id) :: past) h) :
    Claiming app h id request := by
  obtain ⟨part, rest, rfl, -, begun⟩ := lowers_cons lowers
  obtain ⟨count, now, rfl⟩ := runs_begun begun
  exact ⟨owner, now, count, _, rfl⟩

/-- Each effect is carried out within the contract. -/
theorem lower_founded {e : Effect} (licensed : Licensed app o past e)
    (sound : Sound (Licensed app o) past) (lowers : Lowers (lower app) past h) :
    Always (Founded app) (fun _ _ => True) (lower app e) h := by
  cases e with
  | store op =>
    by_cases creation : ∃ id reference status action,
        op = .recordCreationResult id reference status action
    · obtain ⟨id, reference, status, action, rfl⟩ := creation
      obtain ⟨result, created, -⟩ := licensed
      obtain ⟨p, request, owner, earlier, rfl⟩ := created_begun created sound
      obtain ⟨part, h₁, rfl, lowers₁, ran⟩ := lowers_cons lowers
      obtain rfl : part = [⟨.other (.createPayment p id request), .ok result⟩] := runs_perform ran
      refine ⟨trivial, fun now => ⟨.inr ⟨id, rfl, ?_⟩, fun r => ?_⟩⟩
      · exact ⟨now, p, request, _, h₁, rfl, claiming_of_begun lowers₁⟩
      · cases r <;> trivial
    · apply always_confined (program_issues app.fingerprint op)
      intro h' e _ issues
      apply founded_of_issues issues
      intro id reference status action is
      exact creation ⟨id, reference, status, action, is⟩
  | createPayment p id request =>
    obtain ⟨⟨owner, rest, rfl⟩, -⟩ := licensed
    exact ⟨claiming_of_begun lowers, fun _ => trivial⟩
  | _ => exact ⟨trivial, fun _ => trivial⟩

theorem body_founded (app : App) (o : Origin) :
    Always (Founded app) (fun _ _ => True) ((StatementRuns.setting app).body o) [] := by
  have licensed := always_sound (body_always app o) trivial
  have lowered_ := always_translate licensed (Lowers.nil (f := lower app)) fun past h e license
    lowers => lower_founded license.1 license.2 lowers
  exact lowered_.mono (fun _ _ held => held) fun _ _ _ => trivial

end Contract

section Counts

instance decidableOn : (m : Mark) → DecidablePred m.on
  | .key k => fun row => inferInstanceAs (Decidable (row.idempotencyKey = .stored k))
  | .id i => fun row => inferInstanceAs (Decidable (row.id = .stored i))

/-- The insertions of a row with this mark. -/
def inserted (m : Mark) : Event Await.Response → ℕ
  | ⟨.stmt (.write (.insertPayment row)), .ok _⟩ => if m.on row then 1 else 0
  | _ => 0

/-- The calls of a provider for a payment with this mark. -/
def creates (m : Mark) : Await → ℕ
  | .other (.createPayment _ id request) => if m.names request id then 1 else 0
  | _ => 0

/-- The updates that set the reference of the payment. -/
def assigns (id : PaymentId) : Await → ℕ
  | .stmt (.write (.updatePayment target _ edit)) =>
    if target = .stored id ∧ edit.providerReference ≠ none then 1 else 0
  | _ => 0

def Held (m : Mark) (s : Shared) : Prop := ∃ row ∈ s.ledger.payments.rows, m.on row

variable {app : App} {m : Mark} {id : PaymentId} {h : Record} {e : Await}

theorem on_newRow (fp : PaymentRequest → String) (request : PaymentRequest)
    (owner : Option ApiKeyInfo) (given : PaymentId) (now : Instant) :
    m.on (newRow fp request owner given now) ↔ m.names request given = true := by
  cases m <;> simp [Mark.on, Mark.names, newRow]

theorem Claiming.owed {request : PaymentRequest} {m : Mark} {g : Await → ℕ}
    (claiming : Claiming app h id request) (named : m.names request id = true)
    (silent : ∀ row, g (.stmt (.write (.insertPayment row))) = 0) :
    Owed g (inserted m) 1 h := by
  obtain ⟨owner, now, count, rest, rfl⟩ := claiming
  refine ⟨[], _, rest, rfl, by simp, silent _, ?_⟩
  simp [inserted, on_newRow, named]

/-- A call of a provider stands on an insertion of the task's own. -/
theorem pays_creates (founded : Founded app h e) : Pays (inserted m) (creates m) h e := by
  cases e with
  | stmt e => exact .inl rfl
  | other e =>
    cases e with
    | createPayment p id request =>
      by_cases named : m.names request id = true
      · have one : creates m (.other (.createPayment p id request)) = 1 := if_pos named
        right
        rw [one]
        exact Claiming.owed founded named fun _ => rfl
      · exact .inl (if_neg named)
    | _ => exact .inl rfl

/-- And so does a reference that is set. -/
theorem pays_assigns (founded : Founded app h e) : Pays (inserted (.id id)) (assigns id) h e := by
  by_cases sets : assigns id e = 0
  · exact .inl sets
  · unfold assigns at sets
    split at sets
    next target guarded edit =>
      have both : target = .stored id ∧ edit.providerReference ≠ none := by
        by_contra neither
        exact sets (if_neg neither)
      have one : assigns id (.stmt (.write (.updatePayment target guarded edit))) = 1 :=
        if_pos both
      right
      rw [one]
      rcases founded with silent | ⟨id', is, now, p, request, r, rest, rfl, claiming⟩
      · exact absurd silent both.2
      · obtain rfl : id' = id := Text.stored.inj (is.symm.trans both.1)
        obtain ⟨between, ev, below, rfl, quiet, first, stands⟩ :=
          claiming.owed (m := .id id') (g := assigns id') (by simp [Mark.names]) fun _ => rfl
        refine ⟨⟨.stmt .now, now⟩ :: ⟨.other (.createPayment p id' request), r⟩ :: between, ev,
          below, rfl, ?_, first, stands⟩
        simpa [assigns] using quiet
    · exact absurd rfl sets

end Counts

section Runs

variable {app : App} {m : Mark} {id : PaymentId} {w w' : SqlWorld} {s s' : Shared} {c : Choice}

theorem react_evolves {e : Await} {r : e.Response}
    (reacted : StatementRuns.react app s e c = some (s', r)) : Evolves s.ledger s'.ledger := by
  cases e with
  | stmt e =>
    obtain ⟨d, same, -⟩ := react_stmt reacted
    rw [same]
    exact makes_evolves exec_makes
  | other e =>
    rw [react_rest reacted]
    exact Evolves.refl _

theorem react_write {w : Write} {count : ℕ}
    (reacted : StatementRuns.react app s (.stmt (.write w)) c = some (s', .ok count)) :
    w.perform .postgres s.ledger = .ok (s'.ledger, count) := by
  obtain ⟨d, same, answer⟩ := react_stmt reacted
  rw [same]
  exact exec_write answer.symm

theorem react_insertPayment {row : PaymentRow} {count : ℕ} (reacted : StatementRuns.react app s
    (.stmt (.write (.insertPayment row))) c = some (s', .ok count)) :
    ∃ payments, s.ledger.payments.insert (row.kept .postgres) = some payments ∧
      s'.ledger = { s.ledger with payments } := by
  have performed := react_write reacted
  simp only [Write.perform] at performed
  split at performed
  next payments inserted =>
    simp only [Except.ok.injEq, Prod.mk.injEq] at performed
    exact ⟨payments, inserted, performed.1.symm⟩
  · cases performed

theorem inserted_cases (m : Mark) (ev : Event Await.Response) : inserted m ev = 0 ∨
    inserted m ev = 1 ∧ ∃ row count, ev = ⟨.stmt (.write (.insertPayment row)), .ok count⟩ ∧
      m.on row := by
  unfold inserted
  split
  next row count =>
    by_cases on : m.on row
    · exact .inr ⟨if_pos on, row, count, rfl, on⟩
    · exact .inl (if_neg on)
  · exact .inl rfl

theorem event_of_inserted {ev : Event Await.Response} (one : inserted m ev = 1) :
    ∃ row count, ev = ⟨.stmt (.write (.insertPayment row)), .ok count⟩ ∧ m.on row := by
  rcases inserted_cases m ev with none_ | ⟨-, event⟩
  · rw [none_] at one
    cases one
  · exact event

theorem on_kept {row : PaymentRow} : m.on (row.kept .postgres) ↔ m.on row := by
  cases m <;> rfl

/-- A row is inserted where no row has its mark, and stays. -/
theorem marking (app : App) (m : Mark) :
    Marking (StatementRuns.setting app) (inserted m) (Held m) where
  small := fun ev => (inserted_cases m ev).imp_right And.left
  fresh := by
    rintro s e c s' r reacted one ⟨old, mem, held⟩
    obtain ⟨row, count, event, on⟩ := event_of_inserted one
    cases event
    obtain ⟨payments, added, -⟩ := react_insertPayment reacted
    apply (Table.insert_eq_some.mp added).1 old mem
    have on' := on_kept.mpr on
    cases m with
    | key k => exact .inr (held.trans on'.symm)
    | id i => exact .inl (held.trans on'.symm)
  marks := by
    intro s e c s' r reacted one
    obtain ⟨row, count, event, on⟩ := event_of_inserted one
    cases event
    obtain ⟨payments, added, after⟩ := react_insertPayment reacted
    refine ⟨row.kept .postgres, ?_, on_kept.mpr on⟩
    simp [after, (Table.insert_eq_some.mp added).2]
  stays := by
    rintro s e c s' r reacted ⟨row, mem, on⟩
    obtain ⟨row', mem', cont⟩ := (react_evolves reacted).payments row mem
    refine ⟨row', mem', ?_⟩
    cases m with
    | key k => exact cont.idempotencyKey.trans on
    | id i => exact cont.id.trans on

/-- What holds of every world the statements reach. -/
structure Founding (app : App) (w : SqlWorld) : Prop where
  follows : ∀ t ∈ w.tasks, Follows (fun _ => Founded app) (fun _ _ _ => True) t
  once : ∀ m, Once (inserted m) (Held m) w
  named : ∀ row ∈ w.shared.ledger.payments.rows, row.providerReference ≠ none →
    ∃ id, row.id = .stored id ∧ 1 ≤ total (fun ev => assigns id ev.1) w

theorem founding_start (apiKeys : List ApiKeyRow) : Founding app (StatementRuns.start apiKeys) :=
  ⟨by simp [StatementRuns.start], fun m => once_idle rfl, by
    simp [StatementRuns.start, Shared.start, Ledger.empty]⟩

/-- A payment's reference is set by one update at most. -/
theorem assigned_once (follows : ∀ t ∈ w.tasks, Follows (fun _ => Founded app)
    (fun _ _ _ => True) t) (once : Once (inserted (.id id)) (Held (.id id)) w) :
    total (fun ev => assigns id ev.1) w ≤ 1 := by
  have counted := performed_awaited_once (g := assigns id) (fun _ _ _ => pays_assigns) follows once
  refine le_trans ?_ counted
  exact List.sum_le_sum fun t _ => Nat.le_add_right _ _

/-- A statement that assigns the reference of this payment. -/
def Naming (L : Ledger) (id : PaymentId) (e : Stmt) (L' : Ledger) : Prop :=
  ∃ guarded edit, e = .write (.updatePayment (.stored id) guarded edit) ∧
    edit.providerReference ≠ none ∧ L' = L.updatePayment (.stored id) guarded (edit.kept .postgres)

theorem makes_cases {L L' : Ledger} {e : Stmt} {h : Record} (makes : Makes L e L')
    (founded : Founded app h (.stmt e)) : Conserves L L' ∨ ∃ id, Naming L id e L' := by
  cases makes with
  | kept => exact .inl (conserves_of_payments rfl)
  | committed ws L' performed =>
    left
    refine performAll_induction (fun _ => conserves_of_payments rfl) Conserves.trans ?_ performed
    intro w mem L L' rows performed
    exact write_conserves (founded w mem) performed
  | wrote w L' rows performed =>
    cases w with
    | insertPayment row =>
      obtain ⟨request, owner, id, now, rfl⟩ := founded
      have unnamed : Nameless (.insertPayment (newRow app.fingerprint request owner id now)) := rfl
      exact .inl (write_conserves unnamed performed)
    | updatePayment target guarded edit =>
      by_cases silent : edit.providerReference = none
      · have nameless : Nameless (.updatePayment target guarded edit) := silent
        exact .inl (write_conserves nameless performed)
      · rcases founded with absent | ⟨id, rfl, -⟩
        · exact absurd absent silent
        · cases performed
          exact .inr ⟨id, guarded, edit, rfl, silent, rfl⟩
    | insertWebhookEvent row =>
      have nameless : Nameless (.insertWebhookEvent row) := trivial
      exact .inl (write_conserves nameless performed)
    | insertRefund row =>
      have nameless : Nameless (.insertRefund row) := trivial
      exact .inl (write_conserves nameless performed)

/-- Where no update has set the reference of the payment, no row has one. -/
theorem Founding.unnamed (founding : Founding app w)
    (none_ : total (fun ev => assigns id ev.1) w = 0) {row : PaymentRow}
    (mem : row ∈ w.shared.ledger.payments.rows) (is : row.id = .stored id) :
    row.providerReference = none := by
  by_contra named
  obtain ⟨id', is', some_⟩ := founding.named row mem named
  obtain rfl : id = id' := Text.stored.inj (is.symm.trans is')
  omega

/-- The updates of the payment's reference so far, and this one. -/
abbrev Assigned (w : SqlWorld) (e : Await) (id : PaymentId) : ℕ :=
  assigns id e + total (fun ev => assigns id ev.1) w

theorem Founding.react (founding : Founding app w) {h : Record} {e : Await} {r : e.Response}
    (founded : Founded app h e) (reacted : StatementRuns.react app w.shared e c = some (s', r))
    (few : ∀ id, Assigned w e id ≤ 1) : Retains w.shared.ledger s'.ledger ∧
      ∀ row ∈ s'.ledger.payments.rows, row.providerReference ≠ none →
        ∃ id, row.id = .stored id ∧ 1 ≤ Assigned w e id := by
  have before : ∀ row ∈ w.shared.ledger.payments.rows, row.providerReference ≠ none →
      ∃ id, row.id = .stored id ∧ 1 ≤ Assigned w e id := by
    intro row mem named
    obtain ⟨id, is, some_⟩ := founding.named row mem named
    exact ⟨id, is, le_trans some_ (Nat.le_add_left _ _)⟩
  have still : Conserves w.shared.ledger s'.ledger → Retains w.shared.ledger s'.ledger ∧
      ∀ row ∈ s'.ledger.payments.rows, row.providerReference ≠ none →
        ∃ id, row.id = .stored id ∧ 1 ≤ Assigned w e id := by
    refine fun conserves => ⟨conserves.retained, fun row mem named => ?_⟩
    obtain ⟨old, was, same, had⟩ := conserves.known row mem named
    obtain ⟨id, is, some_⟩ := before old was had
    exact ⟨id, same.symm.trans is, some_⟩
  cases e with
  | other e => exact still (conserves_of_payments (congrArg Ledger.payments (react_rest reacted)))
  | stmt e =>
    obtain ⟨d, same, -⟩ := react_stmt reacted
    have makes : Makes w.shared.ledger e s'.ledger := by
      rw [same]
      exact exec_makes
    rcases makes_cases makes founded with conserves | ⟨id, guarded, edit, rfl, sets, after⟩
    · exact still conserves
    · have one : assigns id (.stmt (.write (.updatePayment (.stored id) guarded edit))) = 1 :=
        if_pos ⟨rfl, sets⟩
      have most := few id
      have first : total (fun ev => assigns id ev.1) w = 0 := by
        unfold Assigned at most
        omega
      rw [after]
      constructor
      · exact retains_updatePayment fun _ _ row mem is => founding.unnamed first mem is
      · intro row' mem named
        obtain ⟨row, was, rfl⟩ := List.mem_map.mp mem
        by_cases targeted : targets (.stored id) guarded row = true
        · have is := (continues_change (targets (.stored id) guarded) (edit.kept .postgres) row).id
          simp only [targets, Bool.and_eq_true, beq_iff_eq] at targeted
          exact ⟨id, is.trans targeted.1, by simp [Assigned, one]⟩
        · rw [Table.change_of_neg (by simpa using targeted)] at named ⊢
          exact before row was named

theorem Founding.advance (founding : Founding app w) {i : ℕ}
    (adv : Advanced (StatementRuns.setting app) w i c w')
    (few : ∀ id, total (fun ev => assigns id ev.1) w' ≤ 1) :
    Retains w.shared.ledger w'.shared.ledger ∧
      ∀ row ∈ w'.shared.ledger.payments.rows, row.providerReference ≠ none →
        ∃ id, row.id = .stored id ∧ 1 ≤ total (fun ev => assigns id ev.1) w' := by
  have grown := fun id => total_advance (fun ev => assigns id ev.1) adv
  simp only [grown] at few ⊢
  rw [adv.shared_eq]
  exact founding.react (adv.licensed founding.follows) adv.reacted few

theorem Founding.step (founding : Founding app w) {a : GwAction}
    (stepped : Interleaving.step (StatementRuns.setting app) w a = some w') : Founding app w' ∧
      Retains w.shared.ledger w'.shared.ledger ∧ Evolves w.shared.ledger w'.shared.ledger := by
  have follows := follows_step (body_founded app) founding.follows stepped
  have once := fun m => (founding.once m).step (marking app m) stepped
  have few := fun id => assigned_once follows (once (.id id))
  obtain ⟨o, -, rfl⟩ | ⟨i, c, -, ⟨adv⟩⟩ | ⟨i, t, -, found, rfl⟩ := step_cases stepped
  · refine ⟨⟨follows, once, ?_⟩, retains_refl _, Evolves.refl _⟩
    simp only [total_spawn]
    exact founding.named
  · obtain ⟨retains, named⟩ := founding.advance adv few
    have evolves := react_evolves adv.reacted
    rw [← adv.shared_eq] at evolves
    exact ⟨⟨follows, once, named⟩, retains, evolves⟩
  · refine ⟨⟨follows, once, ?_⟩, retains_refl _, Evolves.refl _⟩
    simp only [total_cancel _ w found]
    exact founding.named

theorem founding_of_run {apiKeys : List ApiKeyRow} {actions : List GwAction}
    (ran : run (StatementRuns.setting app) (StatementRuns.start apiKeys) actions = some w) :
    Founding app w :=
  run_invariant' (fun _ _ _ founding stepped => (founding.step stepped).1)
    (founding_start apiKeys) ran

/-- From any moment of a run on, no row disappears, a claim keeps its columns
and its reference is set once at most, and nothing leaves the logs of events
and refunds. -/
theorem statements_retain (app : App) (apiKeys : List ApiKeyRow) (first rest : List GwAction)
    (v w : SqlWorld)
    (reached : run (StatementRuns.setting app) (StatementRuns.start apiKeys) first = some v)
    (ran : run (StatementRuns.setting app) v rest = some w) :
    Retains v.shared.ledger w.shared.ledger ∧
      v.shared.ledger.webhookEvents.rows ⊆ w.shared.ledger.webhookEvents.rows ∧
      v.shared.ledger.refunds.rows ⊆ w.shared.ledger.refunds.rows := by
  have ends_ := run_invariant' (I := fun u => Founding app u ∧
    Retains v.shared.ledger u.shared.ledger ∧ Evolves v.shared.ledger u.shared.ledger) ?_
    ⟨founding_of_run reached, retains_refl _, Evolves.refl _⟩ ran
  · exact ⟨ends_.2.1, ends_.2.2.webhookEvents, ends_.2.2.refunds⟩
  · rintro u a u' ⟨founding, retains, evolves⟩ stepped
    obtain ⟨founding', retains', evolves'⟩ := founding.step stepped
    exact ⟨founding', Trans.trans retains retains', evolves.trans evolves'⟩

/-- The payment of the first task, settled by a GET. -/
theorem statements_retain_settled : ∃ v w,
    run (StatementRuns.setting shop) (StatementRuns.start []) orderedByStatement = some v ∧
    run (StatementRuns.setting shop) v (inquired 1 .succeeded ++ [drawn 1, drawn 1]) = some w ∧
    Retains v.shared.ledger w.shared.ledger ∧
      v.shared.ledger.webhookEvents.rows ⊆ w.shared.ledger.webhookEvents.rows ∧
      v.shared.ledger.refunds.rows ⊆ w.shared.ledger.refunds.rows := by
  have finished : ((run (StatementRuns.setting shop) (StatementRuns.start [])
      orderedByStatement).bind fun v => run (StatementRuns.setting shop) v
        (inquired 1 .succeeded ++ [drawn 1, drawn 1])).isSome = true := by decide +kernel
  obtain ⟨w, ends_⟩ := Option.isSome_iff_exists.mp finished
  obtain ⟨v, reached, ran⟩ := Option.bind_eq_some_iff.mp ends_
  exact ⟨v, w, reached, ran, statements_retain shop [] _ _ v w reached ran⟩

/-- The row an insertion left is still there, as its claim. -/
def Kept (s : Shared) (ev : Event Await.Response) : Prop :=
  ∀ row count, ev = ⟨.stmt (.write (.insertPayment row)), .ok count⟩ →
    ∃ row' ∈ s.ledger.payments.rows, Frozen (row.kept .postgres) row'

theorem kept_step {a : GwAction} (founding : Founding app w) (kept : Recorded Kept w)
    (stepped : Interleaving.step (StatementRuns.setting app) w a = some w') : Recorded Kept w' := by
  refine recorded_step ?_ ?_ kept stepped
  · intro i c adv row count event
    obtain ⟨reacted, -⟩ := adv.of_event event
    obtain ⟨payments, added, after⟩ := react_insertPayment reacted
    refine ⟨row.kept .postgres, ?_, Frozen.refl _⟩
    simp [after, (Table.insert_eq_some.mp added).2]
  · intro i c adv ev held row count event
    obtain ⟨row', mem, frozen⟩ := held row count event
    have retains := (founding.step stepped).2.1
    rw [adv.shared_eq] at retains
    obtain ⟨row'', mem', frozen'⟩ := retains row' mem
    exact ⟨row'', mem', frozen.trans frozen'⟩

/-- The task has called a provider to create the payment, or awaits the call. -/
def Calls (t : Task Await.Response Origin Reply) (id : PaymentId) (request : PaymentRequest) :
    Prop :=
  (∃ p r, (⟨.other (.createPayment p id request), r⟩ : Event Await.Response) ∈ t.history) ∨
    ∃ p k, t.rest = .call (.other (.createPayment p id request)) k

theorem Calls.claimed {t : Task Await.Response Origin Reply} {request : PaymentRequest}
    (calls : Calls t id request)
    (follows : Follows (fun _ => Founded app) (fun _ _ _ => True) t) :
    ∃ owner now count, (⟨.stmt (.write (.insertPayment
      (newRow app.fingerprint request owner id now))), .ok count⟩ : Event Await.Response) ∈
        t.history := by
  rcases calls with ⟨p, r, mem⟩ | ⟨p, k, suspended⟩
  · obtain ⟨h, suffix, owner, now, count, rest, rfl⟩ := follows.2.of_mem mem
    exact ⟨owner, now, count, suffix.subset (by simp)⟩
  · have always := follows.1
    rw [suspended] at always
    obtain ⟨owner, now, count, rest, is⟩ := always.1
    exact ⟨owner, now, count, by rw [is]; exact List.mem_cons_self⟩

/-- The calls of a provider for a payment with this mark, over all tasks, from
the moment they are awaited. -/
def providerCalls (m : Mark) (w : SqlWorld) : ℕ :=
  (w.tasks.map fun t => performed (creates m) t.history + awaited (creates m) t.rest).sum

end Runs

end OpenWrapper.StatementLedger
