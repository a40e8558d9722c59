import OpenWrapper.IssuedStatements
import OpenWrapper.Refinements
import OpenWrapper.StatementRuns

/-! # Operations and their statements

On Postgres a store operation whose statements nothing comes between is one
way its statements can go. Every run of the gateway with whole operations is
therefore a run of its statements. -/

set_option autoImplicit false

namespace OpenWrapper.AtomicOperations
open OpenWrapper.Payments OpenWrapper.Schema OpenWrapper.PaymentStore
open OpenWrapper.Effects OpenWrapper.Gateway OpenWrapper.StatementRuns
open OpenWrapper.Suspended OpenWrapper.Suspended.Prog OpenWrapper.Interleaving
open OpenWrapper.Lowerings OpenWrapper.Refinements OpenWrapper.IssuedStatements

section Rows

/-- Anything but the bounds of an open transaction. -/
def Plain : Stmt → Prop
  | .beginTransaction => False
  | .commit => False
  | _ => True

theorem plain_of_issues {fp : PaymentRequest → String} {op : StoreOp} {e : Stmt}
    (issues : Issues fp op e) : Plain e := by
  rcases issues with reads | writes
  · cases e <;> trivial
  · cases op <;> cases e <;> simp_all [Writes, Updates, Plain]

/-- No operation on Postgres opens a transaction that stays open between its
statements. -/
theorem plain_program (fp : PaymentRequest → String) (op : StoreOp) :
    Confined Plain (program fp .postgres op) :=
  (program_issues fp op).weaken fun _ => plain_of_issues

/-- The draw as one statement alone meets it. -/
def atStatement (d : Draw) (n : ℕ) : Draw :=
  { d with clock := fun _ => d.clock n, fails := fun _ => d.fails n }

theorem exec_atStatement (b : Backend) (d : Draw) (n : ℕ) (s : Session) (e : Stmt) :
    exec b (atStatement d n) 0 s e = exec b d n s e := by
  cases e <;> rfl

/-- A plain statement leaves no transaction open. -/
theorem exec_closed {b : Backend} {d : Draw} {n : ℕ} {L : Ledger} {e : Stmt} (plain : Plain e) :
    ∃ L' r, exec b d n (Session.on L) e = (Session.on L', r) := by
  cases fails : d.fails n with
  | true => cases e <;> exact ⟨_, _, by simp only [exec, Stmt.refused, Stmt.run, fails]; rfl⟩
  | false =>
    simp only [exec, fails]
    cases e with
    | beginTransaction => cases plain
    | commit => cases plain
    | write w =>
      simp only [Stmt.run, Session.on]
      cases w.perform b L <;> exact ⟨_, _, rfl⟩
    | transaction ws =>
      simp only [Stmt.run, Session.on]
      cases performAll b L ws <;> exact ⟨_, _, rfl⟩
    | _ => exact ⟨_, _, rfl⟩

/-- A program of plain statements that runs on its own is a row of statements. -/
theorem row_serial (app : App) {α : Type} (d : Draw) (p : Sql α) (plain : Confined Plain p) (n : ℕ)
    (s : Shared) : ∃ cs part,
    Row (StatementRuns.react app) s (p.translate fun e => perform (Await.stmt e)) cs part
      { s with ledger := (serial (exec .postgres d) n (Session.on s.ledger) p).1.close }
      (serial (exec .postgres d) n (Session.on s.ledger) p).2 := by
  induction p generalizing n s with
  | done a => exact ⟨[], [], .done s a⟩
  | call e k ih =>
    obtain ⟨L, r, ran⟩ := exec_closed (b := .postgres) (d := d) (n := n) (L := s.ledger) plain.1
    obtain ⟨cs, part, row⟩ := ih r (plain.2 r) (n + 1) { s with ledger := L }
    have reacted : StatementRuns.react app s (.stmt e) (.draw (atStatement d n)) =
        some ({ s with ledger := L }, r) := by
      simp only [StatementRuns.react, exec_atStatement, ran]
      rfl
    rw [serial_call, ran]
    exact ⟨_, _, .call s (.stmt e) _ _ _ r cs part _ _ reacted row⟩

end Rows

/-- The statements reproduce every reaction of the store as a whole. -/
theorem statements_reproduce (app : App) :
    Reproduces (lower app) (Gateway.setting .postgres app) (StatementRuns.setting app) where
  body := fun _ => rfl
  react := by
    intro s e c s' r reacted
    cases e with
    | store op =>
      obtain ⟨d, rfl⟩ : ∃ d, c = .draw d := by
        obtain ⟨d, is, -⟩ := react_draw reacted
        exact ⟨d, is⟩
      obtain ⟨cs, part, row⟩ := row_serial app d (program app.fingerprint .postgres op)
        (plain_program app.fingerprint op) 0 s
      refine ⟨cs, part, ?_⟩
      simp only [Gateway.setting, Gateway.react, Option.some.injEq, Prod.mk.injEq] at reacted
      obtain ⟨rfl, rfl⟩ := reacted
      exact row
    | _ => exact ⟨[c], _, row_perform reacted⟩

/-- Whatever the gateway reaches on Postgres with whole store operations it
also reaches with statements: the same tables, queues and tasks. -/
theorem operations_are_statements (app : App) (apiKeys : List ApiKeyRow)
    (actions : List GwAction) (w : GwWorld)
    (ran : run (Gateway.setting .postgres app) (Gateway.start apiKeys) actions = some w) :
    ∃ statements v, run (StatementRuns.setting app) (StatementRuns.start apiKeys) statements =
      some v ∧ RefinesWorld (lower app) w v :=
  RefinesWorld.run (statements_reproduce app) ⟨rfl, .nil⟩ ran

/-- The first customer's payment, settled by a GET. -/
theorem operations_are_statements_paid : ∃ w,
    run (Gateway.setting .postgres shop) (Gateway.start []) paid = some w ∧
    ∃ statements v, run (StatementRuns.setting shop) (StatementRuns.start []) statements =
      some v ∧ RefinesWorld (lower shop) w v := by
  have finished : (run (Gateway.setting .postgres shop) (Gateway.start []) paid).isSome = true := by
    decide +kernel
  obtain ⟨w, ran⟩ := Option.isSome_iff_exists.mp finished
  exact ⟨w, ran, operations_are_statements shop [] paid w ran⟩

end OpenWrapper.AtomicOperations
