import OpenWrapper.PaymentRoutes
import OpenWrapper.Interleaving

/-! # The web application and the gateway on one table

Webhook requests, submissions and reads of the web application, and store
operations of the gateway, interleaved at their statements. A gateway operation
takes its own statements one at a time, as the Postgres store issues them. -/

set_option autoImplicit false

namespace OpenWrapper.WebWorld
open OpenWrapper.Payments OpenWrapper.Schema OpenWrapper.PaymentStore
open OpenWrapper.WebDatabase OpenWrapper.CallbackRoutes
open OpenWrapper.ApiRequests
open OpenWrapper.Suspended OpenWrapper.Suspended.Prog OpenWrapper.Interleaving

inductive WebOrigin where
  | callback (route : Route) (req : CallbackRequest)
  | submission (req : ApiRequest)
  | inquiry (req : ApiRequest) (id : String)
  | operation (op : StoreOp)

/-- The statements of the gateway, issued on the shared tables. -/
def onShared {α : Type} (p : Sql α) : Web α := p.translate fun s => perform (.gateway s)

def body (host : ApiHost) (fingerprint : PaymentRequest → String) :
    WebOrigin → Web (Option Answer)
  | .callback route req => route.post host.toHost req >>= fun answer => .done (some answer)
  | .submission req => PaymentRoutes.post host req >>= fun answer => .done (some answer)
  | .inquiry req id => PaymentRoutes.get host req id >>= fun answer => .done (some answer)
  | .operation op => onShared (program fingerprint .postgres op) >>= fun _ => .done none

def setting (host : ApiHost) (fingerprint : PaymentRequest → String) :
    Setting WebEffect.Response WebOrigin (Option Answer) Database WebDraw where
  body := body host fingerprint
  react D e d := some (respond d D e)

abbrev WebState := World WebEffect.Response WebOrigin (Option Answer) Database

abbrev WebAction := Action WebOrigin WebDraw

abbrev WebHistory := History WebEffect.Response

/-- The effects of the web application itself. -/
def byWeb : WebEffect → Bool
  | .gateway _ => false
  | _ => true

/-- A step of a task: whose it is, its history, its effect, and the draw the
effect meets. -/
structure Performance where
  origin : WebOrigin
  history : WebHistory
  effect : WebEffect
  draw : WebDraw

/-- What an action is about to perform, if anything. -/
def performance (w : WebState) : WebAction → Option Performance
  | .advance i d =>
    match w.tasks[i]? with
    | some t =>
      match t.rest with
      | .call e _ => some ⟨t.origin, t.history, e, d⟩
      | .done _ => none
    | none => none
  | _ => none

theorem performance_of_advanced {host : ApiHost} {fingerprint : PaymentRequest → String}
    {w w' : WebState} {i : ℕ} {d : WebDraw} (adv : Advanced (setting host fingerprint) w i d w') :
    performance w (.advance i d) =
      some ⟨adv.task.origin, adv.task.history, adv.effect, d⟩ := by
  simp only [performance, adv.found, adv.suspended]

theorem always_then {α β : Type} {P : WebHistory → WebEffect → Prop} {f : α → β} {p : Web α}
    {h : WebHistory} (always : Always P (fun _ _ => True) p h) :
    Always P (fun _ _ => True) (p >>= fun a => .done (f a)) h :=
  always_bind p h always fun _ _ _ _ => trivial

section Contracts

variable {P : WebOrigin → WebHistory → WebEffect → Prop}

/-- What the tasks follow, the next performance has. -/
theorem licensed_performance {w : WebState} {a : WebAction} {p : Performance}
    (follows : ∀ t ∈ w.tasks, Follows P (fun _ _ _ => True) t)
    (performs : performance w a = some p) : P p.origin p.history p.effect := by
  unfold performance at performs
  split at performs
  · split at performs
    next t found =>
      split at performs
      next e k suspended =>
        cases performs
        have always := (follows t (List.mem_of_getElem? found)).1
        rw [suspended] at always
        exact always.1
      · cases performs
    · cases performs
  · cases performs

/-- A run that starts without tasks follows the contract, whatever every step
of it meets besides. -/
theorem meets_of_contract {host : ApiHost} {fingerprint : PaymentRequest → String}
    {G L : WebState → WebAction → Prop}
    (bodies : ∀ o, Always (P o) (fun _ _ => True) (body host fingerprint o) [])
    (each : ∀ w a, (∀ p, performance w a = some p → P p.origin p.history p.effect) →
      G w a → L w a)
    {w : WebState} {as : List WebAction} (idle : w.tasks = [])
    (meets : Meets (setting host fingerprint) G w as) :
    Meets (setting host fingerprint) L w as := by
  apply meets_of_invariant (I := fun w => ∀ t ∈ w.tasks, Follows P (fun _ _ _ => True) t) _ _ _
    meets
  · intro w a w' follows _ stepped
    exact follows_step bodies follows stepped
  · intro w a follows met
    exact each w a (fun p performs => licensed_performance follows performs) met
  · rw [idle]
    intro t mem
    cases mem

end Contracts

end OpenWrapper.WebWorld
