import OpenWrapper.Contracts

/-! # Who reaches payment data

The HTTP routes sit behind the key check; the gRPC service does not. A gRPC
request without a key is stopped only by what its handler checks of its
arguments before it turns to the store. -/

set_option autoImplicit false

namespace OpenWrapper.Authentication
open OpenWrapper.Ids OpenWrapper.Errors OpenWrapper.Payments OpenWrapper.Schema
open OpenWrapper.PaymentStore OpenWrapper.Providers OpenWrapper.Headers
open OpenWrapper.Effects OpenWrapper.Gateway OpenWrapper.Contracts
open OpenWrapper.Suspended OpenWrapper.Interleaving

/-- A request of a client, with all it carries. -/
inductive Request where
  | http (headers : HeaderMap) (route : Router.Route)
  | grpc (metadata : HeaderMap) (call : Router.GrpcCall)

def Request.origin : Request → Origin
  | .http headers route => .http headers route
  | .grpc _ call => .grpc call

def Request.headers : Request → HeaderMap
  | .http headers _ => headers
  | .grpc metadata _ => metadata

/-- The effect reads or writes payment data, or calls a provider. -/
def touches : Effect → Bool
  | .findApiKey _ | .tryAcquire | .now | .ulid => false
  | _ => true

/-- The request carries a configured key or one the database holds unrevoked. -/
def CarriesKey (b : Backend) (app : App) (apiKeys : List ApiKeyRow) (headers : HeaderMap) :
    Prop :=
  ∃ provided, Router.providedKey headers = some provided ∧
    (provided ∈ app.apiKeys.getD [] ∨ ∃ row ∈ apiKeys,
      row.matchesHash (app.sha256Hex provided) = true ∧ row.unrevoked b = true)

/-- In no run does the request touch payment data without a key. -/
def Authenticated (b : Backend) (app : App) (apiKeys : List ApiKeyRow) (q : Request) : Prop :=
  ∀ actions w, run (setting b app) (start apiKeys) actions = some w →
    ∀ t ∈ w.tasks, t.origin = q.origin → (∃ ev ∈ t.history, touches ev.1 = true) →
    CarriesKey b app apiKeys q.headers

/-- A gRPC call whose handler answers without turning to the store. -/
def refused (app : App) : Router.GrpcCall → Bool
  | .createPayment req =>
    match Grpc.parseCreatePayment req with
    | .error _ => true
    | .ok request => (app.providers request.provider.asStr).isNone
  | .getPayment (.corrupt _) => true
  | .getPayment (.stored _) => false
  | .streamPaymentEvents (some (.stored _)) => false
  | .streamPaymentEvents _ => true

/-- No configured key shares its digest with another text. -/
def Unforgeable (app : App) : Prop :=
  ∀ key ∈ app.apiKeys.getD [], ∀ text, app.sha256Hex key = app.sha256Hex text → key = text

section Contract

variable {b : Backend} {app : App} {apiKeys : List ApiKeyRow}

/-- Behind HTTP, whatever touches payment data comes after the admission. -/
def AfterAdmission (app : App) : Origin → Past → Effect → Prop
  | .http headers _, h, e => touches e = true → ∃ earlier, earlier <:+ h ∧
      Admitted app headers earlier
  | .grpc call, _, e => touches e = true → refused app call = false
  | _, _, _ => True

theorem refused_always (app : App) (call : Router.GrpcCall) :
    Always (fun _ e => touches e = true → refused app call = false) (fun _ _ => True)
      (Router.serveGrpc app call) [] := by
  have open_ : refused app call = false → Always
      (fun _ e => touches e = true → refused app call = false) (fun _ _ => True)
      (Router.serveGrpc app call) [] := fun accepted =>
    (always_true _ _).mono (fun _ _ _ _ => accepted) fun _ _ _ => trivial
  cases call with
  | createPayment req =>
    cases parsed : Grpc.parseCreatePayment req with
    | error e =>
      rw [Router.serveGrpc, Grpc.createPayment, parsed]
      trivial
    | ok request =>
      cases configured : app.providers request.provider.asStr with
      | none =>
        rw [Router.serveGrpc, Grpc.createPayment, parsed]
        simp only [configured]
        trivial
      | some p => exact open_ (by simp [refused, parsed, configured])
  | getPayment id =>
    cases id with
    | corrupt raw => trivial
    | stored id => exact open_ rfl
  | streamPaymentEvents filter =>
    cases filter with
    | none => trivial
    | some text =>
      cases text with
      | corrupt raw => trivial
      | stored id => exact open_ rfl

theorem body_afterAdmission (app : App) (o : Origin) :
    Always (AfterAdmission app o) (fun _ _ => True) (body app o) [] := by
  cases o with
  | http headers route =>
    refine serveHttp_always (by simp [AfterAdmission, touches]) (by simp [AfterAdmission, touches])
      (fun _ _ _ _ _ _ => trivial) ?_
    rintro h' h same quiet ⟨earlier, ev, admitted, rfl⟩
    refine (always_suffix _ _).mono (fun h₁ e suffix _ => ?_) fun _ _ _ => trivial
    exact ⟨earlier, (List.suffix_cons ev earlier).trans suffix, admitted⟩
  | grpc call => exact refused_always app call
  | _ => exact (always_true _ _).mono (fun _ _ _ => trivial) fun _ _ _ => trivial

/-- What a key lookup found is in the table. -/
def KeyFound (b : Backend) (s : Shared) : GwEvent → Prop
  | ⟨.findApiKey hash, .ok (some _)⟩ =>
    ∃ row ∈ s.apiKeys, row.matchesHash hash = true ∧ row.unrevoked b = true
  | _ => True

theorem react_apiKeys {s s' : Shared} {e : Effect} {c : Choice} {r : e.Response}
    (reacted : react b app s e c = some (s', r)) : s'.apiKeys = s.apiKeys := by
  unfold react at reacted
  split at reacted
  all_goals
    first
    | (simp only [Option.some.injEq, Prod.mk.injEq] at reacted; rw [← reacted.1])
    | (simp only [Option.map_eq_some_iff, Prod.mk.injEq] at reacted
       obtain ⟨_, _, same, _⟩ := reacted
       rw [← same])
    | cases reacted
  all_goals rfl

theorem react_findApiKey {s s' : Shared} {hash : String} {c : Choice}
    {r : StoreResult (Option ApiKeyInfo)}
    (reacted : react b app s (.findApiKey hash) c = some (s', r)) :
    ∃ failed pick, lookupApiKey b s.apiKeys hash failed pick = some r := by
  cases c with
  | lookup failed pick =>
    simp only [react, Option.map_eq_some_iff, Prod.mk.injEq] at reacted
    obtain ⟨r', looked, -, rfl⟩ := reacted
    exact ⟨failed, pick, looked⟩
  | _ => simp [react] at reacted

theorem lookup_found {rows : List ApiKeyRow} {hash : String} {failed : Bool} {pick : ℕ}
    {key : ApiKeyInfo} (looked : lookupApiKey b rows hash failed pick = some (.ok (some key))) :
    ∃ row ∈ rows, row.matchesHash hash = true ∧ row.unrevoked b = true := by
  unfold lookupApiKey at looked
  split at looked
  · cases looked
  · dsimp only at looked
    split at looked
    · cases looked
    · obtain ⟨row, picked, -⟩ := Option.map_eq_some_iff.mp looked
      have mem := List.mem_of_getElem? picked
      rw [List.mem_filter, Bool.and_eq_true] at mem
      exact ⟨row, mem⟩

theorem react_keyFound {s s' : Shared} {e : Effect} {c : Choice} {r : e.Response}
    (reacted : react b app s e c = some (s', r)) : KeyFound b s' ⟨e, r⟩ := by
  cases e with
  | findApiKey hash =>
    obtain ⟨failed, pick, looked⟩ := react_findApiKey reacted
    match r, looked with
    | .error e, _ => trivial
    | .ok none, _ => trivial
    | .ok (some key), looked =>
      rw [KeyFound, react_apiKeys reacted]
      exact lookup_found looked
  | _ => trivial

/-- What holds of the requests of a world in every run. -/
structure Guarded (b : Backend) (app : App) (apiKeys : List ApiKeyRow) (w : GwWorld) :
    Prop where
  follows : ∀ t ∈ w.tasks, Follows (AfterAdmission app) (fun _ _ _ => True) t
  found : Recorded (KeyFound b) w
  table : w.shared.apiKeys = apiKeys

theorem guarded_start : Guarded b app apiKeys (start apiKeys) :=
  ⟨by simp [start], by simp [start, Recorded], rfl⟩

theorem Guarded.step {w w' : GwWorld} {a : GwAction} (guarded : Guarded b app apiKeys w)
    (stepped : step (setting b app) w a = some w') : Guarded b app apiKeys w' where
  follows := follows_step (body_afterAdmission app) guarded.follows stepped
  found := by
    refine recorded_step (fun i c adv => react_keyFound adv.reacted) ?_ guarded.found stepped
    intro i c adv ev found
    have same := react_apiKeys adv.reacted
    unfold KeyFound at found ⊢
    rw [same]
    exact found
  table := by
    obtain ⟨o, -, rfl⟩ | ⟨i, c, -, ⟨adv⟩⟩ | ⟨i, t, -, found, rfl⟩ := step_cases stepped
    · exact guarded.table
    · rw [adv.shared_eq, react_apiKeys adv.reacted]
      exact guarded.table
    · exact guarded.table

theorem guarded_of_run {actions : List GwAction} {w : GwWorld}
    (ran : run (setting b app) (start apiKeys) actions = some w) : Guarded b app apiKeys w :=
  run_invariant' (fun _ _ _ guarded stepped => guarded.step stepped) guarded_start ran

theorem carriesKey_of_admitted {w : GwWorld} {headers : HeaderMap} {t : GwTask}
    {earlier : Past} (guarded : Guarded b app apiKeys w) (configured : app.apiKeys.isSome = true)
    (unforgeable : Unforgeable app) (mem : t ∈ w.tasks) (suffix : earlier <:+ t.history)
    (admitted : Admitted app headers earlier) : CarriesKey b app apiKeys headers := by
  cases admitted with
  | unprotected missing => simp [missing] at configured
  | static provided key carried known same =>
    have equal := unforgeable key known provided same
    exact ⟨provided, carried, .inl (equal ▸ known)⟩
  | stored provided key rest carried is =>
    have inside : (⟨.findApiKey (app.sha256Hex provided), .ok (some key)⟩ : GwEvent) ∈
        t.history := suffix.subset (by rw [is]; exact List.mem_cons_self)
    have row := guarded.found t mem _ inside
    rw [KeyFound, guarded.table] at row
    exact ⟨provided, carried, .inr row⟩

/-- A touching event of a task was licensed when it happened. -/
theorem touched_license {w : GwWorld} {t : GwTask} {ev : GwEvent}
    (guarded : Guarded b app apiKeys w) (mem : t ∈ w.tasks) (known : ev ∈ t.history) :
    ∃ h, h <:+ t.history ∧ AfterAdmission app t.origin h ev.1 := by
  obtain ⟨h, suffix, license⟩ := (guarded.follows t mem).2.of_mem known
  exact ⟨h, (List.suffix_cons ev h).trans suffix, license⟩

end Contract

section Requests

variable {b : Backend} {app : App} {apiKeys : List ApiKeyRow}

theorem http_authenticated (configured : app.apiKeys.isSome = true)
    (unforgeable : Unforgeable app) (headers : HeaderMap) (route : Router.Route) :
    Authenticated b app apiKeys (.http headers route) := by
  intro actions w ran t mem origin touched
  obtain ⟨ev, known, touching⟩ := touched
  have guarded := guarded_of_run ran
  obtain ⟨h, suffix, license⟩ := touched_license guarded mem known
  rw [origin] at license
  obtain ⟨earlier, inner, admitted⟩ := license touching
  exact carriesKey_of_admitted guarded configured unforgeable mem (inner.trans suffix) admitted

theorem grpc_refused_authenticated (metadata : HeaderMap) {call : Router.GrpcCall}
    (stopped : refused app call = true) :
    Authenticated b app apiKeys (.grpc metadata call) := by
  intro actions w ran t mem origin touched
  obtain ⟨ev, known, touching⟩ := touched
  obtain ⟨h, -, license⟩ := touched_license (guarded_of_run ran) mem known
  rw [origin] at license
  have reached := license touching
  rw [stopped] at reached
  cases reached

/-- A gRPC call that is not refused starts with a call of the store. -/
theorem grpc_reaches_store {call : Router.GrpcCall} (open_ : refused app call = false) :
    ∃ op k, body app (.grpc call) = .call (.store op) k := by
  cases call with
  | createPayment req =>
    cases parsed : Grpc.parseCreatePayment req with
    | error e => simp [refused, parsed] at open_
    | ok request =>
      cases configured : app.providers request.provider.asStr with
      | none => simp [refused, parsed, configured] at open_
      | some p =>
        rw [body, Router.serveGrpc, Grpc.createPayment, parsed]
        simp only [configured]
        exact ⟨_, _, rfl⟩
  | getPayment id =>
    cases id with
    | corrupt raw => cases open_
    | stored id => exact ⟨_, _, rfl⟩
  | streamPaymentEvents filter =>
    cases filter with
    | none => cases open_
    | some text =>
      cases text with
      | corrupt raw => cases open_
      | stored id => exact ⟨_, _, rfl⟩

theorem grpc_touches {metadata : HeaderMap} {call : Router.GrpcCall}
    (open_ : refused app call = false)
    (authenticated : Authenticated b app apiKeys (.grpc metadata call)) :
    CarriesKey b app apiKeys metadata := by
  obtain ⟨op, k, first⟩ := grpc_reaches_store open_
  have spawned : step (setting b app) (start apiKeys) (.spawn (.grpc call)) =
      some ⟨Shared.start apiKeys, [⟨.grpc call, [], .call (.store op) k, true⟩]⟩ := by
    simp [step, start, Task.start, setting, first]
  let d := quietDraw 0
  let answer := execOp app.fingerprint b d (Shared.start apiKeys).ledger op
  refine authenticated [.spawn (.grpc call), .advance 0 (.draw d)]
    ⟨{ Shared.start apiKeys with ledger := answer.1 },
      [⟨.grpc call, [⟨.store op, answer.2⟩], k answer.2, true⟩]⟩ ?_ _
    List.mem_cons_self rfl ⟨_, List.mem_cons_self, rfl⟩
  rw [run, spawned]
  rfl

end Requests

/-- With static keys configured, a request is authenticated exactly if it is
an HTTP request, carries a key, or is refused for its arguments. -/
theorem authenticated_iff (b : Backend) (app : App) (apiKeys : List ApiKeyRow) (q : Request)
    (configured : app.apiKeys.isSome = true) (unforgeable : Unforgeable app) :
    Authenticated b app apiKeys q ↔
      (∃ headers route, q = .http headers route) ∨ CarriesKey b app apiKeys q.headers ∨
        ∃ metadata call, q = .grpc metadata call ∧ refused app call = true := by
  constructor
  · intro authenticated
    cases q with
    | http headers route => exact .inl ⟨headers, route, rfl⟩
    | grpc metadata call =>
      cases stopped : refused app call with
      | true => exact .inr (.inr ⟨metadata, call, rfl, stopped⟩)
      | false => exact .inr (.inl (grpc_touches stopped authenticated))
  · rintro (⟨headers, route, rfl⟩ | carries | ⟨metadata, call, rfl, stopped⟩)
    · exact http_authenticated configured unforgeable headers route
    · exact fun _ _ _ _ _ _ _ => carries
    · exact grpc_refused_authenticated metadata stopped

/-- The shop with one static key; the digest of that key is its SHA-256. -/
def guardedShop : App :=
  { shop with
    apiKeys := some ["ow_live_1"]
    sha256Hex := fun text =>
      if text = "ow_live_1" then
        "b5ca54f405ec80ef20f69e4c79005bd5764009484f09b67aa40534ad2386745d"
      else "-" ++ text }

theorem guardedShop_unforgeable : Unforgeable guardedShop := by
  intro key known text same
  obtain rfl : key = "ow_live_1" := by simpa [guardedShop] using known
  by_contra apart
  have digest : guardedShop.sha256Hex text = "-" ++ text := if_neg (Ne.symm apart)
  rw [digest] at same
  have first := congrArg (fun s => s.toList.head?) same
  simp [guardedShop] at first

def statusCall : Router.GrpcCall := .getPayment (.stored ⟨1⟩)

theorem authenticated_iff_status_call :
    Authenticated .sqlite guardedShop [] (.grpc ⟨[]⟩ statusCall) ↔
      (∃ headers route, Request.grpc ⟨[]⟩ statusCall = .http headers route) ∨
        CarriesKey .sqlite guardedShop [] ⟨[]⟩ ∨ ∃ metadata call,
          Request.grpc ⟨[]⟩ statusCall = .grpc metadata call ∧ refused guardedShop call = true :=
  authenticated_iff .sqlite guardedShop [] (.grpc ⟨[]⟩ statusCall) rfl guardedShop_unforgeable

theorem grpc_not_authenticated : ¬ ∀ (b : Backend) (app : App) (apiKeys : List ApiKeyRow)
    (q : Request), app.apiKeys.isSome = true → Unforgeable app →
    Authenticated b app apiKeys q := by
  intro claim
  have authenticated := claim .sqlite guardedShop [] (.grpc ⟨[]⟩ statusCall) rfl
    guardedShop_unforgeable
  have carries : CarriesKey .sqlite guardedShop [] ⟨[]⟩ := grpc_touches rfl authenticated
  obtain ⟨provided, carried, -⟩ := carries
  simp [Router.providedKey, HeaderMap.get] at carried

end OpenWrapper.Authentication
