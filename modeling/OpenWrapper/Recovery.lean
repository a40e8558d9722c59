import OpenWrapper.WorkingStore

/-! # How an unresolved payment can still end

A payment whose row has the provider's reference can be inquired by any
client the gateway admits. One without a reference is resolved by the task
that claimed it, or not at all. -/

set_option autoImplicit false

namespace OpenWrapper.Recovery
open OpenWrapper.Ids OpenWrapper.Errors OpenWrapper.Payments OpenWrapper.Schema
open OpenWrapper.ConstraintTable OpenWrapper.PaymentStore OpenWrapper.StoreContract
open OpenWrapper.Providers OpenWrapper.Headers OpenWrapper.Stateless OpenWrapper.Effects
open OpenWrapper.Gateway OpenWrapper.Contracts OpenWrapper.Evolution OpenWrapper.Claimants
open OpenWrapper.WorkingStore OpenWrapper.Suspended OpenWrapper.Suspended.Prog
open OpenWrapper.Interleaving

def Unresolved (L : Ledger) (id : PaymentId) : Prop :=
  StatusIs L id .pending ∨ StatusIs L id .unknown

def Resolved (L : Ledger) (id : PaymentId) : Prop :=
  StatusIs L id .succeeded ∨ StatusIs L id .failed

/-- Some continuation of the run resolves the payment. -/
def Resolvable (app : App) (w : GwWorld) (id : PaymentId) : Prop :=
  ∃ continuation w', run (setting .sqlite app) w continuation = some w' ∧
    Resolved w'.shared.ledger id

/-- The effects that can still give the payment a reference or a final status
when its row has none. -/
def concluding (id : PaymentId) : Effect → Bool
  | .createPayment _ of_ _ => of_ == id
  | .store (.recordCreationResult of_ _ _ _) => of_ == id
  | .store (.markTerminalWithoutProviderReference of_ _) => of_ == id
  | _ => false

/-- The task that claimed the payment is live and about to conclude it. -/
def Concludable (id : PaymentId) (w : GwWorld) : Prop :=
  ∃ t ∈ w.tasks, t.awaiting (concluding id) = true

/-- A configured key that fits in a header. -/
def sendable (key : String) : Bool :=
  trim key == key && (HeaderValue.fromStr ("Bearer " ++ key)).isSome

/-- The gateway is open, or a client can send one of its keys. -/
def Accessible (app : App) : Prop :=
  app.apiKeys = none ∨ ∃ key ∈ app.apiKeys.getD [], sendable key = true

section Clients

variable {app : App} {env : Env} {h : HeaderMap} {name : String} {key : Option String}

/-- Credentials of a client for every provider the gateway can build. -/
def wallet : List (String × HeaderValue) :=
  [("x-fawry-merchant-code", .text "merchant"), ("x-fawry-secure-key", .text "secure"),
    ("x-fawry-base-url", .text "https://fawry.example"), ("x-paymob-secret-key", .text "secret"),
    ("x-paymob-public-key", .text "public"), ("x-paymob-hmac-secret", .text "hmac"),
    ("x-paymob-integration-id", .text "1"), ("x-stripe-secret-key", .text "sk")]

def client (key : Option String) : HeaderMap :=
  ⟨(key.map fun k => ("authorization", HeaderValue.text ("Bearer " ++ k))).toList ++ wallet⟩

theorem client_get (key : Option String) (other : name ≠ "authorization") :
    (client key).get name = HeaderMap.get ⟨wallet⟩ name := by
  cases key with
  | none => rfl
  | some k => simp [client, HeaderMap.get, Ne.symm other]

theorem providedKey_client_none : Router.providedKey (client none) = none := by
  rw [Router.providedKey, client_get none (by simp [Router.apiKeyHeader])]
  rfl

theorem providedKey_client_some (k : String) (trimmed : trim k = k) :
    Router.providedKey (client (some k)) = some k := by
  have absent : (client (some k)).get Router.apiKeyHeader = none := by
    rw [client_get (some k) (by simp [Router.apiKeyHeader])]
    rfl
  have carried : (client (some k)).get "authorization" = some (.text ("Bearer " ++ k)) := by
    simp [client, HeaderMap.get]
  simp [Router.providedKey, absent, carried, HeaderValue.toStr, trimmed]

/-- An accessible gateway passes some client's requests on to the handlers. -/
theorem admitted_client (accessible : Accessible app) :
    ∃ key h, SameCaller (client key) h ∧ ∀ route,
      Router.serveHttp app (client key) route = Router.enforce (Router.handle app h route) := by
  have stripped : ∀ key, SameCaller (client key) (Router.stripUntrusted (client key)) :=
    fun key => sameCaller_stripUntrusted (client key)
  rcases accessible with open_ | ⟨k, mem, fits⟩
  · refine ⟨none, Router.stripUntrusted (client none), stripped none, fun route => ?_⟩
    have none_ : Router.providedKey (Router.stripUntrusted (client none)) = none :=
      (stripped none).providedKey.trans providedKey_client_none
    simp [Router.serveHttp, Router.requireApiKey, none_, open_]
  · have trimmed : trim k = k := by
      simp only [sendable, Bool.and_eq_true, beq_iff_eq] at fits
      exact fits.1
    refine ⟨some k, Router.insertStr (Router.stripUntrusted (client (some k)))
      "x-openwrapper-environment" (Router.environmentOf k), ?_, fun route => ?_⟩
    · exact sameCaller_insertStr (stripped (some k)) _ _ (by simp [isInternal])
    · have provided : Router.providedKey (Router.stripUntrusted (client (some k))) = some k :=
        (stripped (some k)).providedKey.trans (providedKey_client_some k trimmed)
      have known : ((app.apiKeys.getD []).any fun key =>
          Router.constantTimeEq app.sha256Hex key k) = true :=
        List.any_eq_true.mpr ⟨k, mem, by simp [Router.constantTimeEq]⟩
      simp only [Router.serveHttp, Router.requireApiKey, provided, known, if_true]

/-- The server has the provider, or can build one from credentials. -/
def Offered (app : App) (name : String) : Prop :=
  (app.providers name).isSome = true ∨ name ∈ ["fawry", "paymob", "stripe", "mock"]

theorem offered_of_resolved {p : Provider}
    (resolved : resolvePaymentProvider app.env app.providers name h = .ok p) :
    Offered app name := by
  unfold resolvePaymentProvider at resolved
  split at resolved
  next q configured => exact .inl (by simp [configured])
  · split at resolved
    · exact .inr (by simp)
    · exact .inr (by simp)
    · exact .inr (by simp)
    · exact .inr (by simp)
    · cases resolved

theorem offered_of_resolves {o : Origin} {p : Provider} (resolves : Resolves app o name p) :
    Offered app name := by
  cases resolves with
  | server o name p configured => exact .inl (by simp [configured])
  | request headers h route name p same resolved => exact offered_of_resolved resolved
  | environment name p resolved => exact offered_of_resolved resolved

theorem client_value (same : SameCaller (client key) h) {header value : String}
    (outside : ¬ isInternal header) (other : header ≠ "authorization")
    (carried : headerValue ⟨wallet⟩ header = some value) : headerValue h header = some value := by
  rw [← carried, headerValue, headerValue, HeaderMap.getStr, HeaderMap.getStr, same header outside,
    client_get key other]

theorem client_credential (same : SameCaller (client key) h) {header variable_ value : String}
    (outside : ¬ isInternal header) (other : header ≠ "authorization")
    (carried : headerValue ⟨wallet⟩ header = some value) :
    credential env h header variable_ = some value := by
  rw [credential, client_value same outside other carried]
  rfl

/-- The client's credentials resolve every provider on offer. -/
theorem client_resolves (same : SameCaller (client key) h) (offered : Offered app name) :
    ∃ p, resolvePaymentProvider app.env app.providers name h = .ok p := by
  have supplied : ∀ header variable_ value, ¬ isInternal header → header ≠ "authorization" →
      headerValue ⟨wallet⟩ header = some value →
      credential app.env h header variable_ = some value :=
    fun header variable_ value outside other carried => client_credential same outside other carried
  cases configured : app.providers name with
  | some p =>
    refine ⟨p, ?_⟩
    unfold resolvePaymentProvider
    rw [configured]
  | none =>
    have built : name ∈ ["fawry", "paymob", "stripe", "mock"] := by
      rcases offered with configured' | listed
      · simp [configured] at configured'
      · exact listed
    simp only [List.mem_cons, List.not_mem_nil, or_false] at built
    rcases built with rfl | rfl | rfl | rfl
    · simp only [resolvePaymentProvider, configured, resolveFawry,
        supplied "x-fawry-merchant-code" "FAWRY_MERCHANT_CODE" "merchant" (by simp [isInternal])
          (by simp) rfl,
        supplied "x-fawry-secure-key" "FAWRY_SECURE_KEY" "secure" (by simp [isInternal])
          (by simp) rfl,
        supplied "x-fawry-base-url" "FAWRY_BASE_URL" "https://fawry.example"
          (by simp [isInternal]) (by simp) rfl]
      exact ⟨_, rfl⟩
    · have integrated : paymobIntegration app.env h = some "1" := by
        rw [paymobIntegration, supplied "x-paymob-integration-id" "PAYMOB_INTEGRATION_ID" "1"
          (by simp [isInternal]) (by simp) rfl]
        rfl
      have numeric : parseI64 "1" = some 1 := by decide
      simp only [resolvePaymentProvider, configured, resolvePaymob, integrated, numeric,
        supplied "x-paymob-secret-key" "PAYMOB_SECRET_KEY" "secret" (by simp [isInternal])
          (by simp) rfl,
        supplied "x-paymob-public-key" "PAYMOB_PUBLIC_KEY" "public" (by simp [isInternal])
          (by simp) rfl,
        supplied "x-paymob-hmac-secret" "PAYMOB_HMAC_SECRET" "hmac" (by simp [isInternal])
          (by simp) rfl]
      exact ⟨_, rfl⟩
    · simp only [resolvePaymentProvider, configured, resolveStripe,
        supplied "x-stripe-secret-key" "STRIPE_SECRET_KEY" "sk" (by simp [isInternal])
          (by simp) rfl]
      exact ⟨_, rfl⟩
    · simp only [resolvePaymentProvider, configured, resolveMock]
      split
      all_goals exact ⟨_, rfl⟩

end Clients

section Conclusion

/-! A creation the provider certainly did not perform is marked failed at
once. -/

variable {app : App} {o : Origin} {h : Past} {id : PaymentId}

def Definite (h : Past) (id : PaymentId) : Prop :=
  ∃ e, Created h id (.error e) ∧ e.isDefiniteNonOccurrence = true

def Concludes (app : App) (o : Origin) (h : Past) (e : Effect) : Prop :=
  Sound (Licensed app o) h → ∀ id, Definite h id →
    e = .store (.markTerminalWithoutProviderReference id .failed)

def Concluded (app : App) (o : Origin) (h : Past) (_ : Reply) : Prop :=
  Sound (Licensed app o) h → ∀ id, ¬ Definite h id

theorem begun_of_definite (sound : Sound (Licensed app o) h) (definite : Definite h id) :
    ∃ request owner, requestOf o = some request ∧
      told (.beginPaymentWithOwner request owner) (.proceed id) ∈ h := by
  obtain ⟨e, ⟨p, request, rest, is⟩, -⟩ := definite
  rw [is] at sound
  obtain ⟨⟨owner, earlier, began⟩, -⟩ := sound.1
  have asked := sound.2
  rw [began] at asked
  exact ⟨request, owner, asked.1.1, by rw [is, began]; simp⟩

theorem not_definite_store {op : StoreOp} {r : op.Result} :
    ¬ Definite (⟨.store op, r⟩ :: h) id := by
  rintro ⟨e, ⟨p, request, rest, is⟩, -⟩
  simp at is

theorem concludes_store {e : Effect} {op : StoreOp} {r : op.Result} :
    Concludes app o (⟨.store op, r⟩ :: h) e :=
  fun _ _ definite => absurd definite not_definite_store

theorem concluded_store {reply : Reply} {op : StoreOp} {r : op.Result} :
    Concluded app o (⟨.store op, r⟩ :: h) reply :=
  fun _ _ => not_definite_store

theorem concluded_quiet {reply : Reply} (quiet : Quiet h) : Concluded app o h reply := by
  intro sound id definite
  obtain ⟨request, owner, -, told_⟩ := begun_of_definite sound definite
  exact quiet.told_not_mem _ _ told_

theorem concludes_quiet {e : Effect} (quiet : Quiet h) : Concludes app o h e :=
  fun sound id definite =>
    have none_ : Concluded app o h .finished := concluded_quiet quiet
    absurd definite (none_ sound id)

/-- A task that carries no payment request never asks for a creation. -/
theorem concludes_other (silent : requestOf o = none) (p : Gw Reply) (h : Past) :
    Always (Concludes app o) (Concluded app o) p h := by
  have never : ∀ h : Past, Sound (Licensed app o) h → ∀ id, ¬ Definite h id := by
    intro h sound id definite
    obtain ⟨request, owner, asked, -⟩ := begun_of_definite sound definite
    rw [silent] at asked
    cases asked
  exact (always_true p h).mono (fun h e _ sound id definite => absurd definite (never h sound id))
    fun h a _ => never h

theorem concludes_created {p : Provider} {request : PaymentRequest} {e : OpenWrapperError} :
    Concludes app o (⟨.createPayment p id request, .error e⟩ :: h)
      (.store (.markTerminalWithoutProviderReference id .failed)) := by
  rintro - id' ⟨e', ⟨p', request', rest, is⟩, -⟩
  cases is
  rfl

theorem concludes_unless {p : Provider} {request : PaymentRequest} {e' : Effect}
    {r : Except OpenWrapperError PaymentResult}
    (indefinite : ∀ e, r = .error e → e.isDefiniteNonOccurrence = false) :
    Concludes app o (⟨.createPayment p id request, r⟩ :: h) e' := by
  rintro - id' ⟨e, ⟨p', request', rest, is⟩, definite⟩
  cases is
  rw [indefinite e rfl] at definite
  cases definite

theorem createClaimed_concludes {p : Provider} {request : PaymentRequest} {op : StoreOp}
    {r : op.Result} :
    Always (Concludes app o) (Concluded app o) (Handlers.createClaimed p request id)
      (⟨.store op, r⟩ :: h) := by
  simp only [Handlers.createClaimed, Gw.createPayment, Gw.recordCreationResult, Gw.markFailed,
    Gw.markUnknown, Gw.getPayment, perform_bind, always_call]
  refine ⟨concludes_store, fun r => ?_⟩
  cases r with
  | ok result =>
    refine ⟨concludes_unless (by simp), fun r => ?_⟩
    cases r <;> exact concluded_store
  | error e =>
    dsimp only
    split
    · refine ⟨concludes_created, fun r => ?_⟩
      cases r <;> exact concluded_store
    next indefinite =>
      refine ⟨concludes_unless (by simpa using indefinite), fun r => ?_⟩
      cases r with
      | error s => exact concluded_store
      | ok _ =>
        refine ⟨concludes_store, fun r => ?_⟩
        cases r with
        | error s => exact concluded_store
        | ok found => cases found <;> exact concluded_store

theorem grpc_createClaimed_concludes {p : Provider} {request : PaymentRequest} {op : StoreOp}
    {r : op.Result} :
    Always (Concludes app o) (Concluded app o) (Grpc.createClaimed p request id)
      (⟨.store op, r⟩ :: h) := by
  simp only [Grpc.createClaimed, Gw.createPayment, Gw.recordCreationResult, Gw.markFailed,
    Gw.markUnknown, Gw.now, perform_bind, always_call]
  refine ⟨concludes_store, fun r => ?_⟩
  cases r with
  | ok result =>
    refine ⟨concludes_unless (by simp), fun r => ?_⟩
    cases r <;> exact concluded_store
  | error e =>
    dsimp only
    split
    · exact ⟨concludes_created, fun r => concluded_store⟩
    next indefinite =>
      refine ⟨concludes_unless (by simpa using indefinite), fun r => ⟨concludes_store, ?_⟩⟩
      rintro now - id' ⟨e', ⟨p', request', rest, is⟩, -⟩
      simp at is

theorem createPayment_concludes {h' : HeaderMap} {body : Handlers.CreatePaymentBody}
    (quiet : Quiet h) :
    Always (Concludes app o) (Concluded app o) (Handlers.createPayment app h' body) h := by
  unfold Handlers.createPayment
  cases Handlers.parseCreatePayment h' body with
  | error e => exact concluded_quiet quiet
  | ok request =>
    dsimp only
    cases resolvePaymentProvider app.env app.providers request.provider.asStr h' with
    | error e => exact concluded_quiet quiet
    | ok provider =>
      simp only [Gw.begin, Gw.getNextAction, perform_bind, always_call]
      refine ⟨concludes_quiet quiet, fun r => ?_⟩
      cases r with
      | error e => exact concluded_store
      | ok outcome =>
        cases outcome with
        | conflict => exact concluded_store
        | returnExisting payment =>
          refine ⟨concludes_store, fun r => ?_⟩
          cases r with
          | error e => exact concluded_store
          | ok action => cases action <;> exact concluded_store
        | proceed id => exact createClaimed_concludes

theorem grpc_createPayment_concludes {req : Grpc.CreatePaymentRequest} :
    Always (Concludes app o) (Concluded app o) (Grpc.createPayment app req) [] := by
  have quiet : Quiet [] := by simp [Quiet]
  unfold Grpc.createPayment
  cases Grpc.parseCreatePayment req with
  | error e => exact concluded_quiet quiet
  | ok request =>
    dsimp only
    cases app.providers request.provider.asStr with
    | none => exact concluded_quiet quiet
    | some provider =>
      simp only [Grpc.createValidated, Gw.begin, Gw.getNextAction, perform_bind, always_call]
      refine ⟨concludes_quiet quiet, fun r => ?_⟩
      cases r with
      | error e => exact concluded_store
      | ok outcome =>
        cases outcome with
        | conflict => exact concluded_store
        | returnExisting payment => exact ⟨concludes_store, fun r => concluded_store⟩
        | proceed id => exact grpc_createClaimed_concludes

theorem body_concludes (app : App) (o : Origin) :
    Always (Concludes app o) (Concluded app o) (body app o) [] := by
  cases o with
  | http headers route =>
    cases route with
    | createPayment order =>
      exact serveHttp_always (fun _ _ quiet => concludes_quiet quiet)
        (fun _ quiet => concludes_quiet quiet) (fun _ _ _ quiet _ _ => concluded_quiet quiet)
        fun _ _ _ quiet _ => createPayment_concludes quiet
    | _ => exact concludes_other rfl _ _
  | grpc call =>
    cases call with
    | createPayment req => exact grpc_createPayment_concludes
    | _ => exact concludes_other rfl _ _
  | _ => exact concludes_other rfl _ _

end Conclusion

section Offers

variable {b : Backend} {app : App} {w w' : GwWorld}

/-- Every payment is stored under the name of a provider on offer. -/
def Offers (app : App) (L : Ledger) : Prop :=
  ∀ row ∈ L.payments.rows, ∀ provider, row.provider = .stored provider →
    Offered app provider.asStr

theorem offers_advance {i : ℕ} {c : Choice} (adv : Advanced (setting b app) w i c w')
    (sane : Sane app w) (offers : Offers app w.shared.ledger) :
    Offers app adv.shared.ledger := by
  have license := adv.licensed sane.follows
  have reacted := adv.reacted
  generalize adv.effect = e, adv.response = r at reacted license
  by_cases call : ∃ op, e = .store op
  · obtain ⟨op, rfl⟩ := call
    obtain ⟨d, same, -⟩ := react_store reacted
    rw [same]
    intro row mem provider at_
    rcases outcome_stems (execOp_outcome app.fingerprint b d w.shared.ledger op) mem with
      ⟨old, was, cont⟩ | ⟨request, owner, now, rfl, rfl⟩
    · exact offers old was provider (cont.provider.symm.trans at_)
    · obtain ⟨-, p, resolves⟩ := license
      cases at_
      exact offered_of_resolves resolves
  · rw [react_other reacted (by simpa using call)]
    exact offers

structure Invariant (app : App) (w : GwWorld) : Prop where
  claims : Claims app w
  concludes : ∀ t ∈ w.tasks, Follows (Concludes app) (Concluded app) t
  offers : Offers app w.shared.ledger

theorem invariant_start (apiKeys : List ApiKeyRow) : Invariant app (start apiKeys) :=
  ⟨claims_start apiKeys, by simp [start], by simp [start, Shared.start, Ledger.empty, Offers]⟩

theorem Invariant.step {a : GwAction} (inv : Invariant app w)
    (stepped : step (setting b app) w a = some w') : Invariant app w' where
  claims := inv.claims.step stepped
  concludes := follows_step (body_concludes app) inv.concludes stepped
  offers := by
    obtain ⟨o, -, rfl⟩ | ⟨i, c, -, ⟨adv⟩⟩ | ⟨i, t, -, found, rfl⟩ := step_cases stepped
    · exact inv.offers
    · rw [adv.shared_eq]
      exact offers_advance adv inv.claims.sane inv.offers
    · exact inv.offers

theorem invariant_of_reachable (reachable : Reachable b app w) : Invariant app w :=
  Reachable.induction invariant_start (fun _ _ _ inv stepped => inv.step stepped) reachable

end Offers

section Inquiry

/-! A client asks for the payment, and its provider answers that it
succeeded. -/

variable {app : App} {w : GwWorld} {id : PaymentId} {s : PaymentStatus}

def answers : List Choice :=
  [.acquired true, .draw (quietDraw 0), .inquired (.ok .succeeded), .draw (quietDraw 0)]

theorem inquired_status {sh : Shared} {h : HeaderMap} {row : PaymentRow} {payment : Payment}
    {p : Provider} (mem : row ∈ sh.ledger.payments.rows) (is : row.id = .stored id)
    (parsed : row.toPayment = some payment) (unresolved : s = .pending ∨ s = .unknown)
    (stored : row.status = .stored s) (referenced : row.providerReference.isSome = true)
    (resolved : resolvePaymentProvider app.env app.providers payment.provider.asStr h = .ok p) :
    ∃ sh', Drives (setting .sqlite app) sh
      (Router.enforce (Router.handle app h (.getPayment (.stored id)))) answers sh' ∧
        StatusIs sh'.ledger id .succeeded := by
  have read := readFrom_of_toPayment parsed
  have status : payment.status = s := by
    have both := read.status.symm.trans stored
    exact Text.stored.inj both
  have named : payment.id = id := by
    have both := read.id.symm.trans is
    exact Text.stored.inj both
  subst named
  obtain ⟨reference, known⟩ := Option.isSome_iff_exists.mp referenced
  have chosen : Handlers.inquiryProvider app h payment = some (p, reference) := by
    have open_ : payment.status.isTerminal = false := by
      rw [status]
      rcases unresolved with rfl | rfl <;> rfl
    simp [Handlers.inquiryProvider, open_, read.providerReference.symm.trans known, resolved,
      Provider.inquireStatus_supported]
  have news : PaymentStatus.succeeded ≠ payment.status ∧ PaymentStatus.succeeded ≠ .unknown := by
    rw [status]
    rcases unresolved with rfl | rfl <;> decide
  have legal : PaymentStatus.Legal s .succeeded ∧ s ≠ .succeeded := by
    rcases unresolved with rfl | rfl <;> decide
  have written := applyReconciliationResult_status app.fingerprint (quietDraw 0)
    ⟨row, mem, is, stored⟩ legal.1 legal.2
  have found : react .sqlite app sh (.store (.getPayment payment.id)) (.draw (quietDraw 0))
      = some (sh, .ok (some payment)) := by
    have answer := getPayment_found app.fingerprint .sqlite (quietDraw 0) mem is parsed
    simp only [react, getPayment_ledger]
    exact congrArg (fun r => some (sh, r)) answer
  refine ⟨{ sh with ledger := (execOp app.fingerprint .sqlite (working (quietDraw 0)) sh.ledger
    (.applyReconciliationResult payment.id .succeeded)).1 }, ?_, written⟩
  simp only [answers, Router.enforce, Router.handle, Handlers.getPayment, Handlers.lookupPayment,
    Handlers.refresh, Gw.tryAcquire, Gw.getPayment, Gw.inquireStatus, perform_bind]
  apply drives_call (r := true) rfl
  apply drives_call found
  simp only [chosen, call_bind]
  apply drives_call (r := .ok .succeeded) rfl
  simp only [if_pos news, Gw.applyReconciliationResult, perform_bind, call_bind]
  apply drives_call rfl
  exact drives_nil _ _ _

end Inquiry

section Continuations

variable {app : App} {w w' : GwWorld} {id : PaymentId} {t : GwTask}

theorem Resolvable.earlier {actions : List GwAction} (resolvable : Resolvable app w' id)
    (ran : run (setting .sqlite app) w actions = some w') : Resolvable app w id := by
  obtain ⟨continuation, w'', later, resolved⟩ := resolvable
  refine ⟨actions ++ continuation, w'', ?_, resolved⟩
  rw [run_append, ran]
  exact later

/-- A client resolves a payment that has a reference. -/
theorem resolvable_of_referenced (accessible : Accessible app) (inv : Invariant app w)
    (unresolved : Unresolved w.shared.ledger id) (referenced : Referenced w.shared.ledger id) :
    Resolvable app w id := by
  obtain ⟨row, mem, is, some_⟩ := referenced
  obtain ⟨s, open_, row', mem', is', stored⟩ :
      ∃ s, (s = .pending ∨ s = .unknown) ∧ StatusIs w.shared.ledger id s := by
    rcases unresolved with pending | unknown
    · exact ⟨_, .inl rfl, pending⟩
    · exact ⟨_, .inr rfl, unknown⟩
  have one := row_eq_of_id mem' mem (is'.trans is.symm)
  subst one
  obtain ⟨payment, parsed⟩ := (inv.claims.sane.intact row' mem).toPayment
  have read := readFrom_of_toPayment parsed
  obtain ⟨key, h, same, serves⟩ := admitted_client accessible
  obtain ⟨p, resolved⟩ := client_resolves same
    (inv.offers row' mem payment.provider read.provider)
  obtain ⟨sh, drives, succeeded⟩ := inquired_status mem is parsed open_ stored some_ resolved
  rw [← serves] at drives
  obtain ⟨w', ran, shared⟩ := run_of_spawn (S := setting .sqlite app)
    (.http (client key) (.getPayment (.stored id))) drives
  refine ⟨_, w', ran, .inl ?_⟩
  rw [shared]
  exact succeeded

/-- The claimant that awaits the provider resolves the payment if the provider
turns the request down. -/
theorem resolvable_of_creating (inv : Invariant app w) {i : ℕ} (found : w.tasks[i]? = some t)
    (live : t.live = true) {p : Provider} {request : PaymentRequest}
    {k : Except OpenWrapperError PaymentResult → Gw Reply}
    (suspended : t.rest = .call (.createPayment p id request) k) : Resolvable app w id := by
  have mem := List.mem_of_getElem? found
  obtain ⟨licensed, sound⟩ := inv.claims.sane.follows t mem
  obtain ⟨concludes, -⟩ := inv.concludes t mem
  rw [suspended] at licensed concludes
  obtain ⟨⟨owner, rest, began⟩, -⟩ := licensed.1
  have claimed := inv.claims.pristine id t mem (inv.claims.unwritten_of_proceeding mem began)
  have rejected : Definite (⟨.createPayment p id request, .error (.validation "rejected")⟩ ::
      t.history) id := ⟨_, ⟨p, request, _, rfl⟩, rfl⟩
  have next := concludes.2 (.error (.validation "rejected"))
  have drives : Drives (setting .sqlite app) w.shared t.rest
      [.created (.error (.validation "rejected")), .draw (quietDraw 0)]
      { w.shared with ledger := (execOp app.fingerprint .sqlite (working (quietDraw 0))
        w.shared.ledger (.markTerminalWithoutProviderReference id .failed)).1 } := by
    rw [suspended]
    apply drives_call (r := .error (.validation "rejected")) rfl
    cases is : k (.error (.validation "rejected")) with
    | done reply =>
      rw [is] at next
      exact absurd rejected (next ⟨licensed.1, sound⟩ id)
    | call e k' =>
      rw [is] at next
      obtain rfl := next.1 ⟨licensed.1, sound⟩ id rejected
      exact drives_call rfl (drives_nil _ _ _)
  obtain ⟨w', ran, shared⟩ := run_of_drives found live drives
  refine ⟨_, w', ran, .inr ?_⟩
  rw [shared]
  exact markFailed_status app.fingerprint .sqlite (quietDraw 0) claimed

/-- The claimant that holds the provider's answer writes it to the row. -/
theorem resolvable_of_recording (accessible : Accessible app) (inv : Invariant app w) {i : ℕ}
    (found : w.tasks[i]? = some t) (live : t.live = true) {reference : String}
    {status : PaymentStatus} {action : Option PaymentNextAction} {k : StoreResult Unit → Gw Reply}
    (suspended : t.rest = .call (.store (.recordCreationResult id reference status action)) k) :
    Resolvable app w id := by
  have mem := List.mem_of_getElem? found
  obtain ⟨licensed, -⟩ := inv.claims.sane.follows t mem
  rw [suspended] at licensed
  obtain ⟨result, created, -, rfl, -⟩ := licensed.1
  have claimed := inv.claims.pristine id t mem (inv.claims.unwritten_of_created mem created)
  have drives : Drives (setting .sqlite app) w.shared t.rest [.draw (quietDraw 0)]
      { w.shared with ledger := (execOp app.fingerprint .sqlite (working (quietDraw 0))
        w.shared.ledger (.recordCreationResult id reference result.status.toStatus action)).1 } := by
    rw [suspended]
    exact drives_call rfl (drives_nil _ _ _)
  obtain ⟨w', ran, shared⟩ := run_of_drives found live drives
  have inv' : Invariant app w' :=
    run_invariant' (fun _ _ _ inv stepped => inv.step stepped) inv ran
  have stored : StatusIs w'.shared.ledger id result.status.toStatus := by
    rw [shared]
    exact recordCreationResult_status claimed
  have referenced : Referenced w'.shared.ledger id := by
    rw [shared]
    exact recordCreationResult_referenced claimed
  have unresolved : Unresolved w'.shared.ledger id := by
    cases is : result.status with
    | pending => exact .inl (by simpa [is, CreationStatus.toStatus] using stored)
    | unknown => exact .inr (by simpa [is, CreationStatus.toStatus] using stored)
  exact (resolvable_of_referenced accessible inv' unresolved referenced).earlier ran

theorem resolvable_of_marking (inv : Invariant app w) {i : ℕ} (found : w.tasks[i]? = some t)
    (live : t.live = true) {status : PaymentStatus} {k : StoreResult Unit → Gw Reply}
    (suspended : t.rest = .call (.store (.markTerminalWithoutProviderReference id status)) k) :
    Resolvable app w id := by
  have mem := List.mem_of_getElem? found
  obtain ⟨licensed, -⟩ := inv.claims.sane.follows t mem
  rw [suspended] at licensed
  obtain ⟨rfl, e, created, -⟩ := licensed.1
  have claimed := inv.claims.pristine id t mem (inv.claims.unwritten_of_created mem created)
  have drives : Drives (setting .sqlite app) w.shared t.rest [.draw (quietDraw 0)]
      { w.shared with ledger := (execOp app.fingerprint .sqlite (working (quietDraw 0))
        w.shared.ledger (.markTerminalWithoutProviderReference id .failed)).1 } := by
    rw [suspended]
    exact drives_call rfl (drives_nil _ _ _)
  obtain ⟨w', ran, shared⟩ := run_of_drives found live drives
  refine ⟨_, w', ran, .inr ?_⟩
  rw [shared]
  exact markFailed_status app.fingerprint .sqlite (quietDraw 0) claimed

theorem resolvable_of_concludable (accessible : Accessible app) (inv : Invariant app w)
    (concludable : Concludable id w) : Resolvable app w id := by
  obtain ⟨t, mem, waiting⟩ := concludable
  obtain ⟨i, found⟩ := List.mem_iff_getElem?.mp mem
  obtain ⟨live, e, k, suspended, about⟩ := Task.awaiting_iff.mp waiting
  unfold concluding at about
  split at about
  · rw [beq_iff_eq.mp about] at suspended
    exact resolvable_of_creating inv found live suspended
  · rw [beq_iff_eq.mp about] at suspended
    exact resolvable_of_recording accessible inv found live suspended
  · rw [beq_iff_eq.mp about] at suspended
    exact resolvable_of_marking inv found live suspended
  · cases about

end Continuations

section Stuck

variable {app : App} {w w' : GwWorld} {id : PaymentId}

def unresolved (status : Text PaymentStatus) : Prop :=
  status = .stored .pending ∨ status = .stored .unknown

/-- The row has no reference, and no task is left that could set one. -/
structure Stuck (app : App) (id : PaymentId) (w : GwWorld) : Prop where
  claims : Claims app w
  unnamed : Unnamed unresolved w.shared.ledger id
  unattended : ¬ Concludable id w

theorem Stuck.not_concluding (stuck : Stuck app id w) {i : ℕ} {c : Choice}
    (adv : Advanced (setting .sqlite app) w i c w') : concluding id adv.effect = false := by
  by_contra about
  exact stuck.unattended ⟨adv.task, adv.mem,
    Task.awaiting_iff.mpr ⟨adv.live, adv.effect, adv.resume, adv.suspended, by simpa using about⟩⟩

theorem marks_of_concludes {e : Effect} (writes : concludes id e = true)
    (other : concluding id e = false) : e = .store (.markUnknown id) := by
  unfold concludes at writes
  split at writes
  · rw [concluding, writes] at other
    cases other
  · rw [concluding, writes] at other
    cases other
  · rw [beq_iff_eq.mp writes]
  · cases writes

/-- Nobody can be let proceed with a payment that is stored. -/
theorem Stuck.not_proceeding (stuck : Stuck app id w) {i : ℕ} {c : Choice}
    (adv : Advanced (setting .sqlite app) w i c w') {request : PaymentRequest}
    {owner : Option ApiKeyInfo} : (⟨adv.effect, adv.response⟩ : GwEvent) ≠
      told (.beginPaymentWithOwner request owner) (.proceed id) := by
  intro event
  obtain ⟨reacted, -⟩ := adv.of_event event
  obtain ⟨d, same, answer⟩ := react_store reacted
  have outcome := execOp_outcome app.fingerprint .sqlite d w.shared.ledger
    (.beginPaymentWithOwner request owner)
  rw [← same, ← answer] at outcome
  obtain ⟨fresh, -⟩ := proceeds_fresh (m := .id id) outcome (by simp [Mark.names])
  obtain ⟨row, mem, is, -⟩ := stuck.unnamed
  exact fresh row mem is

theorem Stuck.resumed_idle (stuck : Stuck app id w) (claims' : Claims app w') {i : ℕ} {c : Choice}
    (adv : Advanced (setting .sqlite app) w i c w') :
    (adv.task.resumed adv.response (adv.resume adv.response)).awaiting (concluding id) = false := by
  by_contra waiting
  obtain ⟨-, e, k, suspended, about⟩ := Task.awaiting_iff.mp (by simpa using waiting)
  have licensed := (claims'.sane.follows _ adv.mem_resumed).1
  rw [suspended] at licensed
  have license := licensed.1
  have unheard : ∀ r, ¬ Created (adv.task.resumed adv.response
      (adv.resume adv.response)).history id r := by
    rintro r ⟨p, request, rest, is⟩
    obtain ⟨-, k', waited⟩ := adv.of_event (List.cons.inj is).1
    exact stuck.unattended ⟨adv.task, adv.mem,
      Task.awaiting_iff.mpr ⟨adv.live, _, k', waited, by simp [concluding]⟩⟩
  unfold concluding at about
  split at about
  · obtain ⟨⟨owner, rest, began⟩, -⟩ := license
    rw [beq_iff_eq.mp about] at began
    exact stuck.not_proceeding adv (List.cons.inj began).1
  · obtain ⟨result, created, -⟩ := license
    rw [beq_iff_eq.mp about] at created
    exact unheard _ created
  · obtain ⟨-, e, created, -⟩ := license
    rw [beq_iff_eq.mp about] at created
    exact unheard _ created
  · cases about

theorem Stuck.advance (stuck : Stuck app id w) {i : ℕ} {c : Choice}
    (adv : Advanced (setting .sqlite app) w i c w') : Unnamed unresolved w'.shared.ledger id := by
  rw [adv.shared_eq]
  have quiet := stuck.not_concluding adv
  refine stuck.unnamed.react adv.reacted (fun writes => ?_) ?_
  · exact ⟨marks_of_concludes writes quiet, .inr rfl⟩
  · by_contra about
    exact stuck.unnamed.not_referenced (referenced_of_settles stuck.claims.sane
      stuck.claims.posted adv.mem (List.suffix_refl _)
      (adv.licensed stuck.claims.sane.follows) (by simpa using about))

theorem Stuck.step {a : GwAction} (stuck : Stuck app id w)
    (stepped : step (setting .sqlite app) w a = some w') : Stuck app id w' where
  claims := stuck.claims.step stepped
  unnamed := by
    obtain ⟨o, -, rfl⟩ | ⟨i, c, -, ⟨adv⟩⟩ | ⟨i, t, -, found, rfl⟩ := step_cases stepped
    · exact stuck.unnamed
    · exact stuck.advance adv
    · exact stuck.unnamed
  unattended := by
    have claims' := stuck.claims.step stepped
    rintro ⟨t, mem, waiting⟩
    obtain ⟨o, -, rfl⟩ | ⟨i, c, -, ⟨adv⟩⟩ | ⟨i, dropped, -, found, rfl⟩ := step_cases stepped
    · rcases List.mem_append.mp mem with old | new
      · exact stuck.unattended ⟨t, old, waiting⟩
      · rw [List.mem_singleton.mp new] at mem waiting
        obtain ⟨-, e, k, suspended, about⟩ := Task.awaiting_iff.mp waiting
        have license := (claims'.sane.follows _ mem).1
        rw [suspended] at license
        have license := license.1
        unfold concluding at about
        split at about
        · obtain ⟨⟨owner, rest, began⟩, -⟩ := license
          cases began
        · obtain ⟨result, ⟨p, request, rest, created⟩, -⟩ := license
          cases created
        · obtain ⟨-, e, ⟨p, request, rest, created⟩, -⟩ := license
          cases created
        · cases about
    · rcases adv.task_cases mem with rfl | ⟨j, -, found⟩
      · rw [stuck.resumed_idle claims' adv] at waiting
        cases waiting
      · exact stuck.unattended ⟨t, List.mem_of_getElem? found, waiting⟩
    · rcases List.mem_or_eq_of_mem_set mem with old | rfl
      · exact stuck.unattended ⟨t, old, waiting⟩
      · simp [Task.awaiting, Task.dropped] at waiting

theorem stuck_of_unattended (claims : Claims app w) (open_ : Unresolved w.shared.ledger id)
    (unreferenced : ¬ Referenced w.shared.ledger id) (unattended : ¬ Concludable id w) :
    Stuck app id w := by
  obtain ⟨row, mem, is, status⟩ : ∃ row ∈ w.shared.ledger.payments.rows,
      row.id = .stored id ∧ unresolved row.status := by
    rcases open_ with ⟨row, mem, is, pending⟩ | ⟨row, mem, is, unknown⟩
    · exact ⟨row, mem, is, .inl pending⟩
    · exact ⟨row, mem, is, .inr unknown⟩
  refine ⟨claims, ⟨row, mem, is, status, ?_⟩, unattended⟩
  by_contra named
  exact unreferenced ⟨row, mem, is, Option.isSome_iff_ne_none.mpr named⟩

/-- A stuck payment stays unresolved whatever happens. -/
theorem Stuck.not_resolvable (stuck : Stuck app id w) : ¬ Resolvable app w id := by
  rintro ⟨continuation, w', ran, resolved⟩
  have still : Stuck app id w' :=
    run_invariant' (fun _ _ _ stuck stepped => stuck.step stepped) stuck ran
  obtain ⟨row, mem, is, status, -⟩ := still.unnamed
  have apart : ∀ s, StatusIs w'.shared.ledger id s → s = .pending ∨ s = .unknown := by
    intro s stored
    rcases status with pending | unknown
    · exact .inl (status_unique stored ⟨row, mem, is, pending⟩)
    · exact .inr (status_unique stored ⟨row, mem, is, unknown⟩)
  rcases resolved with succeeded | failed
  · exact absurd (apart _ succeeded) (by decide)
  · exact absurd (apart _ failed) (by decide)

end Stuck

section Main

/-- An unresolved payment can be resolved exactly if its row has a reference
or its claimant is still about to conclude it. -/
theorem resolvable_iff (app : App) (accessible : Accessible app) (w : GwWorld)
    (reachable : Reachable .sqlite app w) (id : PaymentId)
    (open_ : Unresolved w.shared.ledger id) :
    Resolvable app w id ↔ Referenced w.shared.ledger id ∨ Concludable id w := by
  have inv := invariant_of_reachable reachable
  constructor
  · intro resolvable
    by_contra neither
    obtain ⟨unreferenced, unattended⟩ := not_or.mp neither
    exact (stuck_of_unattended inv.claims open_ unreferenced unattended).not_resolvable resolvable
  · rintro (referenced | concludable)
    · exact resolvable_of_referenced accessible inv open_ referenced
    · exact resolvable_of_concludable accessible inv concludable

/-- A payment created at Stripe whose answer was lost on the way. -/
def lost : List GwAction :=
  [.spawn order, .advance 0 (.acquired true), .advance 0 (.draw (quietDraw 1)),
    .advance 0 (.created (.error (.network "stripe" "connection reset"))),
    .advance 0 (.draw (quietDraw 0)), .advance 0 (.draw (quietDraw 0))]

theorem resolvable_iff_ordered : ∃ w, run (setting .sqlite shop) (start []) ordered = some w ∧
    (Resolvable shop w ⟨1⟩ ↔ Referenced w.shared.ledger ⟨1⟩ ∨ Concludable ⟨1⟩ w) := by
  have finished : (run (setting .sqlite shop) (start []) ordered).isSome = true := by
    decide +kernel
  obtain ⟨w, ran⟩ := Option.isSome_iff_exists.mp finished
  have pending : ∃ row ∈ w.shared.ledger.payments.rows,
      row.id = .stored ⟨1⟩ ∧ row.status = .stored .pending := by
    have stored : (run (setting .sqlite shop) (start []) ordered).all (fun w =>
        w.shared.ledger.payments.rows.any fun row =>
          row.id == .stored ⟨1⟩ && row.status == .stored .pending) = true := by decide +kernel
    simpa [ran] using stored
  exact ⟨w, ran, resolvable_iff shop (.inl rfl) w ⟨[], ordered, ran⟩ ⟨1⟩ (.inl pending)⟩

theorem not_every_payment_resolvable : ¬ ∀ (app : App) (w : GwWorld),
    Reachable .sqlite app w → ∀ id, Unresolved w.shared.ledger id → Resolvable app w id := by
  intro claim
  have finished : (run (setting .sqlite shop) (start []) lost).isSome = true := by
    decide +kernel
  obtain ⟨w, ran⟩ := Option.isSome_iff_exists.mp finished
  have left : (∃ row ∈ w.shared.ledger.payments.rows,
      row.id = .stored ⟨1⟩ ∧ row.status = .stored .unknown) ∧
      (∀ row ∈ w.shared.ledger.payments.rows, row.providerReference = none) ∧
      ∀ t ∈ w.tasks, t.awaiting (concluding ⟨1⟩) = false := by
    have stored : (run (setting .sqlite shop) (start []) lost).all (fun w =>
        decide ((∃ row ∈ w.shared.ledger.payments.rows,
          row.id = .stored ⟨1⟩ ∧ row.status = .stored .unknown) ∧
          (∀ row ∈ w.shared.ledger.payments.rows, row.providerReference = none) ∧
          ∀ t ∈ w.tasks, t.awaiting (concluding ⟨1⟩) = false)) = true := by decide +kernel
    rw [ran] at stored
    exact of_decide_eq_true stored
  obtain ⟨unknown, unnamed, idle⟩ := left
  have unreferenced : ¬ Referenced w.shared.ledger ⟨1⟩ := by
    rintro ⟨row, mem, -, referenced⟩
    rw [unnamed row mem] at referenced
    cases referenced
  have unattended : ¬ Concludable ⟨1⟩ w := by
    rintro ⟨t, mem, waiting⟩
    rw [idle t mem] at waiting
    cases waiting
  have reachable : Reachable .sqlite shop w := ⟨[], lost, ran⟩
  have stuck := stuck_of_unattended (claims_of_reachable reachable) (.inr unknown) unreferenced
    unattended
  exact stuck.not_resolvable (claim shop w reachable ⟨1⟩ (.inr unknown))

end Main

end OpenWrapper.Recovery
