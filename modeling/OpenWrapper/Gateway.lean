import OpenWrapper.Background
import OpenWrapper.Router
import OpenWrapper.Interleaving

/-! # Runs of the gateway

The tasks are the requests, deliveries and background passes of any number of
replicas; they share one store and one message bus. A store call is one
effect. The environment chooses what the code does not: the draw of a store
call, what a provider answers, which message a consumer is handed. -/

set_option autoImplicit false

namespace OpenWrapper.Gateway
open OpenWrapper.Ids OpenWrapper.Errors OpenWrapper.Payments OpenWrapper.Schema
open OpenWrapper.PaymentStore OpenWrapper.Providers OpenWrapper.Headers
open OpenWrapper.Effects OpenWrapper.Suspended OpenWrapper.Interleaving

/-- A row of `api_keys`; both spellings of its columns exist. -/
structure ApiKeyRow where
  id : ℤ
  userId : Option String
  userIdCamel : Option String
  keyHash : Option String
  keyHashCamel : Option String
  environment : Option String
  revokedAt : Option String
  revokedAtCamel : Option String
deriving DecidableEq

/-- SQLite also takes an empty `revoked_at` as unrevoked. -/
def ApiKeyRow.unrevoked (b : Backend) (row : ApiKeyRow) : Bool :=
  row.revokedAtCamel.isNone &&
    match b with
    | .sqlite => row.revokedAt.isNone || row.revokedAt == some ""
    | .postgres => row.revokedAt.isNone

def ApiKeyRow.matchesHash (hash : String) (row : ApiKeyRow) : Bool :=
  row.keyHash == some hash || row.keyHashCamel == some hash

def ApiKeyRow.info (b : Backend) (row : ApiKeyRow) : ApiKeyInfo where
  id := row.id
  userId := match b with
    | .sqlite => row.userIdCamel.orElse fun _ => row.userId
    | .postgres => row.userId.orElse fun _ => row.userIdCamel
  environment := row.environment

structure Shared where
  ledger : Ledger
  apiKeys : List ApiKeyRow
  webhookQueue : List (Delivery WebhookQueueMessage)
  reconcileQueue : List (Delivery ReconcileQueueMessage)
  nextTag : ℕ

def Shared.start (apiKeys : List ApiKeyRow) : Shared := ⟨Ledger.empty, apiKeys, [], [], 0⟩

/-- What the environment decides about one effect. -/
inductive Choice where
  | draw (d : Draw)
  | lookup (failed : Bool) (pick : ℕ)
  | recorded (r : StoreResult Unit)
  | events (r : StoreResult (List EventRecord))
  | event (r : StoreResult (Option EventRecord))
  | endpoints (r : StoreResult (List WebhookEndpointRecord))
  | deleted (r : StoreResult Bool)
  | created (r : Except OpenWrapperError PaymentResult)
  | inquired (r : Except OpenWrapperError PaymentStatus)
  | refunded (r : Except OpenWrapperError RefundResult)
  | published (accepted : Bool)
  | received (index : ℕ)
  | acked
  | acquired (admitted : Bool)
  | clock (t : Instant)
  | generated (id : PaymentId)

def lookupApiKey (b : Backend) (rows : List ApiKeyRow) (hash : String) (failed : Bool)
    (pick : ℕ) : Option (StoreResult (Option ApiKeyInfo)) :=
  if failed then some (.error .internal)
  else
    let found := rows.filter fun row => row.matchesHash hash && row.unrevoked b
    if found.isEmpty then some (.ok none)
    else (found[pick]?).map fun row => .ok (some (row.info b))

/-- A message the bus took stays in its queue until it is acknowledged. -/
def Shared.publishWebhook (s : Shared) (m : WebhookQueueMessage) : Shared :=
  { s with webhookQueue := s.webhookQueue ++ [⟨s.nextTag, m⟩], nextTag := s.nextTag + 1 }

def Shared.publishReconcile (s : Shared) (m : ReconcileQueueMessage) : Shared :=
  { s with reconcileQueue := s.reconcileQueue ++ [⟨s.nextTag, m⟩], nextTag := s.nextTag + 1 }

def Shared.ackWebhook (s : Shared) (tag : ℕ) : Shared :=
  { s with webhookQueue := s.webhookQueue.filter fun d => d.tag != tag }

def Shared.ackReconcile (s : Shared) (tag : ℕ) : Shared :=
  { s with reconcileQueue := s.reconcileQueue.filter fun d => d.tag != tag }

def react (b : Backend) (app : App) (s : Shared) :
    (e : Effect) → Choice → Option (Shared × e.Response)
  | .store op, .draw d =>
    let (L, r) := execOp app.fingerprint b d s.ledger op
    some ({ s with ledger := L }, r)
  | .findApiKey hash, .lookup failed pick =>
    (lookupApiKey b s.apiKeys hash failed pick).map fun r => (s, r)
  | .recordEvent _, .recorded r => some (s, r)
  | .listEvents _ _ _, .events r => some (s, r)
  | .getEvent _, .event r => some (s, r)
  | .createWebhookEndpoint _, .recorded r => some (s, r)
  | .listWebhookEndpoints _, .endpoints r => some (s, r)
  | .deleteWebhookEndpoint _ _, .deleted r => some (s, r)
  | .createPayment _ _ _, .created r => some (s, r)
  | .inquireStatus _ _ _, .inquired r => some (s, r)
  | .refund _ _ _ _ _, .refunded r => some (s, r)
  | .publishWebhook m, .published true => some (s.publishWebhook m, .ok ())
  | .publishWebhook _, .published false => some (s, .error "publish failed")
  | .publishReconcile m, .published true => some (s.publishReconcile m, .ok ())
  | .publishReconcile _, .published false => some (s, .error "publish failed")
  | .receiveWebhook, .received i => (s.webhookQueue[i]?).map fun d => (s, d)
  | .receiveReconcile, .received i => (s.reconcileQueue[i]?).map fun d => (s, d)
  | .ackWebhook tag, .acked => some (s.ackWebhook tag, ())
  | .ackReconcile tag, .acked => some (s.ackReconcile tag, ())
  | .tryAcquire, .acquired admitted => some (s, admitted)
  | .now, .clock t => some (s, t)
  | .ulid, .generated id => some (s, id)
  | _, _ => none

/-- What starts a task. -/
inductive Origin where
  | http (headers : HeaderMap) (route : Router.Route)
  | grpc (call : Router.GrpcCall)
  | webhook (provider : String) (raw : RawWebhookRequest)
  | webhookConsumer
  | reconcileConsumer
  | reconciler

def body (app : App) : Origin → Gw Reply
  | .http headers route => Router.serveHttp app headers route
  | .grpc call => Router.serveGrpc app call
  | .webhook provider raw => Handlers.webhook app provider raw
  | .webhookConsumer => Background.consumeWebhook
  | .reconcileConsumer =>
    match app.messageBus with
    | some bus => Background.consumeReconciliation app bus
    | none => pure .finished
  | .reconciler => Background.runOnce app

abbrev GwTask := Task Effect.Response Origin Reply

abbrev GwWorld := World Effect.Response Origin Reply Shared

abbrev GwAction := Action Origin Choice

def setting (b : Backend) (app : App) : Setting Effect.Response Origin Reply Shared Choice where
  body := body app
  react := react b app

def start (apiKeys : List ApiKeyRow) : GwWorld := ⟨Shared.start apiKeys, []⟩

/-- The worlds the gateway can reach from an empty store. -/
def Reachable (b : Backend) (app : App) (w : GwWorld) : Prop :=
  ∃ apiKeys actions, run (setting b app) (start apiKeys) actions = some w

theorem Reachable.induction {b : Backend} {app : App} {I : GwWorld → Prop}
    (initial : ∀ apiKeys, I (start apiKeys))
    (preserved : ∀ w a w', I w → step (setting b app) w a = some w' → I w')
    {w : GwWorld} (reachable : Reachable b app w) : I w := by
  obtain ⟨apiKeys, actions, ran⟩ := reachable
  exact run_invariant' preserved (initial apiKeys) ran

section Shop

/-! A shop with one Stripe account and no API keys, and the first payment of
its first customer: created, then settled by a GET that inquires. -/

def quietDraw (fresh : ℕ) : Draw where
  clock := fun _ => ⟨0⟩
  fresh := ⟨fresh⟩
  visit := fun _ => 0
  fails := fun _ => false

def stripeAccount : Provider := .stripe ⟨"sk_live", none, StripeConfig.defaultBaseUrl, 300⟩

def shop : App where
  fingerprint := fun request => request.idempotencyKey.asStr ++ request.provider.asStr ++
    toString request.amount.minorUnits
  sha256Hex := fun s => s
  verifyAndParseWebhook := fun _ _ => .error .signatureInvalid
  env := fun _ => none
  providers := fun name => if name = "stripe" then some stripeAccount else none
  apiKeys := none
  messageBus := none

def orderBody (provider : String) : Handlers.CreatePaymentBody where
  provider := provider
  amountMinorUnits := 100
  currency := "USD"
  customer := ⟨"0100", none, none⟩
  merchantReference := none
  description := none
  returnUrl := none
  metadata := []

def orderHeaders : HeaderMap := ⟨[("idempotency-key", .text "order-1")]⟩

def order : Origin := .http orderHeaders (.createPayment (orderBody "stripe"))

def orderResult : PaymentResult where
  provider := ProviderId.stripe
  providerReference := "cs_1"
  status := .pending
  nextAction := none
  amount := .hundred .usd
  createdAt := ⟨0⟩

/-- The first task of the run creates payment 1. -/
def ordered : List GwAction :=
  [.spawn order, .advance 0 (.acquired true), .advance 0 (.draw (quietDraw 1)),
    .advance 0 (.created (.ok orderResult)), .advance 0 (.draw (quietDraw 0))]

/-- A GET, as the second task, finds that the payment succeeded. -/
def paid : List GwAction :=
  ordered ++ [.spawn (.http ⟨[]⟩ (.getPayment (.stored ⟨1⟩))), .advance 1 (.acquired true),
    .advance 1 (.draw (quietDraw 0)), .advance 1 (.inquired (.ok .succeeded)),
    .advance 1 (.draw (quietDraw 0)), .advance 1 (.draw (quietDraw 0))]

def refundRequest (amount : ℤ) : Origin :=
  .http ⟨[]⟩ (.createRefund (.stored ⟨1⟩) ⟨amount, none⟩)

/-- A refund request up to its call of the provider. -/
def refundAsked (i : ℕ) : List GwAction :=
  [.advance i (.acquired true), .advance i (.draw (quietDraw 0)),
    .advance i (.draw (quietDraw 0))]

def refundDone (id : String) (amount : ℤ) : Choice :=
  .refunded (.ok ⟨id, none, amount, .succeeded⟩)

/-- A refund request from the provider's answer to its record. -/
def refundBooked (i : ℕ) (id : String) (amount : ℤ) : List GwAction :=
  [.advance i (refundDone id amount), .advance i (.generated ⟨9⟩), .advance i (.clock ⟨0⟩),
    .advance i (.draw (quietDraw 0))]

end Shop

/-- A store call is answered by what its draw makes of the operation. -/
theorem react_draw {b : Backend} {app : App} {s s' : Shared} {op : StoreOp} {c : Choice}
    {r : op.Result} (reacted : react b app s (.store op) c = some (s', r)) :
    ∃ d, c = .draw d ∧ s'.ledger = (execOp app.fingerprint b d s.ledger op).1 ∧
      r = (execOp app.fingerprint b d s.ledger op).2 := by
  cases c with
  | draw d =>
    simp only [react, Option.some.injEq, Prod.mk.injEq] at reacted
    exact ⟨d, rfl, by rw [← reacted.1], reacted.2.symm⟩
  | _ => simp [react] at reacted

/-- Only a store call changes the ledger. -/
theorem react_store {b : Backend} {app : App} {s s' : Shared} {op : StoreOp} {c : Choice}
    {r : op.Result} (reacted : react b app s (.store op) c = some (s', r)) :
    ∃ d, s'.ledger = (execOp app.fingerprint b d s.ledger op).1 ∧
      r = (execOp app.fingerprint b d s.ledger op).2 := by
  obtain ⟨d, -, result⟩ := react_draw reacted
  exact ⟨d, result⟩

theorem react_other {b : Backend} {app : App} {s s' : Shared} {e : Effect} {c : Choice}
    {r : e.Response} (reacted : react b app s e c = some (s', r))
    (other : ∀ op, e ≠ .store op) : s'.ledger = s.ledger := by
  unfold react at reacted
  split at reacted
  case h_1 op d => exact absurd rfl (other op)
  all_goals
    first
    | (simp only [Option.some.injEq, Prod.mk.injEq] at reacted; rw [← reacted.1])
    | (simp only [Option.map_eq_some_iff, Prod.mk.injEq] at reacted
       obtain ⟨_, _, same, _⟩ := reacted
       rw [← same])
    | cases reacted
  all_goals rfl

/-- What a reaction does to the queues. -/
theorem react_queues {b : Backend} {app : App} {s s' : Shared} {e : Effect} {c : Choice}
    {r : e.Response} (reacted : react b app s e c = some (s', r)) :
    (∃ m, e = .publishWebhook m ∧ s' = s.publishWebhook m) ∨
    (∃ m, e = .publishReconcile m ∧ s' = s.publishReconcile m) ∨
    (∃ tag, e = .ackWebhook tag ∧ s' = s.ackWebhook tag) ∨
    (∃ tag, e = .ackReconcile tag ∧ s' = s.ackReconcile tag) ∨
    s' = { s with ledger := s'.ledger } := by
  unfold react at reacted
  split at reacted
  all_goals
    first
    | (simp only [Option.some.injEq, Prod.mk.injEq] at reacted; obtain ⟨rfl, -⟩ := reacted)
    | (simp only [Option.map_eq_some_iff, Prod.mk.injEq] at reacted
       obtain ⟨_, _, rfl, _⟩ := reacted)
    | cases reacted
  all_goals
    first
    | exact .inr (.inr (.inr (.inr rfl)))
    | exact .inl ⟨_, rfl, rfl⟩
    | exact .inr (.inl ⟨_, rfl, rfl⟩)
    | exact .inr (.inr (.inl ⟨_, rfl, rfl⟩))
    | exact .inr (.inr (.inr (.inl ⟨_, rfl, rfl⟩)))

end OpenWrapper.Gateway
