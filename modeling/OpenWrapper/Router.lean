import OpenWrapper.Grpc

/-! # Authentication and routing

Every `/v1` route but the webhooks sits behind `requireApiKey` and the rate
limiter, in this order; the gRPC service has no such layer. -/

set_option autoImplicit false

namespace OpenWrapper.Router
open OpenWrapper.Ids OpenWrapper.PaymentStore OpenWrapper.Headers OpenWrapper.Providers
open OpenWrapper.Effects OpenWrapper.Suspended

/-- The keys of `OPENWRAPPER_API_KEYS`. -/
def configuredKeys (raw : String) : List String :=
  ((raw.toList.splitOn ',').map fun part => trim (String.ofList part)).filter
    fun key => !key.toList.isEmpty

/-- The keys the process starts with; without any it exits, unless it may run
open or generates one. -/
def resolveApiKeys (raw : Option String) (disableAuth : Bool) (bootstrap : Option String) :
    Option (Option (List String)) :=
  match (raw.map configuredKeys).filter fun keys => !keys.isEmpty with
  | some keys => some (some keys)
  | none => if disableAuth then some none else bootstrap.map fun key => some [key]

theorem trim_of_mem_configuredKeys {raw key : String} (mem : key ∈ configuredKeys raw) :
    trim key = key := by
  obtain ⟨part, -, rfl⟩ := List.mem_map.mp (List.mem_filter.mp mem).1
  exact trim_trim _

theorem resolveApiKeys_trimmed {raw bootstrap : Option String} {disableAuth : Bool}
    {keys : List String} (generated : ∀ key ∈ bootstrap, trim key = key)
    (resolved : resolveApiKeys raw disableAuth bootstrap = some (some keys)) :
    keys ≠ [] ∧ ∀ key ∈ keys, trim key = key := by
  unfold resolveApiKeys at resolved
  split at resolved
  next found configured =>
    cases resolved
    obtain ⟨read, nonempty⟩ := Option.filter_eq_some_iff.mp configured
    obtain ⟨text, -, rfl⟩ := Option.map_eq_some_iff.mp read
    exact ⟨by simpa using nonempty, fun key mem => trim_of_mem_configuredKeys mem⟩
  · split at resolved
    · cases resolved
    · obtain ⟨key, made, is⟩ := Option.map_eq_some_iff.mp resolved
      cases is
      refine ⟨by simp, fun key' mem => ?_⟩
      rw [List.mem_singleton.mp mem]
      exact generated key made

def apiKeyHeader : String := "x-api-key"

def unauthorized : Reply :=
  .http 401 (.error "authorization_error"
    "missing or invalid API key: provide X-API-Key or Authorization: Bearer <key>")

/-- The internal headers a client may not set. -/
def stripUntrusted (h : HeaderMap) : HeaderMap :=
  ((h.remove "x-openwrapper-user-id").remove "x-openwrapper-api-key-id").remove
    "x-openwrapper-environment"

/-- `X-API-Key`, else `Authorization`; a `Bearer ` scheme is dropped. -/
def providedKey (h : HeaderMap) : Option String :=
  (((h.get apiKeyHeader).orElse fun _ => h.get "authorization").bind
    HeaderValue.toStr).map fun v => trim ((stripPrefix "Bearer " v).getD v)

def environmentOf (provided : String) : String :=
  if startsWith provided "ow_test_" || provided == "ow_test_sandbox_demo" ||
      provided == "ow_demo_sandbox_key" then "test"
  else "live"

def insertStr (h : HeaderMap) (name value : String) : HeaderMap :=
  match HeaderValue.fromStr value with
  | some v => h.insert name v
  | none => h

/-- Keys are compared by their digests. -/
def constantTimeEq (sha256Hex : String → String) (a b : String) : Bool :=
  sha256Hex a == sha256Hex b

def withApiKey (h : HeaderMap) (key : ApiKeyInfo) : HeaderMap :=
  let h := match key.userId with
    | some userId => insertStr h "x-openwrapper-user-id" userId
    | none => h
  insertStr h "x-openwrapper-api-key-id" (toString key.id)

def requireApiKey (app : App) (headers : HeaderMap) (next : HeaderMap → Gw Reply) :
    Gw Reply :=
  let h := stripUntrusted headers
  match providedKey h with
  | none => if app.apiKeys.isNone then next h else pure unauthorized
  | some provided =>
    let h := insertStr h "x-openwrapper-environment" (environmentOf provided)
    if (app.apiKeys.getD []).any fun key => constantTimeEq app.sha256Hex key provided then
      next h
    else do
      match ← Gw.findApiKey (app.sha256Hex provided) with
      | .ok (some key) => next (withApiKey h key)
      | .ok none => pure unauthorized
      | .error _ => pure (.http 500 (.text "internal error"))

/-- The rate limiter's layer. -/
def enforce (next : Gw Reply) : Gw Reply := do
  if ← Gw.tryAcquire then next
  else pure (.http 429 (.error "rate_limit" "too many requests, slow down"))

inductive Route where
  | createPayment (body : Handlers.CreatePaymentBody)
  | getPayment (id : Text PaymentId)
  | createRefund (id : Text PaymentId) (body : Handlers.CreateRefundBody)
  | listRefunds (id : Text PaymentId)
  | listEvents (query : Handlers.ListEventsQuery)
  | getEvent (id : String)
  | createWebhookEndpoint (body : Handlers.CreateWebhookEndpointBody)
  | listWebhookEndpoints
  | deleteWebhookEndpoint (id : String)
deriving DecidableEq

def handle (app : App) (h : HeaderMap) : Route → Gw Reply
  | .createPayment body => Handlers.createPayment app h body
  | .getPayment id => Handlers.getPayment app h id
  | .createRefund id body => Handlers.createRefund app h id body
  | .listRefunds id => Handlers.listRefunds id
  | .listEvents query => Handlers.listEvents h query
  | .getEvent id => Handlers.getEvent h id
  | .createWebhookEndpoint body => Handlers.createWebhookEndpoint h body
  | .listWebhookEndpoints => Handlers.listWebhookEndpoints h
  | .deleteWebhookEndpoint id => Handlers.deleteWebhookEndpoint h id

/-- A request to an authenticated route of the HTTP server. -/
def serveHttp (app : App) (headers : HeaderMap) (route : Route) : Gw Reply :=
  requireApiKey app headers fun h => enforce (handle app h route)

inductive GrpcCall where
  | createPayment (request : Grpc.CreatePaymentRequest)
  | getPayment (id : Text PaymentId)
  | streamPaymentEvents (filter : Option (Text PaymentId))
deriving DecidableEq

/-- A call of the gRPC server; its metadata reaches no handler. -/
def serveGrpc (app : App) : GrpcCall → Gw Reply
  | .createPayment request => Grpc.createPayment app request
  | .getPayment id => Grpc.getPayment id
  | .streamPaymentEvents filter => Grpc.streamPaymentEvents filter

end OpenWrapper.Router
