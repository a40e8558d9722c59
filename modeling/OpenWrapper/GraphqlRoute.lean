import OpenWrapper.ApiRequests

/-! # The GraphQL route

The route finds out who asks, has the document planned by the GraphQL library,
and has each root field resolved. The library parses and validates the
document, coerces the arguments and fills in the defaults of the schema; it is
a parameter, as is the session library. -/

set_option autoImplicit false

namespace OpenWrapper.GraphqlRoute
open OpenWrapper.Ids OpenWrapper.Payments OpenWrapper.Schema
open OpenWrapper.JsonValue OpenWrapper.JavaScript OpenWrapper.WebDatabase
open OpenWrapper.CallbackRoutes OpenWrapper.ApiRequests
open OpenWrapper.Suspended OpenWrapper.Suspended.Prog

section Context

structure SessionUser where
  id : String
  email : String
  name : String

structure GraphQLContext where
  userId : Option String
  userEmail : Option String
  userName : Option String

/-- The user id, if JavaScript takes it for true. -/
def GraphQLContext.user (context : GraphQLContext) : Option String := nonEmpty context.userId

end Context

section Fields

/-- The coerced arguments of `payments`: what was left out or is `null`, the
numbers only if `null`. -/
structure PaymentsArgs where
  status : Option String
  provider : Option String
  limit : Option ℤ
  offset : Option ℤ
deriving DecidableEq

/-- A root field of the operation. `buildSchema` attaches no resolvers to the
type of `viewer`: below it the library reads members of the object. -/
inductive RootField where
  | typename
  | health
  | viewer
  | payment (id : String)
  | payments (args : PaymentsArgs)
  | metrics
  | timeline (days : Option ℤ)
deriving DecidableEq

/-- What the route also runs on: the session library, the printer of dates, and
the plan of a document, which is an exception, a document that is not valid, or
the fields to resolve. -/
structure GraphqlHost extends ApiHost where
  getSession : List (String × String) → Throws (Option SessionUser)
  toISOString : Instant → String
  plan : (source : String) → (variableValues operationName : Value) →
    Except String (Option (List RootField))

inductive Method where
  | get (accept : String) (query : Option String)
  | post (body : Except String Json)

structure GraphqlRequest where
  headers : List (String × String)
  method : Method

end Fields

section Resolvers

def statusText : Text PaymentStatus → String
  | .stored status => status.display
  | .corrupt raw => raw

def providerText : Text ProviderId → String
  | .stored provider => provider.asStr
  | .corrupt raw => raw

/-- What the query of one field may meet. -/
structure Reading where
  clock : Instant
  visit : PaymentRow → ℕ
  fails : Bool

structure Viewer where
  id : String
  email : Option String
  name : Option String

/-- A payment as a resolver returns it. -/
structure PaymentNode where
  row : SharedRow
  createdAt : String
  updatedAt : String

structure Health where
  status : String
  timestamp : String
  version : String
  database : String
  gatewayGrpc : String

/-- What a resolver returned. Of a dashboard, whose it is. -/
inductive Resolved where
  | failed
  | typename
  | health (status : Health)
  | viewer (viewer : Option Viewer)
  | payment (node : Option PaymentNode)
  | payments (nodes : List PaymentNode)
  | metrics (of : String)
  | timeline (of : String) (monthly : Bool)

variable (host : GraphqlHost) (D : Database) (reading : Reading) (context : GraphQLContext)

def paymentNode (row : PaymentRow) : PaymentNode :=
  ⟨D.row row, host.toISOString row.createdAt, host.toISOString row.updatedAt⟩

/-- The condition on the owner, which is there only for a known user. -/
def owned (row : PaymentRow) : Bool :=
  match context.user with
  | some user => row.userId == some user
  | none => true

def visited : List PaymentRow :=
  D.ledger.payments.rows.insertionSort fun a b => reading.visit a ≤ reading.visit b

def health : Health where
  status := "ok"
  timestamp := host.toISOString reading.clock
  version := "0.2.7"
  database := "connected"
  gatewayGrpc :=
    match (host.variableOf "OPENWRAPPER_GATEWAY_GRPC_ADDR").orElse fun _ =>
      host.variableOf "GATEWAY_GRPC_URL" with
    | some _ => "configured"
    | none => "fallback_to_http"

def viewer : Option Viewer :=
  context.user.map fun user => ⟨user, context.userEmail, context.userName⟩

def payment (id : String) : Throws (Option PaymentNode) :=
  if reading.fails then none
  else some (((visited D reading).find? fun row => idText row.id == id && owned context row).map
    (paymentNode host D))

/-- The conditions on status and provider, each only if it is given. -/
def selected (args : PaymentsArgs) (row : PaymentRow) : Bool :=
  (nonEmpty args.status).all (statusText row.status == ·) &&
    (nonEmpty args.provider).all (providerText row.provider == ·)

/-- `Math.min(Math.max(1, limit), 100)`. -/
def safeLimit (limit : Option ℤ) : ℕ := (min (max 1 (limit.getD 0)) 100).toNat

def safeOffset (offset : Option ℤ) : ℕ := (max 0 (offset.getD 0)).toNat

def payments (args : PaymentsArgs) : Throws (List PaymentNode) :=
  if reading.fails then none
  else
    let rows := (visited D reading).filter fun row => owned context row && selected args row
    some ((((newestFirst .postgres rows).drop (safeOffset args.offset)).take
      (safeLimit args.limit)).map (paymentNode host D))

def effectiveUserId : String := context.user.getD "anonymous"

def resolve : RootField → Resolved
  | .typename => .typename
  | .health => .health (health host reading)
  | .viewer => .viewer (viewer context)
  | .payment id =>
    match payment host D reading context id with
    | some node => .payment node
    | none => .failed
  | .payments args =>
    match payments host D reading context args with
    | some nodes => .payments nodes
    | none => .failed
  | .metrics => .metrics (effectiveUserId context)
  | .timeline days => .timeline (effectiveUserId context) (days.any fun days => decide (7 < days))

/-- The payments that a resolver returned. -/
def Resolved.nodes : Resolved → List PaymentNode
  | .payment node => node.toList
  | .payments nodes => nodes
  | _ => []

end Resolvers

section Route

variable (host : GraphqlHost) (req : GraphqlRequest)

/-- The context of the session; an exception is as good as no session. -/
def sessionContext : GraphQLContext :=
  match host.getSession req.headers with
  | some (some user) => ⟨some user.id, some user.email, some user.name⟩
  | _ => ⟨none, none, none⟩

/-- Who asks: the user of the session, or else of the API key. -/
def contextOf : Web GraphQLContext :=
  let context := sessionContext host req
  match context.user with
  | some _ => pure context
  | none => do
    match ← authenticateApiRequest host.toApiHost ⟨"", req.headers, 0, ""⟩ with
    | .ok (some caller) => pure ⟨some caller.userId, none, none⟩
    | _ => pure context

inductive GraphqlAnswer where
  | crashed
  | page
  | error (status : ℕ) (message : String)
  | invalid
  | executed (results : List Resolved)

def GraphqlAnswer.nodes : GraphqlAnswer → List PaymentNode
  | executed results => results.flatMap Resolved.nodes
  | _ => []

def malformed (message : String) : GraphqlAnswer :=
  .error 400 ("Malformed GraphQL request body: " ++ message)

/-- `null` is passed on as nothing. -/
def present : Value → Value
  | some .null => none
  | v => v

/-- The document of a request with its variables and the operation's name, or
the answer to a request without one. -/
def documentOf : Method → Except GraphqlAnswer (String × Value × Value)
  | .get accept query =>
    if includes accept "text/html" then .error .page
    else
      match nonEmpty query with
      | some source => .ok (source, none, none)
      | none => .error (.error 400
          "Missing 'query' parameter. Navigate with browser to open GraphiQL IDE.")
  | .post (.error message) => .error (malformed message)
  | .post (.ok body) =>
    match member "query" (some body), member "variables" (some body),
      member "operationName" (some body) with
    | some (some (.str source)), some variableValues, some operationName =>
      if source = "" then
        .error (.error 400 "Field 'query' is required and must be a GraphQL query string.")
      else .ok (source, present variableValues, present operationName)
    | some _, _, _ =>
      .error (.error 400 "Field 'query' is required and must be a GraphQL query string.")
    | none, _, _ => .error (malformed "Cannot read properties of null (reading 'query')")

/-- An exception of the library is caught for a body only. -/
def thrown (message : String) : Method → GraphqlAnswer
  | .get _ _ => .crashed
  | .post _ => malformed message

/-- The fields that the library has resolved for the request. -/
def fieldsOf : List RootField :=
  match documentOf req.method with
  | .ok (source, variableValues, operationName) =>
    match host.plan source variableValues operationName with
    | .ok (some fields) => fields
    | _ => []
  | .error _ => []

/-- `executeGraphQL`, each field meeting a reading of its own. -/
def executeGraphQL (D : Database) (readings : ℕ → Reading) (context : GraphQLContext)
    (fields : List RootField) : GraphqlAnswer :=
  .executed (fields.zipIdx.map fun field => resolve host D (readings field.2) context field.1)

def answer (D : Database) (readings : ℕ → Reading) (context : GraphQLContext) : GraphqlAnswer :=
  match documentOf req.method with
  | .error refused => refused
  | .ok (source, variableValues, operationName) =>
    match host.plan source variableValues operationName with
    | .error message => thrown message req.method
    | .ok none => .invalid
    | .ok (some fields) => executeGraphQL host D readings context fields

end Route

end OpenWrapper.GraphqlRoute
