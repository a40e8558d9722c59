import OpenWrapper.SharedCreation
import OpenWrapper.LiveCreations

/-! # One payment on two paths

A creation reaches the gateway directly, or through the web application, which
adds its own columns to the row that the gateway made. Both paths know a
repetition by its idempotency key and compare a fingerprint with the row's:
the gateway that of the request it validated, the web application that of the
payload it forwards. -/

set_option autoImplicit false

namespace OpenWrapper.CrossPaths
open OpenWrapper.Ids OpenWrapper.Errors OpenWrapper.Amounts OpenWrapper.Payments
open OpenWrapper.Schema OpenWrapper.ConstraintTable OpenWrapper.PaymentStore OpenWrapper.Effects
open OpenWrapper.Headers OpenWrapper.Providers OpenWrapper.Stateless OpenWrapper.Handlers
open OpenWrapper.JsonValue OpenWrapper.JavaScript OpenWrapper.WebDatabase
open OpenWrapper.CallbackRoutes OpenWrapper.ApiRequests OpenWrapper.PaymentRoutes
open OpenWrapper.SubmissionPaths OpenWrapper.ReadableRows OpenWrapper.LiveCreations
open OpenWrapper.SharedCreation
open OpenWrapper.Suspended OpenWrapper.Suspended.Prog

section Fingerprints

/-- `canonicalize_json` of the request that the gateway validated. -/
def requestDocument (request : PaymentRequest) : Json :=
  .obj [("amount", .obj [("currency", .str request.amount.currency.code),
      ("minor_units", .num (toString request.amount.minorUnits))]),
    ("customer", .obj [("email", nullable request.customer.email),
      ("full_name", nullable request.customer.fullName), ("phone", .str request.customer.phone)]),
    ("description", nullable request.description),
    ("idempotency_key", .str request.idempotencyKey.asStr),
    ("merchant_reference", nullable request.merchantReference),
    ("metadata", .obj (metadataMembers
      (request.metadata.insertionSort fun a b => a.1 ≤ b.1))),
    ("provider", .str request.provider.asStr),
    ("return_url", nullable request.returnUrl)]

/-- `RequestFingerprint::of`. -/
def requestFingerprint (host : ApiHost) (request : PaymentRequest) : String :=
  host.sha256Hex (host.printJson (requestDocument request))

/-- No request is fingerprinted as any payload is. -/
theorem documents_differ (request : PaymentRequest) (payload : GatewayRequest) :
    requestDocument request ≠ canonicalDocument payload := by
  intro same
  simp [requestDocument, canonicalDocument] at same

/-- Where the hash tells documents apart, a row that one path made never
carries the fingerprint of the other. -/
theorem fingerprints_differ {host : ApiHost} (separates : ∀ a b,
    host.sha256Hex (host.printJson a) = host.sha256Hex (host.printJson b) → a = b)
    (request : PaymentRequest) (payload : GatewayRequest) :
    requestFingerprint host request ≠ computeFingerprint host payload :=
  fun same => documents_differ request payload (separates _ _ same)

end Fingerprints

section Submissions

/-- The shared tables, and how often a provider was called. -/
structure Shared where
  tables : Database
  providerCalls : ℕ

/-- What the client of the gateway receives. -/
def answerOf : Reply → GatewayAnswer
  | .http _ (.payment view) => .ok view
  | .http status (.error code message) => .error status (some message) (some code)
  | _ => .lost ""

/-- The gateway handles a creation. -/
def Shared.submit (s : Shared) (app : App) (c : Handling) (headers : HeaderMap)
    (body : CreatePaymentBody) : Shared × GatewayAnswer :=
  match handle app c 0 s.tables.ledger (Handlers.createPayment app headers body) with
  | some (ledger, calls, reply) =>
    (⟨{ s.tables with ledger }, s.providerCalls + calls⟩, answerOf reply)
  | none => (s, .lost "")

/-- The body that the web application forwards. -/
def bodyOf (payload : GatewayRequest) : CreatePaymentBody where
  provider := payload.provider
  amountMinorUnits := payload.amountMinorUnits
  currency := payload.currency
  customer := ⟨payload.phone, payload.email, payload.fullName⟩
  merchantReference := payload.merchantReference
  description := some payload.description
  returnUrl := payload.returnUrl
  metadata := payload.metadata

def forwardedHeaders (headers : HeaderMap) (idempotencyKey : String) : HeaderMap :=
  headers.insert "idempotency-key" (.text idempotencyKey)

/-- A request at the web application: who sends it, the headers that go on to
the gateway, what its effects meet, whether the gateway's answer arrives, and
after how many effects the web application fails. -/
structure WebSubmission where
  request : ApiRequest
  caller : Caller
  headers : HeaderMap
  draw : ℕ → WebDraw
  handling : Handling
  arrives : Bool
  budget : ℕ

inductive Submission where
  | web (w : WebSubmission)
  | direct (headers : HeaderMap) (body : CreatePaymentBody) (handling : Handling)

inductive Answered where
  | web (answer : Answer)
  | direct (answer : GatewayAnswer)

/-- The id of the payment that is answered. -/
def Answered.shows : Answered → Option (Text PaymentId)
  | web ⟨_, .payment view⟩ => some view.paymentId
  | direct (.ok view) => some (.stored view.paymentId)
  | _ => none

variable (app : App) (host : ApiHost)

/-- What an effect of the web application meets: a forwarded request is
handled by the gateway on the same tables. -/
def WebSubmission.react (w : WebSubmission) (n : ℕ) (s : Shared) :
    (e : WebEffect) → Shared × e.Response
  | .forward payload idempotencyKey =>
    let done := s.submit app w.handling (forwardedHeaders w.headers idempotencyKey) (bodyOf payload)
    (done.1, if w.arrives then done.2 else .lost "")
  | e => ({ s with tables := (respond (w.draw n) s.tables e).1 }, (respond (w.draw n) s.tables e).2)

def Submission.run (s : Shared) : Submission → Shared × Option Answered
  | .web w =>
    let done := halted (w.react app) 0 w.budget s (postAs host w.request w.caller)
    (done.1, done.2.map .web)
  | .direct headers body handling =>
    let done := s.submit app handling headers body
    (done.1, some (.direct done.2))

structure Step where
  before : Shared
  submission : Submission
  after : Shared
  answered : Option Answered

/-- One submission after the other. -/
def steps : Shared → List Submission → List Step
  | _, [] => []
  | s, submission :: rest =>
    let done := submission.run app host s
    ⟨s, submission, done.1, done.2⟩ :: steps done.1 rest

end Submissions

section Contract

/-- The provider is called once before anything is answered, and from then on
every answer is the payment. -/
def SamePayment (steps : List Step) : Prop :=
  ∃ p : PaymentId, ∀ step ∈ steps, step.after.providerCalls ≤ 1 ∧
    ∀ answer, step.answered = some answer → step.after.providerCalls = 1 ∧
      (answer.shows = some (.stored p) ∨ step.before.providerCalls = 0 ∧ answer.shows = none)

variable (app : App) (host : ApiHost) (order : Order) (request : PaymentRequest)

/-- The request, submitted with its key: it is accepted, its provider is
known, no statement fails, and a new payment gets a new id. -/
def Submits (s : Shared) : Submission → Prop
  | .web w =>
    accept host w.request = .ok order ∧
    missingCredentials host w.request w.caller order = some none ∧
    getGatewayUrl host ≠ none ∧ (∀ n, (w.draw n).fails = false) ∧
    Servable app (forwardedHeaders w.headers order.idempotencyKey) (bodyOf order.payload) request ∧
    w.handling.Executed ∧
    ∀ row ∈ s.tables.ledger.payments.rows, row.id ≠ .stored (w.handling.draw 0).fresh
  | .direct headers body handling =>
    Servable app headers body request ∧ handling.Executed ∧
    ∀ row ∈ s.tables.ledger.payments.rows, row.id ≠ .stored (handling.draw 0).fresh

/-- The web application goes on with the gateway's answer, whatever status it
has: an empty unknown one it gives up for Paymob and Fawry. -/
def TakesAnswer (order : Order) (blank : Prop) : Prop :=
  order.provider = .paymob ∨ order.provider = .fawry → ¬ blank

/-- The row of the key, if there is one, carries the fingerprint that this path
compares it with, and the gateway's answer is one the web application takes. -/
def Agrees (s : Shared) : Submission → Prop
  | .web w => w.arrives = true ∧
    ((∀ row ∈ s.tables.ledger.payments.rows,
        keyText row.idempotencyKey ≠ request.idempotencyKey.asStr) →
      isTestMode w.request w.caller = true → TakesAnswer order (w.handling.conclusive = false)) ∧
    ∀ row ∈ s.tables.ledger.payments.rows,
      keyText row.idempotencyKey = request.idempotencyKey.asStr →
      if row.environment = environmentOf w.request w.caller then
        row.requestFingerprint = computeFingerprint host order.payload ∧
        (row.userId.any fun owner => owner != "" && owner != w.caller.userId) = false
      else row.requestFingerprint = app.fingerprint request ∧ TakesAnswer order (Blank row)
  | .direct _ _ _ => ∀ row ∈ s.tables.ledger.payments.rows,
      keyText row.idempotencyKey = request.idempotencyKey.asStr →
        row.requestFingerprint = app.fingerprint request

end Contract

section Phases

/-- Nothing has reached the provider yet. -/
def Untouched (key : IdempotencyKey) (s : Shared) : Prop :=
  s.providerCalls = 0 ∧ Vacant key s.tables.ledger

/-- The payment has the key, and the provider was called for it. -/
def Kept (key : IdempotencyKey) (p : PaymentId) (s : Shared) : Prop :=
  s.providerCalls = 1 ∧ ∃ row, Holds key p s.tables.ledger row

variable {app : App} {host : ApiHost} {order : Order} {request : PaymentRequest}
variable {key : IdempotencyKey} {p : PaymentId} {row : PaymentRow} {s : Shared} {c : Handling}
variable {headers : HeaderMap} {body : CreatePaymentBody}

theorem submit_untouched (untouched : Untouched request.idempotencyKey s) (executed : c.Executed)
    (servable : Servable app headers body request)
    (fresh : ∀ row ∈ s.tables.ledger.payments.rows, row.id ≠ .stored (c.draw 0).fresh) :
    ∃ s' reply, s.submit app c headers body = (s', answerOf reply) ∧
      Kept request.idempotencyKey (c.draw 0).fresh s' ∧ Replies c (c.draw 0).fresh reply := by
  obtain ⟨L', reply, row', handled, holds, -, replies⟩ :=
    handle_vacant untouched.2 executed servable rfl fresh
  refine ⟨⟨{ s.tables with ledger := L' }, s.providerCalls + 1⟩, reply, ?_, ⟨?_, row', holds⟩,
    replies⟩
  · simp only [Shared.submit, handled]
  · show s.providerCalls + 1 = 1
    rw [untouched.1]

theorem submit_kept (holds : Holds request.idempotencyKey p s.tables.ledger row)
    (executed : c.Executed) (servable : Servable app headers body request)
    (same : row.requestFingerprint = app.fingerprint request) :
    ∃ view, s.submit app c headers body = (s, .ok view) ∧ view.paymentId = p ∧
      (isEmptyUnknown view = true → Blank row) := by
  obtain ⟨view, is, blank, handled⟩ := handle_existing holds executed servable rfl same
  refine ⟨view, ?_, is, blank⟩
  simp only [Shared.submit, handled]
  rfl

/-- A row with the id is assigned to, and keeps its key. -/
theorem upsert_holds {D : Database} {input : PersistInput} (now : Instant)
    (holds : Holds key p D.ledger row) (under : input.id = .stored p)
    (status : ∃ status, input.status = .stored status) :
    ∃ D' found, D.upsert input now = .ok (D', found) ∧ found.payment.id = .stored p ∧
      ∃ row', Holds key p D'.ledger row' := by
  obtain ⟨t, assigned⟩ := status
  have found : (D.ledger.payments.rows.find? fun other => other.id == input.id) = some row := by
    rw [under]
    exact holds.find_id
  cases stored : D.upsert input now with
  | error e => simp [Database.upsert, found] at stored
  | ok result =>
    obtain ⟨D', answer⟩ := result
    rcases Database.upsert_cases stored with ⟨row', mem, is, shown, rows⟩ | ⟨apart, -, -⟩
    · refine ⟨D', answer, rfl, ?_, _, holds.map rows (fun _ => rfl) (fun _ => rfl) fun _ => ?_⟩
      · rw [shown]
        exact is.trans under
      · obtain ⟨⟨id, keyed, provider, -⟩, amount⟩ := toPayment_isSome_iff.mp holds.readable
        refine toPayment_isSome_iff.mpr ⟨⟨id, keyed, provider, t, ?_⟩, amount⟩
        exact assigned
    · exact absurd (.inl (holds.id.trans under.symm)) (apart row holds.mem)

variable {w : WebSubmission}

/-- What the web application keeps of a payment that has a row. -/
theorem persisted {input : PersistInput} (executed : ∀ n, (w.draw n).fails = false)
    (calls : s.providerCalls = 1) (holds : Holds key p s.tables.ledger row)
    (under : input.id = .stored p) (status : ∃ status, input.status = .stored status) (n : ℕ) :
    Stops (w.react app) (Until (Kept key p) fun s done => Kept key p s ∧
      ∃ found, done = .ok found ∧ found.payment.id = .stored p) n s
      (persistPaymentRecord input) := by
  have kept : Kept key p s := ⟨calls, row, holds⟩
  obtain ⟨D', found, stored, shown, row', holds'⟩ :=
    upsert_holds (w.draw n).clock holds under status
  have met : w.react app (n + 1) s (.upsert input (w.draw n).clock) =
      ({ s with tables := D' }, .ok found) := by
    simp only [WebSubmission.react, respond, executed, stored, Bool.false_eq_true, if_false]
  have clock : w.react app n s .now = (s, (w.draw n).clock) := rfl
  simp only [persistPaymentRecord, Web.now, Web.upsert, perform_bind]
  rw [stops_call, clock]
  refine ⟨kept, ?_⟩
  rw [stops_call, met]
  refine ⟨kept, ?_⟩
  show Stops (w.react app) _ _ { s with tables := D' } (done (Except.ok found))
  rw [stops_done]
  exact ⟨⟨calls, row', holds'⟩, found, rfl, shown⟩

end Phases

section Routing

variable {order : Order} {isTest : Bool} {view : PaymentView}

theorem routing_handled (taken : order.provider = .paymob ∨ order.provider = .fawry →
    isEmptyUnknown view = false) :
    routing order isTest (.ok view) = .handled (Created.ofView view) := by
  cases is : order.provider with
  | paymob =>
    have full := taken (.inl is)
    simp only [routing, is, routedUnlessEmpty, full, Bool.false_eq_true, if_false]
  | fawry =>
    have full := taken (.inr is)
    simp only [routing, is, routedUnlessEmpty, full, Bool.false_eq_true, if_false]
  | stripe => simp only [routing, is, routed]
  | mock => simp only [routing, is, routed]

/-- A live payment is handled, or refused. -/
theorem routing_live : routing order false (.ok view) = .handled (Created.ofView view) ∨
    ∃ answer, routing order false (.ok view) = .refused answer := by
  by_cases taken : isEmptyUnknown view = false
  · exact .inl (routing_handled fun _ => taken)
  · have empty : isEmptyUnknown view = true := by simpa using taken
    cases is : order.provider with
    | paymob =>
      right
      simp only [routing, is, routedUnlessEmpty, empty, if_true, Bool.false_eq_true, if_false]
      exact ⟨_, rfl⟩
    | fawry =>
      right
      simp only [routing, is, routedUnlessEmpty, empty, if_true, Bool.false_eq_true, if_false]
      exact ⟨_, rfl⟩
    | stripe =>
      left
      simp only [routing, is, routed]
    | mock =>
      left
      simp only [routing, is, routed]

theorem routing_error {status : ℕ} {message : String} {code : Option String}
    (answered : isUnanswered code = false) :
    ∃ answer, routing order isTest (.error status message code) = .refused answer := by
  cases is : order.provider <;>
    simp only [routing, is, routedUnlessEmpty, routed, answered, Bool.false_eq_true, if_false] <;>
    exact ⟨_, rfl⟩

/-- The gateway's own errors are answers. -/
theorem routing_apiError (order : Order) (isTest : Bool) (e : OpenWrapperError) :
    ∃ answer, routing order isTest (createdResult (answerOf (Handlers.apiError e))) =
      .refused answer := by
  have answered (status : ℕ) (code message : String) (named : code ≠ "")
      (reached : isUnanswered (some code) = false) : ∃ answer, routing order isTest
        (createdResult (.error status (some message) (some code))) = .refused answer := by
    have kept : nonEmpty (some code) = some code := by simp [nonEmpty, named]
    simp only [createdResult, parseGatewayError, kept]
    split
    · exact routing_error rfl
    · exact routing_error reached
  unfold Handlers.apiError
  split
  · exact answered _ _ _ (by decide) (by decide)
  · apply answered
    · cases e <;> simp [OpenWrapperError.code]
    · cases e <;> simp [OpenWrapperError.code, isUnanswered]

end Routing

section Lookups

variable {app : App} {key : IdempotencyKey} {p : PaymentId} {row : PaymentRow} {s : Shared}
variable {w : WebSubmission} {userId environment : String} {D : Database}

theorem selectOne_none {visit : PaymentRow → ℕ} {test : PaymentRow → Bool}
    (missed : ∀ row ∈ D.ledger.payments.rows, test row = false) : D.selectOne visit test = none := by
  simp only [Database.selectOne, Option.map_eq_none_iff, List.find?_eq_none]
  intro row mem
  simpa using missed row ((List.mem_insertionSort _).mp mem)

/-- The row with the key is found by every test that passes it only. -/
theorem selectOne_sole {visit : PaymentRow → ℕ} {test : PaymentRow → Bool}
    (holds : Holds key p D.ledger row) (passes : test row = true)
    (keyed : ∀ row, test row = true → keyText row.idempotencyKey = key.asStr) :
    D.selectOne visit test = some (D.row row) := by
  have found : ((D.ledger.payments.rows.insertionSort fun a b => visit a ≤ visit b).find? test) =
      some row := by
    cases search : (D.ledger.payments.rows.insertionSort fun a b => visit a ≤ visit b).find? test with
    | none =>
      have missed := List.find?_eq_none.mp search row ((List.mem_insertionSort _).mpr holds.mem)
      exact absurd passes missed
    | some other =>
      have mem := (List.mem_insertionSort _).mp (List.mem_of_find?_eq_some search)
      rw [holds.sole other mem (keyed other (List.find?_some search))]
  simp only [Database.selectOne, found, Option.map_some]

theorem ownKey_keyed {row : PaymentRow} (passes : ownKey userId key.asStr environment row = true) :
    keyText row.idempotencyKey = key.asStr := by
  simp only [ownKey, Bool.and_eq_true, beq_iff_eq] at passes
  exact passes.1.2

theorem anyKey_keyed {row : PaymentRow} (passes : anyKey key.asStr environment row = true) :
    keyText row.idempotencyKey = key.asStr := by
  simp only [anyKey, Bool.and_eq_true, beq_iff_eq] at passes
  exact passes.1

/-- The lookup changes nothing, and finds this. -/
abbrev Finds (s : Shared) (answer : IdempotencyLookup) :
    Shared → Option (Except SqlError IdempotencyLookup) → Prop :=
  Until (· = s) fun s' found => s' = s ∧ found = .ok answer

theorem react_select (executed : ∀ n, (w.draw n).fails = false) (test : PaymentRow → Bool) (n : ℕ) :
    w.react app n s (.select test) = (s, .ok (s.tables.selectOne (w.draw n).visit test)) := by
  simp only [WebSubmission.react, respond, executed, Bool.false_eq_true, if_false]

theorem finds_absent (executed : ∀ n, (w.draw n).fails = false)
    (absent : ∀ row ∈ s.tables.ledger.payments.rows, anyKey key.asStr environment row = false)
    (n : ℕ) : Stops (w.react app) (Finds s .absent) n s
      (findIdempotentPayment userId key.asStr environment) := by
  have own : ∀ row ∈ s.tables.ledger.payments.rows, ownKey userId key.asStr environment row = false := by
    intro row mem
    have other := absent row mem
    simp only [anyKey, Bool.and_eq_false_iff] at other
    simp only [ownKey, Bool.and_eq_false_iff]
    rcases other with keyed | within
    · exact .inl (.inr keyed)
    · exact .inr within
  simp only [findIdempotentPayment, Web.select, perform_bind]
  rw [stops_call, react_select executed, selectOne_none own]
  refine ⟨rfl, ?_⟩
  show Stops (w.react app) (Finds s .absent) (n + 1) s (call (.select _) _)
  rw [stops_call, react_select executed, selectOne_none absent]
  refine ⟨rfl, ?_⟩
  show Stops (w.react app) (Finds s .absent) _ s (done _)
  rw [stops_done]
  exact ⟨rfl, rfl⟩

theorem finds_row (executed : ∀ n, (w.draw n).fails = false)
    (holds : Holds key p s.tables.ledger row) (within : row.environment = environment)
    (owned : (row.userId.any fun owner => owner != "" && owner != userId) = false) (n : ℕ) :
    Stops (w.react app) (Finds s (.row (s.tables.row row))) n s
      (findIdempotentPayment userId key.asStr environment) := by
  have keyed : keyText row.idempotencyKey = key.asStr := by
    rw [holds.keyed]
    rfl
  have any : anyKey key.asStr environment row = true := by simp [anyKey, keyed, within]
  simp only [findIdempotentPayment, Web.select, perform_bind]
  rw [stops_call, react_select executed]
  refine ⟨rfl, ?_⟩
  by_cases own : ownKey userId key.asStr environment row = true
  · rw [selectOne_sole holds own fun _ => ownKey_keyed]
    show Stops (w.react app) _ _ s (done _)
    rw [stops_done]
    exact ⟨rfl, rfl⟩
  · have missed : ∀ other ∈ s.tables.ledger.payments.rows,
        ownKey userId key.asStr environment other = false := by
      intro other mem
      by_contra passes
      have passes : ownKey userId key.asStr environment other = true := by simpa using passes
      rw [holds.sole other mem (ownKey_keyed passes)] at passes
      exact own passes
    rw [selectOne_none missed]
    show Stops (w.react app) (Finds s _) (n + 1) s (call (.select _) _)
    rw [stops_call, react_select executed, selectOne_sole holds any fun _ => anyKey_keyed]
    refine ⟨rfl, ?_⟩
    have own_or_none : ((s.tables.row row).payment.userId.any
        fun owner => owner != "" && owner != userId) = false := owned
    simp only [own_or_none]
    show Stops (w.react app) (Finds s _) _ s (done _)
    rw [stops_done]
    exact ⟨rfl, rfl⟩

end Lookups

section Paths

variable {app : App} {host : ApiHost} {order : Order} {request : PaymentRequest}
variable {key : IdempotencyKey} {p : PaymentId} {row : PaymentRow} {s : Shared}
variable {w : WebSubmission} {isTest : Bool} {paymentId : String} {req : ApiRequest}

/-- Where a gateway is configured, a creation calls it first. -/
theorem create_forward (configured : getGatewayUrl host ≠ none) :
    create host order isTest paymentId req =
      call (.forward order.payload order.idempotencyKey) fun answer =>
        match routing order isTest (createdResult answer) with
        | .handled created => pure (.ok created)
        | .refused answer => pure (.error answer)
        | .unanswered => carryOn host order isTest paymentId req := by
  rw [create_eq, forwardPaymentToRustGateway]
  cases is : getGatewayUrl host with
  | none => exact absurd is configured
  | some url => rfl

/-- What a submission leaves where it stops: `T` when it is cut short, and the
payment when it is answered, unless it may be refused. -/
def Outcome (key : IdempotencyKey) (p : PaymentId) (T : Shared → Prop) (refusable : Prop)
    (s : Shared) : Option Answered → Prop
  | none => T s
  | some answer => Kept key p s ∧
      (answer.shows = some (.stored p) ∨ refusable ∧ answer.shows = none)

/-- The creation is of this payment, or refused. -/
def Names (p : PaymentId) (refusable : Prop) : Except Answer Created → Prop
  | .ok created => created.id = .stored p
  | .error answer => refusable ∧ ∃ status code message, answer = apiError status code message

/-- The gateway's answer is routed so. -/
def Routes (order : Order) (isTest : Bool) (answer : GatewayAnswer) : Except Answer Created → Prop
  | .ok created => routing order isTest (createdResult answer) = .handled created
  | .error refusal => routing order isTest (createdResult answer) = .refused refusal

theorem stops_create {T : Shared → Prop} {refusable : Prop} {s' : Shared} {answer : GatewayAnswer}
    {r : Except Answer Created} (configured : getGatewayUrl host ≠ none) (arrives : w.arrives = true)
    (submitted : s.submit app w.handling (forwardedHeaders w.headers order.idempotencyKey)
      (bodyOf order.payload) = (s', answer)) (routes : Routes order isTest answer r) (initial : T s)
    (kept : Kept key p s') (names : Names p refusable r) (n : ℕ) :
    Stops (w.react app) (Until T fun s r => Kept key p s ∧ Names p refusable r) n s
      (create host order isTest paymentId req) := by
  have met : w.react app n s (.forward order.payload order.idempotencyKey) = (s', answer) := by
    simp only [WebSubmission.react, submitted, arrives, if_true]
  rw [create_forward configured, stops_call, met]
  refine ⟨initial, ?_⟩
  cases r with
  | ok created =>
    have handled : routing order isTest (createdResult answer) = .handled created := routes
    simp only [handled, pure_eq]
    rw [stops_done]
    exact ⟨kept, names⟩
  | error refusal =>
    have refused : routing order isTest (createdResult answer) = .refused refusal := routes
    simp only [refused, pure_eq]
    rw [stops_done]
    exact ⟨kept, names⟩

/-- What comes of a creation is persisted and answered. -/
theorem stops_createAndPersist {T : Shared → Prop} {refusable : Prop}
    (executed : ∀ n, (w.draw n).fails = false) (cut : ∀ s, Kept key p s → T s) (initial : T s)
    (created : ∀ n paymentId, Stops (w.react app)
      (Until T fun s r => Kept key p s ∧ Names p refusable r) n s (create host order
        (isTestMode w.request w.caller) paymentId w.request)) (n : ℕ) :
    Stops (w.react app) (fun s answer => Outcome key p T refusable s (answer.map .web)) n s
      (createAndPersist host w.request w.caller order) := by
  simp only [createAndPersist, Web.randomUUID, perform_bind]
  rw [stops_call]
  refine ⟨initial, ?_⟩
  refine stops_bind (w.react app) (created (n + 1) _) (fun _ held => held) fun m s' r comes => ?_
  cases r with
  | error answer =>
    obtain ⟨kept, may, status, code, message, rfl⟩ := comes
    simp only [pure_eq]
    rw [stops_done]
    exact ⟨kept, .inr ⟨may, rfl⟩⟩
  | ok made =>
    obtain ⟨⟨calls, row, holds⟩, is⟩ := comes
    have is : made.id = .stored p := is
    refine stops_bind (w.react app) (persisted executed calls holds is ⟨made.status, rfl⟩ m) cut
      fun m s done held => ?_
    obtain ⟨kept, found, rfl, shown⟩ := held
    simp only [pure_eq]
    rw [stops_done]
    exact ⟨kept, .inl (congrArg some shown)⟩

end Paths

section Runs

variable {app : App} {host : ApiHost} {order : Order} {request : PaymentRequest}
variable {p : PaymentId} {row : PaymentRow} {s : Shared} {w : WebSubmission}
variable {submission : Submission}

theorem keyed_of_servable {headers : HeaderMap} {text : String} {body : CreatePaymentBody}
    (servable : Servable app (forwardedHeaders headers text) body request) :
    text = request.idempotencyKey.asStr := by
  have keyed := parsed_keyed servable.parsed
  simp only [forwardedHeaders, HeaderMap.getStr, HeaderMap.get_insert, Option.bind_some,
    HeaderValue.toStr] at keyed
  exact Option.some.inj keyed

/-- The first answer of the gateway is routed on, or refused. -/
theorem routes_first {c : Handling} {reply : Reply} {isTest : Bool} (replies : Replies c p reply)
    (takes : isTest = true → TakesAnswer order (c.conclusive = false)) :
    ∃ r, Routes order isTest (answerOf reply) r ∧ Names p True r := by
  have refusal {answer : Answer} (refused : routing order isTest (createdResult (answerOf reply)) =
      .refused answer) : ∃ r, Routes order isTest (answerOf reply) r ∧ Names p True r :=
    ⟨.error answer, refused, trivial, routing_refused refused⟩
  rcases replies with ⟨status, view, rfl, is, full⟩ | ⟨e, rfl⟩
  · have handling (handled : routing order isTest (.ok view) = .handled (Created.ofView view)) :
        ∃ r, Routes order isTest (.ok view) r ∧ Names p True r :=
      ⟨.ok (Created.ofView view), handled, congrArg Text.stored is⟩
    cases isTest with
    | true =>
      apply handling
      apply routing_handled
      intro named
      exact full (by simpa using takes rfl named)
    | false =>
      rcases routing_live with handled | ⟨answer, refused⟩
      · exact handling handled
      · exact refusal refused
  · obtain ⟨answer, refused⟩ := routing_apiError order isTest e
    exact refusal refused

/-- As long as the first submission is under way. -/
def Early (key : IdempotencyKey) (p : PaymentId) (s : Shared) : Prop :=
  Untouched key s ∨ Kept key p s

theorem web_untouched (untouched : Untouched request.idempotencyKey s)
    (submits : Submits app host order request s (.web w))
    (agrees : Agrees app host order request s (.web w)) (n : ℕ) :
    Stops (w.react app) (fun s answer => Outcome request.idempotencyKey (w.handling.draw 0).fresh
      (Early request.idempotencyKey (w.handling.draw 0).fresh) True s (answer.map .web)) n s
      (postAs host w.request w.caller) := by
  obtain ⟨accepted, known, configured, executed, servable, handled, fresh⟩ := submits
  obtain ⟨arrives, takes, -⟩ := agrees
  have keyed := keyed_of_servable servable
  have absent : ∀ row ∈ s.tables.ledger.payments.rows,
      anyKey request.idempotencyKey.asStr (environmentOf w.request w.caller) row = false := by
    intro row mem
    have free := untouched.2 row mem
    simp [anyKey, free]
  obtain ⟨s', reply, submitted, kept, replies⟩ :=
    submit_untouched untouched handled servable fresh
  obtain ⟨r, routes, names⟩ := routes_first replies (takes untouched.2)
  simp only [postAs, accepted, submit]
  rw [keyed]
  refine stops_bind (w.react app) (finds_absent executed absent n)
    (fun s₁ is => by subst is; exact .inl untouched) fun m s₁ found held => ?_
  obtain ⟨rfl, rfl⟩ := held
  simp only [known]
  exact stops_createAndPersist executed (fun _ => .inr) (.inl untouched)
    (fun k _ => stops_create configured arrives submitted routes (.inl untouched) kept names k) m

theorem web_kept (calls : s.providerCalls = 1)
    (holds : Holds request.idempotencyKey p s.tables.ledger row)
    (submits : Submits app host order request s (.web w))
    (agrees : Agrees app host order request s (.web w)) (n : ℕ) :
    Stops (w.react app) (fun s answer => Outcome request.idempotencyKey p
      (Kept request.idempotencyKey p) False s (answer.map .web)) n s
      (postAs host w.request w.caller) := by
  obtain ⟨accepted, known, configured, executed, servable, handled, -⟩ := submits
  obtain ⟨arrives, -, agrees⟩ := agrees
  have keyed := keyed_of_servable servable
  have same := agrees row holds.mem (congrArg keyText holds.keyed)
  have kept : Kept request.idempotencyKey p s := ⟨calls, row, holds⟩
  simp only [postAs, accepted, submit]
  rw [keyed]
  by_cases within : row.environment = environmentOf w.request w.caller
  · rw [if_pos within] at same
    refine stops_bind (w.react app) (finds_row executed holds within same.2 n)
      (fun s₁ is => by subst is; exact kept) fun m s₁ found held => ?_
    obtain ⟨rfl, rfl⟩ := held
    have equal : (s₁.tables.row row).payment.requestFingerprint =
      computeFingerprint host order.payload := same.1
    obtain ⟨⟨-, -, -, status⟩, -⟩ := toPayment_isSome_iff.mp holds.readable
    simp only [replay, equal, ne_eq, not_true_eq_false, if_false]
    refine stops_bind (w.react app) (persisted executed calls holds holds.id status m)
      (fun _ cut => cut) fun k s₂ done held => ?_
    obtain ⟨kept, found, rfl, shown⟩ := held
    simp only [pure_eq]
    rw [stops_done]
    exact ⟨kept, .inl (congrArg some shown)⟩
  · rw [if_neg within] at same
    have absent : ∀ other ∈ s.tables.ledger.payments.rows,
        anyKey request.idempotencyKey.asStr (environmentOf w.request w.caller) other = false := by
      intro other mem
      by_contra passes
      have passes : anyKey request.idempotencyKey.asStr (environmentOf w.request w.caller) other =
        true := by simpa using passes
      rw [holds.sole other mem (anyKey_keyed passes)] at passes
      simp only [anyKey, Bool.and_eq_true, beq_iff_eq] at passes
      exact within passes.2
    obtain ⟨view, submitted, is, blank⟩ := submit_kept holds handled servable same.1
    have routed : Routes order (isTestMode w.request w.caller) (.ok view)
        (.ok (Created.ofView view)) := by
      apply routing_handled
      intro named
      by_contra full
      exact same.2 named (blank (by simpa using full))
    refine stops_bind (w.react app) (finds_absent executed absent n)
      (fun s₁ is => by subst is; exact kept) fun m s₁ found held => ?_
    obtain ⟨rfl, rfl⟩ := held
    simp only [known]
    exact stops_createAndPersist executed (fun _ kept => kept) kept
      (fun k _ => stops_create configured arrives submitted routed kept kept
        (congrArg Text.stored is) k) m

/-- The first submission leaves nothing, or the payment that it answers. -/
theorem run_untouched (untouched : Untouched request.idempotencyKey s)
    (submits : Submits app host order request s submission)
    (agrees : Agrees app host order request s submission) :
    ∃ p, Outcome request.idempotencyKey p (Early request.idempotencyKey p) True
      (submission.run app host s).1 (submission.run app host s).2 := by
  cases submission with
  | web w => exact ⟨(w.handling.draw 0).fresh, web_untouched untouched submits agrees 0 w.budget⟩
  | direct headers body c =>
    obtain ⟨servable, executed, fresh⟩ := submits
    obtain ⟨s', reply, submitted, kept, replies⟩ :=
      submit_untouched untouched executed servable fresh
    refine ⟨(c.draw 0).fresh, ?_⟩
    simp only [Submission.run, submitted]
    refine ⟨kept, ?_⟩
    rcases replies with ⟨status, view, rfl, is, -⟩ | ⟨e, rfl⟩
    · exact .inl (congrArg some (congrArg Text.stored is))
    · right
      refine ⟨trivial, ?_⟩
      unfold Handlers.apiError
      split <;> rfl

/-- Every later submission leaves the payment, and answers it. -/
theorem run_kept (kept : Kept request.idempotencyKey p s)
    (submits : Submits app host order request s submission)
    (agrees : Agrees app host order request s submission) :
    Outcome request.idempotencyKey p (Kept request.idempotencyKey p) False
      (submission.run app host s).1 (submission.run app host s).2 := by
  obtain ⟨calls, row, holds⟩ := kept
  cases submission with
  | web w => exact web_kept calls holds submits agrees 0 w.budget
  | direct headers body c =>
    obtain ⟨servable, executed, -⟩ := submits
    have same : row.requestFingerprint = app.fingerprint request :=
      agrees row holds.mem (congrArg keyText holds.keyed)
    obtain ⟨view, submitted, is, -⟩ := submit_kept holds executed servable same
    simp only [Submission.run, submitted]
    exact ⟨⟨calls, row, holds⟩, .inl (congrArg some (congrArg Text.stored is))⟩

variable {submissions : List Submission}

theorem steps_kept (kept : Kept request.idempotencyKey p s)
    (submits : ∀ step ∈ steps app host s submissions,
      Submits app host order request step.before step.submission)
    (agrees : ∀ step ∈ steps app host s submissions,
      Agrees app host order request step.before step.submission) :
    ∀ step ∈ steps app host s submissions, step.after.providerCalls = 1 ∧
      ∀ answer, step.answered = some answer → answer.shows = some (.stored p) := by
  induction submissions generalizing s with
  | nil =>
    intro step mem
    cases mem
  | cons submission rest ih =>
    have outcome := run_kept kept (submits _ List.mem_cons_self) (agrees _ List.mem_cons_self)
    have after : Kept request.idempotencyKey p (submission.run app host s).1 ∧
        ∀ answer, (submission.run app host s).2 = some answer →
          answer.shows = some (.stored p) := by
      revert outcome
      cases (submission.run app host s).2 with
      | none => exact fun kept => ⟨kept, fun answer is => nomatch is⟩
      | some answer =>
        rintro ⟨kept, shown | ⟨impossible, -⟩⟩
        · refine ⟨kept, fun answer' is => ?_⟩
          cases is
          exact shown
        · exact impossible.elim
    intro step mem
    rcases List.mem_cons.mp mem with rfl | later
    · exact ⟨after.1.1, after.2⟩
    · exact ih after.1 (fun step mem => submits step (List.mem_cons_of_mem _ mem))
        (fun step mem => agrees step (List.mem_cons_of_mem _ mem)) step later

/-- As long as the row of the key carries the fingerprint that each submission
compares it with, the provider is called once and every answer is the payment. -/
theorem same_payment (app : App) (host : ApiHost) (order : Order) (request : PaymentRequest)
    (s : Shared) (submissions : List Submission) (untouched : Untouched request.idempotencyKey s)
    (submits : ∀ step ∈ steps app host s submissions,
      Submits app host order request step.before step.submission)
    (agrees : ∀ step ∈ steps app host s submissions,
      Agrees app host order request step.before step.submission) :
    SamePayment (steps app host s submissions) := by
  induction submissions generalizing s with
  | nil =>
    refine ⟨⟨0⟩, fun step mem => ?_⟩
    cases mem
  | cons submission rest ih =>
    have submits' (step : Step) (mem : step ∈ steps app host (submission.run app host s).1 rest) :=
      submits step (List.mem_cons_of_mem _ mem)
    have agrees' (step : Step) (mem : step ∈ steps app host (submission.run app host s).1 rest) :=
      agrees step (List.mem_cons_of_mem _ mem)
    obtain ⟨p, outcome⟩ :=
      run_untouched untouched (submits _ List.mem_cons_self) (agrees _ List.mem_cons_self)
    -- the payment is made by this submission, or by a later one
    have made (kept : Kept request.idempotencyKey p (submission.run app host s).1)
        (shown : ∀ answer, (submission.run app host s).2 = some answer →
          answer.shows = some (.stored p) ∨ answer.shows = none) :
        SamePayment (steps app host s (submission :: rest)) := by
      refine ⟨p, fun step mem => ?_⟩
      rcases List.mem_cons.mp mem with rfl | later
      · refine ⟨le_of_eq kept.1, fun answer is => ⟨kept.1, ?_⟩⟩
        exact (shown answer is).imp_right fun hidden => ⟨untouched.1, hidden⟩
      · obtain ⟨calls, answers⟩ := steps_kept kept submits' agrees' step later
        exact ⟨le_of_eq calls, fun answer is => ⟨calls, .inl (answers answer is)⟩⟩
    cases answered : (submission.run app host s).2 with
    | some answer =>
      rw [answered] at outcome
      obtain ⟨kept, shown⟩ := outcome
      apply made kept
      intro answer' is
      rw [answered] at is
      cases is
      exact shown.imp_right And.right
    | none =>
      rw [answered] at outcome
      rcases outcome with still | kept
      · obtain ⟨p', same⟩ := ih _ still submits' agrees'
        refine ⟨p', fun step mem => ?_⟩
        rcases List.mem_cons.mp mem with rfl | later
        · refine ⟨by rw [still.1]; omega, fun answer is => ?_⟩
          rw [answered] at is
          cases is
        · exact same step later
      · apply made kept
        intro answer is
        rw [answered] at is
        cases is

end Runs

section Samples

/-- A printer that names the members of a document. -/
def memberNames : Json → String
  | .obj members => ",".intercalate (members.map Prod.fst)
  | _ => ""

def printingHost : ApiHost := { gatewayHost with printJson := memberNames }

/-- A gateway that hashes as the web application does. -/
def testGateway : App where
  fingerprint := requestFingerprint printingHost
  sha256Hex := id
  verifyAndParseWebhook _ _ := .error .signatureInvalid
  env _ := none
  providers _ := none
  apiKeys := none
  messageBus := none

def sampleOrder : Order where
  idempotencyKey := "order-1"
  provider := .paymob
  payload := ⟨"paymob", 100, "EGP", "01000000000", none, none, none, "Payment", none, []⟩
  returnUrlParam := none
  bodyStripeKey := none

def sampleRequest : PaymentRequest where
  idempotencyKey := .order
  provider := ProviderId.paymob
  amount := .hundred .egp
  customer := ⟨"01000000000", none, none⟩
  merchantReference := none
  description := some "Payment"
  returnUrl := none
  metadata := []

def testHeaders : HeaderMap := ⟨[("x-openwrapper-environment", .text "test")]⟩

/-- A new payment gets this id, and the provider a transaction for it. -/
def answeredAs (id : ℕ) : Handling where
  draw _ := ⟨fun _ => ⟨0⟩, ⟨id⟩, fun _ => 0, fun _ => false⟩
  provided := .ok ⟨ProviderId.paymob, "txn_1", .pending, none,
    .hundred .egp, ⟨0⟩⟩

def webSubmission (id : ℕ) : Submission :=
  .web ⟨orderRequest, testCaller, testHeaders, fun _ => answering (.lost "") (.error ""),
    answeredAs id, true, 10⟩

def directSubmission (id : ℕ) : Submission :=
  .direct (forwardedHeaders testHeaders "order-1") (bodyOf sampleOrder.payload) (answeredAs id)

def untouchedTables : Shared := ⟨emptyTables, 0⟩

theorem untouched_sample : Untouched sampleRequest.idempotencyKey untouchedTables := by
  refine ⟨rfl, fun row mem => ?_⟩
  cases mem

theorem servable_sample : Servable testGateway (forwardedHeaders testHeaders "order-1")
    (bodyOf sampleOrder.payload) sampleRequest := ⟨by decide +kernel, _, rfl⟩

theorem web_submits {id : ℕ} {s : Shared}
    (fresh : ∀ row ∈ s.tables.ledger.payments.rows, row.id ≠ .stored ⟨id⟩) :
    Submits testGateway printingHost sampleOrder sampleRequest s (webSubmission id) :=
  ⟨rfl, rfl, by decide +kernel, fun _ => rfl, servable_sample, fun _ _ => rfl, fresh⟩

theorem direct_submits {id : ℕ} {s : Shared}
    (fresh : ∀ row ∈ s.tables.ledger.payments.rows, row.id ≠ .stored ⟨id⟩) :
    Submits testGateway printingHost sampleOrder sampleRequest s (directSubmission id) :=
  ⟨servable_sample, fun _ _ => rfl, fresh⟩

/-- The request is submitted twice through the web application. -/
theorem same_payment_web : SamePayment
    (steps testGateway printingHost untouchedTables [webSubmission 1, webSubmission 2]) := by
  apply same_payment testGateway printingHost sampleOrder sampleRequest untouchedTables
    [webSubmission 1, webSubmission 2] untouched_sample
  · intro step mem
    rcases List.mem_cons.mp mem with rfl | mem
    · exact web_submits fun row mem => by cases mem
    · cases List.mem_singleton.mp mem
      exact web_submits (by decide +kernel)
  · intro step mem
    rcases List.mem_cons.mp mem with rfl | mem
    · refine ⟨rfl, fun _ _ _ => by decide +kernel, fun row mem => ?_⟩
      cases mem
    · cases List.mem_singleton.mp mem
      have shape : ∀ row ∈ (Submission.run testGateway printingHost untouchedTables
          (webSubmission 1)).1.tables.ledger.payments.rows,
          keyText row.idempotencyKey = sampleRequest.idempotencyKey.asStr ∧
          row.environment = environmentOf orderRequest testCaller ∧
          row.requestFingerprint = computeFingerprint printingHost sampleOrder.payload ∧
          (row.userId.any fun owner => owner != "" && owner != testCaller.userId) = false := by
        decide +kernel
      refine ⟨rfl, fun vacant => ?_, fun row mem _ => ?_⟩
      · have kept : (Submission.run testGateway printingHost untouchedTables
            (webSubmission 1)).1.tables.ledger.payments.rows ≠ [] := by decide +kernel
        obtain ⟨row, mem⟩ := List.exists_mem_of_ne_nil _ kept
        exact absurd (shape row mem).1 (vacant row mem)
      · obtain ⟨-, within, same⟩ := shape row mem
        exact (if_pos within).mpr same

/-- The request is created at the gateway, and then refused as a conflict by
the web application. -/
theorem cross_path_conflict : ¬ ∀ (app : App) (host : ApiHost) (order : Order)
    (request : PaymentRequest) (s : Shared) (submissions : List Submission),
    app.fingerprint = requestFingerprint host → Untouched request.idempotencyKey s →
    (∀ step ∈ steps app host s submissions, Submits app host order request step.before
      step.submission) → SamePayment (steps app host s submissions) := by
  intro claim
  have submits : ∀ step ∈ steps testGateway printingHost untouchedTables
      [directSubmission 1, webSubmission 2],
      Submits testGateway printingHost sampleOrder sampleRequest step.before step.submission := by
    intro step mem
    rcases List.mem_cons.mp mem with rfl | mem
    · exact direct_submits fun row mem => by cases mem
    · cases List.mem_singleton.mp mem
      exact web_submits (by decide +kernel)
  obtain ⟨p, same⟩ := claim testGateway printingHost sampleOrder sampleRequest untouchedTables
    [directSubmission 1, webSubmission 2] rfl untouched_sample submits
  have conflicted : (steps testGateway printingHost untouchedTables
      [directSubmission 1, webSubmission 2]).any (fun step => step.before.providerCalls == 1 &&
        step.answered.any fun answer => answer.shows == none) = true := by decide +kernel
  obtain ⟨step, mem, refused⟩ := List.any_eq_true.mp conflicted
  simp only [Bool.and_eq_true, beq_iff_eq, Option.any_eq_true] at refused
  obtain ⟨calls, answer, answered, shows⟩ := refused
  rcases ((same step mem).2 answer answered).2 with shown | ⟨none_yet, -⟩
  · rw [shows] at shown
    cases shown
  · omega

end Samples

end OpenWrapper.CrossPaths
