import OpenWrapper.CreationAmbiguity
import OpenWrapper.References
import OpenWrapper.WebhookAdapters

/-! # Which callbacks reach the payment they are about

A payment is stored under the id that the creation was answered with: Paymob's
intention, Fawry's order, Stripe's checkout session. A callback is looked up by
the id it carries. -/

set_option autoImplicit false

namespace OpenWrapper.CallbackReferences
open OpenWrapper.Ids OpenWrapper.Payments OpenWrapper.Providers OpenWrapper.HttpExchange
open OpenWrapper.Adapters OpenWrapper.CreationAmbiguity OpenWrapper.Schema
open OpenWrapper.PaymentStore OpenWrapper.StatementRules OpenWrapper.StoreContract
open OpenWrapper.Effects OpenWrapper.Gateway OpenWrapper.Contracts OpenWrapper.Evolution
open OpenWrapper.Simulation OpenWrapper.References OpenWrapper.WebhookAdapters
open OpenWrapper.Suspended OpenWrapper.Suspended.Prog OpenWrapper.Interleaving

section Creation

/-- What the provider's answer calls the payment; Fawry is told the name. -/
def Called (a : Adapter) (id : PaymentId) (request : PaymentRequest) (x : Exchange)
    (reference : String) : Prop :=
  ∃ status body, x = .answered status body ∧
    match a with
    | .paymob _ => ∃ intention, Adapters.Paymob.readIntention status body = .ok intention ∧
        reference = intention.id
    | .fawry _ => reference = Adapters.Fawry.deriveMerchantRefNum request id
    | .stripe _ => ∃ session, Adapters.Stripe.readSession status body = .ok session ∧
        reference = session.id

variable {a : Adapter} {id : PaymentId} {request : PaymentRequest} {x : Exchange}
  {now : Instant} {result : PaymentResult}

theorem paymob_called {config : PaymobConfig}
    (passed : ensureCreate (.paymob config) request = .ok ())
    (answered : (asked (.paymob config) id request x now).2 = .ok result) :
    Called (.paymob config) id request x result.providerReference := by
  simp only [asked, Adapter.createPayment, Adapters.Paymob.createPayment, passed,
    Adapters.Paymob.createIntention, Http.post, Http.now, perform_bind, call_bind, serial_call,
    outcall] at answered
  cases x with
  | failed e => cases answered
  | answered status body =>
    cases read : Adapters.Paymob.readIntention status body with
    | error e =>
      simp only [pure_eq, done_bind, read, serial_done] at answered
      cases answered
    | ok intention =>
      simp only [pure_eq, done_bind, read, serial_call, serial_done, outcall] at answered
      cases answered
      exact ⟨status, body, rfl, intention, read, rfl⟩

theorem fawry_called {config : FawryConfig}
    (passed : Adapters.Fawry.check config request = .ok ())
    (answered : (asked (.fawry config) id request x now).2 = .ok result) :
    Called (.fawry config) id request x result.providerReference := by
  simp only [asked, Adapter.createPayment, Adapters.Fawry.createPayment, passed,
    Adapters.Fawry.createCharge, Http.post, Http.now, perform_bind, call_bind, serial_call,
    outcall] at answered
  cases x with
  | failed e => cases answered
  | answered status body =>
    cases read : Adapters.Fawry.readCharge status body with
    | error e =>
      simp only [pure_eq, done_bind, read, serial_done] at answered
      cases answered
    | ok charge =>
      cases named : charge.referenceNumber with
      | none =>
        simp only [pure_eq, done_bind, read, named, serial_done] at answered
        cases answered
      | some reference =>
        simp only [pure_eq, done_bind, read, named, serial_call, serial_done, outcall] at answered
        cases answered
        exact ⟨status, body, rfl, rfl⟩

theorem stripe_called {config : StripeConfig}
    (passed : ensureCreate (.stripe config) request = .ok ())
    (answered : (asked (.stripe config) id request x now).2 = .ok result) :
    Called (.stripe config) id request x result.providerReference := by
  simp only [asked, Adapter.createPayment, Adapters.Stripe.createPayment, passed,
    Adapters.Stripe.createCheckoutSession, Http.post, Http.now, perform_bind, call_bind,
    serial_call, outcall] at answered
  cases x with
  | failed e => cases answered
  | answered status body =>
    cases read : Adapters.Stripe.readSession status body with
    | error e =>
      simp only [pure_eq, done_bind, read, serial_done] at answered
      cases answered
    | ok session =>
      cases page : session.url with
      | none =>
        simp only [pure_eq, done_bind, read, page, serial_done] at answered
        cases answered
      | some url =>
        simp only [pure_eq, done_bind, read, page, serial_call, serial_done, outcall] at answered
        cases answered
        exact ⟨status, body, rfl, session, read, rfl⟩

/-- The reference a creation results in is what the answer calls the payment. -/
theorem asked_called (answered : (asked a id request x now).2 = .ok result) :
    Called a id request x result.providerReference := by
  cases passed : a.check request with
  | error e =>
    rw [asked_refused passed] at answered
    cases answered
  | ok _ =>
    cases a with
    | paymob config => exact paymob_called passed answered
    | fawry config => exact fawry_called passed answered
    | stripe config => exact stripe_called passed answered

theorem called_unique {reference reference' : String} (called : Called a id request x reference)
    (called' : Called a id request x reference') : reference = reference' := by
  obtain ⟨status, body, rfl, named⟩ := called
  obtain ⟨status', body', same, named'⟩ := called'
  cases same
  cases a with
  | paymob config =>
    obtain ⟨intention, read, rfl⟩ := named
    obtain ⟨intention', read', rfl⟩ := named'
    rw [read] at read'
    cases read'
    rfl
  | fawry config => exact Eq.trans named (Eq.symm named')
  | stripe config =>
    obtain ⟨session, read, rfl⟩ := named
    obtain ⟨session', read', rfl⟩ := named'
    rw [read] at read'
    cases read'
    rfl

end Creation

section Callback

/-- A callback the provider sends about a payment it called `created`: a
transaction of Paymob's has an id of its own, an event of Stripe's names the
checkout session or a payment intent with an id of its own. -/
def About (k : Crypto) (p : Provider) (raw : RawWebhookRequest) (created : String) : Prop :=
  match p with
  | .paymob _ => ∃ payload obj transaction, k.fromSlice raw.rawBody = .ok payload ∧
      payload.get "obj" = some obj ∧ (obj.get "id").bind asI64 = some transaction ∧
      toString transaction ≠ created
  | .stripe _ => ∃ json eventId kind object reference, k.fromSlice raw.rawBody = .ok json ∧
      WebhookAdapters.Stripe.IsEvent json eventId kind object ∧
      (object.get "id").bind JsonValue.Json.asStr = some reference ∧
      (reference = created ↔ kind.isSession = true)
  | _ => False

/-- The callback is about a checkout session. -/
def SessionEvent (k : Crypto) (p : Provider) (raw : RawWebhookRequest) : Prop :=
  match p with
  | .stripe _ => ∃ json eventId kind object, k.fromSlice raw.rawBody = .ok json ∧
      WebhookAdapters.Stripe.IsEvent json eventId kind object ∧ kind.isSession = true
  | _ => False

variable {k : Crypto} {p : Provider} {raw : RawWebhookRequest} {created : String}
  {time : Instant} {event : WebhookEvent}

/-- A verified callback carries what the payment was called exactly if it is
about a checkout session. -/
theorem carries_iff (verified : verifyAndParseWebhook k time p raw = .ok event)
    (about : About k p raw created) :
    event.providerReference = created ↔ SessionEvent k p raw := by
  cases p with
  | paymob config =>
    obtain ⟨payload, obj, transaction, parsed, within, named, apart⟩ := about
    obtain ⟨obj', hmac, ⟨-, ⟨payload', parsed', within'⟩, -⟩, read⟩ :=
      WebhookAdapters.Paymob.verifyAndParse_ok.mp verified
    obtain ⟨id, amount, success, pending, errorOccured, told⟩ :=
      WebhookAdapters.Paymob.parseVerifiedTransaction_ok.mp read
    rw [parsed] at parsed'
    cases parsed'
    rw [within] at within'
    cases within'
    have same : transaction = id := Option.some.inj (named.symm.trans told.named)
    rw [told.read, ← same]
    exact iff_of_false apart not_false
  | stripe config =>
    obtain ⟨json, eventId, kind, object, reference, parsed, is, names, session⟩ := about
    obtain ⟨-, json', parsed', read⟩ := WebhookAdapters.Stripe.verifyAndParse_ok.mp verified
    obtain ⟨eventId', kind', object', reference', is', names', rfl⟩ :=
      WebhookAdapters.Stripe.parseEvent_ok.mp read
    rw [parsed] at parsed'
    cases parsed'
    obtain ⟨rfl, rfl⟩ := WebhookAdapters.Stripe.isEvent_unique is is'
    rw [names] at names'
    cases names'
    show reference = created ↔ _
    rw [session]
    constructor
    · intro held
      exact ⟨json, eventId, kind, object, parsed, is, held⟩
    · rintro ⟨json'', eventId'', kind'', object'', parsed'', is'', held⟩
      rw [parsed] at parsed''
      cases parsed''
      rw [(WebhookAdapters.Stripe.isEvent_unique is is'').1]
      exact held
  | fawry config => exact about.elim
  | mock config name => exact about.elim

end Callback

section Store

/-- The event finds the payment. -/
structure Reaches (fp : PaymentRequest → String) (b : Backend) (L : Ledger) (report : WebhookReport)
    (id : PaymentId) : Prop where
  matching : ∃ row ∈ L.payments.rows, row.id = .stored id ∧
    Matches report.provider report.providerReference row
  found : ∀ d, (execOp fp b d L (.applyWebhookEvent report)).2 ≠ .ok .paymentNotFound

variable {fp : PaymentRequest → String} {b : Backend} {L : Ledger} {report : WebhookReport}
  {id : PaymentId}

theorem unmatched_of_notFound {d : Draw} {L' : Ledger} {r : StoreResult WebhookApplyOutcome}
    (outcome : Outcome fp b d L (.applyWebhookEvent report) L' r) (is : r = .ok .paymentNotFound) :
    ∀ row ∈ L.payments.rows, ¬ Matches report.provider report.providerReference row := by
  cases outcome with
  | notFound event none_ => exact none_
  | _ => cases is

theorem reaches_iff {provider : ProviderId} {created : String}
    (stored : ∃ row ∈ L.payments.rows, row.id = .stored id ∧ Matches provider created row)
    (addressed : report.provider = provider) :
    Reaches fp b L report id ↔ report.providerReference = created := by
  obtain ⟨row, mem, is, at_, named⟩ := stored
  constructor
  · rintro ⟨⟨row', mem', is', -, named'⟩, -⟩
    rw [← row_eq_of_id mem mem' (is.trans is'.symm), named] at named'
    exact (Option.some.inj named').symm
  · intro same
    have matching : Matches report.provider report.providerReference row := by
      rw [addressed, same]
      exact ⟨at_, named⟩
    refine ⟨⟨row, mem, is, matching⟩, fun d answer => ?_⟩
    exact unmatched_of_notFound (execOp_outcome fp b d L (.applyWebhookEvent report)) answer row mem
      matching

end Store

section Main

/-- The event records the creation of the payment under the reference. -/
def recordsCreation (id : PaymentId) (reference : String) : GwEvent → Bool
  | ⟨.store (.recordCreationResult of_ given _ _), .ok ()⟩ => of_ == id && given == reference
  | _ => false

variable {b : Backend} {app : App} {w : GwWorld} {id : PaymentId} {provider : ProviderId}

theorem carries_recorded (issued : Issued app w) {reference : String}
    (recorded : ∃ t ∈ w.tasks, ∃ ev ∈ t.history, recordsCreation id reference ev = true)
    (at_ : StoredAt w.shared.ledger id provider) :
    ∃ row ∈ w.shared.ledger.payments.rows, row.id = .stored id ∧ Matches provider reference row := by
  obtain ⟨t, mem, ev, known, records⟩ := recorded
  have written := issued.written t mem ev known
  unfold recordsCreation at records
  split at records
  next of_ given status action =>
    obtain ⟨rfl, rfl⟩ : of_ = id ∧ given = reference := by simpa using records
    obtain ⟨row, stored, is, named⟩ := written
    obtain ⟨row', stored', is', provided⟩ := at_
    have one := row_eq_of_id stored stored' (is.trans is'.symm)
    exact ⟨row, stored, is, by rw [one]; exact provided, named⟩
  · cases records

/-- A callback about a payment that was created and recorded finds it exactly
if it is about the payment's checkout session. -/
theorem callback_reaches_iff {k : Crypto} {a : Adapter} {request : PaymentRequest} {x : Exchange}
    {now time : Instant} {result : PaymentResult} {p : Provider} {raw : RawWebhookRequest}
    {event : WebhookEvent} {created : String} (reachable : Reachable b app w)
    (answered : (asked a id request x now).2 = .ok result) (called : Called a id request x created)
    (recorded : ∃ t ∈ w.tasks, ∃ ev ∈ t.history,
      recordsCreation id result.providerReference ev = true)
    (at_ : StoredAt w.shared.ledger id provider) (about : About k p raw created)
    (verified : verifyAndParseWebhook k time p raw = .ok event) :
    Reaches app.fingerprint b w.shared.ledger (Handlers.WebhookEvent.report event provider) id ↔
      SessionEvent k p raw := by
  have same : result.providerReference = created := called_unique (asked_called answered) called
  have stored := carries_recorded (issued_of_reachable reachable) recorded at_
  rw [same] at stored
  rw [reaches_iff stored rfl]
  exact carries_iff verified about

section Samples

/-- What Stripe answers the creation with. -/
def sessionCreated : Exchange := .answered ⟨200, "OK"⟩ (.json (.object
  [("id", .string "cs_1"), ("url", .string "https://checkout.stripe.com/c/cs_1")]))

def stripeConfig : StripeConfig := ⟨"sk_live", some "whsec", StripeConfig.defaultBaseUrl, 300⟩

def stripeOrder : PaymentRequest :=
  ⟨.order, ProviderId.stripe, .hundred .usd,
    ⟨"0100", none, none⟩, none, none, none, []⟩

def sessionResult : PaymentResult :=
  ⟨ProviderId.stripe, "cs_1", .pending,
    some (.redirectToUrl "https://checkout.stripe.com/c/cs_1"), stripeOrder.amount, ⟨0⟩⟩

def sessionOrdered : List GwAction :=
  [.spawn order, .advance 0 (.acquired true), .advance 0 (.draw (quietDraw 1)),
    .advance 0 (.created (.ok sessionResult)), .advance 0 (.draw (quietDraw 0))]

/-- One delivery: its document, and its MAC under the endpoint's secret. -/
def delivered (document : JsonValue.Json) (mac : List UInt8) : Crypto where
  hmacSha512 := fun _ _ => []
  hmacSha256 := fun _ _ => mac
  sha256 := fun _ => []
  fromSlice := fun _ => .ok document
  payloadError := fun _ => ""
  toText := fun _ => ""

def request (text mac : String) : RawWebhookRequest :=
  ⟨text.toUTF8.data.toList, [("stripe-signature", "t=1700000000,v1=" ++ mac)], []⟩

def stripeEvent (id type : String) (object : List (String × JsonValue.Json)) : JsonValue.Json :=
  .obj [("id", .str id), ("type", .str type), ("data", .obj [("object", .obj object)])]

def sessionPaid : JsonValue.Json := stripeEvent "evt_1" "checkout.session.completed"
  [("id", .str "cs_1"), ("amount_total", .num "100"), ("currency", .str "usd"),
    ("payment_status", .str "paid")]

def intentPaid : JsonValue.Json := stripeEvent "evt_2" "payment_intent.succeeded"
  [("id", .str "pi_1"), ("amount", .num "100"), ("currency", .str "usd"),
    ("status", .str "succeeded")]

def sessionMac : List UInt8 :=
  [0x4a, 0x22, 0xd8, 0x98, 0x53, 0x03, 0x14, 0xe3, 0xe9, 0xab, 0x81, 0xe9, 0x72, 0x36, 0x5c, 0x8f,
    0x35, 0x41, 0x95, 0xda, 0x3e, 0xe8, 0x18, 0x78, 0x54, 0x65, 0xc0, 0x4e, 0x8b, 0xc0, 0x64, 0x18]

def intentMac : List UInt8 :=
  [0xce, 0x1c, 0xbc, 0x9b, 0xbf, 0x14, 0x7c, 0xae, 0x51, 0x2d, 0xed, 0xd0, 0x2b, 0xe2, 0xb6, 0x09,
    0x02, 0xc9, 0x98, 0xce, 0xde, 0xdc, 0x6a, 0xa4, 0xf7, 0x84, 0x46, 0x3b, 0x45, 0x6b, 0xed, 0x43]

def sessionDelivery : RawWebhookRequest := request
  "\x7b\"id\":\"evt_1\",\"type\":\"checkout.session.completed\",\"data\":\x7b\"object\":\x7b\"id\":\"cs_1\",\"amount_total\":100,\"currency\":\"usd\",\"payment_status\":\"paid\"\x7d\x7d\x7d"
  "4a22d898530314e3e9ab81e972365c8f354195da3ee818785465c04e8bc06418"

def intentDelivery : RawWebhookRequest := request
  "\x7b\"id\":\"evt_2\",\"type\":\"payment_intent.succeeded\",\"data\":\x7b\"object\":\x7b\"id\":\"pi_1\",\"amount\":100,\"currency\":\"usd\",\"status\":\"succeeded\"\x7d\x7d\x7d"
  "ce1cbc9bbf147cae512dedd02be2b60902c998cededc6aa4f784463b456bed43"

def arrival : Instant := ⟨1700000000000000000⟩

theorem session_ordered : ∃ w, run (setting .sqlite shop) (start []) sessionOrdered = some w ∧
    (∃ t ∈ w.tasks, ∃ ev ∈ t.history, recordsCreation ⟨1⟩ "cs_1" ev = true) ∧
    StoredAt w.shared.ledger ⟨1⟩ ProviderId.stripe := by
  have finished : (run (setting .sqlite shop) (start []) sessionOrdered).isSome = true := by
    decide +kernel
  obtain ⟨w, ran⟩ := Option.isSome_iff_exists.mp finished
  have facts : (run (setting .sqlite shop) (start []) sessionOrdered).all (fun w =>
      decide ((∃ t ∈ w.tasks, ∃ ev ∈ t.history, recordsCreation ⟨1⟩ "cs_1" ev = true) ∧
        ∃ row ∈ w.shared.ledger.payments.rows, row.id = .stored ⟨1⟩ ∧
          row.provider = .stored ProviderId.stripe)) = true := by decide +kernel
  rw [ran] at facts
  have held := of_decide_eq_true facts
  exact ⟨w, ran, held⟩

theorem session_answered : (asked (.stripe stripeConfig) ⟨1⟩ stripeOrder sessionCreated ⟨0⟩).2 =
    .ok sessionResult := by rfl

theorem session_called :
    Called (.stripe stripeConfig) ⟨1⟩ stripeOrder sessionCreated "cs_1" :=
  asked_called session_answered

theorem session_verified : ∃ event, verifyAndParseWebhook (delivered sessionPaid sessionMac) arrival
    (.stripe stripeConfig) sessionDelivery = .ok event := ⟨_, by rfl⟩

theorem intent_verified : ∃ event, verifyAndParseWebhook (delivered intentPaid intentMac) arrival
    (.stripe stripeConfig) intentDelivery = .ok event := ⟨_, by rfl⟩

/-- The completed session is looked up and found. -/
theorem callback_reaches_session : ∃ (w : GwWorld) (event : WebhookEvent),
    verifyAndParseWebhook (delivered sessionPaid sessionMac) arrival (.stripe stripeConfig)
      sessionDelivery = .ok event ∧
    Reaches shop.fingerprint .sqlite w.shared.ledger
      (Handlers.WebhookEvent.report event ProviderId.stripe) ⟨1⟩ := by
  obtain ⟨w, ran, recorded, at_⟩ := session_ordered
  obtain ⟨event, verified⟩ := session_verified
  have is : WebhookAdapters.Stripe.IsEvent sessionPaid "evt_1" .sessionCompleted
      (.obj [("id", .str "cs_1"), ("amount_total", .num "100"), ("currency", .str "usd"),
        ("payment_status", .str "paid")]) := ⟨rfl, ⟨_, rfl, rfl⟩, rfl⟩
  have reachable : Reachable .sqlite shop w := ⟨[], sessionOrdered, ran⟩
  have about : About (delivered sessionPaid sessionMac) (.stripe stripeConfig) sessionDelivery
      "cs_1" := ⟨_, _, _, _, "cs_1", rfl, is, rfl, by decide⟩
  exact ⟨w, event, verified, (callback_reaches_iff reachable session_answered session_called
    recorded at_ about verified).mpr ⟨_, _, _, _, rfl, is, rfl⟩⟩

/-- The payment intent of the session is not. -/
theorem callback_misses : ¬ ∀ (b : Backend) (app : App) (w : GwWorld) (id : PaymentId)
    (provider : ProviderId) (k : Crypto) (a : Adapter) (request : PaymentRequest) (x : Exchange)
    (now time : Instant) (result : PaymentResult) (p : Provider) (raw : RawWebhookRequest)
    (event : WebhookEvent) (created : String), Reachable b app w →
    (asked a id request x now).2 = .ok result → Called a id request x created →
    (∃ t ∈ w.tasks, ∃ ev ∈ t.history, recordsCreation id result.providerReference ev = true) →
    StoredAt w.shared.ledger id provider → About k p raw created →
    verifyAndParseWebhook k time p raw = .ok event →
    Reaches app.fingerprint b w.shared.ledger (Handlers.WebhookEvent.report event provider) id := by
  intro claimed
  obtain ⟨w, ran, recorded, at_⟩ := session_ordered
  obtain ⟨event, verified⟩ := intent_verified
  have is : WebhookAdapters.Stripe.IsEvent intentPaid "evt_2" .intentSucceeded
      (.obj [("id", .str "pi_1"), ("amount", .num "100"), ("currency", .str "usd"),
        ("status", .str "succeeded")]) := ⟨rfl, ⟨_, rfl, rfl⟩, rfl⟩
  have about : About (delivered intentPaid intentMac) (.stripe stripeConfig) intentDelivery "cs_1" :=
    ⟨_, _, _, _, "pi_1", rfl, is, rfl, by decide⟩
  have reachable : Reachable .sqlite shop w := ⟨[], sessionOrdered, ran⟩
  have reaches := claimed .sqlite shop w ⟨1⟩ ProviderId.stripe _ _ _ _ ⟨0⟩ arrival _ _ _ event "cs_1"
    reachable session_answered session_called recorded at_ about verified
  have stored := carries_recorded (issued_of_reachable reachable) recorded at_
  have carries := (reaches_iff stored rfl).mp reaches
  obtain ⟨json, eventId, kind, object, parsed, is', session⟩ := (carries_iff verified about).mp carries
  cases parsed
  rw [← (WebhookAdapters.Stripe.isEvent_unique is is').1] at session
  cases session

end Samples

end Main

end OpenWrapper.CallbackReferences
