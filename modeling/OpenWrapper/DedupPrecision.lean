import OpenWrapper.Deliveries
import OpenWrapper.EventIdentity

/-! # What a duplicate repeats

The store knows an event by one text for all providers. Paymob's and Fawry's
texts carry their names, Stripe's and the mock's are taken from the body, and
Fawry's `requestId` is too. Where no two deliveries of a run meet in a text
they do not share the payment of, a duplicate repeats its own delivery. -/

set_option autoImplicit false

namespace OpenWrapper.DedupPrecision
open OpenWrapper.Ids OpenWrapper.Errors OpenWrapper.Amounts OpenWrapper.Payments
open OpenWrapper.Providers OpenWrapper.Headers OpenWrapper.Stateless OpenWrapper.JsonValue
open OpenWrapper.Hexadecimal
open OpenWrapper.WebhookAdapters OpenWrapper.SignedContent OpenWrapper.EventIdentity
open OpenWrapper.Schema OpenWrapper.PaymentStore OpenWrapper.StatementRules
open OpenWrapper.StoreContract OpenWrapper.Effects OpenWrapper.Gateway OpenWrapper.Contracts
open OpenWrapper.References OpenWrapper.Deliveries
open OpenWrapper.Suspended OpenWrapper.Suspended.Prog OpenWrapper.Interleaving

/-- What the gateway accepts, the repository's adapters accept at some time. -/
def Adapted (k : Crypto) (app : App) : Prop :=
  ∀ p raw event, app.verifyAndParseWebhook p raw = .ok event →
    ∃ now, verifyAndParseWebhook k now p raw = .ok event

/-- The server's providers are registered under their own names. -/
def Wired (configured : Configured) : Prop :=
  ∀ name p, configured name = some p → p.id.asStr = name

/-- The adapters keep the texts of their events apart by themselves. -/
def apart : Provider → Provider → Bool
  | .paymob _, .paymob _ => true
  | .paymob _, .fawry _ => true
  | .fawry _, .paymob _ => true
  | _, _ => false

/-- The delivery a task was started for, if its adapter accepts it. -/
def arrival (app : App) (t : GwTask) : Option (Provider × WebhookQueueMessage) :=
  match t.origin with
  | .webhook name raw =>
    match app.providers name with
    | some p => (app.verifyAndParseWebhook p raw).toOption.map fun event => (p, ⟨name, event⟩)
    | none => none
  | _ => none

def arrivals (app : App) (w : GwWorld) : List (Provider × WebhookQueueMessage) :=
  w.tasks.filterMap (arrival app)

/-- The deliveries that carry the event id of a report, where the adapters do
not keep them apart, are about its payment. -/
def Unambiguous (app : App) (w : GwWorld) (report : WebhookReport) : Prop :=
  ∀ x ∈ arrivals app w, ∀ y ∈ arrivals app w, apart x.1 y.1 = false →
    x.2.event.eventId = report.eventId → y.2.event.eventId = report.eventId →
    x.2.provider = y.2.provider ∧ x.2.event.providerReference = y.2.event.providerReference

instance (app : App) (w : GwWorld) (report : WebhookReport) :
    Decidable (Unambiguous app w report) :=
  inferInstanceAs (Decidable (∀ x ∈ arrivals app w, ∀ y ∈ arrivals app w, _))

/-- A report the store is going to take for a duplicate is unambiguous. -/
def Foreseen (app : App) (w : GwWorld) (a : GwAction) : Prop :=
  ∀ p ∈ applying w a, EventRecorded w.shared.ledger p.2.1.eventId →
    Carried w.shared.ledger p.2.1.provider p.2.1.providerReference → Unambiguous app w p.2.1

instance (app : App) (w : GwWorld) (a : GwAction) : Decidable (Foreseen app w a) :=
  inferInstanceAs (Decidable (∀ p ∈ applying w a, _ → _ → _))

/-- A verified delivery with the event id, of the provider and the reference of
the report, is recorded. -/
def Seen (app : App) (w : GwWorld) (report : WebhookReport) : Prop :=
  ∃ m earlier, Arrived app w m ∧ Reports m earlier ∧
    (∃ e ∈ w.shared.ledger.webhookEvents.rows, RecordedFor w e earlier) ∧
    earlier.eventId = report.eventId ∧ earlier.provider = report.provider ∧
    earlier.providerReference = report.providerReference

/-- Whatever the step answers as a duplicate was seen before it. -/
def Precise (b : Backend) (app : App) (w : GwWorld) (a : GwAction) : Prop :=
  ∀ i c w', a = .advance i c → ∀ adv : Advanced (setting b app) w i c w', ∀ report,
    (⟨adv.effect, adv.response⟩ : GwEvent) = told (.applyWebhookEvent report) .duplicate →
    Seen app w report

section Texts

variable {k : Crypto} {now now' : Instant} {raw raw' : RawWebhookRequest}
  {event event' : WebhookEvent}

theorem paymob_text {config : PaymobConfig}
    (parsed : Paymob.verifyAndParse k config raw = .ok event) : ∃ id : ℤ, ∃ bytes,
      event.eventId = "paymob:" ++ (toString id ++ ":" ++ encode bytes) ∧
        event.providerReference = toString id := by
  obtain ⟨obj, hmac, -, read⟩ := Paymob.verifyAndParse_ok.mp parsed
  obtain ⟨id, amount, success, pending, errorOccured, told⟩ :=
    Paymob.parseVerifiedTransaction_ok.mp read
  refine ⟨id, k.sha256 (toAsciiLowercase hmac), ?_, ?_⟩
  · rw [told.read]
    show Paymob.eventId k id hmac = _
    simp only [Paymob.eventId, String.append_assoc]
  · rw [told.read]

theorem fawry_text {config : FawryConfig}
    (parsed : Fawry.verifyAndParse k config raw = .ok event) : ∃ id,
      event.eventId = "fawry:" ++ id := by
  obtain ⟨payload, signature, fields, amount, -, -, -, -, rfl⟩ := Fawry.verifyAndParse_ok.mp parsed
  exact ⟨_, rfl⟩

theorem prefixes_apart (s t : String) : "paymob:" ++ s ≠ "fawry:" ++ t := by
  intro same
  have texts := congrArg String.toList same
  simp at texts

/-- Two Paymob events of one text are of one transaction. -/
theorem paymob_reference {config config' : PaymobConfig}
    (parsed : Paymob.verifyAndParse k config raw = .ok event)
    (parsed' : Paymob.verifyAndParse k config' raw' = .ok event')
    (same : event.eventId = event'.eventId) :
    event.providerReference = event'.providerReference := by
  obtain ⟨id, bytes, text, named⟩ := paymob_text parsed
  obtain ⟨id', bytes', text', named'⟩ := paymob_text parsed'
  rw [text, text', String.append_right_inj, cut_eq (int_clean id) (encode_clean bytes)] at same
  rw [named, named', same.1]

/-- What the adapters keep apart shares a text only within one transaction. -/
theorem apart_text {p p' : Provider} (kept : apart p p' = true)
    (parsed : verifyAndParseWebhook k now p raw = .ok event)
    (parsed' : verifyAndParseWebhook k now' p' raw' = .ok event')
    (same : event.eventId = event'.eventId) :
    p.id = p'.id ∧ event.providerReference = event'.providerReference := by
  cases p with
  | paymob config =>
    cases p' with
    | paymob config' => exact ⟨rfl, paymob_reference parsed parsed' same⟩
    | fawry config' =>
      obtain ⟨id, bytes, text, -⟩ := paymob_text parsed
      obtain ⟨id', text'⟩ := fawry_text parsed'
      rw [text, text'] at same
      exact absurd same (prefixes_apart _ _)
    | stripe config' => cases kept
    | mock config' name => cases kept
  | fawry config =>
    cases p' with
    | paymob config' =>
      obtain ⟨id, text⟩ := fawry_text parsed
      obtain ⟨id', bytes, text', -⟩ := paymob_text parsed'
      rw [text, text'] at same
      exact absurd same.symm (prefixes_apart _ _)
    | fawry config' => cases kept
    | stripe config' => cases kept
    | mock config' name => cases kept
  | stripe config => cases kept
  | mock config name => cases kept

end Texts

section Precision

variable {k : Crypto} {b : Backend} {app : App} {w w' : GwWorld} {a : GwAction} {i : ℕ} {c : Choice}
variable {m m' : WebhookQueueMessage} {report : WebhookReport}

theorem mem_arrivals (arrived : Arrived app w m) : ∃ p raw, app.providers m.provider = some p ∧
    app.verifyAndParseWebhook p raw = .ok m.event ∧ (p, m) ∈ arrivals app w := by
  obtain ⟨t, mem, raw, p, started, configured, verified⟩ := arrived
  refine ⟨p, raw, configured, verified, List.mem_filterMap.mpr ⟨t, mem, ?_⟩⟩
  simp only [arrival, started, configured, verified, Except.toOption, Option.map_some]

/-- Deliveries that share an unambiguous text are of one provider and about
one reference. -/
theorem shared_text (adapted : Adapted k app) (wired : Wired app.providers)
    (unambiguous : Unambiguous app w report) (arrived : Arrived app w m)
    (arrived' : Arrived app w m') (same : m.event.eventId = report.eventId)
    (same' : m'.event.eventId = report.eventId) :
    m.provider = m'.provider ∧ m.event.providerReference = m'.event.providerReference := by
  obtain ⟨p, raw, configured, verified, mem⟩ := mem_arrivals arrived
  obtain ⟨p', raw', configured', verified', mem'⟩ := mem_arrivals arrived'
  cases kept : apart p p' with
  | false => exact unambiguous (p, m) mem (p', m') mem' kept same same'
  | true =>
    obtain ⟨now, parsed⟩ := adapted p raw m.event verified
    obtain ⟨now', parsed'⟩ := adapted p' raw' m'.event verified'
    obtain ⟨one, reference⟩ := apart_text kept parsed parsed' (same.trans same'.symm)
    refine ⟨?_, reference⟩
    rw [← wired _ p configured, ← wired _ p' configured', one]

/-- Where no payment carries the reference, the answer is not a duplicate. -/
theorem carried_of_duplicate {fp : PaymentRequest → String} {d : Draw} {L : Ledger}
    (answered : (execOp fp b d L (.applyWebhookEvent report)).2 = .ok .duplicate) :
    Carried L report.provider report.providerReference := by
  by_contra uncarried
  have unmatched : ∀ row ∈ L.payments.rows,
      ¬ Matches report.provider report.providerReference row :=
    fun row mem matching => uncarried ⟨row, mem, matching⟩
  have ends_ : Ends (exec b d) (fun _ r => r ≠ .ok .duplicate) 0 (Session.on L)
      (program fp b (.applyWebhookEvent report)) := by
    cases b with
    | sqlite =>
      simp only [program, SqliteStore.applyWebhookEvent, Sql.now, Sql.beginTransaction,
        Sql.selectByProviderReference, perform_bind]
      apply ends_now
      apply ends_beginTransaction
      · simp [internalErr]
      · apply ends_selectByProviderReference
        · simp [internalErr]
        · intro row mem matching
          exact absurd matching (unmatched row mem)
        · intro _
          simp
    | postgres =>
      simp only [program, PostgresStore.applyWebhookEvent, Sql.selectByProviderReference,
        perform_bind]
      apply ends_selectByProviderReference
      · simp [internalErr]
      · intro row mem matching
        exact absurd matching (unmatched row mem)
      · intro _
        simp
  exact ends_ answered

theorem recorded_of_duplicate {fp : PaymentRequest → String} {d : Draw} {L : Ledger}
    (answered : (execOp fp b d L (.applyWebhookEvent report)).2 = .ok .duplicate) :
    EventRecorded L report.eventId := by
  have outcome := execOp_outcome fp b d L (.applyWebhookEvent report)
  rw [answered] at outcome
  revert outcome
  generalize (execOp fp b d L (.applyWebhookEvent report)).1 = L'
  intro outcome
  cases outcome with
  | duplicate _ recorded => exact recorded

theorem precise_step (adapted : Adapted k app) (wired : Wired app.providers)
    (posted : Posted app w) (all : AllRecorded w) (foreseen : Foreseen app w a) :
    Precise b app w a := by
  rintro i c w' rfl adv report event
  obtain ⟨reacted, -⟩ := adv.of_event event
  obtain ⟨d, -, answered⟩ := react_store reacted
  have recorded := recorded_of_duplicate answered.symm
  have unambiguous := foreseen _ (applying_eq adv event) recorded
    (carried_of_duplicate answered.symm)
  have licensed := adv.licensed_event posted.sane.follows event
  obtain ⟨m, arrived, reports⟩ := arrived_of_licensed posted adv.mem (List.suffix_refl _) licensed
  obtain ⟨e, mem, same⟩ := recorded
  obtain ⟨earlier, kept⟩ := all e mem
  have before : ∃ o r, Happened w o ⟨.store (.applyWebhookEvent earlier), r⟩ := by
    obtain ⟨⟨o, r, happened, -⟩, -, -⟩ := kept
    exact ⟨o, r, happened⟩
  obtain ⟨o, r, happened⟩ := before
  obtain ⟨m', arrived', reports'⟩ := arrived_of_applied posted happened
  have text : earlier.eventId = report.eventId := kept.2.1.symm.trans same
  obtain ⟨providerId, parsed, rfl⟩ := reports
  obtain ⟨providerId', parsed', rfl⟩ := reports'
  obtain ⟨one, reference⟩ := shared_text adapted wired unambiguous arrived arrived' rfl text
  rw [one, parsed'] at parsed
  have providers : providerId' = providerId := Except.ok.inj parsed
  exact ⟨m', _, arrived', ⟨providerId', parsed', rfl⟩, ⟨e, mem, kept⟩, text, providers,
    reference.symm⟩

theorem duplicates_precise (adapted : Adapted k app) (wired : Wired app.providers)
    (apiKeys : List ApiKeyRow) (actions : List GwAction)
    (met : Meets (setting b app) (Foreseen app) (start apiKeys) actions) :
    Meets (setting b app) (Precise b app) (start apiKeys) actions := by
  apply meets_of_invariant (I := fun w => Posted app w ∧ AllRecorded w) ?_ ?_ ?_ met
  · rintro w a w' ⟨posted, all⟩ - stepped
    exact ⟨posted_step posted stepped, allRecorded_step all stepped⟩
  · rintro w a ⟨posted, all⟩ foreseen
    exact precise_step adapted wired posted all foreseen
  · exact ⟨posted_start apiKeys, allRecorded_start apiKeys⟩

end Precision

section Samples

/-! A shop with Stripe and the mock, one payment at each, and the mock's event
`evt_1`. -/

def mockText : String :=
  "\x7b\"event_id\":\"evt_1\",\"provider_reference\":\"mock_1\",\"status\":\"paid\"\x7d"

def mockJson : Json :=
  .obj [("event_id", .str "evt_1"), ("provider_reference", .str "mock_1"), ("status", .str "paid")]

def stripeText : String :=
  "\x7b\"id\":\"evt_1\",\"type\":\"checkout.session.expired\"," ++
    "\"data\":\x7b\"object\":\x7b\"id\":\"cs_1\"\x7d\x7d\x7d"

def stripeJson : Json :=
  .obj [("id", .str "evt_1"), ("type", .str "checkout.session.expired"),
    ("data", .obj [("object", .obj [("id", .str "cs_1")])])]

def bytes (text : String) : List UInt8 := text.toUTF8.data.toList

def counter : Crypto :=
  { knowing (bytes mockText) (bytes stripeText) mockJson stripeJson with
    hmacSha256 := fun _ _ => [0] }

def till : App :=
  { shop with
    verifyAndParseWebhook := verifyAndParseWebhook counter ⟨0⟩
    providers := fun name =>
      if name = "stripe" then
        some (.stripe ⟨"sk_live", some "whsec_1", StripeConfig.defaultBaseUrl, 300⟩)
      else if name = "mock" then some (.mock .default ProviderId.mock)
      else none }

theorem till_adapted : Adapted counter till := fun _ _ _ accepted => ⟨⟨0⟩, accepted⟩

theorem till_wired : Wired till.providers := by
  intro name p configured
  simp only [till] at configured
  split at configured
  next is =>
    cases configured
    exact is.symm
  · split at configured
    next is =>
      cases configured
      exact is.symm
    · cases configured

def creation (key provider : String) : Origin :=
  .http ⟨[("idempotency-key", .text key)]⟩ (.createPayment (orderBody provider))

/-- Task `i` creates the payment and is told its reference. -/
def created (i : ℕ) (key : String) (provider : ProviderId) (reference : String) :
    List GwAction :=
  [.spawn (creation key provider.asStr), .advance i (.acquired true),
    .advance i (.draw (quietDraw (i + 1))),
    .advance i (.created (.ok { orderResult with provider, providerReference := reference })),
    .advance i (.draw (quietDraw 0))]

def fromMock : Origin := .webhook "mock" ⟨bytes mockText, [("x-mock-signature", "00")], []⟩

def fromStripe : Origin :=
  .webhook "stripe" ⟨bytes stripeText, [("stripe-signature", "t=0,v1=00")], []⟩

def opened : List GwAction :=
  created 0 "order-1" ProviderId.stripe "cs_1" ++ created 1 "order-2" ProviderId.mock "mock_1" ++
    [.spawn fromMock, .advance 2 (.draw (quietDraw 0))]

def clashing : List GwAction := opened ++ [.spawn fromStripe]

def repeating : List GwAction := opened ++ [.spawn fromMock]

def answeredDuplicate : GwEvent → Option WebhookReport
  | ⟨.store (.applyWebhookEvent report), .ok .duplicate⟩ => some report
  | _ => none

def appliedFrom (provider : ProviderId) : GwEvent → Bool
  | ⟨.store (.applyWebhookEvent report), _⟩ => report.provider == provider
  | _ => false

theorem answeredDuplicate_eq {ev : GwEvent} {report : WebhookReport}
    (answered : answeredDuplicate ev = some report) :
    ev = told (.applyWebhookEvent report) .duplicate := by
  unfold answeredDuplicate at answered
  split at answered
  · cases answered
    rfl
  · cases answered

/-- What task 3 is answered in the last step of a precise run was seen. -/
theorem seen_of_answered {b : Backend} {app : App} {w w' : GwWorld} {c : Choice}
    {report : WebhookReport} (precise : Precise b app w (.advance 3 c))
    (stepped : step (setting b app) w (.advance 3 c) = some w')
    (answered : (w'.tasks[3]?.bind fun t => t.history.head?.bind answeredDuplicate) = some report) :
    Seen app w report := by
  obtain ⟨o, is, -⟩ | ⟨i, c', is, ⟨adv⟩⟩ | ⟨i, t, is, -, -⟩ := step_cases stepped
  · cases is
  · cases is
    have inside : 3 < w.tasks.length := (List.getElem?_eq_some_iff.mp adv.found).1
    rw [adv.tasks_eq, List.getElem?_set_self inside] at answered
    exact precise 3 c w' rfl adv report (answeredDuplicate_eq answered)
  · cases is

theorem duplicates_imprecise : ¬ ∀ (k : Crypto) (b : Backend) (app : App), Adapted k app →
    Wired app.providers → ∀ apiKeys actions,
      Meets (setting b app) (Precise b app) (start apiKeys) actions := by
  intro claimed
  have met := claimed counter .sqlite till till_adapted till_wired []
    (clashing ++ [.advance 3 (.draw (quietDraw 0))])
  have ends_in : (run (setting .sqlite till) (start []) clashing).any (fun w =>
      ((step (setting .sqlite till) w (.advance 3 (.draw (quietDraw 0)))).bind fun w' =>
        w'.tasks[3]?.bind fun t => t.history.head?.bind answeredDuplicate).any (fun report =>
          report.provider == ProviderId.stripe) &&
      !w.tasks.any fun t => t.history.any (appliedFrom ProviderId.stripe)) = true := by
    decide +kernel
  obtain ⟨w, ran, facts⟩ := (Option.any_eq_true _ _).mp ends_in
  obtain ⟨last, unseen⟩ := (Bool.and_eq_true _ _).mp facts
  obtain ⟨report, answered, from_⟩ := (Option.any_eq_true _ _).mp last
  obtain ⟨w', stepped, answered⟩ := Option.bind_eq_some_iff.mp answered
  obtain ⟨m, earlier, -, -, ⟨e, -, kept⟩, -, one, -⟩ :=
    seen_of_answered (met.last ran) stepped answered
  obtain ⟨⟨o, r, ⟨t, mem, -, known⟩, -⟩, -, -⟩ := kept
  have applied : (w.tasks.any fun t => t.history.any (appliedFrom ProviderId.stripe)) = true := by
    refine List.any_eq_true.mpr ⟨t, mem, List.any_eq_true.mpr ⟨_, known, ?_⟩⟩
    show (earlier.provider == ProviderId.stripe) = true
    rw [one]
    exact from_
  rw [applied] at unseen
  cases unseen

/-- The mock's event, delivered twice. -/
theorem duplicates_precise_repeated :
    (∃ w, run (setting .sqlite till) (start []) (repeating ++ [.advance 3 (.draw (quietDraw 0))]) =
      some w ∧ (w.tasks[3]?.bind fun t => t.history.head?.bind answeredDuplicate).isSome = true) ∧
    Meets (setting .sqlite till) (Precise .sqlite till) (start [])
      (repeating ++ [.advance 3 (.draw (quietDraw 0))]) := by
  constructor
  · have ends_in : (run (setting .sqlite till) (start [])
        (repeating ++ [.advance 3 (.draw (quietDraw 0))])).any (fun w =>
          (w.tasks[3]?.bind fun t => t.history.head?.bind answeredDuplicate).isSome) = true := by
      decide +kernel
    obtain ⟨w, ran, answered⟩ := (Option.any_eq_true _ _).mp ends_in
    exact ⟨w, ran, answered⟩
  · exact duplicates_precise till_adapted till_wired [] _ (by decide +kernel)

end Samples

end OpenWrapper.DedupPrecision
