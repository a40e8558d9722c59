import OpenWrapper.CallbackWrites

/-! # Which callbacks are authenticated

A webhook route should change a row only for a body whose signature it has
verified, and only a row of its own provider. The Paymob and Fawry routes do.
The Stripe route looks a session up without naming the provider, and the mock
route neither requires a signature nor names the provider. -/

set_option autoImplicit false

namespace OpenWrapper.CallbackAuthentication
open OpenWrapper.Ids OpenWrapper.Payments OpenWrapper.Schema OpenWrapper.Providers
open OpenWrapper.JsonValue OpenWrapper.JavaScript OpenWrapper.WebDatabase
open OpenWrapper.CallbackRoutes OpenWrapper.CallbackWrites
open OpenWrapper.Suspended OpenWrapper.Suspended.Prog

section Signatures

variable (host : Host)

/-- The signature of the route's provider over the body is there, and it is the
one the configured secret gives. -/
def Signed : Route → CallbackRequest → Prop
  | .paymob, req => ∃ payload hmac config, readPayload host req = .ok payload ∧
      Paymob.receivedHmac host req (some payload) = some hmac ∧
      truthy host.numberText hmac = true ∧ Paymob.getPaymobConfig host = some config ∧
      Paymob.verifyPaymobHmac host (some payload) hmac config.hmacSecret = some true
  | .fawry, req => ∃ payload f config, readPayload host req = .ok payload ∧
      Fawry.readFields host (some payload) = some f ∧ f.signature ≠ "" ∧
      Fawry.getFawryConfig host = some config ∧
      Fawry.verifyFawryWebhookSignature host f config.secureKey = true
  | .stripe, req => ∃ secret signature event,
      host.variableOf "STRIPE_WEBHOOK_SECRET" = some secret ∧
      nonEmpty (req.header "stripe-signature") = some signature ∧
      host.constructEvent req.bodyText signature secret = some event
  | .mock, req => Mock.sigHeader req ≠ "" ∧ Mock.verified host req req.bodyText = true

variable {host} {req : CallbackRequest}

theorem readLimited_eq_some {maxBytes bytes : ℕ} {body read : String}
    (within : readLimitedTextBody maxBytes bytes body = some read) : read = body := by
  unfold readLimitedTextBody at within
  split at within
  · cases within
  · exact (Option.some.inj within).symm

theorem paymob_signed {cb : Paymob.Callback} (ok : Paymob.inspect host req = .ok cb) :
    Signed host .paymob req := by
  simp only [Paymob.inspect, bind_eq_ok, orCrash_eq_ok] at ok
  obtain ⟨payload, parsed, hmac, received, ok⟩ := ok
  split at ok
  · cases ok
  next config configured =>
    by_cases present : truthy host.numberText hmac = true
    · simp only [present, Bool.not_true, Bool.false_eq_true, if_false, bind_eq_ok,
        orCrash_eq_ok] at ok
      obtain ⟨verified, checked, ok⟩ := ok
      cases verified with
      | false => cases ok
      | true => exact ⟨payload, hmac, config, parsed, received, present, configured, checked⟩
    · simp [present] at ok

theorem fawry_signed {f : Fawry.Fields} (ok : Fawry.inspect host req = .ok f) :
    Signed host .fawry req := by
  simp only [Fawry.inspect, bind_eq_ok, orCrash_eq_ok] at ok
  obtain ⟨payload, parsed, fields, read, ok⟩ := ok
  split at ok
  · cases ok
  · split at ok
    · cases ok
    next config configured =>
      by_cases absent : fields.signature = ""
      · simp [absent] at ok
      · by_cases checked : Fawry.verifyFawryWebhookSignature host fields config.secureKey = true
        · exact ⟨payload, fields, config, parsed, read, absent, configured, checked⟩
        · simp [absent, checked] at ok

theorem stripe_signed {event : Json} (ok : Stripe.inspect host req = .ok event) :
    Signed host .stripe req := by
  unfold Stripe.inspect at ok
  split at ok
  · cases ok
  next rawBody within =>
    split at ok
    · cases ok
    · split at ok
      · cases ok
      next secret configured =>
        split at ok
        · cases ok
        next signature present =>
          split at ok
          · cases ok
          next event' constructed =>
            rw [readLimited_eq_some within] at constructed
            exact ⟨secret, signature, event', configured, present, constructed⟩

theorem mock_signed {cb : Mock.Callback} (ok : Mock.inspect host req = .ok cb)
    (present : Mock.sigHeader req ≠ "") : Signed host .mock req := by
  simp only [Mock.inspect, bind_eq_ok] at ok
  obtain ⟨payload, parsed, ok⟩ := ok
  refine ⟨present, ?_⟩
  by_contra unverified
  rw [Bool.not_eq_true] at unverified
  simp [present, unverified] at ok

end Signatures

section Reaching

variable (host : Host) (D : Database)

/-- The row a mock callback may find: one with the id it names, or, if there is
none, one with its reference. -/
def MockFinds (cb : Mock.Callback) (row : PaymentRow) : Prop :=
  finds (Mock.byId cb) row = true ∨
    (∀ other ∈ D.ledger.payments.rows, finds (Mock.byId cb) other = false) ∧
      finds (Mock.byReference cb) row = true

/-- The request is accepted, its lookup may find the row, and the guard lets
the status through. -/
def Reaches : Route → CallbackRequest → PaymentRow → Prop
  | .paymob, req, row => ∃ cb, Paymob.inspect host req = .ok cb ∧
      finds (Paymob.test cb) row = true ∧ isIllegal row.status cb.status = false
  | .fawry, req, row => ∃ f, Fawry.inspect host req = .ok f ∧
      finds (Fawry.test f) row = true ∧ isIllegal row.status (Fawry.statusOf f.orderStatus) = false
  | .stripe, req, row => ∃ event cb, Stripe.inspect host req = .ok event ∧
      Stripe.read host event = some (some cb) ∧ Stripe.test host cb row = true ∧
      isIllegal row.status cb.status = false
  | .mock, req, row => ∃ cb, Mock.inspect host req = .ok cb ∧ MockFinds D cb row ∧
      isIllegal row.status cb.status = false

variable {host D} {req : CallbackRequest} {draws : ℕ → WebDraw} {w : PaymentRow × WebEdit}
variable {row : PaymentRow}

/-- What the Paymob and Fawry routes do once the payment is settled. -/
theorem silent_noted (lead known provider : String) (answer : Answer)
    (r : Except SqlError (Option (Text PaymentId))) :
    Silent (match r with
      | .error _ => pure Answer.crashed
      | .ok paymentId => do
        let eventId ← eventIdOr lead known
        match ← Web.recordEvent eventId provider paymentId with
        | .error _ => pure Answer.crashed
        | .ok () => pure answer) := by
  cases r with
  | error e => trivial
  | ok paymentId =>
    apply (silent_eventIdOr lead known).bind
    intro eventId
    apply (silent_record eventId provider paymentId).bind
    intro r
    cases r <;> trivial

theorem silent_stripe_record (event : Json) (paymentId : Option (Text PaymentId)) :
    Silent (Stripe.record host event paymentId) := by
  have rest (eventId : String) : Silent (do
      match ← Web.recordEvent eventId "stripe" paymentId with
      | .error _ => pure Stripe.failed
      | .ok () => pure ⟨200, .receivedEvent eventId⟩ : Web Answer) := by
    apply (silent_record eventId "stripe" paymentId).bind
    intro r
    cases r <;> trivial
  unfold Stripe.record
  split
  · split
    · exact rest _
    · exact ⟨rfl, fun now => rest _⟩
  · exact ⟨rfl, fun now => rest _⟩

theorem silent_stripe (event : Json) (r : Except SqlError (Option (Text PaymentId))) :
    Silent (match r with
      | .error _ => pure Stripe.failed
      | .ok paymentId => Stripe.record host event paymentId) := by
  cases r with
  | error e => trivial
  | ok paymentId => exact silent_stripe_record event paymentId

theorem silent_mock (eventId : String) (r : Except SqlError (Option (Text PaymentId))) :
    Silent (match r with
      | .error _ => pure ()
      | .ok paymentId => do
        let _ ← Web.recordEvent eventId "mock" paymentId
        pure () : Web Unit) := by
  cases r with
  | error e => trivial
  | ok paymentId => exact ⟨rfl, fun r => trivial⟩

theorem mem_writes_paymob (wrote : w ∈ writes draws 0 D (Paymob.post host req)) :
    ∃ cb, Paymob.inspect host req = .ok cb ∧ w.1 ∈ D.ledger.payments.rows ∧
      finds (Paymob.test cb) w.1 = true ∧ isIllegal w.1.status cb.status = false ∧
      w.2 = Paymob.edit cb (D.row w.1) := by
  unfold Paymob.post at wrote
  split at wrote
  · cases wrote
  next cb ok =>
    exact ⟨cb, ok,
      mem_writes_lookupAndSettle (silent_noted "pm_evt_" cb.transactionId "paymob" _) wrote⟩

theorem writes_paymob_favoured {cb : Paymob.Callback} (ok : Paymob.inspect host req = .ok cb)
    (mem : row ∈ D.ledger.payments.rows) (passes : finds (Paymob.test cb) row = true)
    (legal : isIllegal row.status cb.status = false) :
    writes (fun _ => favouring row) 0 D (Paymob.post host req) =
      [(row, Paymob.edit cb (D.row row))] := by
  simp only [Paymob.post, ok]
  exact writes_lookupAndSettle_favoured (silent_noted "pm_evt_" cb.transactionId "paymob" _) mem
    passes legal

theorem paymob_reaches (wrote : w ∈ writes draws 0 D (Paymob.post host req)) :
    w.1 ∈ D.ledger.payments.rows ∧ Reaches host D .paymob req w.1 := by
  obtain ⟨cb, ok, mem, passes, legal, -⟩ := mem_writes_paymob wrote
  exact ⟨mem, cb, ok, passes, legal⟩

theorem mem_writes_fawry (wrote : w ∈ writes draws 0 D (Fawry.post host req)) :
    ∃ f, Fawry.inspect host req = .ok f ∧ w.1 ∈ D.ledger.payments.rows ∧
      finds (Fawry.test f) w.1 = true ∧
      isIllegal w.1.status (Fawry.statusOf f.orderStatus) = false ∧
      w.2 = Fawry.edit f (D.row w.1) := by
  unfold Fawry.post at wrote
  split at wrote
  · cases wrote
  next f ok =>
    exact ⟨f, ok,
      mem_writes_lookupAndSettle (silent_noted "fw_evt_" f.fawryRefNumber "fawry" _) wrote⟩

theorem fawry_reaches (wrote : w ∈ writes draws 0 D (Fawry.post host req)) :
    w.1 ∈ D.ledger.payments.rows ∧ Reaches host D .fawry req w.1 := by
  obtain ⟨f, ok, mem, passes, legal, -⟩ := mem_writes_fawry wrote
  exact ⟨mem, f, ok, passes, legal⟩

theorem mem_writes_stripe (wrote : w ∈ writes draws 0 D (Stripe.post host req)) :
    ∃ event cb, Stripe.inspect host req = .ok event ∧ Stripe.read host event = some (some cb) ∧
      w.1 ∈ D.ledger.payments.rows ∧ Stripe.test host cb w.1 = true ∧
      isIllegal w.1.status cb.status = false ∧ w.2 = Stripe.edit cb (D.row w.1) := by
  unfold Stripe.post at wrote
  split at wrote
  · cases wrote
  next event ok =>
    unfold Stripe.work at wrote
    split at wrote
    · cases wrote
    · simp [(silent_stripe_record _ _).writes] at wrote
    next cb read =>
      exact ⟨event, cb, ok, read, mem_writes_lookupAndSettle (silent_stripe event) wrote⟩

theorem stripe_reaches (wrote : w ∈ writes draws 0 D (Stripe.post host req)) :
    w.1 ∈ D.ledger.payments.rows ∧ Reaches host D .stripe req w.1 := by
  obtain ⟨event, cb, ok, read, mem, passes, legal, -⟩ := mem_writes_stripe wrote
  exact ⟨mem, event, cb, ok, read, passes, legal⟩

theorem dbWork_finds {n : ℕ} {eventId : String} {cb : Mock.Callback}
    (wrote : w ∈ writes draws n D (Mock.dbWork eventId cb)) :
    w.1 ∈ D.ledger.payments.rows ∧ MockFinds D cb w.1 ∧ isIllegal w.1.status cb.status = false ∧
      w.2 = Mock.edit cb (D.row w.1) := by
  unfold Mock.dbWork at wrote
  obtain ⟨m, r, looked, wrote⟩ := mem_writes_lookup wrote
  match r, looked, wrote with
  | .error e, _, wrote => cases wrote
  | .ok none, absent, wrote =>
    obtain ⟨m', r', looked', wrote⟩ := mem_writes_lookup wrote
    match r', looked', wrote with
    | .error e, _, wrote => cases wrote
    | .ok none, _, wrote => exact absurd wrote (not_mem_writes_settle (silent_mock eventId))
    | .ok (some _), ⟨row, mem, passes, rfl⟩, wrote =>
      obtain ⟨rfl, legal⟩ := mem_writes_settle mem (silent_mock eventId) wrote
      exact ⟨mem, .inr ⟨absent, passes⟩, legal, rfl⟩
  | .ok (some _), ⟨row, mem, passes, rfl⟩, wrote =>
    obtain ⟨rfl, legal⟩ := mem_writes_settle mem (silent_mock eventId) wrote
    exact ⟨mem, .inl passes, legal, rfl⟩

theorem dbWork_favoured {n : ℕ} {eventId : String} {cb : Mock.Callback}
    (mem : row ∈ D.ledger.payments.rows) (found : MockFinds D cb row)
    (legal : isIllegal row.status cb.status = false) :
    writes (fun _ => favouring row) n D (Mock.dbWork eventId cb) =
      [(row, Mock.edit cb (D.row row))] := by
  unfold Mock.dbWork
  rcases found with passes | ⟨absent, passes⟩
  · rw [writes_lookup_favoured mem passes]
    exact writes_settle_favoured mem (silent_mock eventId) legal
  · obtain ⟨m, same⟩ := writes_lookup_absent absent
    rw [same]
    apply (writes_lookup_favoured mem passes).trans
    exact writes_settle_favoured mem (silent_mock eventId) legal

/-- The mock route overwrites what its database work does. -/
theorem writes_mock (draws : ℕ → WebDraw) (D : Database) (cb : Mock.Callback) :
    ∃ m eventId, writes draws 0 D (Mock.work cb) = writes draws m D (Mock.dbWork eventId cb) := by
  unfold Mock.work
  cases cb.eventId with
  | some eventId => exact ⟨0, eventId, writes_bind_done _ _⟩
  | none =>
    obtain ⟨m, eventId, minted⟩ := writes_eventIdOr "mock_evt_" "" fun eventId =>
      Mock.dbWork eventId cb >>= fun _ =>
        .done (⟨200, .received (some "mock") cb.status⟩ : Answer)
    exact ⟨m, eventId, minted.trans (writes_bind_done _ _)⟩

theorem mem_writes_mock (wrote : w ∈ writes draws 0 D (Mock.post host req)) :
    ∃ cb, Mock.inspect host req = .ok cb ∧ w.1 ∈ D.ledger.payments.rows ∧ MockFinds D cb w.1 ∧
      isIllegal w.1.status cb.status = false ∧ w.2 = Mock.edit cb (D.row w.1) := by
  unfold Mock.post at wrote
  split at wrote
  · cases wrote
  next cb ok =>
    obtain ⟨m, eventId, same⟩ := writes_mock draws D cb
    rw [same] at wrote
    exact ⟨cb, ok, dbWork_finds wrote⟩

theorem mock_reaches (wrote : w ∈ writes draws 0 D (Mock.post host req)) :
    w.1 ∈ D.ledger.payments.rows ∧ Reaches host D .mock req w.1 := by
  obtain ⟨cb, ok, mem, found, legal, -⟩ := mem_writes_mock wrote
  exact ⟨mem, cb, ok, found, legal⟩

/-- Whatever a route overwrites, its request reaches. -/
theorem reaches_of_writes {route : Route} (wrote : w ∈ writes draws 0 D (route.post host req)) :
    w.1 ∈ D.ledger.payments.rows ∧ Reaches host D route req w.1 := by
  cases route with
  | paymob => exact paymob_reaches wrote
  | fawry => exact fawry_reaches wrote
  | stripe => exact stripe_reaches wrote
  | mock => exact mock_reaches wrote

/-- And it overwrites any row its request reaches, under some draws. -/
theorem writes_of_reaches {route : Route} (mem : row ∈ D.ledger.payments.rows)
    (reaches : Reaches host D route req row) :
    ∃ edit, writes (fun _ => favouring row) 0 D (route.post host req) = [(row, edit)] := by
  cases route with
  | paymob =>
    obtain ⟨cb, ok, passes, legal⟩ := reaches
    exact ⟨Paymob.edit cb (D.row row), writes_paymob_favoured ok mem passes legal⟩
  | fawry =>
    obtain ⟨f, ok, passes, legal⟩ := reaches
    refine ⟨Fawry.edit f (D.row row), ?_⟩
    simp only [Route.post, Fawry.post, ok]
    exact writes_lookupAndSettle_favoured (silent_noted "fw_evt_" f.fawryRefNumber "fawry" _) mem
      passes legal
  | stripe =>
    obtain ⟨event, cb, ok, read, passes, legal⟩ := reaches
    refine ⟨Stripe.edit cb (D.row row), ?_⟩
    simp only [Route.post, Stripe.post, ok, Stripe.work, read]
    exact writes_lookupAndSettle_favoured (silent_stripe event) mem passes legal
  | mock =>
    obtain ⟨cb, ok, found, legal⟩ := reaches
    refine ⟨Mock.edit cb (D.row row), ?_⟩
    simp only [Route.post, Mock.post, ok]
    obtain ⟨m, eventId, same⟩ := writes_mock (fun _ => favouring row) D cb
    rw [same]
    exact dbWork_favoured mem found legal

/-- An accepted request is signed, and its lookup names the provider. -/
theorem reaches_paymob (reaches : Reaches host D .paymob req row) :
    Signed host .paymob req ∧ row.provider = .stored ProviderId.paymob := by
  obtain ⟨cb, ok, passes, -⟩ := reaches
  refine ⟨paymob_signed ok, ?_⟩
  unfold Paymob.test at passes
  split at passes
  · cases passes
  · simp only [finds, Bool.and_eq_true, beq_iff_eq] at passes
    exact passes.1

theorem reaches_fawry (reaches : Reaches host D .fawry req row) :
    Signed host .fawry req ∧ row.provider = .stored ProviderId.fawry := by
  obtain ⟨f, ok, passes, -⟩ := reaches
  refine ⟨fawry_signed ok, ?_⟩
  unfold Fawry.test at passes
  split at passes
  · cases passes
  · simp only [finds, Bool.and_eq_true, beq_iff_eq] at passes
    exact passes.1

end Reaching

section Main

/-- What the Stripe and mock routes leave to the caller. -/
def Guarded (host : Host) (D : Database) (req : CallbackRequest) : Route → Prop
  | .paymob => True
  | .fawry => True
  | .stripe => ∀ row ∈ D.ledger.payments.rows, Reaches host D .stripe req row →
      row.provider = .stored ProviderId.stripe
  | .mock => ∀ row ∈ D.ledger.payments.rows, Reaches host D .mock req row →
      Mock.sigHeader req ≠ "" ∧ row.provider = .stored ProviderId.mock

variable {host : Host} {D : Database} {req : CallbackRequest} {route : Route}

theorem guarded_iff_reaches : Guarded host D req route ↔ ∀ row ∈ D.ledger.payments.rows,
    Reaches host D route req row →
      Signed host route req ∧ row.provider = .stored route.provider := by
  cases route with
  | paymob => exact ⟨fun _ row _ reaches => reaches_paymob reaches, fun _ => trivial⟩
  | fawry => exact ⟨fun _ row _ reaches => reaches_fawry reaches, fun _ => trivial⟩
  | stripe =>
    constructor
    · intro guarded row mem reaches
      obtain ⟨event, cb, ok, _⟩ := id reaches
      exact ⟨stripe_signed ok, guarded row mem reaches⟩
    · intro held row mem reaches
      exact (held row mem reaches).2
  | mock =>
    constructor
    · intro guarded row mem reaches
      obtain ⟨cb, ok, _⟩ := id reaches
      obtain ⟨present, provider⟩ := guarded row mem reaches
      exact ⟨mock_signed ok present, provider⟩
    · intro held row mem reaches
      obtain ⟨signed, provider⟩ := held row mem reaches
      exact ⟨signed.1, provider⟩

variable (host D req route)

/-- A callback changes only rows of its provider, and only once verified,
exactly if what the Stripe and mock routes do not check holds anyway. -/
theorem callback_authenticated_iff :
    (∀ draws, ∀ w ∈ writes draws 0 D (route.post host req),
      Signed host route req ∧ w.1.provider = .stored route.provider) ↔
      Guarded host D req route := by
  rw [guarded_iff_reaches]
  constructor
  · intro held row mem reaches
    obtain ⟨edit, wrote⟩ := writes_of_reaches mem reaches
    exact held (fun _ => favouring row) (row, edit) (by rw [wrote]; exact List.mem_singleton_self _)
  · intro held draws w wrote
    obtain ⟨mem, reaches⟩ := reaches_of_writes wrote
    exact held w.1 mem reaches

end Main

section Samples

/-- A payment that the gateway created and left pending. -/
def pendingRow (n : ℕ) (key : IdempotencyKey) (provider : ProviderId)
    (reference merchantReference : String) : PaymentRow where
  id := .stored ⟨n⟩
  idempotencyKey := .stored key
  requestFingerprint := ""
  provider := .stored provider
  providerReference := some reference
  status := .stored .pending
  amountMinorUnits := 100
  currency := .stored .egp
  merchantReference := some merchantReference
  nextActionJson := none
  userId := none
  apiKeyId := none
  environment := "test"
  createdAt := ⟨0⟩
  updatedAt := ⟨0⟩

def holding (rows : List PaymentRow) (distinct : rows.Pairwise fun a b => ¬ PaymentClash a b) :
    Database where
  ledger := ⟨⟨rows, distinct⟩, ConstraintTable.Table.empty, ConstraintTable.Table.empty⟩
  web _ := WebColumns.unset

/-- A host whose JSON reader knows the given documents. -/
def hostOf (env : List (String × String)) (documents : List (String × Json)) : Host where
  env name := (env.find? fun entry => entry.1 == name).map Prod.snd
  parseJson text := (documents.find? fun entry => entry.1 == text).map Prod.snd
  numberText := id
  hmacSha256Hex key message := key ++ message
  hmacSha512Hex key message := key ++ message
  sha256Hex := id
  constructEvent _ _ _ := none
  bindText _ := ""

def unsignedBody : String :=
  "\x7b\"merchant_reference\":\"INV-1\",\"status\":\"succeeded\"\x7d"

def unsigned : CallbackRequest := ⟨none, [], 51, unsignedBody⟩

/-- A body without any signature, posted to the mock route, marks a Stripe
payment as succeeded. -/
theorem callback_not_authenticated : ¬ ∀ (host : Host) (req : CallbackRequest) (D : Database)
    (route : Route) (draws : ℕ → WebDraw), ∀ w ∈ writes draws 0 D (route.post host req),
    Signed host route req ∧ w.1.provider = .stored route.provider := by
  intro claim
  let host : Host := hostOf [] [(unsignedBody, .obj [("merchant_reference", .str "INV-1"),
    ("status", .str "succeeded")])]
  let row := pendingRow 1 .order ProviderId.stripe "cs_1" "INV-1"
  let D := holding [row] (List.pairwise_singleton _ _)
  have reaches : Reaches host D .mock unsigned row :=
    ⟨⟨none, "", "INV-1", .succeeded, ""⟩, by decide +kernel, .inr ⟨fun _ _ => rfl, by decide⟩,
      by decide⟩
  obtain ⟨edit, wrote⟩ := writes_of_reaches (List.mem_singleton_self row) reaches
  have signed := (claim host unsigned D .mock (fun _ => favouring row) (row, edit)
    (by rw [wrote]; exact List.mem_singleton_self _)).1
  exact signed.1 (by decide)

end Samples

end OpenWrapper.CallbackAuthentication
