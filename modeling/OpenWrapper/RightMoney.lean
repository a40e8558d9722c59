import OpenWrapper.CallbackAuthentication
import OpenWrapper.CallbackReferences
import OpenWrapper.WebhookOrder

/-! # The money of a callback

A callback that marks a payment as succeeded should carry the payment's own
amount and currency. The gateway compares an amount if there is one, and no
currency; the routes of the web application compare neither. -/

set_option autoImplicit false

namespace OpenWrapper.RightMoney
open OpenWrapper.Ids OpenWrapper.Payments OpenWrapper.Amounts OpenWrapper.Providers
open OpenWrapper.JsonValue OpenWrapper.Schema OpenWrapper.ConstraintTable
open OpenWrapper.PaymentStore OpenWrapper.StatementRules OpenWrapper.StoreContract
open OpenWrapper.WebDatabase OpenWrapper.CallbackRoutes OpenWrapper.CallbackWrites
open OpenWrapper.CallbackAuthentication OpenWrapper.WebhookAdapters OpenWrapper.Evolution
open OpenWrapper.Suspended OpenWrapper.Suspended.Prog

/-- The currency an object names. -/
def currencyOf (o : Json) : Option Currency :=
  ((o.get "currency").bind Json.asStr).bind fun code => (Currency.parse code).toOption

/-- The amount and the currency are those of the payment. -/
def Right (amount : Option ℤ) (currency : Option Currency) (row : PaymentRow) : Prop :=
  amount = some row.amountMinorUnits ∧ ∃ c, currency = some c ∧ row.currency = .stored c

section Documents

variable (k : Crypto) (p : Provider) (raw : RawWebhookRequest)

def documentOf : Option Json := (k.fromSlice raw.rawBody).toOption

/-- The part of the document that says what was paid. -/
def objectOf : Option Json :=
  match p with
  | .paymob _ => (documentOf k raw).bind fun payload => payload.get "obj"
  | .fawry _ | .mock _ _ => documentOf k raw
  | .stripe _ => ((documentOf k raw).bind fun json => json.get "data").bind fun data =>
      data.get "object"

def amountOf : Option ℤ :=
  match p with
  | .paymob _ => ((objectOf k p raw).bind fun obj => obj.get "amount_cents").bind asI64
  | .fawry _ => ((objectOf k p raw).bind fun payload => Fawry.getStr payload "paymentAmount").bind
      Fawry.decimalStrToMinorUnits
  | .stripe _ => (((documentOf k raw).bind fun json => Stripe.nonBlankStr json "type").bind
      Stripe.EventKind.ofType).bind fun kind => (objectOf k p raw).bind kind.amount
  | .mock _ _ => ((objectOf k p raw).bind Mock.Payload.read).bind Mock.Payload.amountMinorUnits

variable {k p raw} {time : Instant} {event : WebhookEvent}

/-- The amount an adapter reports is the one the document carries. -/
theorem carried_amount (verified : verifyAndParseWebhook k time p raw = .ok event) :
    event.reportedAmountMinorUnits = amountOf k p raw := by
  cases p with
  | paymob config =>
    obtain ⟨obj, hmac, ⟨-, ⟨payload, parsed, within⟩, -⟩, read⟩ :=
      WebhookAdapters.Paymob.verifyAndParse_ok.mp verified
    obtain ⟨id, amount, success, pending, errorOccured, told⟩ :=
      WebhookAdapters.Paymob.parseVerifiedTransaction_ok.mp read
    have document : documentOf k raw = some payload := by rw [documentOf, parsed]; rfl
    rw [told.read]
    simp only [amountOf, objectOf, document, within, Option.bind_some]
    exact told.charged.symm
  | fawry config =>
    obtain ⟨payload, signature, fields, amount, signed, -, charged, -, rfl⟩ :=
      WebhookAdapters.Fawry.verifyAndParse_ok.mp verified
    have read := signed.read
    simp only [WebhookAdapters.Fawry.readFields, WebhookAdapters.bind_eq_ok,
      orMalformed_eq_ok] at read
    obtain ⟨reference, -, merchant, -, status, -, paid, carried, order, -, is⟩ := read
    cases is
    have document : documentOf k raw = some payload := by rw [documentOf, signed.parsed]; rfl
    simp only [amountOf, objectOf, document, Option.bind_some, carried]
    exact charged.symm
  | stripe config =>
    obtain ⟨-, json, parsed, read⟩ := WebhookAdapters.Stripe.verifyAndParse_ok.mp verified
    obtain ⟨eventId, kind, object, reference, ⟨-, ⟨type, typed, known⟩, within⟩, -, rfl⟩ :=
      WebhookAdapters.Stripe.parseEvent_ok.mp read
    have document : documentOf k raw = some json := by rw [documentOf, parsed]; rfl
    have inside : objectOf k (.stripe config) raw = some object := by
      rw [objectOf, document]
      exact within
    simp only [amountOf, inside, document, Option.bind_some, typed, known]
    rfl
  | mock config name =>
    obtain ⟨-, payload, status, read, -, rfl⟩ := WebhookAdapters.Mock.verifyAndParse_ok.mp verified
    show payload.amountMinorUnits = (Option.bind (documentOf k raw) _).bind _
    rw [documentOf, read]
    rfl

end Documents

/-- A callback on its way into the gateway's tables. -/
structure GatewayCallback where
  fingerprint : PaymentRequest → String
  backend : Backend
  ledger : Ledger
  crypto : Crypto
  time : Instant
  handler : Provider
  raw : RawWebhookRequest
  event : WebhookEvent
  provider : ProviderId

namespace GatewayCallback

variable (c : GatewayCallback)

def report : WebhookReport := Handlers.WebhookEvent.report c.event c.provider

def Verified : Prop := verifyAndParseWebhook c.crypto c.time c.handler c.raw = .ok c.event

def amount : Option ℤ := amountOf c.crypto c.handler c.raw

def currency : Option Currency := (objectOf c.crypto c.handler c.raw).bind currencyOf

/-- Some application of the event moves the payment to `Succeeded`. -/
def Succeeds (row : PaymentRow) : Prop :=
  row ∈ c.ledger.payments.rows ∧ row.status ≠ .stored .succeeded ∧
    ∃ d, ∃ row' ∈ (execOp c.fingerprint c.backend d c.ledger
      (.applyWebhookEvent c.report)).1.payments.rows,
      row'.id = row.id ∧ row'.status = .stored .succeeded

end GatewayCallback

/-- The lookup may find the payment, and no check stops the event. -/
structure Payable (b : Backend) (L : Ledger) (report : WebhookReport) (row : PaymentRow) : Prop where
  reports : report.reportedStatus = .succeeded
  matching : Matches report.provider report.providerReference row
  unsettled : row.status = .stored .pending ∨ row.status = .stored .unknown
  unrecorded : ∀ e ∈ L.webhookEvents.rows, e.eventId ≠ report.eventId
  agrees : AmountAgrees report row
  readable : b = .sqlite → ∃ id, row.id = .stored id

/-- A callback on its way into the web application's table. -/
structure WebCallback where
  host : Host
  route : Route
  req : CallbackRequest
  db : Database

namespace WebCallback

variable (c : WebCallback)

def Verified : Prop := Signed c.host c.route c.req

def object : Option Json :=
  match c.route with
  | .paymob => ((readPayload c.host c.req).toOption.bind fun payload =>
      Paymob.objOf c.host (some payload)).join
  | .fawry | .mock => (readPayload c.host c.req).toOption
  | .stripe => ((Stripe.inspect c.host c.req).toOption.bind fun event => event.get "data").bind
      fun data => data.get "object"

def amount : Option ℤ :=
  match c.route with
  | .paymob => (c.object.bind fun obj => obj.get "amount_cents").bind asI64
  | .fawry => (c.object.bind fun payload =>
      fieldText c.host (some payload) ["paymentAmount", "amount"] "").bind
      Fawry.decimalStrToMinorUnits
  | .stripe => (c.object.bind fun session => session.get "amount_total").bind asI64
  | .mock => (c.object.bind fun payload => payload.get "amount_minor_units").bind asI64

def currency : Option Currency := c.object.bind currencyOf

def reportedStatus : Option PaymentStatus :=
  match c.route with
  | .paymob => (Paymob.inspect c.host c.req).toOption.map Paymob.Callback.status
  | .fawry => (Fawry.inspect c.host c.req).toOption.map fun f => Fawry.statusOf f.orderStatus
  | .stripe => ((Stripe.inspect c.host c.req).toOption.bind fun event =>
      (Stripe.read c.host event).join).map Stripe.Callback.status
  | .mock => (Mock.inspect c.host c.req).toOption.map Mock.Callback.status

/-- Some run of the route moves the payment to `succeeded`. -/
def Succeeds (row : PaymentRow) : Prop :=
  row.status ≠ .stored .succeeded ∧ ∃ draws, ∃ w ∈ writes draws 0 c.db (c.route.post c.host c.req),
    w.1 = row ∧ w.2.status = .stored .succeeded

/-- The request is accepted, reports a success and reaches the payment. -/
def Settles (row : PaymentRow) : Prop :=
  c.reportedStatus = some .succeeded ∧ row.status ≠ .stored .succeeded ∧
    Reaches c.host c.db c.route c.req row

end WebCallback

inductive Callback where
  | gateway (c : GatewayCallback)
  | web (c : WebCallback)

namespace Callback

def Verified : Callback → Prop
  | gateway c => c.Verified
  | web c => c.Verified

def rows : Callback → List PaymentRow
  | gateway c => c.ledger.payments.rows
  | web c => c.db.ledger.payments.rows

def amount : Callback → Option ℤ
  | gateway c => c.amount
  | web c => c.amount

def currency : Callback → Option Currency
  | gateway c => c.currency
  | web c => c.currency

/-- Applying the callback may move the payment to `Succeeded`. -/
def Succeeds : Callback → PaymentRow → Prop
  | gateway c, row => c.Succeeds row
  | web c, row => c.Succeeds row

/-- Nothing that is checked keeps the callback from the payment. -/
def Unchecked : Callback → PaymentRow → Prop
  | gateway c, row => Payable c.backend c.ledger c.report row
  | web c, row => c.Settles row

/-- What is not checked: in the gateway that there is an amount and that the
currency is the payment's, on the web all of it. -/
def Covers : Callback → PaymentRow → Prop
  | gateway c, row => c.amount ≠ none ∧ ∃ u, c.currency = some u ∧ row.currency = .stored u
  | web c, row => Right c.amount c.currency row

end Callback

section Gateway

variable {fp : PaymentRequest → String} {b : Backend} {L : Ledger} {report : WebhookReport}
  {row : PaymentRow}

/-- Draws under which every statement is executed and the lookup comes to the
given row first. -/
def visiting (row : PaymentRow) : Draw where
  clock _ := ⟨0⟩
  fresh := ⟨0⟩
  visit other := if other = row then 0 else 1
  fails _ := false

theorem scan_visiting (mem : row ∈ L.payments.rows)
    (matching : Matches report.provider report.providerReference row) :
    ((scan (visiting row) L.payments.rows).find? fun row =>
      row.provider == .stored report.provider &&
        row.providerReference == some report.providerReference) = some row := by
  have before : ∀ other, other ≠ row → (visiting row).visit row < (visiting row).visit other :=
    fun other apart => by simp [visiting, apart]
  obtain ⟨rest, visited⟩ := insertionSort_first mem before
  have first : scan (visiting row) L.payments.rows = row :: rest := visited
  rw [first, List.find?_cons_of_pos]
  simp [matching.1, matching.2]

theorem unsettled_iff {current : PaymentStatus} :
    PaymentStatus.Legal current .succeeded ∧ current ≠ .succeeded ↔
      current = .pending ∨ current = .unknown := by
  cases current <;> decide

/-- A payable row is settled when the lookup comes to it first. -/
theorem payable_settled (mem : row ∈ L.payments.rows) (payable : Payable b L report row) :
    ∃ row' ∈ (execOp fp b (visiting row) L (.applyWebhookEvent report)).1.payments.rows,
      row'.id = row.id ∧ row'.status = .stored .succeeded := by
  obtain ⟨current, stored, unsettled⟩ : ∃ current, row.status = .stored current ∧
      (current = .pending ∨ current = .unknown) := by
    rcases payable.unsettled with stored | stored
    · exact ⟨.pending, stored, .inl rfl⟩
    · exact ⟨.unknown, stored, .inr rfl⟩
  obtain ⟨legal, differs⟩ := unsettled_iff.mpr unsettled
  rw [← payable.reports] at legal differs
  have finds := scan_visiting mem payable.matching
  have works : (visiting row).fails = fun _ => false := rfl
  have reads : row.status.parse = some current := by rw [stored]; rfl
  have fresh (received : Instant) : ∃ webhookEvents, L.webhookEvents.insert
      ((⟨report.eventId, report.provider, row.id, received⟩ : WebhookEventRow).kept b) =
        some webhookEvents := by
    cases wrote : L.webhookEvents.insert
        ((⟨report.eventId, report.provider, row.id, received⟩ : WebhookEventRow).kept b) with
    | some webhookEvents => exact ⟨webhookEvents, rfl⟩
    | none =>
      obtain ⟨e, known, clash⟩ := Table.insert_eq_none.mp wrote
      exact absurd clash (payable.unrecorded e known)
  have written (webhookEvents : Table WebhookEventRow EventClash) (now : Instant) :
      ∃ row' ∈ (({ L with webhookEvents } : Ledger).updatePayment row.id false
          ((statusEdit report.reportedStatus now).kept b)).payments.rows,
        row'.id = row.id ∧ row'.status = .stored report.reportedStatus :=
    updated_status mem rfl
  have one : Table.affected L.payments (targets row.id false) = 1 := affected_of_mem mem rfl
  rw [← payable.reports]
  cases b with
  | sqlite =>
    obtain ⟨webhookEvents, wrote⟩ := fresh ((visiting row).clock 0)
    obtain ⟨id, is⟩ := payable.readable rfl
    have parsed : row.id.parse = some id := by rw [is]; rfl
    have judged : SqliteStore.judge row report current ((visiting row).clock 0) =
        SqliteStore.applySqliteTransition row.id current report.reportedStatus
          ((visiting row).clock 0) := WebhookOrder.judge_agreed payable.agrees
    simpa [execOp, program, SqliteStore.applyWebhookEvent, exec, Stmt.run, works, Session.on, finds,
      Write.perform, wrote, reads, judged, SqliteStore.applySqliteTransition, differs,
      legal, one, parsed, Session.close] using written webhookEvents ((visiting row).clock 0)
  | postgres =>
    obtain ⟨webhookEvents, wrote⟩ := fresh ((visiting row).clock 1)
    have silent : (report.reportedAmountMinorUnits.any fun reported =>
        !decide (reported = row.amountMinorUnits)) = false := by
      rcases payable.agrees with amount | amount <;> simp [amount]
    cases parsed : row.id.parse with
    | some id =>
      simpa [execOp, program, PostgresStore.applyWebhookEvent, exec, Stmt.run, works, Session.on,
        finds, Write.perform, wrote, reads, silent, legal, parsed, Session.close]
        using written webhookEvents ((visiting row).clock 3)
    | none =>
      simpa [execOp, program, PostgresStore.applyWebhookEvent, exec, Stmt.run, works, Session.on,
        finds, Write.perform, wrote, reads, silent, legal, parsed, internalErr, Session.close]
        using written webhookEvents ((visiting row).clock 3)

theorem unrecorded_of_inserted {received : Instant}
    {webhookEvents : Table WebhookEventRow EventClash}
    (wrote : L.webhookEvents.insert
      ((⟨report.eventId, report.provider, row.id, received⟩ : WebhookEventRow).kept b) =
        some webhookEvents) :
    ∀ e ∈ L.webhookEvents.rows, e.eventId ≠ report.eventId :=
  (Table.insert_eq_some.mp wrote).1

/-- What an update of one payment leaves settled was settled, or is the row
the update is about. -/
theorem updated_of_settled {found : PaymentRow} {edit : PaymentEdit} {status : PaymentStatus}
    (sets : edit.status = some status) (inTable : found ∈ L.payments.rows)
    (mem : row ∈ L.payments.rows) (unsettled : row.status ≠ .stored .succeeded)
    (settled : ∃ row' ∈ (L.updatePayment found.id false edit).payments.rows,
      row'.id = row.id ∧ row'.status = .stored .succeeded) :
    found = row ∧ status = .succeeded := by
  obtain ⟨row', mem', same, now_⟩ := settled
  obtain ⟨before, stored, rfl⟩ := List.mem_map.mp mem'
  have kept : (Table.change (targets found.id false) edit.apply before).id = before.id :=
    Table.change_proj (f := edit.apply) PaymentRow.id (fun _ => rfl) before
  have one : before = row := row_eq_of_id stored mem (kept.symm.trans same)
  rw [one] at now_
  by_cases targeted : targets found.id false row = true
  · have is : row.id = found.id := by simpa [targets] using targeted
    rw [Table.change_of_pos targeted, PaymentEdit.apply, sets] at now_
    exact ⟨row_eq_of_id inTable mem is.symm, Text.stored.inj now_⟩
  · rw [Table.change_of_neg (by simpa using targeted)] at now_
    exact absurd now_ unsettled

/-- Only a payable row is settled. -/
theorem payable_of_settled {d : Draw} {L' : Ledger} {r : StoreResult WebhookApplyOutcome}
    (outcome : Outcome fp b d L (.applyWebhookEvent report) L' r) (mem : row ∈ L.payments.rows)
    (unsettled : row.status ≠ .stored .succeeded)
    (settled : ∃ row' ∈ L'.payments.rows, row'.id = row.id ∧ row'.status = .stored .succeeded) :
    Payable b L report row := by
  have kept (L'' : Ledger) (same : L''.payments = L.payments)
      (settled' : ∃ row' ∈ L''.payments.rows, row'.id = row.id ∧ row'.status = .stored .succeeded) :
      Payable b L report row := by
    obtain ⟨row', mem', is, now_⟩ := settled'
    rw [same] at mem'
    rw [row_eq_of_id mem' mem is] at now_
    exact absurd now_ unsettled
  have payable (current : PaymentStatus) (stored : row.status = .stored current)
      (legal : PaymentStatus.Legal current report.reportedStatus)
      (reports : report.reportedStatus = .succeeded)
      (matching : Matches report.provider report.providerReference row)
      (agrees : AmountAgrees report row)
      (unrecorded : ∀ e ∈ L.webhookEvents.rows, e.eventId ≠ report.eventId)
      (readable : b = .sqlite → ∃ id, row.id = .stored id) : Payable b L report row := by
    rw [reports] at legal
    have apart : current ≠ .succeeded := fun same => unsettled (by rw [stored, same])
    have open_ := unsettled_iff.mp ⟨legal, apart⟩
    refine ⟨reports, matching, ?_, unrecorded, agrees, readable⟩
    rcases open_ with pending | unknown
    · exact .inl (by rw [stored, pending])
    · exact .inr (by rw [stored, unknown])
  cases outcome with
  | applied event found current id received now webhookEvents inTable matching stored is wrote agrees
      legal differs =>
    obtain ⟨rfl, reports⟩ := updated_of_settled (L := { L with webhookEvents }) rfl inTable mem
      unsettled settled
    exact payable current stored legal reports matching agrees (unrecorded_of_inserted wrote)
      fun _ => ⟨id, is⟩
  | appliedUnnamed event found current received now webhookEvents onPostgres inTable matching stored
      unreadable wrote agrees legal =>
    obtain ⟨rfl, reports⟩ := updated_of_settled (L := { L with webhookEvents }) rfl inTable mem
      unsettled settled
    exact payable current stored legal reports matching agrees (unrecorded_of_inserted wrote)
      fun onSqlite => by rw [onPostgres] at onSqlite; cases onSqlite
  | _ => exact kept _ rfl settled

theorem succeeds_iff_payable {c : GatewayCallback} : c.Succeeds row ↔
    row ∈ c.ledger.payments.rows ∧ Payable c.backend c.ledger c.report row := by
  constructor
  · rintro ⟨mem, unsettled, d, settled⟩
    exact ⟨mem, payable_of_settled (execOp_outcome c.fingerprint c.backend d c.ledger
      (.applyWebhookEvent c.report)) mem unsettled settled⟩
  · rintro ⟨mem, payable⟩
    refine ⟨mem, ?_, visiting row, payable_settled mem payable⟩
    rcases payable.unsettled with stored | stored <;> rw [stored] <;> decide

end Gateway

section Web

variable {host : Host} {D : Database} {req : CallbackRequest} {draws : ℕ → WebDraw}
  {w : PaymentRow × WebEdit} {row : PaymentRow}

/-- A route writes the status it read from the request. -/
theorem written_status {c : WebCallback}
    (wrote : w ∈ writes draws 0 c.db (c.route.post c.host c.req)) :
    ∃ status, c.reportedStatus = some status ∧ w.2.status = .stored status := by
  obtain ⟨host, route, req, D⟩ := c
  cases route with
  | paymob =>
    obtain ⟨cb, ok, -, -, -, edited⟩ := mem_writes_paymob wrote
    refine ⟨cb.status, ?_, by rw [edited]; rfl⟩
    simp only [WebCallback.reportedStatus, ok]
    rfl
  | fawry =>
    obtain ⟨f, ok, -, -, -, edited⟩ := mem_writes_fawry wrote
    refine ⟨CallbackRoutes.Fawry.statusOf f.orderStatus, ?_, by rw [edited]; rfl⟩
    simp only [WebCallback.reportedStatus, ok]
    rfl
  | stripe =>
    obtain ⟨event, cb, ok, read, -, -, -, edited⟩ := mem_writes_stripe wrote
    refine ⟨cb.status, ?_, by rw [edited]; rfl⟩
    simp only [WebCallback.reportedStatus, ok]
    show Option.map _ (CallbackRoutes.Stripe.read host event).join = _
    rw [read]
    rfl
  | mock =>
    obtain ⟨cb, ok, -, -, -, edited⟩ := mem_writes_mock wrote
    refine ⟨cb.status, ?_, by rw [edited]; rfl⟩
    simp only [WebCallback.reportedStatus, ok]
    rfl

theorem succeeds_iff_settles {c : WebCallback} : c.Succeeds row ↔
    row ∈ c.db.ledger.payments.rows ∧ c.Settles row := by
  constructor
  · rintro ⟨unsettled, draws, w, wrote, rfl, settled⟩
    obtain ⟨mem, reaches⟩ := reaches_of_writes wrote
    obtain ⟨status, reported, written⟩ := written_status wrote
    rw [settled] at written
    rw [← Text.stored.inj written] at reported
    exact ⟨mem, reported, unsettled, reaches⟩
  · rintro ⟨mem, reported, unsettled, reaches⟩
    obtain ⟨edit, wrote⟩ := writes_of_reaches mem reaches
    have written : (row, edit) ∈ writes (fun _ => favouring row) 0 c.db
        (c.route.post c.host c.req) := by
      rw [wrote]
      exact List.mem_singleton_self _
    obtain ⟨status, reported', is⟩ := written_status written
    rw [reported] at reported'
    cases reported'
    exact ⟨unsettled, _, _, written, rfl, is⟩

end Web

section Main

variable {c : Callback}

theorem succeeds_iff_unchecked {row : PaymentRow} :
    c.Succeeds row ↔ row ∈ c.rows ∧ c.Unchecked row := by
  cases c with
  | gateway c => exact succeeds_iff_payable
  | web c => exact succeeds_iff_settles

/-- Where nothing stops a callback, its money is right exactly if what is not
checked is. -/
theorem right_iff_covers (verified : c.Verified) {row : PaymentRow} (unchecked : c.Unchecked row) :
    Right c.amount c.currency row ↔ c.Covers row := by
  cases c with
  | web c => exact Iff.rfl
  | gateway c =>
    have carried : c.report.reportedAmountMinorUnits = c.amount := carried_amount verified
    have agrees : AmountAgrees c.report row := unchecked.agrees
    rw [AmountAgrees, carried] at agrees
    constructor
    · rintro ⟨amount, currency⟩
      refine ⟨?_, currency⟩
      rw [show c.amount = _ from amount]
      exact Option.some_ne_none _
    · rintro ⟨present, currency⟩
      exact ⟨agrees.resolve_left present, currency⟩

/-- A verified callback moves payments to `Succeeded` on the right money only,
exactly if the money is right wherever nothing compares it. -/
theorem right_money_iff (c : Callback) (verified : c.Verified) :
    (∀ row, c.Succeeds row → Right c.amount c.currency row) ↔
      ∀ row ∈ c.rows, c.Unchecked row → c.Covers row := by
  constructor
  · intro held row mem unchecked
    exact (right_iff_covers verified unchecked).mp
      (held row (succeeds_iff_unchecked.mpr ⟨mem, unchecked⟩))
  · intro held row succeeds
    obtain ⟨mem, unchecked⟩ := succeeds_iff_unchecked.mp succeeds
    exact (right_iff_covers verified unchecked).mpr (held row mem unchecked)

section Samples

/-- A pending payment of 100 minor units at Stripe. -/
def charged (currency : Currency) : PaymentRow :=
  { pendingRow 1 .order ProviderId.stripe "cs_1" "INV-1" with
    currency := .stored currency }

def paidEvent : WebhookEvent := ⟨ProviderId.stripe, "evt_1", "cs_1", none, .succeeded, some 100⟩

/-- The session that was paid in dollars, told to a gateway that holds the
payment in the given currency. -/
def sessionPaidIn (currency : Currency) : GatewayCallback where
  fingerprint _ := ""
  backend := .sqlite
  ledger := (holding [charged currency] (List.pairwise_singleton _ _)).ledger
  crypto := CallbackReferences.delivered CallbackReferences.sessionPaid
    CallbackReferences.sessionMac
  time := CallbackReferences.arrival
  handler := .stripe CallbackReferences.stripeConfig
  raw := CallbackReferences.sessionDelivery
  event := paidEvent
  provider := ProviderId.stripe

theorem paid_verified : verifyAndParseWebhook
    (CallbackReferences.delivered CallbackReferences.sessionPaid CallbackReferences.sessionMac)
    CallbackReferences.arrival (.stripe CallbackReferences.stripeConfig)
    CallbackReferences.sessionDelivery = .ok paidEvent := by rfl

theorem sessionPaidIn_verified (currency : Currency) : (sessionPaidIn currency).Verified :=
  paid_verified

theorem sessionPaidIn_currency (currency : Currency) :
    (sessionPaidIn currency).currency = some .usd := by
  rfl

theorem right_money_usd : (Callback.gateway (sessionPaidIn .usd)).Verified ∧
    ∀ row, (sessionPaidIn .usd).Succeeds row → Right (some 100) (some .usd) row := by
  constructor
  · exact sessionPaidIn_verified .usd
  apply (right_money_iff (.gateway (sessionPaidIn .usd)) (sessionPaidIn_verified .usd)).mpr
  intro row mem unchecked
  have is : row = charged .usd := List.mem_singleton.mp mem
  rw [is]
  exact ⟨by decide, .usd, sessionPaidIn_currency .usd, rfl⟩

/-- A payment in pounds succeeds when as many cents are paid. -/
theorem wrong_money : ¬ ∀ c : Callback, c.Verified → ∀ row, c.Succeeds row →
    Right c.amount c.currency row := by
  intro claimed
  have payable : Payable .sqlite (sessionPaidIn .egp).ledger (sessionPaidIn .egp).report
      (charged .egp) := by
    constructor
    · rfl
    · exact ⟨rfl, rfl⟩
    · exact .inl rfl
    · intro e known
      cases known
    · exact .inr rfl
    · exact fun _ => ⟨⟨1⟩, rfl⟩
  have succeeds : (Callback.gateway (sessionPaidIn .egp)).Succeeds (charged .egp) :=
    succeeds_iff_payable.mpr ⟨List.mem_singleton_self _, payable⟩
  obtain ⟨-, u, carried, stored⟩ := claimed (.gateway (sessionPaidIn .egp))
    (sessionPaidIn_verified .egp) (charged .egp) succeeds
  have dollars : some Currency.usd = some u := (sessionPaidIn_currency .egp).symm.trans carried
  cases dollars
  cases stored

end Samples

end Main

end OpenWrapper.RightMoney
