import OpenWrapper.Alone
import OpenWrapper.RefundAdapters
import OpenWrapper.StoreContract
import OpenWrapper.Gateway

/-! # Refund requests handled one after another

What one request to `create_refund` does when nothing happens in between, and
what is left of it in the refund table and the payment's status. -/

set_option autoImplicit false

namespace OpenWrapper.RefundSequences
open OpenWrapper.Ids OpenWrapper.Errors OpenWrapper.Payments OpenWrapper.ConstraintTable
open OpenWrapper.Schema OpenWrapper.PaymentStore OpenWrapper.Providers OpenWrapper.Headers
open OpenWrapper.Stateless OpenWrapper.Effects OpenWrapper.Gateway OpenWrapper.StoreContract
open OpenWrapper.Suspended OpenWrapper.Suspended.Prog OpenWrapper.Interleaving OpenWrapper.Alone

section Record

variable {fp : PaymentRequest → String} {d : Draw} {L : Ledger}

/-- The insertion of a refund that is not followed by the status update. -/
def torn (b : Backend) (d : Draw) : Bool :=
  match b with
  | .sqlite => d.fails 2
  | .postgres => false

/-- `record_refund`, under the draw of its statements: the clock, the insertion
and the update (or the transaction of both). -/
theorem recordRefund_eq (b : Backend) (record : RefundRecord) (t : PaymentStatus) :
    execOp fp b d L (.recordRefund record t) =
      if d.fails 1 then (L, .error .internal)
      else
        match L.refunds.insert record.toRow with
        | none => (L, .error .internal)
        | some refunds =>
          if torn b d then ({ L with refunds }, .error .internal)
          else (Ledger.updatePayment { L with refunds } (.stored record.paymentId) false
            ((refundEdit t (d.clock 0)).kept b), .ok ()) := by
  cases first : d.fails 1 with
  | true =>
    cases b <;>
      simp [execOp, program, SqliteStore.recordRefund, PostgresStore.recordRefund, exec,
        Stmt.refused, Stmt.run, first, internalErr, Session.close, Session.on]
  | false =>
    cases inserted : L.refunds.insert record.toRow with
    | none =>
      cases b <;>
        simp [execOp, program, SqliteStore.recordRefund, PostgresStore.recordRefund, exec,
          Stmt.refused, Stmt.run, Write.perform, performAll, first, inserted, internalErr,
          Session.close, Session.on]
    | some refunds =>
      cases b with
      | sqlite =>
        cases second : d.fails 2 <;>
          simp [execOp, program, SqliteStore.recordRefund, exec, Stmt.refused, Stmt.run,
            Write.perform, torn, first, second, inserted, internalErr, Session.close, Session.on]
      | postgres =>
        simp [execOp, program, PostgresStore.recordRefund, exec, Stmt.refused, Stmt.run,
          Write.perform, performAll, torn, first, inserted, Session.close, Session.on]

end Record

section Course

structure RefundRequest where
  headers : HeaderMap
  id : Text PaymentId
  body : Handlers.CreateRefundBody

def RefundRequest.program (app : App) (req : RefundRequest) : Gw Reply :=
  Handlers.createRefund app req.headers req.id req.body

abbrev RefundMoment := Moment Effect.Response Shared Choice

abbrev RefundRun := Finished Effect.Response Reply Shared Choice

def RefundMoment.answer? (m : RefundMoment) : Option (Except OpenWrapperError RefundResult) :=
  match m.event with
  | ⟨.refund _ _ _ _ _, r⟩ => some r
  | _ => none

/-- A call of `record_refund` with the tables it finds. -/
structure Booking where
  before : Ledger
  draw : Draw
  record : RefundRecord
  status : PaymentStatus

def RefundMoment.booking? (m : RefundMoment) : Option Booking :=
  match m.event, m.choice with
  | ⟨.store (.recordRefund record t), _⟩, .draw d => some ⟨m.before.ledger, d, record, t⟩
  | _, _ => none

def answers (f : RefundRun) : List (Except OpenWrapperError RefundResult) :=
  f.moments.filterMap RefundMoment.answer?

def bookings (f : RefundRun) : List Booking := f.moments.filterMap RefundMoment.booking?

/-- What `record_refund` does to the tables and answers. -/
def Booking.outcome (app : App) (b : Backend) (k : Booking) : Ledger × StoreResult Unit :=
  execOp app.fingerprint b k.draw k.before (.recordRefund k.record k.status)

def replyTo (record : RefundRecord) : StoreResult Unit → Reply
  | .ok () => .http 201 (.refund record)
  | .error e => Handlers.storeError e

/-- A booking of an accepted answer to the request. -/
structure Booked (L : Ledger) (req : RefundRequest) (result : RefundResult) (k : Booking) :
    Prop where
  before : k.before = L
  about : req.id = .stored k.record.paymentId
  amount : k.record.amountMinorUnits = req.body.amountMinorUnits
  status : k.record.status = result.status
  id : ∃ generated : PaymentId, k.record.id =
    if result.refundId.toList.isEmpty then "re_" ++ generated.display else result.refundId
  read : ∃ row payment, row ∈ L.payments.rows ∧ row.id = .stored k.record.paymentId ∧
    row.toPayment = some payment ∧
    (payment.status = .succeeded ∨ payment.status = .partiallyRefunded) ∧
    0 < req.body.amountMinorUnits ∧
    req.body.amountMinorUnits ≤
      payment.amount.minorUnits - L.sumRefunds k.record.paymentId ∧
    k.status = Handlers.statusAfterRefund payment (L.sumRefunds k.record.paymentId)
      req.body.amountMinorUnits

/-- The three ways a request can go. -/
inductive Course (app : App) (b : Backend) (L : Ledger) (req : RefundRequest) : RefundRun → Prop
  | refused (f : RefundRun) (status : ℕ) (code message : String) : f.shared.ledger = L →
      answers f = [] → bookings f = [] → f.answer = .http status (.error code message) →
      code ≠ "idempotency_conflict" → Course app b L req f
  | declined (f : RefundRun) (e : OpenWrapperError) : f.shared.ledger = L →
      answers f = [.error e] → bookings f = [] → f.answer = Handlers.apiError e →
      Course app b L req f
  | booked (f : RefundRun) (result : RefundResult) (k : Booking) : Booked L req result k →
      answers f = [.ok result] → bookings f = [k] → f.shared.ledger = (k.outcome app b).1 →
      f.answer = replyTo k.record (k.outcome app b).2 → Course app b L req f

variable {b : Backend} {app : App} {s s' : Shared} {c : Choice}

theorem payment_read {id : PaymentId} {r : StoreResult (Option Payment)}
    (reacted : react b app s (.store (.getPayment id)) c = some (s', r)) :
    s'.ledger = s.ledger ∧ (r = .error .internal ∨ r = .ok none ∨
      ∃ row payment, row ∈ s.ledger.payments.rows ∧ row.id = .stored id ∧
        row.toPayment = some payment ∧ r = .ok (some payment)) := by
  obtain ⟨d, left, answer⟩ := react_store reacted
  have outcome := execOp_outcome app.fingerprint b d s.ledger (.getPayment id)
  rw [← left, ← answer] at outcome
  generalize s'.ledger = L' at *
  cases outcome with
  | failed => exact ⟨rfl, .inl rfl⟩
  | found _ row payment mem is parsed => exact ⟨rfl, .inr (.inr ⟨row, payment, mem, is, parsed, rfl⟩)⟩
  | missing => exact ⟨rfl, .inr (.inl rfl)⟩

theorem total_read {id : PaymentId} {r : StoreResult ℤ}
    (reacted : react b app s (.store (.getTotalRefundedMinorUnits id)) c = some (s', r)) :
    s'.ledger = s.ledger ∧ (r = .error .internal ∨ r = .ok (s.ledger.sumRefunds id)) := by
  obtain ⟨d, left, answer⟩ := react_store reacted
  have outcome := execOp_outcome app.fingerprint b d s.ledger (.getTotalRefundedMinorUnits id)
  rw [← left, ← answer] at outcome
  generalize s'.ledger = L' at *
  cases outcome with
  | failed => exact ⟨rfl, .inl rfl⟩
  | total => exact ⟨rfl, .inr rfl⟩

theorem resolve_error {env : Env} {configured : Configured} {name : String} {h : HeaderMap}
    {e : OpenWrapperError} (failed : resolvePaymentProvider env configured name h = .error e) :
    ∃ m, e = .validation m ∨ e = .configuration m := by
  unfold resolvePaymentProvider at failed
  split at failed
  · cases failed
  · split at failed
    · unfold resolveFawry Provider.newFawry at failed
      split at failed
      · split at failed
        · cases failed
          exact ⟨_, .inr rfl⟩
        · cases failed
      · split at failed
        · cases failed
        · cases failed
          exact ⟨_, .inl rfl⟩
    · unfold resolvePaymob at failed
      split at failed
      · split at failed
        · cases failed
          exact ⟨_, .inl rfl⟩
        · cases failed
      · split at failed
        · cases failed
        · cases failed
          exact ⟨_, .inl rfl⟩
    · unfold resolveStripe at failed
      split at failed
      · cases failed
      · split at failed
        · cases failed
        · cases failed
          exact ⟨_, .inl rfl⟩
    · unfold resolveMock at failed
      split at failed
      · cases failed
      · cases failed
    · cases failed
      exact ⟨_, .inl rfl⟩

theorem apiError_shape (e : OpenWrapperError) : ∃ status code message,
    Handlers.apiError e = .http status (.error code message) ∧
      (code = e.code ∨ code = "missing_provider_credentials") := by
  unfold Handlers.apiError
  split
  · exact ⟨_, _, _, rfl, .inr rfl⟩
  · exact ⟨_, _, _, rfl, .inl rfl⟩

/-- The reply is an error of the handler's own. -/
def Refuses (reply : Reply) : Prop :=
  ∃ e, reply = Handlers.apiError e ∧ e.code ≠ "idempotency_conflict"

theorem refuses_badRequest (message : String) : Refuses (Handlers.badRequest message) :=
  ⟨_, rfl, by simp [OpenWrapperError.code]⟩

theorem refuses_internal : Refuses (Handlers.apiError .internal) := ⟨_, rfl, by decide⟩

theorem refuses_storeError (e : StoreError) : Refuses (Handlers.storeError e) := refuses_internal

theorem refuses_unsupported (provider capability : String) :
    Refuses (Handlers.apiError (.unsupportedCapability provider capability)) :=
  ⟨_, rfl, by simp [OpenWrapperError.code]⟩

theorem refuses_unresolved {env : Env} {configured : Configured} {name : String}
    {h : HeaderMap} {e : OpenWrapperError}
    (failed : resolvePaymentProvider env configured name h = .error e) :
    Refuses (Handlers.apiError e) := by
  obtain ⟨m, rfl | rfl⟩ := resolve_error failed
  · exact ⟨_, rfl, by simp [OpenWrapperError.code]⟩
  · exact ⟨_, rfl, by simp [OpenWrapperError.code]⟩

/-- A request that ends before it asks the provider. -/
theorem refused_course {L : Ledger} {req : RefundRequest} {sh : Shared}
    {ms : List RefundMoment} {reply : Reply} (kept : sh.ledger = L)
    (unasked : answers ⟨sh, ms, reply⟩ = []) (unbooked : bookings ⟨sh, ms, reply⟩ = [])
    (refuses : Refuses reply) : Course app b L req ⟨sh, ms, reply⟩ := by
  obtain ⟨e, rfl, other⟩ := refuses
  obtain ⟨status, code, message, shape, is⟩ := apiError_shape e
  apply Course.refused _ status code message kept unasked unbooked shape
  rcases is with rfl | rfl
  · exact other
  · decide

/-- A moment before that neither asks the provider nor books. -/
theorem course_cons {L : Ledger} {req : RefundRequest} {f : RefundRun} {m : RefundMoment}
    (course : Course app b L req f) (unasked : m.answer? = none) (unbooked : m.booking? = none) :
    Course app b L req ⟨f.shared, m :: f.moments, f.answer⟩ := by
  have asks : answers ⟨f.shared, m :: f.moments, f.answer⟩ = answers f := by
    rw [answers, List.filterMap_cons_none unasked]
    rfl
  have books : bookings ⟨f.shared, m :: f.moments, f.answer⟩ = bookings f := by
    rw [bookings, List.filterMap_cons_none unbooked]
    rfl
  cases course with
  | refused status code message kept none_ none' answer other =>
    exact .refused _ status code message kept (asks.trans none_) (books.trans none') answer other
  | declined e kept some_ none' answer =>
    exact .declined _ e kept (asks.trans some_) (books.trans none') answer
  | booked result k booked some_ one left answer =>
    exact .booked _ result k booked (asks.trans some_) (books.trans one) left answer

/-- The record of an answer, as `create_refund` makes it. -/
def recordOf (payment : Payment) (id : PaymentId) (body : Handlers.CreateRefundBody)
    (result : RefundResult) (generated : PaymentId) (now : Instant) : RefundRecord where
  id := if result.refundId.toList.isEmpty then "re_" ++ generated.display else result.refundId
  paymentId := id
  amountMinorUnits := body.amountMinorUnits
  currency := payment.currency
  status := result.status
  reason := body.reason
  providerRefundRef := result.providerReference
  createdAt := now.seconds

/-- The part of the run from the call of the provider on. -/
theorem executeRefund_course {req : RefundRequest} {provider : Provider} {payment : Payment}
    {id : PaymentId} {reference : String} {row : PaymentRow} {cs : List Choice} {f : RefundRun}
    (about : req.id = .stored id) (mem : row ∈ s.ledger.payments.rows) (is : row.id = .stored id)
    (parsed : row.toPayment = some payment)
    (refundable : payment.status = .succeeded ∨ payment.status = .partiallyRefunded)
    (positive : 0 < req.body.amountMinorUnits)
    (within : req.body.amountMinorUnits ≤ payment.amount.minorUnits - s.ledger.sumRefunds id)
    (ran : alone (setting b app) s (Handlers.executeRefund provider req.headers payment id
      reference (s.ledger.sumRefunds id) req.body) cs = some f) :
    Course app b s.ledger req f := by
  simp only [Handlers.executeRefund, Gw.refund, Gw.ulid, Gw.now, Gw.recordRefund, Gw.recordEvent,
    perform_bind] at ran
  obtain ⟨c₁, cs₁, s₁, asked, f₁, reacted₁, ran₁, rfl⟩ := alone_call ran
  have kept₁ : s₁.ledger = s.ledger := react_other reacted₁ (fun op => nofun)
  cases asked with
  | error e =>
    cases alone_done ran₁
    exact .declined _ e kept₁ rfl rfl rfl
  | ok result =>
    obtain ⟨c₂, cs₂, s₂, generated, f₂, reacted₂, ran₂, rfl⟩ := alone_call ran₁
    have kept₂ : s₂.ledger = s₁.ledger := react_other reacted₂ (fun op => nofun)
    obtain ⟨c₃, cs₃, s₃, now, f₃, reacted₃, ran₃, rfl⟩ := alone_call ran₂
    have kept₃ : s₃.ledger = s₂.ledger := react_other reacted₃ (fun op => nofun)
    obtain ⟨c₄, cs₄, s₄, recorded, f₄, reacted₄, ran₄, rfl⟩ := alone_call ran₃
    obtain ⟨d, rfl, left, answer⟩ := react_draw reacted₄
    have before : s₃.ledger = s.ledger := kept₃.trans (kept₂.trans kept₁)
    obtain ⟨k, is_⟩ : ∃ k : Booking, k = ⟨s₃.ledger, d,
        recordOf payment id req.body result generated now,
        Handlers.statusAfterRefund payment (s.ledger.sumRefunds id)
          req.body.amountMinorUnits⟩ := ⟨_, rfl⟩
    have booked : Booked s.ledger req result k := by
      rw [is_]
      constructor
      · exact before
      · exact about
      · rfl
      · rfl
      · exact ⟨generated, rfl⟩
      · exact ⟨row, payment, mem, is, parsed, refundable, positive, within, rfl⟩
    have outcome : k.outcome app b = (s₄.ledger, recorded) := by
      rw [is_]
      exact Prod.ext left.symm answer.symm
    cases recorded with
    | error e =>
      cases alone_done ran₄
      apply Course.booked _ result k booked
      · rfl
      · rw [is_]
        rfl
      · rw [outcome]
      · rw [outcome]
        rfl
    | ok done =>
      obtain ⟨c₅, cs₅, s₅, eventId, f₅, reacted₅, ran₅, rfl⟩ := alone_call ran₄
      have kept₅ : s₅.ledger = s₄.ledger := react_other reacted₅ (fun op => nofun)
      obtain ⟨c₆, cs₆, s₆, noted, f₆, reacted₆, ran₆, rfl⟩ := alone_call ran₅
      have kept₆ : s₆.ledger = s₅.ledger := react_other reacted₆ (fun op => nofun)
      cases alone_done ran₆
      apply Course.booked _ result k booked
      · rfl
      · rw [is_]
        rfl
      · rw [outcome]
        exact kept₆.trans kept₅
      · rw [outcome, is_]
        rfl

theorem createRefund_course {req : RefundRequest} {cs : List Choice} {f : RefundRun}
    (ran : alone (setting b app) s (req.program app) cs = some f) :
    Course app b s.ledger req f := by
  unfold RefundRequest.program Handlers.createRefund at ran
  split at ran
  · cases alone_done ran
    exact refused_course rfl rfl rfl (refuses_badRequest _)
  next id about =>
    simp only [Gw.getPayment, perform_bind] at ran
    obtain ⟨c₁, cs₁, s₁, read, f₁, reacted₁, ran₁, rfl⟩ := alone_call ran
    obtain ⟨kept₁, rfl | rfl | ⟨row, payment, mem, is, parsed, rfl⟩⟩ := payment_read reacted₁
    · cases alone_done ran₁
      dsimp only
      exact refused_course kept₁ rfl rfl (refuses_storeError _)
    · cases alone_done ran₁
      dsimp only
      exact refused_course kept₁ rfl rfl (refuses_badRequest _)
    · dsimp only at ran₁
      split at ran₁
      · cases alone_done ran₁
        dsimp only
        exact refused_course kept₁ rfl rfl (refuses_badRequest _)
      next refundable =>
        split at ran₁
        · cases alone_done ran₁
          dsimp only
          exact refused_course kept₁ rfl rfl (refuses_badRequest _)
        next positive =>
          simp only [Gw.getTotalRefundedMinorUnits, perform_bind] at ran₁
          obtain ⟨c₂, cs₂, s₂, total, f₂, reacted₂, ran₂, rfl⟩ := alone_call ran₁
          obtain ⟨kept₂, rfl | rfl⟩ := total_read reacted₂
          · cases alone_done ran₂
            dsimp only
            exact refused_course (kept₂.trans kept₁) rfl rfl (refuses_storeError _)
          · dsimp only at ran₂
            split at ran₂
            · cases alone_done ran₂
              dsimp only
              exact refused_course (kept₂.trans kept₁) rfl rfl (refuses_badRequest _)
            next within =>
              split at ran₂
              next e unresolved =>
                cases alone_done ran₂
                dsimp only
                exact refused_course (kept₂.trans kept₁) rfl rfl (refuses_unresolved unresolved)
              next provider resolved =>
                split at ran₂
                · cases alone_done ran₂
                  dsimp only
                  exact refused_course (kept₂.trans kept₁) rfl rfl (refuses_unsupported _ _)
                · split at ran₂
                  · cases alone_done ran₂
                    dsimp only
                    exact refused_course (kept₂.trans kept₁) rfl rfl refuses_internal
                  next reference _ =>
                    have same : s₂.ledger = s.ledger := kept₂.trans kept₁
                    have about_ : s₁.ledger.sumRefunds id = s₂.ledger.sumRefunds id := by
                      rw [kept₂]
                    rw [about_] at ran₂ within
                    have course := executeRefund_course about (same ▸ mem) is parsed
                      (by tauto) (not_le.mp positive) (not_lt.mp within) ran₂
                    rw [same] at course
                    exact course_cons (course_cons course rfl rfl) rfl rfl

end Course

section Tables

variable {L : Ledger} {p : PaymentId} {record : RefundRecord}
  {refunds : Table RefundRow RefundClash}

/-- The insertion of the refund row succeeds. -/
def Booking.inserted (k : Booking) : Bool :=
  !k.draw.fails 1 && (k.before.refunds.insert k.record.toRow).isSome

theorem outcome_of_not_inserted {b : Backend} {app : App} {k : Booking}
    (none_ : k.inserted = false) : k.outcome app b = (k.before, .error .internal) := by
  unfold Booking.inserted at none_
  rw [Booking.outcome, recordRefund_eq]
  cases fails : k.draw.fails 1 with
  | true => rfl
  | false =>
    cases row : k.before.refunds.insert k.record.toRow with
    | none => rfl
    | some refunds => simp [fails, row] at none_

theorem outcome_of_inserted (b : Backend) (app : App) {k : Booking} (is : k.inserted = true) :
    ∃ refunds, k.before.refunds.insert k.record.toRow = some refunds ∧
      k.outcome app b =
        if torn b k.draw then ({ k.before with refunds }, .error .internal)
        else (Ledger.updatePayment { k.before with refunds } (.stored k.record.paymentId) false
          ((refundEdit k.status (k.draw.clock 0)).kept b), .ok ()) := by
  unfold Booking.inserted at is
  obtain ⟨fails, some_⟩ := (Bool.and_eq_true _ _).mp is
  obtain ⟨refunds, inserted⟩ := Option.isSome_iff_exists.mp some_
  refine ⟨refunds, inserted, ?_⟩
  rw [Booking.outcome, recordRefund_eq, if_neg (by simpa using fails), inserted]

theorem sumRefunds_inserted (inserted : L.refunds.insert record.toRow = some refunds) :
    Ledger.sumRefunds { L with refunds } p = L.sumRefunds p +
      if record.paymentId = p ∧ record.status = .succeeded then record.amountMinorUnits else 0 := by
  obtain ⟨-, rows⟩ := Table.insert_eq_some.mp inserted
  unfold Ledger.sumRefunds
  rw [rows, List.filter_append, List.map_append, List.sum_append]
  congr 1
  by_cases counts : record.paymentId = p ∧ record.status = .succeeded
  · rw [if_pos counts]
    simp [counted, RefundRecord.toRow, counts]
  · rw [if_neg counts]
    have not_ : counted p record.toRow = false := by
      simp only [counted, RefundRecord.toRow, Bool.and_eq_false_iff, beq_eq_false_iff_ne, ne_eq,
        Text.stored.injEq]
      tauto
    simp [not_]

theorem row_of_updated {row : PaymentRow} {q : PaymentId} {edit : PaymentEdit}
    (mem : row ∈ (L.updatePayment (.stored q) false edit).payments.rows)
    (is : row.id = .stored p) :
    ∃ row₀ ∈ L.payments.rows, row₀.id = .stored p ∧
      row.amountMinorUnits = row₀.amountMinorUnits ∧
      row.status = if q = p then (edit.apply row₀).status else row₀.status := by
  obtain ⟨row₀, mem₀, rfl⟩ := List.mem_map.mp mem
  have id : row₀.id = .stored p := by
    rw [← is]
    exact (Table.change_proj (f := edit.apply) PaymentRow.id (fun _ => rfl) row₀).symm
  refine ⟨row₀, mem₀, id, Table.change_proj (f := edit.apply) PaymentRow.amountMinorUnits
    (fun _ => rfl) row₀, ?_⟩
  by_cases same : q = p
  · rw [if_pos same, Table.change_of_pos (by simp [targets, id, same])]
  · rw [if_neg same, Table.change_of_neg (by simp [targets, id, Ne.symm same])]

theorem only_row {row row' : PaymentRow} (mem : row ∈ L.payments.rows)
    (is : row.id = .stored p) (mem' : row' ∈ L.payments.rows) (is' : row'.id = .stored p) :
    row' = row :=
  Table.eq_of_clash L.payments mem' mem (.inl (is'.trans is.symm))

end Tables

section Turns

/-- The requests with the choices their runs meet, as programs. -/
def turns (app : App) (reqs : List (RefundRequest × List Choice)) :
    List (Gw Reply × List Choice) :=
  reqs.map fun turn => (turn.1.program app, turn.2)

/-- What holds of every course holds of every request of a sequence. -/
theorem turns_cons {b : Backend} {app : App} {s : Shared} {req : RefundRequest} {cs : List Choice}
    {rest : List (RefundRequest × List Choice)} {fs : List RefundRun}
    (ran : inTurn (setting b app) s (turns app ((req, cs) :: rest)) = some fs) :
    ∃ f later, Course app b s.ledger req f ∧
      inTurn (setting b app) f.shared (turns app rest) = some later ∧ fs = f :: later := by
  obtain ⟨f, later, first, ran', same⟩ := inTurn_cons ran
  exact ⟨f, later, createRefund_course first, ran', same⟩

end Turns

end OpenWrapper.RefundSequences
