import OpenWrapper.RefundStatus

/-! # Refunds asked for again

`create_refund` does not read the `Idempotency-Key` header. What becomes of a
repetition is up to its provider: the refund table only keeps the id of a
refund from being used twice. -/

set_option autoImplicit false

namespace OpenWrapper.RefundIdempotency
open OpenWrapper.Ids OpenWrapper.Errors OpenWrapper.Payments OpenWrapper.ConstraintTable
open OpenWrapper.Schema OpenWrapper.PaymentStore OpenWrapper.Providers OpenWrapper.Headers
open OpenWrapper.Effects OpenWrapper.Gateway OpenWrapper.Alone OpenWrapper.RefundSequences
open OpenWrapper.RefundStatus

section Repetition

def RefundRequest.key (req : RefundRequest) : Option String :=
  req.headers.getStr "idempotency-key"

/-- A later request for a refund of the payment, under the key of an earlier. -/
def Repeats (p : PaymentId) (earlier later : RefundRequest) : Prop :=
  earlier.id = .stored p ∧ later.id = .stored p ∧
    (RefundRequest.key later).isSome = true ∧
    RefundRequest.key earlier = RefundRequest.key later

instance (p : PaymentId) (earlier later : RefundRequest) :
    Decidable (Repeats p earlier later) := inferInstanceAs (Decidable (_ ∧ _ ∧ _ ∧ _))

structure Handled where
  request : RefundRequest
  run : RefundRun

def Accepted (f : RefundRun) : Prop := ∃ answer ∈ answers f, answer.isOk = true

def refund? : Reply → Option RefundRecord
  | .http _ (.refund record) => some record
  | _ => none

def Conflict (reply : Reply) : Prop :=
  ∃ message, reply = .http 409 (.error "idempotency_conflict" message)

def firstOf (p : PaymentId) (before : List Handled) (y : Handled) : Option Handled :=
  before.find? fun x => decide (Repeats p x.request y.request)

/-- No two requests under one key both have their refund accepted. -/
def Apart (p : PaymentId) (before : List Handled) (y : Handled) : Prop :=
  ∀ x ∈ before, Repeats p x.request y.request → ¬ (Accepted x.run ∧ Accepted y.run)

/-- A request is answered as the first one under its key demands. -/
def Honoured (p : PaymentId) (before : List Handled) (y : Handled) : Prop :=
  Apart p before y ∧ ∀ x ∈ firstOf p before y,
    (y.request.body = x.request.body → ∀ record, refund? x.run.answer = some record →
      refund? y.run.answer = some record) ∧
    (y.request.body ≠ x.request.body → Conflict y.run.answer)

/-- The refund is in the table, and its status update went through. -/
def Settled (b : Backend) (f : RefundRun) : Prop :=
  ∃ k ∈ bookings f, k.inserted = true ∧ torn b k.draw = false

def conflicts : Except OpenWrapperError RefundResult → Bool
  | .error (.idempotencyConflict _) => true
  | _ => false

/-- The provider itself refused the key. -/
def Contested (f : RefundRun) : Prop := ∃ answer ∈ answers f, conflicts answer = true

/-- What a request may still do under a key that was used before. -/
def Harmless (b : Backend) (p : PaymentId) (before : List Handled) (y : Handled) : Prop :=
  Apart p before y ∧ ∀ x ∈ firstOf p before y,
    (y.request.body = x.request.body → ¬ Settled b x.run) ∧
    (y.request.body ≠ x.request.body → Contested y.run)

instance (f : RefundRun) : Decidable (Accepted f) :=
  inferInstanceAs (Decidable (∃ answer ∈ answers f, _))

instance (b : Backend) (f : RefundRun) : Decidable (Settled b f) :=
  inferInstanceAs (Decidable (∃ k ∈ bookings f, _))

instance (f : RefundRun) : Decidable (Contested f) :=
  inferInstanceAs (Decidable (∃ answer ∈ answers f, _))

instance (p : PaymentId) (before : List Handled) (y : Handled) : Decidable (Apart p before y) :=
  inferInstanceAs (Decidable (∀ x ∈ before, _))

instance (b : Backend) (p : PaymentId) (before : List Handled) (y : Handled) :
    Decidable (Harmless b p before y) :=
  inferInstanceAs (Decidable (_ ∧ ∀ x ∈ firstOf p before y, _))

/-- What holds of every request of a history and those before it. -/
def Each (P : List Handled → Handled → Prop) : List Handled → List Handled → Prop
  | _, [] => True
  | before, y :: later => P before y ∧ Each P (before ++ [y]) later

instance (P : List Handled → Handled → Prop) [each : ∀ before y, Decidable (P before y)] :
    (before later : List Handled) → Decidable (Each P before later)
  | _, [] => .isTrue trivial
  | before, y :: later =>
    have := instDecidableEach P (before ++ [y]) later
    inferInstanceAs (Decidable (P before y ∧ Each P (before ++ [y]) later))

def handled : List (RefundRequest × List Choice) → List RefundRun → List Handled
  | turn :: turns, f :: fs => ⟨turn.1, f⟩ :: handled turns fs
  | _, _ => []

end Repetition

section Answers

variable {b : Backend} {app : App} {L : Ledger} {req : RefundRequest} {f : RefundRun}

theorem refund?_apiError (e : OpenWrapperError) : refund? (Handlers.apiError e) = none := by
  unfold Handlers.apiError
  split
  · rfl
  · rfl

theorem conflict_apiError (e : OpenWrapperError) :
    Conflict (Handlers.apiError e) ↔ ∃ message, e = .idempotencyConflict message := by
  unfold Handlers.apiError Conflict
  constructor
  · rintro ⟨message, same⟩
    split at same
    · cases same
    · have code : e.code = "idempotency_conflict" := by
        injection same with status body
        injection body
      cases e with
      | idempotencyConflict m => exact ⟨m, rfl⟩
      | _ => simp [OpenWrapperError.code] at code
  · rintro ⟨message, rfl⟩
    exact ⟨_, rfl⟩

/-- A request answers with a refund just when it settled it. -/
theorem settled_iff (course : Course app b L req f) :
    refund? f.answer = none ↔ ¬ Settled b f := by
  cases course with
  | refused status code message kept unasked unbooked answer other =>
    simp [answer, Settled, unbooked, refund?]
  | declined e kept asked unbooked answer =>
    simp [answer, Settled, unbooked, refund?_apiError]
  | booked result k booked asked one left answer =>
    unfold Settled
    rw [answer, one]
    simp only [List.mem_singleton, exists_eq_left]
    by_cases is : k.inserted = true
    · obtain ⟨refunds, inserted, outcome⟩ := outcome_of_inserted b app is
      rw [outcome]
      by_cases half : torn b k.draw = true
      · rw [if_pos half]
        simp [half, replyTo, Handlers.storeError, refund?_apiError]
      · rw [if_neg half]
        simp [half, is, replyTo, refund?]
    · rw [outcome_of_not_inserted (by simpa using is)]
      simp [is, replyTo, Handlers.storeError, refund?_apiError]

theorem contested_iff (course : Course app b L req f) : Conflict f.answer ↔ Contested f := by
  cases course with
  | refused status code message kept unasked unbooked answer other =>
    have not_ : ¬ Conflict f.answer := by
      rw [answer]
      rintro ⟨message', same⟩
      cases same
      exact other rfl
    simp [Contested, unasked, not_]
  | declined e kept asked unbooked answer =>
    rw [answer, conflict_apiError, Contested, asked]
    simp only [List.mem_singleton, exists_eq_left]
    cases e <;> simp [conflicts]
  | booked result k booked asked one left answer =>
    have not_ : ¬ Conflict f.answer := by
      rw [answer]
      generalize (k.outcome app b).2 = outcome
      cases outcome with
      | ok done =>
        rintro ⟨message, same⟩
        cases same
      | error e =>
        rw [replyTo, Handlers.storeError, conflict_apiError]
        simp
    simp [Contested, conflicts, asked, not_]

/-- The refund table only grows. -/
theorem refunds_kept (course : Course app b L req f) :
    ∀ row ∈ L.refunds.rows, row ∈ f.shared.ledger.refunds.rows := by
  intro row mem
  cases course with
  | refused status code message kept unasked unbooked answer other => rwa [kept]
  | declined e kept asked unbooked answer => rwa [kept]
  | booked result k booked asked one left answer =>
    rw [left]
    by_cases is : k.inserted = true
    · obtain ⟨refunds, inserted, outcome⟩ := outcome_of_inserted b app is
      obtain ⟨-, rows⟩ := Table.insert_eq_some.mp inserted
      have there : row ∈ refunds.rows := by
        rw [rows, booked.before]
        exact List.mem_append_left _ mem
      rw [outcome]
      split
      · exact there
      · exact there
    · rw [outcome_of_not_inserted (by simpa using is), booked.before]
      exact mem

/-- A refund that is answered with is in the table, and was not before. -/
theorem refund_answered {record : RefundRecord} (course : Course app b L req f)
    (answered : refund? f.answer = some record) :
    record.toRow ∈ f.shared.ledger.refunds.rows ∧ record.toRow ∉ L.refunds.rows := by
  cases course with
  | refused status code message kept unasked unbooked answer other =>
    rw [answer] at answered
    cases answered
  | declined e kept asked unbooked answer =>
    rw [answer, refund?_apiError] at answered
    cases answered
  | booked result k booked asked one left answer =>
    rw [answer] at answered
    by_cases is : k.inserted = true
    · obtain ⟨refunds, inserted, outcome⟩ := outcome_of_inserted b app is
      obtain ⟨fresh, rows⟩ := Table.insert_eq_some.mp inserted
      rw [outcome] at answered
      by_cases half : torn b k.draw = true
      · rw [if_pos half, replyTo, Handlers.storeError, refund?_apiError] at answered
        cases answered
      · rw [if_neg half] at answered
        obtain rfl : k.record = record := Option.some.inj answered
        constructor
        · rw [left, outcome, if_neg half]
          show k.record.toRow ∈ refunds.rows
          rw [rows]
          exact List.mem_append_right _ (List.mem_singleton_self _)
        · rw [← booked.before]
          intro mem
          exact fresh _ mem rfl
    · rw [outcome_of_not_inserted (by simpa using is), replyTo, Handlers.storeError,
        refund?_apiError] at answered
      cases answered

end Answers

section Histories

variable {b : Backend} {app : App} {p : PaymentId}

/-- What the tables have kept of a request that was handled. -/
structure Kept (b : Backend) (L : Ledger) (x : Handled) : Prop where
  settled : refund? x.run.answer = none ↔ ¬ Settled b x.run
  row : ∀ record, refund? x.run.answer = some record → record.toRow ∈ L.refunds.rows

theorem kept_handled {L : Ledger} {y : Handled} (course : Course app b L y.request y.run) :
    Kept b y.run.shared.ledger y := by
  constructor
  · exact settled_iff course
  · intro record answered
    exact (refund_answered course answered).1

theorem kept_later {L : Ledger} {x y : Handled} (kept : Kept b L x)
    (course : Course app b L y.request y.run) : Kept b y.run.shared.ledger x := by
  constructor
  · exact kept.settled
  · intro record answered
    exact refunds_kept course _ (kept.row record answered)

/-- No later request can answer with the refund of an earlier one. -/
theorem again_iff {L : Ledger} {x y : Handled} (kept : Kept b L x)
    (course : Course app b L y.request y.run) :
    (∀ record, refund? x.run.answer = some record → refund? y.run.answer = some record) ↔
      ¬ Settled b x.run := by
  rw [← kept.settled, Option.eq_none_iff_forall_not_mem]
  constructor
  · intro again record answered
    exact (refund_answered course (again record answered)).2 (kept.row record answered)
  · intro unanswered record answered
    exact absurd answered (unanswered record)

theorem honoured_iff {L : Ledger} {before : List Handled} {y : Handled}
    (kept : ∀ x ∈ before, Kept b L x) (course : Course app b L y.request y.run) :
    Honoured p before y ↔ Harmless b p before y := by
  unfold Honoured Harmless
  apply and_congr_right
  intro apart
  apply forall_congr'
  intro x
  apply imp_congr_right
  intro first
  have mem : x ∈ before := List.mem_of_find?_eq_some first
  rw [again_iff (kept x mem) course, contested_iff course]

theorem each_iff {reqs : List (RefundRequest × List Choice)} {s : Shared} {fs : List RefundRun}
    {before : List Handled} (kept : ∀ x ∈ before, Kept b s.ledger x)
    (ran : inTurn (setting b app) s (turns app reqs) = some fs) :
    Each (Honoured p) before (handled reqs fs) ↔ Each (Harmless b p) before (handled reqs fs) := by
  induction reqs generalizing s fs before with
  | nil =>
    cases ran
    rfl
  | cons turn rest ih =>
    obtain ⟨f, later, course, ran', rfl⟩ := turns_cons ran
    have known : ∀ x ∈ before ++ [⟨turn.1, f⟩], Kept b f.shared.ledger x := by
      intro x mem
      rcases List.mem_append.mp mem with old | new
      · exact kept_later (y := ⟨turn.1, f⟩) (kept x old) course
      · rw [List.mem_singleton.mp new]
        exact kept_handled (y := ⟨turn.1, f⟩) course
    exact and_congr (honoured_iff kept course) (ih known ran')

end Histories

section Samples

open OpenWrapper.RefundAdapters

def keyedRefund (amount : ℤ) : RefundRequest :=
  ⟨⟨[("idempotency-key", .text "refund-1")]⟩, .stored ⟨1⟩, ⟨amount, none⟩⟩

def keyedTurn (amount : ℤ) (fields : List (String × HttpExchange.Json)) :
    RefundRequest × List Choice :=
  (keyedRefund amount, refundChoices (stripeAnswer amount fields))

/-- Stripe could not be reached the first time. -/
def retried : List (RefundRequest × List Choice) :=
  [(keyedRefund 40, [.draw (quietDraw 0), .draw (quietDraw 0),
      .refunded (answered stripeAccount ⟨1⟩ "pi_1" 40 none [.failed ⟨true, false⟩])]),
    keyedTurn 40 [("id", .string "re_1"), ("status", .string "succeeded")]]

def sentTwice : List (RefundRequest × List Choice) :=
  [keyedTurn 40 [("id", .string "re_1"), ("status", .string "succeeded")],
    keyedTurn 40 [("id", .string "re_2"), ("status", .string "succeeded")]]

end Samples

end OpenWrapper.RefundIdempotency
