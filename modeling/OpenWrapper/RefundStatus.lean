import OpenWrapper.RefundSequences

/-! # The payment's status and the refund table

A refund sets the status from the amount asked for, and the table counts the
refunds that succeeded. The two agree as long as only refunds that succeed are
booked, or the amounts are such that it makes no difference. -/

set_option autoImplicit false

namespace OpenWrapper.RefundStatus
open OpenWrapper.Ids OpenWrapper.Errors OpenWrapper.Payments OpenWrapper.ConstraintTable
open OpenWrapper.Schema OpenWrapper.PaymentStore OpenWrapper.Providers OpenWrapper.Headers
open OpenWrapper.Effects OpenWrapper.Gateway OpenWrapper.Alone OpenWrapper.RefundSequences

/-- The status a payment of `amount` has when `total` of it is refunded. -/
def Fits (status : Text PaymentStatus) (total amount : ℤ) : Prop :=
  (status = .stored .refunded ↔ total = amount) ∧
  (status = .stored .partiallyRefunded ↔ 0 < total ∧ total < amount) ∧
  (status = .stored .succeeded ↔ total = 0)

instance (status : Text PaymentStatus) (total amount : ℤ) :
    Decidable (Fits status total amount) := inferInstanceAs (Decidable (_ ∧ _ ∧ _))

/-- The status of the payment is the one its succeeded refunds call for. -/
def Agrees (p : PaymentId) (L : Ledger) : Prop :=
  ∀ row ∈ L.payments.rows, row.id = .stored p →
    Fits row.status (L.sumRefunds p) row.amountMinorUnits

instance (p : PaymentId) (L : Ledger) : Decidable (Agrees p L) :=
  inferInstanceAs (Decidable (∀ row ∈ L.payments.rows, _))

/-- Some of the payment is refunded before, and some is not after. -/
def Between (p : PaymentId) (k : Booking) : Prop :=
  0 < k.before.sumRefunds p ∧ ∀ row ∈ k.before.payments.rows, row.id = .stored p →
    k.before.sumRefunds p + k.record.amountMinorUnits < row.amountMinorUnits

/-- A refund row goes with the status update if and only if the refund
succeeded, or the amounts leave the status as it is either way. -/
def Counts (b : Backend) (p : PaymentId) (k : Booking) : Prop :=
  k.record.paymentId = p → k.inserted = true →
    Between p k ∨ (torn b k.draw = false ↔ k.record.status = .succeeded)

instance (p : PaymentId) (k : Booking) : Decidable (Between p k) :=
  inferInstanceAs (Decidable (_ ∧ ∀ row ∈ k.before.payments.rows, _))

instance (b : Backend) (p : PaymentId) (k : Booking) : Decidable (Counts b p k) :=
  inferInstanceAs (Decidable (_ → _ → _ ∨ _))

variable {b : Backend} {app : App} {p : PaymentId}

theorem fits_refunded (total amount : ℤ) :
    Fits (.stored .refunded) total amount ↔ total = amount ∧ total ≠ 0 := by
  simp [Fits]
  omega

theorem fits_partiallyRefunded (total amount : ℤ) :
    Fits (.stored .partiallyRefunded) total amount ↔ 0 < total ∧ total < amount := by
  simp [Fits]
  omega

theorem fits_succeeded (total amount : ℤ) :
    Fits (.stored .succeeded) total amount ↔ total = 0 ∧ amount ≠ 0 := by
  simp [Fits]
  omega

theorem agrees_iff {L : Ledger} {row : PaymentRow} (mem : row ∈ L.payments.rows)
    (is : row.id = .stored p) :
    Agrees p L ↔ Fits row.status (L.sumRefunds p) row.amountMinorUnits := by
  constructor
  · intro agrees
    exact agrees row mem is
  · intro fits row' mem' is'
    rw [only_row mem is mem' is']
    exact fits

section Amounts

variable {status : Text PaymentStatus} {total amount spent : ℤ} {succeeded : Prop}
  [Decidable succeeded]

/-- The refund is in the table and the status is as before. -/
theorem fits_torn (known : (status = .stored .succeeded ∧ total = 0) ∨
      (status = .stored .partiallyRefunded ∧ 0 < total))
    (positive : 0 < spent) (fits : Fits status total amount) :
    Fits status (total + if succeeded then spent else 0) amount ↔
      (0 < total ∧ total + spent < amount) ∨ ¬ succeeded := by
  by_cases counts : succeeded
  · rw [if_pos counts]
    rcases known with ⟨rfl, zero⟩ | ⟨rfl, some_⟩
    · rw [fits_succeeded]
      simp only [counts, not_true_eq_false, or_false]
      omega
    · rw [fits_partiallyRefunded]
      simp only [counts, not_true_eq_false, or_false]
      omega
  · rw [if_neg counts, Int.add_zero]
    simp only [counts, not_false_eq_true, or_true, iff_true]
    exact fits

/-- The refund is in the table and the status was set for it. -/
theorem fits_booked (covered : 0 ≤ total) (positive : 0 < spent)
    (within : spent ≤ amount - total) :
    Fits (.stored (if total + spent ≥ amount then .refunded else .partiallyRefunded))
        (total + if succeeded then spent else 0) amount ↔
      (0 < total ∧ total + spent < amount) ∨ succeeded := by
  by_cases whole : total + spent ≥ amount
  · rw [if_pos whole, fits_refunded]
    by_cases counts : succeeded
    · rw [if_pos counts]
      simp only [counts, or_true, iff_true]
      omega
    · rw [if_neg counts]
      simp only [counts, or_false]
      omega
  · rw [if_neg whole, fits_partiallyRefunded]
    by_cases counts : succeeded
    · rw [if_pos counts]
      simp only [counts, or_true, iff_true]
      omega
    · rw [if_neg counts]
      simp only [counts, or_false]
      omega

end Amounts

theorem between_iff {k : Booking} {row : PaymentRow} (mem : row ∈ k.before.payments.rows)
    (is : row.id = .stored p) : Between p k ↔ 0 < k.before.sumRefunds p ∧
      k.before.sumRefunds p + k.record.amountMinorUnits < row.amountMinorUnits := by
  constructor
  · intro both
    exact ⟨both.1, both.2 row mem is⟩
  · intro both
    refine ⟨both.1, fun row' mem' is' => ?_⟩
    rw [only_row mem is mem' is']
    exact both.2

/-- What the booking makes of a payment that agreed with its refunds. -/
theorem agrees_booked {L : Ledger} {req : RefundRequest} {result : RefundResult} {k : Booking}
    (booked : Booked L req result k) (about : k.record.paymentId = p) (agrees : Agrees p L) :
    Agrees p (k.outcome app b).1 ↔ Counts b p k := by
  have before := booked.before
  by_cases is : k.inserted = true
  · obtain ⟨row, payment, mem, id, parsed, refundable, positive, within, status⟩ := booked.read
    obtain ⟨refunds, inserted, outcome⟩ := outcome_of_inserted b app is
    have read := readFrom_of_toPayment parsed
    rw [about] at id within status
    rw [← before] at mem agrees within status
    rw [← booked.amount, ← read.amount] at within
    rw [← booked.amount] at positive
    rw [← booked.amount, Handlers.statusAfterRefund, ← read.amount] at status
    have sum := sumRefunds_inserted (p := p) inserted
    have fits := (agrees_iff mem id).mp agrees
    have known : (row.status = .stored .succeeded ∧ k.before.sumRefunds p = 0) ∨
        (row.status = .stored .partiallyRefunded ∧ 0 < k.before.sumRefunds p) := by
      rcases refundable with whole | part
      · have stored := read.status.trans (congrArg Text.stored whole)
        rw [stored, fits_succeeded] at fits
        exact .inl ⟨stored, fits.1⟩
      · have stored := read.status.trans (congrArg Text.stored part)
        rw [stored, fits_partiallyRefunded] at fits
        exact .inr ⟨stored, fits.1⟩
    have counts : Counts b p k ↔ Between p k ∨
        (torn b k.draw = false ↔ k.record.status = .succeeded) :=
      ⟨fun counts => counts about is, fun is _ _ => is⟩
    simp only [about, true_and] at sum
    rw [counts, between_iff mem id, outcome]
    by_cases half : torn b k.draw = true
    · have same : row ∈ ({ k.before with refunds } : Ledger).payments.rows := mem
      rw [if_pos half, agrees_iff same id, sum, fits_torn known positive fits]
      simp [half]
    · have covered : 0 ≤ k.before.sumRefunds p := by omega
      have kept : Table.change (targets (.stored k.record.paymentId) false)
          ((refundEdit k.status (k.draw.clock 0)).kept b).apply row ∈
          (Ledger.updatePayment { k.before with refunds } (.stored k.record.paymentId) false
            ((refundEdit k.status (k.draw.clock 0)).kept b)).payments.rows :=
        List.mem_map_of_mem mem
      have hit := Table.change_of_pos
        (f := ((refundEdit k.status (k.draw.clock 0)).kept b).apply)
        (p := targets (.stored k.record.paymentId) false) (a := row) (by simp [targets, id, about])
      rw [hit] at kept
      rw [if_neg half, agrees_iff kept id]
      show Fits (.stored k.status) (Ledger.sumRefunds { k.before with refunds } p)
        row.amountMinorUnits ↔ _
      rw [sum, status, fits_booked covered positive within]
      simp [half]
  · rw [outcome_of_not_inserted (by simpa using is), before]
    exact ⟨fun _ _ inserted => absurd inserted is, fun _ => agrees⟩

theorem agrees_other (b : Backend) (app : App) {k : Booking} (agrees : Agrees p k.before)
    (other : k.record.paymentId ≠ p) : Agrees p (k.outcome app b).1 := by
  by_cases is : k.inserted = true
  · obtain ⟨refunds, inserted, outcome⟩ := outcome_of_inserted b app is
    have same : Ledger.sumRefunds { k.before with refunds } p = k.before.sumRefunds p := by
      rw [sumRefunds_inserted inserted, if_neg (fun both => other both.1), Int.add_zero]
    rw [outcome]
    by_cases half : torn b k.draw = true
    · rw [if_pos half]
      intro row mem is
      rw [same]
      exact agrees row mem is
    · rw [if_neg half]
      intro row mem is
      obtain ⟨row₀, mem₀, is₀, amount, status⟩ := row_of_updated mem is
      rw [if_neg other] at status
      show Fits _ (Ledger.sumRefunds { k.before with refunds } p) _
      rw [same, status, amount]
      exact agrees row₀ mem₀ is₀
  · rw [outcome_of_not_inserted (by simpa using is)]
    exact agrees

theorem agrees_course {L : Ledger} {req : RefundRequest} {f : RefundRun}
    (course : Course app b L req f) (agrees : Agrees p L) :
    Agrees p f.shared.ledger ↔ ∀ k ∈ bookings f, Counts b p k := by
  cases course with
  | refused status code message kept unasked unbooked answer other =>
    rw [kept, unbooked]
    simp [agrees]
  | declined e kept asked unbooked answer =>
    rw [kept, unbooked]
    simp [agrees]
  | booked result k booked asked one left answer =>
    rw [left, one]
    simp only [List.mem_singleton, forall_eq]
    by_cases about : k.record.paymentId = p
    · exact agrees_booked booked about agrees
    · have kept := agrees_other b app (booked.before.symm ▸ agrees) about
      exact ⟨fun _ same => absurd same about, fun _ => kept⟩

theorem agrees_sequence {reqs : List (RefundRequest × List Choice)} {s : Shared}
    {fs : List RefundRun} (agrees : Agrees p s.ledger)
    (ran : inTurn (setting b app) s (turns app reqs) = some fs) :
    (∀ f ∈ fs, Agrees p f.shared.ledger) ↔ ∀ f ∈ fs, ∀ k ∈ bookings f, Counts b p k := by
  induction reqs generalizing s fs with
  | nil =>
    cases ran
    simp
  | cons turn rest ih =>
    obtain ⟨f, later, course, ran', rfl⟩ := turns_cons ran
    have first := agrees_course course agrees
    simp only [List.forall_mem_cons]
    constructor
    · intro both
      exact ⟨first.mp both.1, (ih both.1 ran').mp both.2⟩
    · intro both
      have now := first.mpr both.1
      exact ⟨now, (ih now ran').mpr both.2⟩

/-- From a succeeded payment on, the status is the one the refund table calls
for after every request, just when every booking counts. -/
theorem refund_status_agrees (b : Backend) (app : App) (s : Shared) (p : PaymentId)
    (row : PaymentRow) (payment : Payment) (mem : row ∈ s.ledger.payments.rows)
    (is : row.id = .stored p) (parsed : row.toPayment = some payment)
    (succeeded : payment.status = .succeeded) (unrefunded : s.ledger.sumRefunds p = 0)
    (reqs : List (RefundRequest × List Choice)) (fs : List RefundRun)
    (ran : inTurn (setting b app) s (turns app reqs) = some fs) :
    (∀ f ∈ fs, Agrees p f.shared.ledger) ↔ ∀ f ∈ fs, ∀ k ∈ bookings f, Counts b p k := by
  have read := readFrom_of_toPayment parsed
  apply agrees_sequence _ ran
  rw [agrees_iff mem is, read.status, succeeded, fits_succeeded, unrefunded, read.amount]
  have positive := payment.amount.positive
  omega

section Samples

open OpenWrapper.RefundAdapters

/-- A succeeded Stripe payment of 100, as a creation and a webhook leave it. -/
def soldRow : PaymentRow where
  id := .stored ⟨1⟩
  idempotencyKey := .stored .order
  requestFingerprint := ""
  provider := .stored ProviderId.stripe
  providerReference := some "pi_1"
  status := .stored .succeeded
  amountMinorUnits := 100
  currency := .stored .usd
  merchantReference := none
  nextActionJson := none
  userId := none
  apiKeyId := none
  environment := "live"
  createdAt := ⟨0⟩
  updatedAt := ⟨0⟩

def soldPayment : Payment :=
  ⟨⟨1⟩, .order, ProviderId.stripe, some "pi_1", .succeeded,
    .hundred .usd, .usd, none, ⟨0⟩, ⟨0⟩⟩

def sold : Shared :=
  ⟨⟨⟨[soldRow], List.pairwise_singleton _ _⟩, Table.empty, Table.empty⟩, [], [], [], 0⟩

def refundOf (amount : ℤ) : RefundRequest := ⟨⟨[]⟩, .stored ⟨1⟩, ⟨amount, none⟩⟩

/-- What Stripe's adapter makes of its answer to a refund of the payment. -/
def stripeAnswer (amount : ℤ) (fields : List (String × HttpExchange.Json)) :
    Except OpenWrapperError RefundResult :=
  answered stripeAccount ⟨1⟩ "pi_1" amount none
    [.answered ⟨200, "OK"⟩ (.json (.object fields))]

def refundChoices (answer : Except OpenWrapperError RefundResult) : List Choice :=
  [.draw (quietDraw 0), .draw (quietDraw 0), .refunded answer, .generated ⟨9⟩, .clock ⟨0⟩,
    .draw (quietDraw 0), .generated ⟨9⟩, .recorded (.ok ())]

def refundTurn (amount : ℤ) (fields : List (String × HttpExchange.Json)) :
    RefundRequest × List Choice :=
  (refundOf amount, refundChoices (stripeAnswer amount fields))

/-- Forty that succeed, then sixty that do. -/
def refundedInTwo : List (RefundRequest × List Choice) :=
  [refundTurn 40 [("id", .string "re_1"), ("status", .string "succeeded")],
    refundTurn 60 [("id", .string "re_2"), ("status", .string "succeeded")]]

theorem refund_status_agrees_in_two : ∃ fs,
    inTurn (setting .sqlite shop) sold (turns shop refundedInTwo) = some fs ∧
      ∀ f ∈ fs, Agrees ⟨1⟩ f.shared.ledger := by
  have ends_in : (inTurn (setting .sqlite shop) sold (turns shop refundedInTwo)).any
      (fun fs => decide (∀ f ∈ fs, ∀ k ∈ bookings f, Counts .sqlite ⟨1⟩ k)) = true := by
    decide +kernel
  obtain ⟨fs, ran, counts⟩ := (Option.any_eq_true _ _).mp ends_in
  exact ⟨fs, ran, (refund_status_agrees .sqlite shop sold ⟨1⟩ soldRow soldPayment
    (List.mem_singleton_self _) rfl (by decide +kernel) rfl (by decide +kernel) refundedInTwo fs
    ran).mpr (of_decide_eq_true counts)⟩

/-- A refund of the whole payment that Stripe has taken on but not paid. -/
def pendingRefund : List (RefundRequest × List Choice) :=
  [refundTurn 100 [("id", .string "re_1"), ("status", .string "pending")]]

theorem refund_status_disagrees : ¬ ∀ (b : Backend) (app : App) (s : Shared) (p : PaymentId)
    (row : PaymentRow) (payment : Payment), row ∈ s.ledger.payments.rows → row.id = .stored p →
    row.toPayment = some payment → payment.status = .succeeded → s.ledger.sumRefunds p = 0 →
    ∀ (reqs : List (RefundRequest × List Choice)) (fs : List RefundRun),
      inTurn (setting b app) s (turns app reqs) = some fs →
      ∀ f ∈ fs, Agrees p f.shared.ledger := by
  intro claimed
  have ends_in : (inTurn (setting .sqlite shop) sold (turns shop pendingRefund)).any
      (fun fs => decide (¬ ∀ f ∈ fs, Agrees ⟨1⟩ f.shared.ledger)) = true := by decide +kernel
  obtain ⟨fs, ran, disagrees⟩ := (Option.any_eq_true _ _).mp ends_in
  exact of_decide_eq_true disagrees (claimed .sqlite shop sold ⟨1⟩ soldRow soldPayment
    (List.mem_singleton_self _) rfl (by decide +kernel) rfl (by decide +kernel) pendingRefund fs
    ran)

end Samples

end OpenWrapper.RefundStatus
