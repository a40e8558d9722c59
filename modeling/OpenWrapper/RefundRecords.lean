import OpenWrapper.RefundStatus

/-! # What is recorded of an accepted refund

A refund that its provider accepted is recorded under the id the provider gave
it, so it gets a row only if no row has this id; and the SQLite store inserts
the row and updates the status in two statements of their own. -/

set_option autoImplicit false

namespace OpenWrapper.RefundRecords
open OpenWrapper.Ids OpenWrapper.Errors OpenWrapper.Payments OpenWrapper.ConstraintTable
open OpenWrapper.Schema OpenWrapper.PaymentStore OpenWrapper.Providers OpenWrapper.Headers
open OpenWrapper.Effects OpenWrapper.Gateway OpenWrapper.Alone OpenWrapper.RefundSequences
open OpenWrapper.RefundStatus OpenWrapper.RefundAdapters

section Atomicity

/-- A call of `record_refund` that fails leaves both tables as they were. -/
def AllOrNothing (app : App) (k : Booking) : Prop :=
  (k.outcome app .sqlite).2 ≠ .ok () →
    (k.outcome app .sqlite).1.refunds.rows = k.before.refunds.rows ∧
      (k.outcome app .sqlite).1.payments.rows = k.before.payments.rows

theorem allOrNothing_iff (app : App) (k : Booking) :
    AllOrNothing app k ↔ ¬ (k.inserted = true ∧ k.draw.fails 2 = true) := by
  unfold AllOrNothing
  by_cases is : k.inserted = true
  · obtain ⟨refunds, inserted, outcome⟩ := outcome_of_inserted .sqlite app is
    obtain ⟨-, rows⟩ := Table.insert_eq_some.mp inserted
    rw [outcome]
    by_cases half : k.draw.fails 2 = true
    · have torn_ : torn .sqlite k.draw = true := half
      rw [if_pos torn_]
      simp [is, half, rows]
    · have whole : ¬ torn .sqlite k.draw = true := half
      rw [if_neg whole]
      simp [half]
  · rw [outcome_of_not_inserted (by simpa using is)]
    simp [is]

end Atomicity

section Rows

/-- Of a refund the provider accepted, the request leaves a row of its own
with the refund's amount. -/
def Recorded (L : Ledger) (req : RefundRequest) (f : RefundRun) : Prop :=
  ∀ result, .ok result ∈ answers f → result.accepted = true →
    ∃ row : RefundRow, f.shared.ledger.refunds.rows = L.refunds.rows ++ [row] ∧
      row.paymentId = req.id ∧ row.amountMinorUnits = result.amountMinorUnits

/-- The accepted refund has a new id, and the amount that was asked for. -/
def Fresh (L : Ledger) (req : RefundRequest) (f : RefundRun) : Prop :=
  ∀ r ∈ answers f, ∀ result ∈ r.toOption, result.accepted = true →
    (∀ k ∈ bookings f, ∀ row ∈ L.refunds.rows, row.id ≠ k.record.id) ∧
      result.amountMinorUnits = req.body.amountMinorUnits

instance : (L : Ledger) → (req : RefundRequest) → (f : RefundRun) → Decidable (Fresh L req f) :=
  fun _ _ f => inferInstanceAs (Decidable (∀ r ∈ answers f, ∀ result ∈ r.toOption, _))

/-- What holds of every request of a sequence, with the tables it finds. -/
def Throughout (P : Ledger → RefundRequest → RefundRun → Prop) :
    Ledger → List RefundRequest → List RefundRun → Prop
  | L, req :: reqs, f :: fs => P L req f ∧ Throughout P f.shared.ledger reqs fs
  | _, _, _ => True

instance (P : Ledger → RefundRequest → RefundRun → Prop)
    [each : ∀ L req f, Decidable (P L req f)] :
    (L : Ledger) → (reqs : List RefundRequest) → (fs : List RefundRun) →
      Decidable (Throughout P L reqs fs)
  | L, req :: reqs, f :: fs =>
    have := instDecidableThroughout P f.shared.ledger reqs fs
    inferInstanceAs (Decidable (P L req f ∧ Throughout P f.shared.ledger reqs fs))
  | _, [], _ => .isTrue trivial
  | _, _ :: _, [] => .isTrue trivial

/-- None of the statements of a booking fails. -/
def Working (f : RefundRun) : Prop := ∀ k ∈ bookings f, ∀ n < 3, k.draw.fails n = false

instance (f : RefundRun) : Decidable (Working f) :=
  inferInstanceAs (Decidable (∀ k ∈ bookings f, ∀ n < 3, _))

variable {b : Backend} {app : App} {L : Ledger} {req : RefundRequest} {f : RefundRun}

theorem inserted_iff {k : Booking} (working : ∀ n < 3, k.draw.fails n = false) :
    k.inserted = true ↔ ∀ row ∈ k.before.refunds.rows, row.id ≠ k.record.id := by
  have works := working 1 (by decide)
  unfold Booking.inserted
  rw [works]
  cases inserted : k.before.refunds.insert k.record.toRow with
  | none =>
    obtain ⟨row, mem, clash⟩ := Table.insert_eq_none.mp inserted
    constructor
    · nofun
    · intro apart
      exact absurd clash (apart row mem)
  | some refunds =>
    obtain ⟨fresh, -⟩ := Table.insert_eq_some.mp inserted
    exact ⟨fun _ row mem => fresh row mem, fun _ => rfl⟩

theorem recorded_iff (course : Course app b L req f) (working : Working f) :
    Recorded L req f ↔ Fresh L req f := by
  cases course with
  | refused status code message kept unasked unbooked answer other =>
    simp [Recorded, Fresh, unasked]
  | declined e kept asked unbooked answer =>
    simp [Recorded, Fresh, asked, Except.toOption]
  | booked result k booked asked one left answer =>
    have works : ∀ n < 3, k.draw.fails n = false :=
      working k (by rw [one]; exact List.mem_singleton_self k)
    have inserts := inserted_iff works
    rw [booked.before] at inserts
    unfold Recorded Fresh
    rw [asked, one]
    simp only [List.mem_singleton, Except.ok.injEq, forall_eq, Except.toOption, Option.mem_def,
      Option.some.injEq, forall_eq']
    apply imp_congr_right
    intro accepted
    rw [← inserts, left]
    by_cases is : k.inserted = true
    · obtain ⟨refunds, inserted, outcome⟩ := outcome_of_inserted b app is
      obtain ⟨-, rows⟩ := Table.insert_eq_some.mp inserted
      have after : (k.outcome app b).1.refunds.rows = L.refunds.rows ++ [k.record.toRow] := by
        rw [outcome, ← booked.before]
        split
        · exact rows
        · exact rows
      have about : k.record.toRow.paymentId = req.id := booked.about.symm
      have amount : k.record.toRow.amountMinorUnits = req.body.amountMinorUnits := booked.amount
      constructor
      · rintro ⟨row, grown, -, same⟩
        rw [after] at grown
        obtain rfl : k.record.toRow = row := by simpa using grown
        exact ⟨is, same.symm.trans amount⟩
      · rintro ⟨-, same⟩
        exact ⟨k.record.toRow, after, about, amount.trans same.symm⟩
    · rw [outcome_of_not_inserted (by simpa using is), booked.before]
      simp [is]

theorem throughout_iff {P Q : Ledger → RefundRequest → RefundRun → Prop}
    {reqs : List (RefundRequest × List Choice)} {s : Shared} {fs : List RefundRun}
    (each : ∀ L req f, Course app b L req f → Working f → (P L req f ↔ Q L req f))
    (ran : inTurn (setting b app) s (turns app reqs) = some fs) (working : ∀ f ∈ fs, Working f) :
    Throughout P s.ledger (reqs.map Prod.fst) fs ↔
      Throughout Q s.ledger (reqs.map Prod.fst) fs := by
  induction reqs generalizing s fs with
  | nil =>
    cases ran
    rfl
  | cons turn rest ih =>
    obtain ⟨f, later, course, ran', rfl⟩ := turns_cons ran
    have first := each _ _ _ course (working f List.mem_cons_self)
    have others := ih ran' fun f' mem => working f' (List.mem_cons_of_mem _ mem)
    exact and_congr first others

end Rows

/-- The mock's second refund of a payment does not have a new id. -/
theorem mock_not_inserted {config : MockConfig} {label : ProviderId} {id : PaymentId}
    {reference reference' : String} {amount amount' : ℤ} {reason reason' : Option String}
    {exchanges exchanges' : List HttpExchange.Exchange} {result result' : RefundResult}
    {L : Ledger} {req : RefundRequest} {k : Booking} {row : RefundRow}
    (first : answered (.mock config label) id reference amount reason exchanges = .ok result)
    (second : answered (.mock config label) id reference' amount' reason' exchanges' =
      .ok result') (mem : row ∈ L.refunds.rows) (is : row.id = result.refundId)
    (booked : Booked L req result' k) : k.inserted = false := by
  have name := (mock_refundId first).1
  have name' := (mock_refundId second).1
  obtain ⟨generated, named⟩ := booked.id
  have some_ : result'.refundId.toList.isEmpty = false := by
    rw [name', String.toList_append, String.toList_append]
    simp
  rw [some_, if_neg (by decide), name', ← name, ← is] at named
  have clash : RefundClash row k.record.toRow := named.symm
  unfold Booking.inserted
  rw [booked.before, Table.insert_eq_none.mpr ⟨row, mem, clash⟩]
  simp

section Samples

def mockInstance : Provider := .mock .default ProviderId.mock

/-- The mock in place of Stripe, and a payment it settled. -/
def mockShop : App :=
  { shop with providers := fun name => if name = "mock" then some mockInstance else none }

def mockSold : Shared :=
  ⟨⟨⟨[{ soldRow with provider := .stored ProviderId.mock, providerReference := some "mock_ref" }],
    List.pairwise_singleton _ _⟩, Table.empty, Table.empty⟩, [], [], [], 0⟩

def mockTurn (amount : ℤ) : RefundRequest × List Choice :=
  (refundOf amount, [.draw (quietDraw 0), .draw (quietDraw 0),
    .refunded (answered mockInstance ⟨1⟩ "mock_ref" amount none []), .generated ⟨9⟩, .clock ⟨0⟩,
    .draw (quietDraw 0)])

def mockRefunds : List (RefundRequest × List Choice) :=
  [((mockTurn 40).1, (mockTurn 40).2 ++ [.generated ⟨9⟩, .recorded (.ok ())]), mockTurn 30]

/-- The status update of this booking fails after its insertion. -/
def tornBooking : Booking where
  before := sold.ledger
  draw := { quietDraw 0 with fails := fun n => n == 2 }
  record := ⟨"re_1", ⟨1⟩, 40, .usd, .succeeded, none, none, 0⟩
  status := .partiallyRefunded

end Samples

end OpenWrapper.RefundRecords
