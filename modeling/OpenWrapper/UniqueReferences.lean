import OpenWrapper.CallbackReferences

/-! # One payment for a reference

A webhook is looked up by its provider and the provider's reference. Nothing in
the tables keeps the pair unique: a reference is as unique as the provider that
issues it, and Fawry's is the merchant's own number. -/

set_option autoImplicit false

namespace OpenWrapper.UniqueReferences
open OpenWrapper.Ids OpenWrapper.Payments OpenWrapper.Providers OpenWrapper.Adapters
open OpenWrapper.CreationAmbiguity OpenWrapper.Schema OpenWrapper.ConstraintTable
open OpenWrapper.PaymentStore OpenWrapper.StatementRules OpenWrapper.StoreContract
open OpenWrapper.Effects OpenWrapper.Gateway OpenWrapper.Contracts OpenWrapper.Evolution
open OpenWrapper.References OpenWrapper.CallbackReferences
open OpenWrapper.Suspended OpenWrapper.Interleaving

/-- A payment was created by the call, which was answered with the result. -/
def Creation (w : GwWorld) (p : Provider) (id : PaymentId) (request : PaymentRequest)
    (result : PaymentResult) : Prop :=
  ∃ o, Happened w o ⟨.createPayment p id request, .ok result⟩

def isFawry : Provider → Bool
  | .fawry _ => true
  | _ => false

/-- The results are the adapters'; a provider other than Fawry issues a
reference once. -/
structure Issuing (w : GwWorld) : Prop where
  fawry : ∀ config id request result, Creation w (.fawry config) id request result →
    ∃ x now, (asked (.fawry config) id request x now).2 = .ok result
  others : ∀ p p' id id' request request' result result', Creation w p id request result →
    Creation w p' id' request' result' → isFawry p = false → isFawry p' = false →
    request.provider = request'.provider → result.providerReference = result'.providerReference →
    id = id'

/-- The number Fawry knows a payment by is the reference of no other payment
of the same provider. -/
def FreshNumbers (w : GwWorld) : Prop :=
  ∀ config p' id id' request request' result result', Creation w (.fawry config) id request result →
    Creation w p' id' request' result' → request.provider = request'.provider →
    Adapters.Fawry.deriveMerchantRefNum request id = result'.providerReference → id = id'

/-- A provider's reference is carried by one payment, and an event with a
reference that a creation obtained changes no other payment. -/
structure Identifies (fp : PaymentRequest → String) (b : Backend) (w : GwWorld) : Prop where
  one : ∀ row ∈ w.shared.ledger.payments.rows, ∀ row' ∈ w.shared.ledger.payments.rows,
    ∀ provider reference, Matches provider reference row → Matches provider reference row' →
    row = row'
  only : ∀ p id request result report, Creation w p id request result →
    report.provider = request.provider → report.providerReference = result.providerReference →
    ∀ d, ∀ row ∈ w.shared.ledger.payments.rows, row.id ≠ .stored id →
      row ∈ (execOp fp b d w.shared.ledger (.applyWebhookEvent report)).1.payments.rows

section Creations

variable {w : GwWorld} {p p' : Provider} {id id' : PaymentId}
  {request request' : PaymentRequest} {result result' : PaymentResult}

theorem fawry_reference (issuing : Issuing w) {config : FawryConfig}
    (creation : Creation w (.fawry config) id request result) :
    result.providerReference = Adapters.Fawry.deriveMerchantRefNum request id := by
  obtain ⟨x, now, answered⟩ := issuing.fawry config id request result creation
  obtain ⟨status, body, -, named⟩ := asked_called answered
  exact named

theorem isFawry_eq (fawry : isFawry p = true) : ∃ config, p = .fawry config := by
  cases p with
  | fawry config => exact ⟨config, rfl⟩
  | _ => cases fawry

/-- Creations that obtained one reference are of one payment. -/
theorem creation_unique (issuing : Issuing w) (fresh : FreshNumbers w)
    (creation : Creation w p id request result) (creation' : Creation w p' id' request' result')
    (sameProvider : request.provider = request'.provider)
    (sameReference : result.providerReference = result'.providerReference) : id = id' := by
  by_cases fawry : isFawry p = true
  · obtain ⟨config, rfl⟩ := isFawry_eq fawry
    have number := fawry_reference issuing creation
    exact fresh config p' id id' request request' result result' creation creation' sameProvider
      (number.symm.trans sameReference)
  · by_cases fawry' : isFawry p' = true
    · obtain ⟨config, rfl⟩ := isFawry_eq fawry'
      have number := fawry_reference issuing creation'
      exact (fresh config p id' id request' request result' result creation' creation
        sameProvider.symm (number.symm.trans sameReference.symm)).symm
    · exact issuing.others p p' id id' request request' result result' creation creation'
        (by simpa using fawry) (by simpa using fawry') sameProvider sameReference

theorem obtained_unique (issuing : Issuing w) (fresh : FreshNumbers w) {provider : ProviderId}
    {reference : String} (obtained : Obtained w provider reference id)
    (obtained' : Obtained w provider reference id') : id = id' := by
  obtain ⟨o, p, request, result, happened, rfl, rfl⟩ := obtained
  obtain ⟨o', p', request', result', happened', sameProvider, sameReference⟩ := obtained'
  exact creation_unique issuing fresh ⟨o, happened⟩ ⟨o', happened'⟩ sameProvider.symm
    sameReference.symm

end Creations

section Events

variable {fp : PaymentRequest → String} {b : Backend} {d : Draw} {L L' : Ledger}

theorem mem_updatePayment {row : PaymentRow} {target : Text PaymentId} {guarded : Bool}
    {edit : PaymentEdit} (mem : row ∈ L.payments.rows) (other : row.id ≠ target) :
    row ∈ (L.updatePayment target guarded edit).payments.rows := by
  have untouched : Table.change (targets target guarded) edit.apply row = row :=
    Table.change_of_neg (by simp [targets, other])
  have kept := List.mem_map_of_mem (f := Table.change (targets target guarded) edit.apply) mem
  rw [untouched] at kept
  exact kept

/-- An event changes a payment that carries its reference, and no other. -/
theorem event_only {report : WebhookReport} {r : StoreResult WebhookApplyOutcome}
    (outcome : Outcome fp b d L (.applyWebhookEvent report) L' r) {target : Text PaymentId}
    (only : ∀ row ∈ L.payments.rows, Matches report.provider report.providerReference row →
      row.id = target) {row : PaymentRow} (mem : row ∈ L.payments.rows) (other : row.id ≠ target) :
    row ∈ L'.payments.rows := by
  cases outcome with
  | applied event row' current id received now webhookEvents mem' matching =>
    apply mem_updatePayment mem
    rw [only row' mem' matching]
    exact other
  | appliedUnnamed event row' current received now webhookEvents postgres mem' matching =>
    apply mem_updatePayment mem
    rw [only row' mem' matching]
    exact other
  | _ => exact mem

end Events

section Main

variable {b : Backend} {app : App} {w : GwWorld}

/-- While every number Fawry is given is fresh, a reference identifies its
payment. -/
theorem references_identify (reachable : Reachable b app w) (issuing : Issuing w)
    (fresh : FreshNumbers w) : Identifies app.fingerprint b w := by
  have issued := issued_of_reachable reachable
  constructor
  · intro row mem row' mem' provider reference matching matching'
    obtain ⟨id, is, obtained⟩ := issued.sourced row mem provider reference matching
    obtain ⟨id', is', obtained'⟩ := issued.sourced row' mem' provider reference matching'
    apply row_eq_of_id mem mem'
    rw [is, is', obtained_unique issuing fresh obtained obtained']
  · intro p id request result report creation at_ named d row mem other
    have only : ∀ row' ∈ w.shared.ledger.payments.rows,
        Matches report.provider report.providerReference row' → row'.id = .stored id := by
      intro row' mem' matching
      obtain ⟨id', is', obtained⟩ := issued.sourced row' mem' _ _ matching
      obtain ⟨o, happened⟩ := creation
      have mine : Obtained w report.provider report.providerReference id :=
        ⟨o, p, request, result, happened, at_.symm, named.symm⟩
      rw [is', obtained_unique issuing fresh obtained mine]
    exact event_only (execOp_outcome app.fingerprint b d w.shared.ledger
      (.applyWebhookEvent report)) only mem other

section Samples

/-- What Fawry answers a charge with. -/
def chargeAccepted : HttpExchange.Exchange := .answered ⟨200, "OK"⟩ (.json (.object
  [("statusCode", .integer 200), ("referenceNumber", .string "963455678")]))

def fawryAccount : FawryConfig := ⟨"MC1", "s3cr3t", "https://atfawry.fawrystaging.com", false⟩

def fawryShop : App :=
  { shop with providers := fun name => if name = "fawry" then some (.fawry fawryAccount) else none }

/-- An order under the merchant's number of it. -/
def numberedOrder (key number : String) : Origin :=
  .http ⟨[("idempotency-key", .text key)]⟩
    (.createPayment { orderBody "fawry" with merchantReference := some number })

def chargeResult (number : String) : PaymentResult :=
  ⟨ProviderId.fawry, number, .pending, some (.payAtReference "963455678" (some
    "Pay this reference number at any Fawry outlet, ATM, or via the Fawry app.")),
    .hundred .usd, ⟨0⟩⟩

/-- A creation, as the task of this number, of the payment of this number. -/
def charge (i n : ℕ) (key number : String) : List GwAction :=
  [.spawn (numberedOrder key number), .advance i (.acquired true), .advance i (.draw (quietDraw n)),
    .advance i (.created (.ok (chargeResult number))), .advance i (.draw (quietDraw 0))]

/-- Every creation of the run is the adapter's, from the answer above. -/
def charged : GwEvent → Bool
  | ⟨.createPayment (.fawry config) id request, .ok result⟩ =>
    decide ((asked (.fawry config) id request chargeAccepted ⟨0⟩).2.toOption = some result)
  | ⟨.createPayment _ _ _, .ok _⟩ => false
  | _ => true

theorem issuing_of_charged {w : GwWorld}
    (all : ∀ t ∈ w.tasks, ∀ ev ∈ t.history, charged ev = true) : Issuing w where
  fawry := by
    rintro config id request result ⟨o, t, mem, -, known⟩
    have checked := of_decide_eq_true (all t mem _ known)
    refine ⟨chargeAccepted, ⟨0⟩, ?_⟩
    cases answered : (asked (.fawry config) id request chargeAccepted ⟨0⟩).2 with
    | ok result' =>
      rw [answered] at checked
      exact congrArg Except.ok (Option.some.inj checked)
    | error e =>
      rw [answered] at checked
      cases checked
  others := by
    rintro p p' id id' request request' result result' ⟨o, t, mem, -, known⟩ - other
    have checked := all t mem _ known
    cases p with
    | fawry config => cases other
    | _ => cases checked

/-- One number for two orders. -/
def reused : List GwAction := charge 0 1 "order-1" "M-1" ++ charge 1 2 "order-2" "M-1"

theorem number_reused : ¬ ∀ (b : Backend) (app : App) (w : GwWorld), Reachable b app w →
    Issuing w → Identifies app.fingerprint b w := by
  intro claimed
  have finished : (run (setting .sqlite fawryShop) (start []) reused).isSome = true := by
    decide +kernel
  obtain ⟨w, ran⟩ := Option.isSome_iff_exists.mp finished
  have facts : (run (setting .sqlite fawryShop) (start []) reused).all (fun w =>
      decide ((∀ t ∈ w.tasks, ∀ ev ∈ t.history, charged ev = true) ∧
        ∃ row ∈ w.shared.ledger.payments.rows, ∃ row' ∈ w.shared.ledger.payments.rows,
          (row.provider = .stored ProviderId.fawry ∧ row.providerReference = some "M-1") ∧
          (row'.provider = .stored ProviderId.fawry ∧ row'.providerReference = some "M-1") ∧
          row ≠ row')) = true := by decide +kernel
  rw [ran] at facts
  obtain ⟨all, row, mem, row', mem', matching, matching', apart⟩ := of_decide_eq_true facts
  have identifies := claimed .sqlite fawryShop w ⟨[], reused, ran⟩ (issuing_of_charged all)
  exact apart (identifies.one row mem row' mem' _ _ matching matching')

/-- The numbers the creations gave Fawry. -/
def numberOf : GwEvent → Option (PaymentId × String)
  | ⟨.createPayment _ id request, .ok _⟩ => some (id, Adapters.Fawry.deriveMerchantRefNum request id)
  | _ => none

def numbered : List GwAction := charge 0 1 "order-1" "M-1" ++ charge 1 2 "order-2" "M-2"

theorem references_identify_numbered : ∃ w,
    run (setting .sqlite fawryShop) (start []) numbered = some w ∧
      Identifies fawryShop.fingerprint .sqlite w := by
  have finished : (run (setting .sqlite fawryShop) (start []) numbered).isSome = true := by
    decide +kernel
  obtain ⟨w, ran⟩ := Option.isSome_iff_exists.mp finished
  have facts : (run (setting .sqlite fawryShop) (start []) numbered).all (fun w =>
      decide ((∀ t ∈ w.tasks, ∀ ev ∈ t.history, charged ev = true) ∧
        ∀ t ∈ w.tasks, ∀ ev ∈ t.history, ∀ t' ∈ w.tasks, ∀ ev' ∈ t'.history,
          ∀ n ∈ numberOf ev, ∀ n' ∈ numberOf ev', n.2 = n'.2 → n.1 = n'.1)) = true := by
    decide +kernel
  rw [ran] at facts
  obtain ⟨all, apart⟩ := of_decide_eq_true facts
  have issuing := issuing_of_charged all
  refine ⟨w, ran, references_identify ⟨[], numbered, ran⟩ issuing ?_⟩
  rintro config p' id id' request request' result result' ⟨o, t, mem, same, known⟩
    ⟨o', t', mem', same', known'⟩ - number
  have adapter : isFawry p' = true := by
    have checked := all t' mem' _ known'
    cases p' with
    | fawry config => rfl
    | _ => cases checked
  obtain ⟨config', rfl⟩ := isFawry_eq adapter
  rw [fawry_reference issuing ⟨o', t', mem', same', known'⟩] at number
  exact apart t mem _ known t' mem' _ known' _ rfl _ rfl number

end Samples

end Main

end OpenWrapper.UniqueReferences
