import OpenWrapper.Evolution

/-! # Refund conservation

A refund request reads the refunded total, awaits the provider and only then
records. The total it read bounds what the provider accepted as long as every
accepted refund is counted when a request reads and no other request waits at
the provider when a refund is accepted. -/

set_option autoImplicit false

namespace OpenWrapper.RefundConservation
open OpenWrapper.Ids OpenWrapper.Errors OpenWrapper.Payments OpenWrapper.Schema
open OpenWrapper.ConstraintTable OpenWrapper.PaymentStore OpenWrapper.Providers
open OpenWrapper.Effects OpenWrapper.Gateway OpenWrapper.Contracts OpenWrapper.StoreContract
open OpenWrapper.Evolution OpenWrapper.Suspended OpenWrapper.Interleaving

/-- What an event adds to the refunds of a payment that its provider accepted. -/
def accepted (id : PaymentId) : GwEvent → ℤ
  | ⟨.refund _ of_ _ amount _, .ok result⟩ =>
    if of_ = id ∧ result.accepted = true then amount else 0
  | _ => 0

def acceptedTotal (id : PaymentId) (w : GwWorld) : ℤ := total (accepted id) w

/-- The accepted refunds of a payment never exceed its amount. -/
abbrev Conserved (id : PaymentId) (w : GwWorld) : Prop :=
  ∀ row ∈ w.shared.ledger.payments.rows, row.id = .stored id →
    acceptedTotal id w ≤ row.amountMinorUnits

def readsTotal (id : PaymentId) : Effect → Bool
  | .store (.getTotalRefundedMinorUnits of_) => of_ == id
  | _ => false

def asksRefund (id : PaymentId) : Effect → Bool
  | .refund _ of_ _ _ _ => of_ == id
  | _ => false

/-- The task awaits the provider's answer to a refund of the payment. -/
abbrev atProvider (id : PaymentId) (t : GwTask) : Bool := t.awaiting (asksRefund id)

def accepts : Choice → Bool
  | .refunded (.ok result) => result.accepted
  | _ => false

/-- A total is read only while it counts every accepted refund, and a refund
is accepted only while no other request awaits the provider for the payment. -/
abbrev Serialized (id : PaymentId) (w : GwWorld) (i : ℕ) (c : Choice) : Prop :=
  ∀ t ∈ w.tasks[i]?,
    (t.awaiting (readsTotal id) = true → acceptedTotal id w ≤ w.shared.ledger.sumRefunds id) ∧
    (atProvider id t = true → accepts c = true →
      ∀ j < w.tasks.length, j ≠ i → ∀ other ∈ w.tasks[j]?, atProvider id other = false)

def Guard (id : PaymentId) (w : GwWorld) : GwAction → Prop
  | .advance i c => Serialized id w i c
  | .spawn _ => True
  | .cancel _ => True

instance (id : PaymentId) (w : GwWorld) : (a : GwAction) → Decidable (Guard id w a)
  | .advance i c => inferInstanceAs (Decidable (Serialized id w i c))
  | .spawn _ => .isTrue trivial
  | .cancel _ => .isTrue trivial

theorem atProvider_iff {id : PaymentId} {t : GwTask} : atProvider id t = true ↔
    t.live = true ∧ ∃ p reference amount reason k,
      t.rest = .call (.refund p id reference amount reason) k := by
  rw [atProvider, Task.awaiting_iff]
  constructor
  · rintro ⟨live, e, k, suspended, asks⟩
    cases e with
    | refund p of_ reference amount reason =>
      cases beq_iff_eq.mp asks
      exact ⟨live, p, reference, amount, reason, k, suspended⟩
    | _ => simp [asksRefund] at asks
  · rintro ⟨live, p, reference, amount, reason, k, suspended⟩
    exact ⟨live, _, k, suspended, by simp [asksRefund]⟩

variable {b : Backend} {app : App} {id : PaymentId}

/-- What a request that awaits the provider has read still bounds the
accepted refunds. -/
def Fresh (id : PaymentId) (w : GwWorld) : Prop :=
  ∀ t ∈ w.tasks, atProvider id t = true → ∀ asked payment previously amount,
    RefundChecked t.history asked payment previously amount →
    acceptedTotal id w ≤ previously

/-- Nothing was accepted, or the payment is stored with an amount that covers
what was. -/
def Covered (id : PaymentId) (w : GwWorld) : Prop :=
  acceptedTotal id w ≤ 0 ∨ ∃ row ∈ w.shared.ledger.payments.rows,
    row.id = .stored id ∧ acceptedTotal id w ≤ row.amountMinorUnits

structure Invariant (app : App) (id : PaymentId) (w : GwWorld) : Prop where
  sane : Sane app w
  fresh : Fresh id w
  covered : Covered id w

theorem conserved_of_invariant {w : GwWorld} (inv : Invariant app id w) : Conserved id w := by
  intro row mem is
  rcases inv.covered with none_ | ⟨row', mem', is', covered⟩
  · have positive := (inv.sane.intact row mem).positive
    omega
  · have same := row_eq_of_id mem mem' (is.trans is'.symm)
    rw [same]
    exact covered

theorem accepted_cases (id : PaymentId) (ev : GwEvent) :
    accepted id ev = 0 ∨ ∃ p reference amount reason result, result.accepted = true ∧
      ev = ⟨.refund p id reference amount reason, .ok result⟩ ∧ accepted id ev = amount := by
  unfold accepted
  split
  next p of_ reference amount reason result =>
    by_cases counts : of_ = id ∧ result.accepted = true
    · obtain ⟨rfl, taken⟩ := counts
      exact .inr ⟨p, reference, amount, reason, result, taken, rfl, by simp [taken]⟩
    · exact .inl (if_neg counts)
  · exact .inl rfl

theorem Covered.evolves {w w' : GwWorld} (covered : Covered id w)
    (evolves : Evolves w.shared.ledger w'.shared.ledger)
    (same : acceptedTotal id w' = acceptedTotal id w) : Covered id w' := by
  unfold Covered
  rw [same]
  rcases covered with none_ | ⟨row, mem, is, covered⟩
  · exact .inl none_
  · obtain ⟨row', mem', cont⟩ := evolves.payments row mem
    refine .inr ⟨row', mem', cont.id.trans is, ?_⟩
    rw [cont.amount]
    exact covered

theorem total_answered {fp : PaymentRequest → String} {d : Draw} {L L' : Ledger} {v : ℤ}
    (outcome : Outcome fp b d L (.getTotalRefundedMinorUnits id) L' (.ok v)) :
    v = L.sumRefunds id := by
  cases outcome
  rfl

section Advance

variable {w w' : GwWorld} {i : ℕ} {c : Choice}

/-- The total a request has just read counts every accepted refund. -/
theorem fresh_read (adv : Advanced (setting b app) w i c w')
    (serialized : Serialized id w i c) (sane : Sane app w')
    {asked : PaymentId} {payment : Payment} {previously amount : ℤ} (about : id = payment.id)
    (checked : RefundChecked (⟨adv.effect, adv.response⟩ :: adv.task.history)
      asked payment previously amount) :
    acceptedTotal id w ≤ previously := by
  obtain ⟨rest, readings⟩ := checked.read
  have event := (List.cons.inj readings).1
  have inside : told (.getPayment asked) (some payment) ∈
      (adv.task.resumed adv.response (adv.resume adv.response)).history := by
    rw [Task.resumed, readings]
    simp
  have named : payment.id = asked := sane.truthful _ adv.mem_resumed _ inside
  obtain ⟨reacted, k, suspended⟩ := adv.of_event event
  have asking : adv.task.awaiting (readsTotal id) = true :=
    Task.awaiting_iff.mpr ⟨adv.live, _, k, suspended, by simp [readsTotal, about, named]⟩
  have counted := (serialized adv.task adv.found).1 asking
  obtain ⟨d, -, answer⟩ := react_store reacted
  have outcome := execOp_outcome app.fingerprint b d w.shared.ledger
    (.getTotalRefundedMinorUnits asked)
  rw [← answer] at outcome
  rw [total_answered outcome, ← named, ← about]
  exact counted

/-- Every task that awaits the provider after a step awaited it before, or has
just read the total. -/
theorem fresh_step (inv : Invariant app id w) (adv : Advanced (setting b app) w i c w')
    (serialized : Serialized id w i c) (sane : Sane app w')
    (unchanged : acceptedTotal id w' = acceptedTotal id w) : Fresh id w' := by
  intro t mem waiting asked payment previously amount checked
  rw [unchanged]
  rcases adv.task_cases mem with rfl | ⟨j, -, found⟩
  · obtain ⟨-, p, reference, spent, reason, k, suspended⟩ := atProvider_iff.mp waiting
    have follows := sane.follows _ mem
    have always := follows.1
    rw [suspended] at always
    obtain ⟨asked', payment', previously', checked', about, -, -⟩ := always.1
    have same : previously = previously' ∧ payment = payment' := by
      obtain ⟨rest, read⟩ := checked.read
      obtain ⟨rest', read'⟩ := checked'.read
      rw [read] at read'
      cases read'
      exact ⟨rfl, rfl⟩
    obtain ⟨rfl, rfl⟩ := same
    exact fresh_read adv serialized sane about checked
  · exact inv.fresh t (List.mem_of_getElem? found) waiting asked payment previously amount checked

theorem refunded_choice {s s' : Shared} {p : Provider} {of_ : PaymentId} {reference : String}
    {amount : ℤ} {reason : Option String} {r : Except OpenWrapperError RefundResult}
    (reacted : react b app s (.refund p of_ reference amount reason) c = some (s', r)) :
    c = .refunded r := by
  cases c with
  | refunded r' =>
    simp only [react, Option.some.injEq, Prod.mk.injEq] at reacted
    rw [reacted.2]
  | _ => simp [react] at reacted

/-- The refund that is accepted fits under the amount of the payment. -/
theorem accept_step (inv : Invariant app id w) (adv : Advanced (setting b app) w i c w')
    (serialized : Serialized id w i c)
    {p : Provider} {reference : String} {amount : ℤ} {reason : Option String}
    {result : RefundResult} (taken : result.accepted = true)
    (event : (⟨adv.effect, adv.response⟩ : GwEvent) =
      ⟨.refund p id reference amount reason, .ok result⟩)
    (grown : acceptedTotal id w' = amount + acceptedTotal id w) :
    Fresh id w' ∧ Covered id w' := by
  obtain ⟨asked, payment, previously, checked, about, -, -⟩ :=
    adv.licensed_event inv.sane.follows event
  obtain ⟨reacted, k, suspended⟩ := adv.of_event event
  have waiting : atProvider id adv.task = true :=
    atProvider_iff.mpr ⟨adv.live, p, reference, amount, reason, k, suspended⟩
  have within : acceptedTotal id w ≤ previously :=
    inv.fresh _ adv.mem waiting asked payment previously amount checked
  have chosen : accepts c = true := by
    rw [refunded_choice reacted]
    exact taken
  have alone := (serialized adv.task adv.found).2 waiting chosen
  constructor
  · intro t mem waiting' asked' payment' previously' amount' checked'
    rcases adv.task_cases mem with rfl | ⟨j, apart, found⟩
    · obtain ⟨rest, readings⟩ := checked'.read
      have head := (List.cons.inj readings).1
      rw [event] at head
      cases head
    · have inside := (List.getElem?_eq_some_iff.mp found).1
      rw [alone j inside apart t found] at waiting'
      cases waiting'
  · obtain ⟨rest, readings⟩ := checked.read
    have holds : Holds adv.task.history payment := by
      rw [readings]
      exact ⟨told (.getPayment asked) (some payment), by simp, List.mem_singleton.mpr rfl⟩
    obtain ⟨row, still⟩ := inv.sane.stored adv.mem holds
    have evolves := react_evolves adv.reacted
    rw [← adv.shared_eq] at evolves
    obtain ⟨row', mem', cont⟩ := evolves.payments row still.mem
    have covered := checked.covered
    refine .inr ⟨row', mem', by rw [cont.id, still.id, about], ?_⟩
    rw [cont.amount, still.amount, grown]
    omega

end Advance

theorem invariant_step {w w' : GwWorld} {a : GwAction} (inv : Invariant app id w)
    (guarded : Guard id w a) (stepped : step (setting b app) w a = some w') :
    Invariant app id w' := by
  have sane := inv.sane.step stepped
  obtain ⟨o, rfl, rfl⟩ | ⟨i, c, rfl, ⟨adv⟩⟩ | ⟨i, t, rfl, found, rfl⟩ := step_cases stepped
  · have same := total_spawn (accepted id) (setting b app) w o
    refine ⟨sane, ?_, inv.covered.evolves (Evolves.refl _) same⟩
    intro t mem waiting asked payment previously amount checked
    rw [acceptedTotal, same]
    rcases List.mem_append.mp mem with old | new
    · exact inv.fresh t old waiting asked payment previously amount checked
    · rw [List.mem_singleton.mp new] at checked
      obtain ⟨rest, readings⟩ := checked.read
      cases readings
  · have evolves := react_evolves adv.reacted
    rw [← adv.shared_eq] at evolves
    have grown := total_advance (accepted id) adv
    rcases accepted_cases id ⟨adv.effect, adv.response⟩ with
      nothing | ⟨p, reference, amount, reason, result, taken, event, counts⟩
    · have same : acceptedTotal id w' = acceptedTotal id w := by
        rw [acceptedTotal, grown, nothing, zero_add, acceptedTotal]
      exact ⟨sane, fresh_step inv adv guarded sane same, inv.covered.evolves evolves same⟩
    · rw [counts] at grown
      obtain ⟨fresh, covered⟩ := accept_step inv adv guarded taken event grown
      exact ⟨sane, fresh, covered⟩
  · have same := total_cancel (accepted id) w found
    refine ⟨sane, ?_, inv.covered.evolves (Evolves.refl _) same⟩
    intro t' mem waiting asked payment previously amount checked
    rw [acceptedTotal, same]
    rcases List.mem_or_eq_of_mem_set mem with old | rfl
    · exact inv.fresh t' old waiting asked payment previously amount checked
    · cases (atProvider_iff.mp waiting).1

theorem invariant_start (apiKeys : List ApiKeyRow) : Invariant app id (start apiKeys) :=
  ⟨sane_start apiKeys, by simp [Fresh, start], .inl (by simp [acceptedTotal, total, start])⟩

/-- In every run whose steps meet the guard, the refunds the provider accepted
stay within the amount of the payment. -/
theorem refunds_conserved (b : Backend) (app : App) (apiKeys : List ApiKeyRow)
    (id : PaymentId) (actions : List GwAction) (w : GwWorld)
    (guarded : Meets (setting b app) (Guard id) (start apiKeys) actions)
    (ran : run (setting b app) (start apiKeys) actions = some w) : Conserved id w :=
  conserved_of_invariant (run_invariant (fun _ _ _ inv guard stepped =>
    invariant_step inv guard stepped) (invariant_start apiKeys) guarded ran)

/-- A refund of 60 of 100, then a second request that reads what is left. -/
def oneAfterAnother : List GwAction :=
  paid ++ [.spawn (refundRequest 60), .spawn (refundRequest 60)] ++ refundAsked 2 ++
    refundBooked 2 "re_1" 60 ++ refundAsked 3

theorem refunds_conserved_one_after_another :
    ∃ w, run (setting .sqlite shop) (start []) oneAfterAnother = some w ∧ Conserved ⟨1⟩ w := by
  have finished : (run (setting .sqlite shop) (start []) oneAfterAnother).isSome = true := by
    decide +kernel
  obtain ⟨w, ran⟩ := Option.isSome_iff_exists.mp finished
  exact ⟨w, ran, refunds_conserved .sqlite shop [] ⟨1⟩ oneAfterAnother w (by decide +kernel) ran⟩

/-- Two full refunds that both read the total before either is recorded. -/
def sideBySide : List GwAction :=
  paid ++ [.spawn (refundRequest 100), .spawn (refundRequest 100)] ++ refundAsked 2 ++
    refundAsked 3 ++ [.advance 2 (refundDone "re_1" 100), .advance 3 (refundDone "re_2" 100)]

theorem refunds_not_conserved : ¬ ∀ (b : Backend) (app : App) (apiKeys : List ApiKeyRow)
    (id : PaymentId) (actions : List GwAction) (w : GwWorld),
    run (setting b app) (start apiKeys) actions = some w → Conserved id w :=
  fun claim => run_refutes (setting .sqlite shop) (start []) sideBySide (by decide +kernel)
    (claim .sqlite shop [] ⟨1⟩ sideBySide)

end OpenWrapper.RefundConservation
