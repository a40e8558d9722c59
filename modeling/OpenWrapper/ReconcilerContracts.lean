import OpenWrapper.Contracts

/-! # What a reconciliation pass does with its list

A pass lists stale payments and then inquires about each, itself or through
the bus. What an inquiry was answered with is followed by a write that sets
the payment's timestamp, or tries to; only a message whose inquiry failed is
put back instead. -/

set_option autoImplicit false

namespace OpenWrapper.ReconcilerContracts
open OpenWrapper.Ids OpenWrapper.Errors OpenWrapper.Payments OpenWrapper.Schema
open OpenWrapper.PaymentStore
open OpenWrapper.Providers OpenWrapper.Effects OpenWrapper.Background OpenWrapper.Gateway
open OpenWrapper.Contracts
open OpenWrapper.Suspended OpenWrapper.Suspended.Prog

def isInquiry (id : PaymentId) : GwEvent → Bool
  | ⟨.inquireStatus _ (.stored of_) _, _⟩ => of_ == id
  | _ => false

/-- A pass was told of the payment. -/
def lists (id : PaymentId) : GwEvent → Bool
  | ⟨.store (.listStaleUnknownPayments _ _), .ok stale⟩ => stale.any fun payment => payment.id == id
  | _ => false

/-- The write that follows an inquiry. -/
def rotates (id : PaymentId) : Effect → Bool
  | .store (.touchReconciliationAttempt of_) => of_ == id
  | .store (.applyReconciliationResult of_ _) => of_ == id
  | _ => false

def Inquired (h : Past) (id : PaymentId) : Prop := ∃ ev ∈ h, isInquiry id ev = true

def Known (h : Past) (id : PaymentId) : Prop :=
  ∃ ev ∈ h, (isInquiry id ev || lists id ev) = true

/-- The provider of the payment is one of the server's, and can be asked. -/
def Capable (app : App) (payment : Payment) : Prop :=
  payment.providerReference.isSome = true ∧ ∃ p, app.providers payment.provider.asStr = some p ∧
    .inquireStatus ∈ p.capabilities

/-- The message asks for an inquiry about the payment. -/
def Asks (app : App) (m : ReconcileQueueMessage) (id : PaymentId) : Prop :=
  m.paymentId = .stored id ∧ ∃ p, app.providers m.provider = some p

/-- The payment was inquired about, or handed to the bus. -/
def Attended (app : App) (h : Past) (id : PaymentId) : Prop :=
  Inquired h id ∨ ∃ m r, (⟨.publishReconcile m, r⟩ : GwEvent) ∈ h ∧ Asks app m id

/-- The latest event is an inquiry whose answer is written down. -/
def Owed (app : App) (h : Past) (id : PaymentId) : Prop :=
  ∃ p reference r rest, h = ⟨.inquireStatus p (.stored id) reference, r⟩ :: rest ∧
    (app.messageBus = none ∨ r.isOk = true)

def Paced (app : App) (o : Origin) (h : Past) : Effect → Prop
  | .store (.listStaleUnknownPayments age limit) =>
    o = .reconciler ∧ h = [] ∧ age = minAge ∧ limit = batchLimit
  | .store (.touchReconciliationAttempt id) => Known h id
  | .store (.applyReconciliationResult id _) => Inquired h id
  | .store _ => False
  | .receiveReconcile => h = []
  | .ackReconcile tag => ∃ d : Delivery ReconcileQueueMessage,
      (⟨.receiveReconcile, d⟩ : GwEvent) ∈ h ∧ tag = d.tag ∧
        ∀ id, Asks app d.message id → Inquired h id
  | _ => True

/-- A task of the reconciler or its consumer, at each effect. -/
def Rotating (app : App) (o : Origin) (h : Past) (e : Effect) : Prop :=
  Paced app o h e ∧ ∀ id, Owed app h id → rotates id e = true

/-- And once it has finished. -/
def Passed (app : App) (o : Origin) (h : Past) : Prop :=
  (∀ id, ¬ Owed app h id) ∧ (o = .reconciler → ∀ age limit stale,
    [(⟨.store (.listStaleUnknownPayments age limit), .ok stale⟩ : GwEvent)] <:+ h →
      ∀ payment ∈ stale, Capable app payment → Attended app h payment.id)

section Monotone

variable {app : App} {h h' : Past} {id : PaymentId}

theorem Inquired.suffix (inquired : Inquired h id) (suffix : h <:+ h') : Inquired h' id := by
  obtain ⟨ev, known, asks⟩ := inquired
  exact ⟨ev, suffix.subset known, asks⟩

theorem Known.suffix (known : Known h id) (suffix : h <:+ h') : Known h' id := by
  obtain ⟨ev, mem, names⟩ := known
  exact ⟨ev, suffix.subset mem, names⟩

theorem Attended.suffix (attended : Attended app h id) (suffix : h <:+ h') :
    Attended app h' id := by
  rcases attended with inquired | ⟨m, r, published, asks⟩
  · exact .inl (inquired.suffix suffix)
  · exact .inr ⟨m, r, suffix.subset published, asks⟩

theorem inquired_latest {p : Provider} {reference : String}
    (r : Except OpenWrapperError PaymentStatus) (h : Past) :
    Inquired (⟨.inquireStatus p (.stored id) reference, r⟩ :: h) id :=
  ⟨_, List.mem_cons_self, by simp [isInquiry]⟩

theorem Inquired.known (inquired : Inquired h id) : Known h id := by
  obtain ⟨ev, mem, asks⟩ := inquired
  exact ⟨ev, mem, by simp [asks]⟩

/-- Only an inquiry leaves something to write. -/
theorem not_owed_cons {ev : GwEvent}
    (other : ∀ p payment reference, ev.1 ≠ .inquireStatus p payment reference) (h : Past)
    (id : PaymentId) : ¬ Owed app (ev :: h) id := by
  rintro ⟨p, reference, r, rest, is, -⟩
  rw [List.cons.injEq] at is
  exact other p (.stored id) reference (by rw [is.1])

theorem owed_inquiry {p : Provider} {reference : String}
    {r : Except OpenWrapperError PaymentStatus} {id' : PaymentId}
    (owed : Owed app (⟨.inquireStatus p (.stored id) reference, r⟩ :: h) id') : id' = id := by
  obtain ⟨p', reference', r', rest, is, -⟩ := owed
  cases is
  rfl

end Monotone

section Pass

variable {app : App} {o : Origin} {h : Past} {payment : Payment} {id : PaymentId}

def Idle (app : App) (h : Past) : Prop := ∀ id, ¬ Owed app h id

theorem rotating_of_idle {e : Effect} (idle : Idle app h) (paced : Paced app o h e) :
    Rotating app o h e :=
  ⟨paced, fun id owed => absurd owed (idle id)⟩

/-- A touch, and nothing after it. -/
theorem touch_rotating {α : Type} {a : α} {R : Past → Prop} (known : Known h id)
    (owed : ∀ id', Owed app h id' → id' = id)
    (after : ∀ r, R (⟨.store (.touchReconciliationAttempt id), r⟩ :: h)) :
    Always (Rotating app o) (fun h _ => Idle app h ∧ R h)
      (.call (.store (.touchReconciliationAttempt id)) fun _ => .done a) h := by
  refine ⟨⟨known, fun id' owes => ?_⟩, fun r => ⟨?_, after r⟩⟩
  · simp [rotates, owed id' owes]
  · exact not_owed_cons (by simp) h

theorem reconcileInline_rotating {p : Provider} {reference : String} (idle : Idle app h) :
    Always (Rotating app o) (fun h _ => Idle app h ∧ Inquired h id)
      (reconcileInline id p reference) h := by
  simp only [reconcileInline, Gw.inquireStatus, Gw.applyReconciliationResult,
    Gw.touchReconciliationAttempt, perform_bind, always_call]
  refine ⟨rotating_of_idle idle trivial, fun r => ?_⟩
  have inquired : Inquired (⟨.inquireStatus p (.stored id) reference, r⟩ :: h) id :=
    inquired_latest r h
  have touched : Always (Rotating app o) (fun h _ => Idle app h ∧ Inquired h id)
      (.call (.store (.touchReconciliationAttempt id)) fun _ => .done ())
      (⟨.inquireStatus p (.stored id) reference, r⟩ :: h) :=
    touch_rotating inquired.known (fun _ => owed_inquiry)
      fun _ => inquired.suffix (List.suffix_cons _ _)
  cases r with
  | ok resolved =>
    dsimp only
    split
    · refine ⟨⟨inquired, fun id' owed => ?_⟩, fun r => ⟨?_, ?_⟩⟩
      · simp [rotates, owed_inquiry owed]
      · exact not_owed_cons (by simp) _
      · exact inquired.suffix (List.suffix_cons _ _)
    · exact touched
  | error e => exact touched

/-- One payment of a pass is attended to, if its provider can be asked. -/
theorem reconcileOne_rotating (idle : Idle app h) (known : Known h payment.id) :
    Always (Rotating app o) (fun h _ => Idle app h ∧
      (Capable app payment → Attended app h payment.id)) (reconcileOne app payment) h := by
  have touched (incapable : ¬ Capable app payment) : Always (Rotating app o)
      (fun h _ => Idle app h ∧ (Capable app payment → Attended app h payment.id))
      (.call (.store (.touchReconciliationAttempt payment.id)) fun _ => .done ()) h :=
    touch_rotating known (fun id' owed => absurd owed (idle id'))
      fun _ capable => absurd capable incapable
  unfold reconcileOne
  cases stored : payment.providerReference with
  | none =>
    apply touched
    rintro ⟨referenced, -⟩
    simp [stored] at referenced
  | some reference =>
    dsimp only
    cases chosen : reconcileProvider app payment with
    | none =>
      apply touched
      rintro ⟨-, p, configured, -⟩
      simp [reconcileProvider, configured] at chosen
    | some p =>
      dsimp only
      by_cases able : .inquireStatus ∉ p.capabilities
      · rw [if_pos able]
        apply touched
        rintro ⟨-, p', configured, able'⟩
        simp only [reconcileProvider, configured, Option.some.injEq] at chosen
        rw [chosen] at able'
        exact able able'
      · rw [if_neg able]
        split
        · refine ⟨rotating_of_idle idle trivial, fun r => ⟨not_owed_cons (by simp) h, ?_⟩⟩
          rintro ⟨-, p', configured, -⟩
          exact .inr ⟨_, r, List.mem_cons_self, rfl, p', configured⟩
        · exact (reconcileInline_rotating idle).mono (fun _ _ held => held)
            fun _ _ held => ⟨held.1, fun _ => .inl held.2⟩

theorem reconcileAll_rotating {payments : List Payment} (idle : Idle app h)
    (known : ∀ payment ∈ payments, Known h payment.id) :
    Always (Rotating app o) (fun h _ => Idle app h ∧
      ∀ payment ∈ payments, Capable app payment → Attended app h payment.id)
      (reconcileAll app payments) h := by
  induction payments generalizing h with
  | nil => exact ⟨idle, by simp⟩
  | cons payment rest ih =>
    apply always_bind _ _ (reconcileOne_rotating idle (known payment List.mem_cons_self))
    intro h' _ suffix held
    have later : ∀ payment ∈ rest, Known h' payment.id := fun payment mem =>
      (known payment (List.mem_cons_of_mem _ mem)).suffix suffix
    refine ((ih held.1 later).and (always_suffix _ h')).mono (fun _ _ both => both.1) ?_
    intro h'' _ both
    refine ⟨both.1.1, fun other mem capable => ?_⟩
    rcases List.mem_cons.mp mem with rfl | inRest
    · exact (held.2 capable).suffix both.2
    · exact both.1.2 other inRest capable

end Pass

section Bodies

variable {app : App} {h : Past}

theorem suffix_singleton {α : Type} {a b : α} {l : List α} (first : [a] <:+ l) (second : [b] <:+ l) :
    a = b := by
  have same : [a] = [b] := (List.suffix_of_suffix_length_le first second (by simp)).eq_of_length rfl
  exact List.singleton_inj.mp same

theorem runOnce_rotating :
    Always (Rotating app .reconciler) (fun h _ => Passed app .reconciler h) (runOnce app) [] := by
  have idle : Idle app [] := by
    rintro id ⟨p, reference, r, rest, is, -⟩
    cases is
  simp only [runOnce, Gw.listStaleUnknownPayments, perform_bind, always_call]
  refine ⟨rotating_of_idle idle ⟨rfl, rfl, rfl, rfl⟩, fun r => ?_⟩
  have idle' : Idle app [⟨.store (.listStaleUnknownPayments minAge batchLimit), r⟩] :=
    not_owed_cons (by simp) []
  cases r with
  | error e =>
    refine ⟨idle', fun _ age limit stale first => ?_⟩
    have same := suffix_singleton first (List.suffix_refl _)
    cases same
  | ok listed =>
    dsimp only
    have known : ∀ payment ∈ listed,
        Known [⟨.store (.listStaleUnknownPayments minAge batchLimit), .ok listed⟩] payment.id := by
      intro payment mem
      refine ⟨_, List.mem_singleton_self _, ?_⟩
      simp only [lists, Bool.or_eq_true, List.any_eq_true]
      exact .inr ⟨payment, mem, by simp⟩
    apply always_bind _ _ (reconcileAll_rotating idle' known)
    intro h' _ suffix held
    refine ⟨held.1, fun _ age limit stale first => ?_⟩
    have same := suffix_singleton first suffix
    cases same
    exact held.2

theorem settleMessage_rotating {bus : BusConfig} {m : ReconcileQueueMessage} {id : PaymentId}
    {p : Provider} (queued : app.messageBus = some bus) (is : m.paymentId = .stored id)
    (idle : Idle app h) : Always (Rotating app .reconcileConsumer)
      (fun h _ => Idle app h ∧ Inquired h id) (settleMessage bus m id p) h := by
  obtain ⟨payment, provider, reference, attempt⟩ := m
  obtain rfl : payment = .stored id := is
  simp only [settleMessage, Gw.inquireStatus, Gw.applyReconciliationResult,
    Gw.touchReconciliationAttempt, Gw.publishReconcile, perform_bind, always_call]
  refine ⟨rotating_of_idle idle trivial, fun r => ?_⟩
  have inquired : Inquired (⟨.inquireStatus p (.stored id) reference, r⟩ :: h) id :=
    inquired_latest r h
  cases r with
  | ok resolved =>
    dsimp only
    split
    · refine ⟨⟨inquired, fun id' owed => ?_⟩, fun r => ?_⟩
      · simp [rotates, owed_inquiry owed]
      · cases r <;> exact ⟨not_owed_cons (by simp) _, inquired.suffix (List.suffix_cons _ _)⟩
    · exact touch_rotating inquired.known (fun _ => owed_inquiry)
        fun _ => inquired.suffix (List.suffix_cons _ _)
  | error e =>
    have idle' : Idle app (⟨.inquireStatus p (.stored id) reference, .error e⟩ :: h) := by
      rintro id' ⟨p', reference', r', rest, same, settled⟩
      cases same
      rcases settled with none_ | ok
      · rw [queued] at none_
        cases none_
      · cases ok
    dsimp only
    cases retryMessage bus.maxRetries ⟨.stored id, provider, reference, attempt⟩ with
    | none => exact ⟨idle', inquired⟩
    | some retry =>
      exact ⟨rotating_of_idle idle' trivial, fun r =>
        ⟨not_owed_cons (by simp) _, inquired.suffix (List.suffix_cons _ _)⟩⟩

theorem consumeReconciliation_rotating {bus : BusConfig} (queued : app.messageBus = some bus) :
    Always (Rotating app .reconcileConsumer) (fun h _ => Passed app .reconcileConsumer h)
      (consumeReconciliation app bus) [] := by
  have idle : Idle app [] := by
    rintro id ⟨p, reference, r, rest, is, -⟩
    cases is
  simp only [consumeReconciliation, Gw.receiveReconcile, perform_bind, always_call]
  refine ⟨rotating_of_idle idle rfl, fun d => ?_⟩
  have idle' : Idle app [⟨.receiveReconcile, d⟩] := not_owed_cons (by simp) []
  have processed : Always (Rotating app .reconcileConsumer) (fun h _ => Idle app h ∧
      ∀ id, Asks app d.message id → Inquired h id) (processReconcileMessage app bus d.message)
      [⟨.receiveReconcile, d⟩] := by
    unfold processReconcileMessage
    cases is : d.message.paymentId with
    | corrupt raw =>
      refine ⟨idle', ?_⟩
      rintro id ⟨named, -⟩
      rw [is] at named
      cases named
    | stored id =>
      dsimp only
      cases configured : app.providers d.message.provider with
      | none =>
        refine ⟨idle', ?_⟩
        rintro id ⟨-, p, known⟩
        rw [configured] at known
        cases known
      | some p =>
        refine (settleMessage_rotating queued is idle').mono (fun _ _ held => held)
          fun h _ held => ⟨held.1, ?_⟩
        rintro id' ⟨named, -⟩
        rw [is] at named
        rw [← Text.stored.inj named]
        exact held.2
  apply always_bind _ _ processed
  intro h' _ suffix held
  refine ⟨rotating_of_idle held.1 ⟨d, suffix.subset (List.mem_singleton_self _), rfl, held.2⟩,
    fun r => ⟨not_owed_cons (by simp) _, nofun⟩⟩

/-- The origins a reconciler has. -/
def reconciles : Origin → Bool
  | .reconciler | .reconcileConsumer => true
  | _ => false

theorem body_rotating {o : Origin} (ours : reconciles o = true) :
    Always (Rotating app o) (fun h _ => Passed app o h) (body app o) [] := by
  cases o with
  | reconciler => exact runOnce_rotating
  | reconcileConsumer =>
    unfold body
    cases queued : app.messageBus with
    | none =>
      refine ⟨?_, nofun⟩
      rintro id ⟨p, reference, r, rest, is, -⟩
      cases is
    | some bus => exact consumeReconciliation_rotating queued
  | _ => cases ours

end Bodies

end OpenWrapper.ReconcilerContracts
