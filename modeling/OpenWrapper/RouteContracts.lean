import OpenWrapper.WebWorld
import OpenWrapper.CallbackAuthentication

/-! # What the web application writes, and from what

Every write of a route is determined by what the route was last told of a
payment, by a lookup or by the gateway, and by what its request brings. -/

set_option autoImplicit false

namespace OpenWrapper.RouteContracts
open OpenWrapper.Ids OpenWrapper.Payments OpenWrapper.Schema OpenWrapper.PaymentStore
open OpenWrapper.Providers OpenWrapper.Effects
open OpenWrapper.JsonValue OpenWrapper.JavaScript OpenWrapper.WebDatabase
open OpenWrapper.CallbackRoutes OpenWrapper.ApiRequests OpenWrapper.PaymentRoutes
open OpenWrapper.CallbackWrites OpenWrapper.CallbackAuthentication OpenWrapper.WebWorld
open OpenWrapper.Suspended OpenWrapper.Suspended.Prog

section Telling

/-- What a row that was found, or the gateway's answer to a creation, says of
a payment. -/
structure Told where
  id : Text PaymentId
  status : Text PaymentStatus
  providerReference : Option String
deriving DecidableEq

def Told.ofRow (row : SharedRow) : Told :=
  ⟨row.payment.id, row.payment.status, row.payment.providerReference⟩

def Told.ofView (view : PaymentView) : Told :=
  ⟨.stored view.paymentId, .stored view.status, view.providerReference⟩

def told : WebEvent → Option Told
  | ⟨.select _, .ok (some row)⟩ => some (Told.ofRow row)
  | ⟨.forward _ _, .ok view⟩ => some (Told.ofView view)
  | _ => none

/-- The latest that was told. -/
def lastTold (h : WebHistory) : Option Told := h.findSome? told

theorem lastTold_cons {ev : WebEvent} {h : WebHistory} (silent : told ev = none) :
    lastTold (ev :: h) = lastTold h := by
  simp [lastTold, silent]

@[simp] theorem lastTold_select (test : PaymentRow → Bool) (row : SharedRow) (h : WebHistory) :
    lastTold (⟨.select test, .ok (some row)⟩ :: h) = some (Told.ofRow row) := rfl

@[simp] theorem lastTold_forward (request : GatewayRequest) (key : String) (view : PaymentView)
    (h : WebHistory) :
    lastTold (⟨.forward request key, .ok view⟩ :: h) = some (Told.ofView view) := rfl

/-- Nothing was told of a payment whose id the web application made up. -/
def Untold (h : WebHistory) : Prop := ∀ t, lastTold h = some t → ∃ id, t.id = .stored id

theorem Untold.cons {ev : WebEvent} {h : WebHistory} (untold : Untold h) (silent : told ev = none) :
    Untold (ev :: h) := by
  intro t is
  rw [lastTold_cons silent] at is
  exact untold t is

end Telling

section Contract

variable (host : Host)

/-- The reference that a callback brings. -/
def Brings : Route → CallbackRequest → String → Prop
  | .paymob, req, x => ∃ cb, Paymob.inspect host req = .ok cb ∧ x = cb.transactionId
  | .fawry, req, x => ∃ f, Fawry.inspect host req = .ok f ∧ x = f.fawryRefNumber
  | .stripe, _, _ => False
  | .mock, req, x => ∃ cb, Mock.inspect host req = .ok cb ∧ x = cb.providerRef

/-- A guarded update of the payment told of; it assigns no reference, or the
one brought, an empty one standing for the one told. -/
structure Updates (brought : String → Prop) (h : WebHistory) (id : Text PaymentId)
    (edit : WebEdit) (t : Told) (status : PaymentStatus) : Prop where
  told : lastTold h = some t
  id_eq : id = t.id
  status_eq : edit.status = .stored status
  guarded : isIllegal t.status status = false
  reference : edit.providerReference = none ∨
    ∃ x, brought x ∧ edit.providerReference = some (orElse (some x) t.providerReference)

/-- The reference in the answer that was just fetched. -/
def Fetched (h : WebHistory) (x : String) : Prop :=
  ∃ path view h', h = ⟨.fetch path, .ok view⟩ :: h' ∧ x = view.providerReference.getD ""

/-- An upsert writes what was told back, under its id, or starts a row under an
id of its own. -/
def Upserts (h : WebHistory) (input : PersistInput) : Prop :=
  (∃ t, lastTold h = some t ∧ input.id = t.id ∧ input.status = t.status ∧
    input.providerReference = t.providerReference) ∨
    (∃ raw, input.id = .corrupt raw) ∧ Untold h

/-- The payment whose reference the operation stores. -/
def createdBy : StoreOp → Option PaymentId
  | .recordCreationResult id _ _ _ => some id
  | _ => none

def WriteKeeps (id : PaymentId) : Write → Prop
  | .updatePayment target _ edit => target = .stored id → edit.providerReference = none
  | _ => True

/-- The statement assigns no reference to the payment. -/
def StatementKeeps (id : PaymentId) : Stmt → Prop
  | .write w => WriteKeeps id w
  | .transaction ws => ∀ w ∈ ws, WriteKeeps id w
  | _ => True

def Licensed : WebOrigin → WebHistory → WebEffect → Prop
  | .callback route req, h, .update id edit =>
    ∃ t status, Updates (Brings host route req) h id edit t status
  | .inquiry _ _, h, .update id edit => ∃ t status, Updates (Fetched h) h id edit t status
  | .submission _, h, .upsert input _ => Upserts h input
  | .operation op, _, .gateway s => ∀ id, createdBy op ≠ some id → StatementKeeps id s
  | _, _, .update _ _ => False
  | _, _, .upsert _ _ => False
  | .operation _, _, _ => False
  | _, _, .gateway _ => False
  | _, _, _ => True

end Contract

section Operations

variable {id : PaymentId} {h : History Stmt.Response}

/-- The program assigns no reference to the payment. -/
abbrev ProgramKeeps {α : Type} (id : PaymentId) (p : Sql α) (h : History Stmt.Response) : Prop :=
  Always (fun _ s => StatementKeeps id s) (fun _ _ => True) p h

theorem applyWebhookEvent_keeps (event : WebhookReport) :
    ProgramKeeps id (PostgresStore.applyWebhookEvent event) h := by
  refine ⟨trivial, fun found => ?_⟩
  cases found with
  | error e => trivial
  | ok row =>
    cases row with
    | none => trivial
    | some row =>
      refine ⟨trivial, fun now => ⟨trivial, fun recorded => ?_⟩⟩
      cases recorded with
      | error e => cases e <;> trivial
      | ok rows =>
        dsimp only
        split
        · trivial
        · split
          · trivial
          · split
            · trivial
            · refine ⟨trivial, fun now => ⟨fun _ => rfl, fun written => ?_⟩⟩
              cases written with
              | error e => trivial
              | ok rows =>
                dsimp only
                split <;> trivial

theorem updateStatusOnly_keeps (of_ : PaymentId) (status : PaymentStatus) :
    ProgramKeeps id (PostgresStore.updateStatusOnly of_ status) h := by
  refine ⟨trivial, fun now => ⟨fun _ => rfl, fun written => ?_⟩⟩
  cases written <;> trivial

theorem getPayment_keeps (of_ : PaymentId) : ProgramKeeps id (getPayment of_) h := by
  refine ⟨trivial, fun found => ?_⟩
  cases found <;> trivial

theorem applyReconciliationResult_keeps (of_ : PaymentId) (resolved : PaymentStatus) :
    ProgramKeeps id (PostgresStore.applyReconciliationResult of_ resolved) h := by
  apply always_bind _ _ (getPayment_keeps of_)
  intro h' read _ _
  match read with
  | .error e => trivial
  | .ok none => trivial
  | .ok (some payment) =>
    dsimp only
    split
    · trivial
    · apply always_bind _ _ (updateStatusOnly_keeps of_ resolved)
      intro h'' written _ _
      cases written <;> trivial

theorem beginPaymentWithOwner_keeps (fingerprint : PaymentRequest → String)
    (request : PaymentRequest) (owner : Option ApiKeyInfo) :
    ProgramKeeps id (PaymentStore.beginPaymentWithOwner fingerprint request owner) h := by
  refine ⟨trivial, fun fresh => ⟨trivial, fun now => ⟨trivial, fun inserted => ?_⟩⟩⟩
  match inserted with
  | .ok rows => trivial
  | .error .failed => trivial
  | .error .constraint =>
    refine ⟨trivial, fun found => ?_⟩
    match found with
    | .error e => trivial
    | .ok none => trivial
    | .ok (some row) =>
      simp only [bind_eq, done_bind]
      split
      · split <;> trivial
      · trivial

/-- Only the creation's own operation stores a reference. -/
theorem operation_keeps (fingerprint : PaymentRequest → String) (op : StoreOp)
    (other : createdBy op ≠ some id) : ProgramKeeps id (program fingerprint .postgres op) h := by
  cases op with
  | beginPaymentWithOwner request owner => exact beginPaymentWithOwner_keeps fingerprint request owner
  | recordCreationResult of_ reference status nextAction =>
    have apart : of_ ≠ id := fun same => other (congrArg some same)
    refine ⟨trivial, fun now => ⟨fun same => absurd (Text.stored.inj same) apart, fun r => ?_⟩⟩
    cases r <;> trivial
  | applyWebhookEvent event => exact applyWebhookEvent_keeps event
  | markTerminalWithoutProviderReference of_ status => exact updateStatusOnly_keeps of_ status
  | markUnknown of_ => exact updateStatusOnly_keeps of_ .unknown
  | applyReconciliationResult of_ resolved => exact applyReconciliationResult_keeps of_ resolved
  | getPayment of_ => exact getPayment_keeps of_
  | findPaymentByReference reference =>
    refine ⟨trivial, fun found => ?_⟩
    cases found <;> trivial
  | getNextAction of_ =>
    refine ⟨trivial, fun found => ?_⟩
    cases found with
    | error e => trivial
    | ok row =>
      simp only [bind_eq, done_bind]
      split <;> trivial
  | listStaleUnknownPayments minAge limit =>
    refine ⟨trivial, fun now => ⟨trivial, fun found => ?_⟩⟩
    cases found with
    | error e => trivial
    | ok rows =>
      simp only [bind_eq, done_bind]
      split <;> trivial
  | touchReconciliationAttempt of_ =>
    refine ⟨trivial, fun now => ⟨fun _ => rfl, fun written => ?_⟩⟩
    cases written <;> trivial
  | recordRefund refund status =>
    refine ⟨trivial, fun now => ⟨fun w mem => ?_, fun written => ?_⟩⟩
    · rcases List.mem_pair.mp mem with rfl | rfl
      · trivial
      · exact fun _ => rfl
    · cases written <;> trivial
  | getTotalRefundedMinorUnits of_ =>
    refine ⟨trivial, fun found => ?_⟩
    cases found <;> trivial
  | listRefundsForPayment of_ =>
    refine ⟨trivial, fun found => ?_⟩
    cases found with
    | error e => trivial
    | ok rows =>
      simp only [bind_eq, done_bind]
      split <;> trivial

/-- The statements of an operation, issued on the shared tables. -/
theorem always_onShared {α : Type} {P : WebHistory → WebEffect → Prop} {Keeps : Stmt → Prop}
    (licensed : ∀ h s, Keeps s → P h (.gateway s)) {p : Sql α} {h : History Stmt.Response}
    (keeps : Always (fun _ s => Keeps s) (fun _ _ => True) p h) (h' : WebHistory) :
    Always P (fun _ _ => True) (onShared p) h' := by
  induction p generalizing h h' with
  | done a => trivial
  | call s k ih => exact ⟨licensed h' s keeps.1, fun r => ih r (keeps.2 r) _⟩

theorem operation_licensed {host : Host} (fingerprint : PaymentRequest → String) (op : StoreOp)
    (h : WebHistory) : Always (Licensed host (.operation op)) (fun _ _ => True)
      (onShared (program fingerprint .postgres op)) h := by
  have keeps := always_forall (h := []) fun other : {id // createdBy op ≠ some id} =>
    operation_keeps fingerprint op other.2
  exact always_onShared (fun h s keeps id other => keeps ⟨id, other⟩) keeps h

end Operations

section Callbacks

variable {host : Host} {route : Route} {req : CallbackRequest} {h : WebHistory}

theorem licensed_passive {o : WebOrigin} (web : ∀ op, o ≠ .operation op) (h : WebHistory)
    (e : WebEffect) (passive : isPassive e = true) : Licensed host o h e := by
  cases o with
  | operation op => exact absurd rfl (web op)
  | _ => cases e <;> trivial

theorem callback_passive (h : WebHistory) (e : WebEffect) (passive : isPassive e = true) :
    Licensed host (.callback route req) h e := licensed_passive (by simp) h e passive

/-- A row that was found was told of last. -/
def FoundIn (h : WebHistory) (found : Option SharedRow) : Prop :=
  ∀ row, found = some row → lastTold h = some (Told.ofRow row)

/-- What a route assigns to a row: its status, and no reference or the one it
brings. -/
def Assigns (brought : String → Prop) (status : PaymentStatus) (edit : SharedRow → WebEdit) : Prop :=
  ∀ row, (edit row).status = .stored status ∧ ((edit row).providerReference = none ∨
    ∃ x, brought x ∧
      (edit row).providerReference = some (orElse (some x) row.payment.providerReference))

theorem always_lookup (test : Option (PaymentRow → Bool)) (h : WebHistory) :
    Always (Licensed host (.callback route req))
      (fun h r => ∀ found, r = .ok found → FoundIn h found) (lookup test) h := by
  cases test with
  | none =>
    intro found is row there
    cases is
    cases there
  | some test =>
    refine ⟨trivial, fun r found is row there => ?_⟩
    subst is there
    rfl

theorem always_settle {found : Option SharedRow} {status : PaymentStatus}
    {edit : SharedRow → WebEdit} (foundIn : FoundIn h found)
    (assigns : Assigns (Brings host route req) status edit) :
    Always (Licensed host (.callback route req)) (fun _ _ => True) (settle found status edit) h := by
  cases found with
  | none => trivial
  | some row =>
    unfold settle
    by_cases illegal : isIllegal row.payment.status status = true
    · simp only [illegal, if_true]
      trivial
    · simp only [illegal]
      obtain ⟨assigned, reference⟩ := assigns row
      refine ⟨⟨Told.ofRow row, status, foundIn row rfl, rfl, assigned, Bool.eq_false_iff.mpr illegal,
        reference⟩, fun r => ?_⟩
      cases r <;> trivial

theorem always_lookupAndSettle {test : Option (PaymentRow → Bool)} {status : PaymentStatus}
    {edit : SharedRow → WebEdit} (assigns : Assigns (Brings host route req) status edit) :
    Always (Licensed host (.callback route req)) (fun _ _ => True)
      (lookupAndSettle test status edit) h := by
  unfold lookupAndSettle
  apply always_bind _ _ (always_lookup test h)
  intro h' r _ foundIn
  cases r with
  | error e => trivial
  | ok found => exact always_settle (foundIn found rfl) assigns

/-- What was found is settled, and then nothing is written. -/
theorem always_settle_then {α : Type} {found : Option SharedRow} {status : PaymentStatus}
    {edit : SharedRow → WebEdit} {k : Except SqlError (Option (Text PaymentId)) → Web α}
    (foundIn : FoundIn h found) (assigns : Assigns (Brings host route req) status edit)
    (silent : ∀ r, Silent (k r)) :
    Always (Licensed host (.callback route req)) (fun _ _ => True)
      (settle found status edit >>= k) h :=
  always_bind _ _ (always_settle foundIn assigns) fun _ r _ _ =>
    (silent r).always callback_passive

/-- A settled payment, and then nothing that writes. -/
theorem always_settled {α : Type} {test : Option (PaymentRow → Bool)} {status : PaymentStatus}
    {edit : SharedRow → WebEdit} {k : Except SqlError (Option (Text PaymentId)) → Web α}
    (assigns : Assigns (Brings host route req) status edit) (silent : ∀ r, Silent (k r)) :
    Always (Licensed host (.callback route req)) (fun _ _ => True)
      (lookupAndSettle test status edit >>= k) h :=
  always_bind _ _ (always_lookupAndSettle assigns) fun _ r _ _ => (silent r).always callback_passive

theorem paymob_licensed (h : WebHistory) :
    Always (Licensed host (.callback .paymob req)) (fun _ _ => True) (Paymob.post host req) h := by
  unfold Paymob.post
  split
  · trivial
  next cb ok =>
    have assigns : Assigns (Brings host .paymob req) cb.status (Paymob.edit cb) :=
      fun row => ⟨rfl, .inr ⟨cb.transactionId, ⟨cb, ok, rfl⟩, rfl⟩⟩
    exact always_settled assigns (silent_noted "pm_evt_" cb.transactionId "paymob" _)

theorem fawry_licensed (h : WebHistory) :
    Always (Licensed host (.callback .fawry req)) (fun _ _ => True) (Fawry.post host req) h := by
  unfold Fawry.post
  split
  · trivial
  next f ok =>
    have assigns : Assigns (Brings host .fawry req) (Fawry.statusOf f.orderStatus)
        (Fawry.edit f) := fun row => ⟨rfl, .inr ⟨f.fawryRefNumber, ⟨f, ok, rfl⟩, rfl⟩⟩
    exact always_settled assigns (silent_noted "fw_evt_" f.fawryRefNumber "fawry" _)

theorem stripe_licensed (h : WebHistory) :
    Always (Licensed host (.callback .stripe req)) (fun _ _ => True) (Stripe.post host req) h := by
  unfold Stripe.post
  split
  · trivial
  next event ok =>
    unfold Stripe.work
    split
    · trivial
    · exact (silent_stripe_record event none).always callback_passive
    next cb read =>
      have assigns : Assigns (Brings host .stripe req) cb.status (Stripe.edit cb) :=
        fun row => ⟨rfl, .inl rfl⟩
      exact always_settled assigns (silent_stripe event)

theorem mock_licensed (h : WebHistory) :
    Always (Licensed host (.callback .mock req)) (fun _ _ => True) (Mock.post host req) h := by
  unfold Mock.post
  split
  · trivial
  next cb ok =>
    have assigns : Assigns (Brings host .mock req) cb.status (Mock.edit cb) :=
      fun row => ⟨rfl, .inr ⟨cb.providerRef, ⟨cb, ok, rfl⟩, rfl⟩⟩
    have dbWork (eventId : String) (h' : WebHistory) :
        Always (Licensed host (.callback .mock req)) (fun _ _ => True)
          (Mock.dbWork eventId cb) h' := by
      unfold Mock.dbWork
      apply always_bind _ _ (always_lookup (Mock.byId cb) h')
      intro h₁ r _ foundIn
      cases r with
      | error e => trivial
      | ok byId =>
        cases byId with
        | some row => exact always_settle_then (foundIn _ rfl) assigns (silent_mock eventId)
        | none =>
          apply always_bind _ _ (always_lookup (Mock.byReference cb) h₁)
          intro h₂ r' _ foundIn'
          cases r' with
          | error e => trivial
          | ok found => exact always_settle_then (foundIn' _ rfl) assigns (silent_mock eventId)
    unfold Mock.work
    cases cb.eventId with
    | some eventId => exact always_then (dbWork eventId h)
    | none =>
      apply always_bind _ _ ((silent_eventIdOr "mock_evt_" "").always callback_passive)
      intro h' eventId _ _
      exact always_then (dbWork eventId h')

theorem callback_licensed (route : Route) (req : CallbackRequest) :
    Always (Licensed host (.callback route req)) (fun _ _ => True) (route.post host req) [] := by
  cases route with
  | paymob => exact paymob_licensed []
  | fawry => exact fawry_licensed []
  | stripe => exact stripe_licensed []
  | mock => exact mock_licensed []

end Callbacks

section Callers

variable {host : ApiHost} {req : ApiRequest}

/-- Authentication writes nothing and learns nothing of payments. -/
theorem always_authenticate {P : WebHistory → WebEffect → Prop} {h : WebHistory}
    (passive : ∀ h e, isPassive e = true → P h e) (untold : Untold h) :
    Always P (fun h' _ => Untold h') (authenticateApiRequest host req) h := by
  unfold authenticateApiRequest
  by_cases absent : presentedToken req = ""
  · simp only [absent, if_true]
    exact untold
  · simp only [absent, if_false]
    split
    · exact untold
    · refine ⟨passive _ _ rfl, fun found => ?_⟩
      match found with
      | .error e => exact untold.cons rfl
      | .ok none => exact untold.cons rfl
      | .ok (some key) => exact untold.cons rfl

theorem untold_nil : Untold [] := by
  intro t is
  cases is

end Callers

section Inquiries

variable {host : ApiHost} {req : ApiRequest} {id : String} {caller : Caller} {h : WebHistory}

theorem inquiry_passive (h : WebHistory) (e : WebEffect) (passive : isPassive e = true) :
    Licensed host.toHost (.inquiry req id) h e := licensed_passive (by simp) h e passive

theorem always_findPayment : Always (Licensed host.toHost (.inquiry req id))
    (fun h r => ∀ found, r = .ok found → FoundIn h found) (findPayment caller id) h := by
  have ended (r : Except SqlError (Option SharedRow)) (test : PaymentRow → Bool)
      (h' : WebHistory) (found : Option SharedRow) (is : r = .ok found) :
      FoundIn (⟨.select test, r⟩ :: h') found := by
    intro row there
    subst is there
    rfl
  refine ⟨trivial, fun r => ?_⟩
  match r with
  | .error e =>
    intro found is
    cases is
  | .ok (some row) => exact ended (.ok (some row)) _ h
  | .ok none => exact ⟨trivial, fun r' => ended r' _ _⟩

theorem unguarded_of_unresolved {row : PaymentRow} (unresolved : row.unresolved = true)
    (status : PaymentStatus) : isIllegal row.status status = false := by
  simp only [PaymentRow.unresolved, Bool.or_eq_true, beq_iff_eq] at unresolved
  rcases unresolved with is | is <;> rw [is] <;> rfl

theorem orElse_getD (a b : Option String) : orElse a b = orElse (some (a.getD "")) b := by
  cases a <;> simp [orElse]

variable {row : SharedRow}

theorem always_refresh (foundIn : FoundIn h (some row)) (unresolved : row.payment.unresolved = true) :
    Always (Licensed host.toHost (.inquiry req id)) (fun h' _ => FoundIn h' (some row))
      (refresh host id row) h := by
  unfold refresh getPaymentFromRustGateway
  cases getGatewayUrl host with
  | none => exact foundIn
  | some url =>
    refine ⟨trivial, fun answer => ?_⟩
    cases answer with
    | lost reason => exact foundIn
    | error status message code => exact foundIn
    | ok view =>
      simp only [bind_eq, pure_eq, done_bind, fetchedResult]
      split
      · refine ⟨⟨Told.ofRow row, view.status, foundIn row rfl, rfl, rfl,
          unguarded_of_unresolved unresolved view.status, .inr ⟨view.providerReference.getD "",
            ⟨id, view, h, rfl, rfl⟩, congrArg some (orElse_getD _ _)⟩⟩, fun written => ?_⟩
        cases written <;> exact foundIn
      · exact foundIn

theorem always_inquireSession {known : Known} (foundIn : FoundIn h (some row))
    (unresolved : row.payment.unresolved = true) :
    Always (Licensed host.toHost (.inquiry req id)) (fun _ _ => True)
      (inquireSession host req row known) h := by
  unfold inquireSession
  split
  · trivial
  · refine ⟨trivial, fun answer => ?_⟩
    cases answer with
    | error message => trivial
    | ok session =>
      simp only [bind_eq, pure_eq, done_bind]
      split
      · trivial
      next status _ =>
        exact ⟨⟨Told.ofRow row, status, foundIn row rfl, rfl, rfl,
          unguarded_of_unresolved unresolved status, .inl rfl⟩, fun written => trivial⟩

theorem always_showPayment (foundIn : FoundIn h (some row)) :
    Always (Licensed host.toHost (.inquiry req id)) (fun _ _ => True)
      (showPayment host req id row) h := by
  unfold showPayment
  by_cases inquired : isInquired row = true
  · have unresolved : row.payment.unresolved = true := by
      simp only [isInquired, Bool.and_eq_true] at inquired
      exact inquired.2
    simp only [inquired, if_true]
    apply always_bind _ _ (always_refresh foundIn unresolved)
    intro h' r _ foundIn'
    cases r with
    | error e => trivial
    | ok known => exact always_then (always_inquireSession foundIn' unresolved)
  · simp only [inquired]
    trivial

theorem inquiry_licensed (req : ApiRequest) (id : String) :
    Always (Licensed host.toHost (.inquiry req id)) (fun _ _ => True)
      (PaymentRoutes.get host req id) [] := by
  unfold PaymentRoutes.get
  split
  · trivial
  · apply always_bind _ _ (always_authenticate inquiry_passive untold_nil)
    intro h r _ _
    match r with
    | .error e => trivial
    | .ok none => trivial
    | .ok (some caller) =>
      simp only [getAs]
      split
      · trivial
      · apply always_bind _ _ always_findPayment
        intro h' r' _ foundIn
        match r', foundIn with
        | .error e, _ => trivial
        | .ok none, _ => trivial
        | .ok (some row), foundIn => exact always_showPayment (foundIn _ rfl)

end Inquiries

section Submissions

variable {host : ApiHost} {req : ApiRequest} {order : Order} {caller : Caller} {h : WebHistory}

theorem submission_passive (h : WebHistory) (e : WebEffect) (passive : isPassive e = true) :
    Licensed host.toHost (.submission req) h e := licensed_passive (by simp) h e passive

/-- The values a payment goes on with were told, or are the route's own. -/
def CreatedIn (h : WebHistory) (created : Created) : Prop :=
  (∃ t, lastTold h = some t ∧ created.id = t.id ∧ .stored created.status = t.status ∧
    created.providerReference = t.providerReference) ∨
    (∃ raw, created.id = .corrupt raw) ∧ Untold h

theorem always_forward (untold : Untold h) : Always (Licensed host.toHost (.submission req))
    (fun h r => Untold h ∧ ∀ view, r = .ok view → lastTold h = some (Told.ofView view))
    (forwardPaymentToRustGateway host order.payload order.idempotencyKey) h := by
  unfold forwardPaymentToRustGateway
  cases getGatewayUrl host with
  | none =>
    refine ⟨untold, fun view is => ?_⟩
    cases is
  | some url =>
    refine ⟨trivial, fun answer => ?_⟩
    cases answer with
    | lost reason =>
      refine ⟨untold.cons rfl, fun view is => ?_⟩
      cases is
    | error status message code =>
      refine ⟨untold.cons rfl, fun view is => ?_⟩
      simp only [createdResult] at is
      split at is <;> cases is
    | ok view =>
      constructor
      · intro t is
        cases is
        exact ⟨view.paymentId, rfl⟩
      · intro view' is
        cases is
        rfl

/-- What a branch of the creation ends in. -/
abbrev Creates (h : WebHistory) (r : Except Answer Created) : Prop :=
  ∀ created, r = .ok created → CreatedIn h created

theorem creates_handled {view : PaymentView} (told : lastTold h = some (Told.ofView view)) :
    Creates h (.ok (Created.ofView view)) := by
  intro created is
  cases is
  exact .inl ⟨Told.ofView view, told, rfl, rfl, rfl⟩

theorem creates_refused (answer : Answer) : Creates h (.error answer) := by
  intro created is
  cases is

theorem creates_own {created : Created} {raw : String} (own : created.id = .corrupt raw)
    (untold : Untold h) : Creates h (.ok created) := by
  intro created' is
  cases is
  exact .inr ⟨⟨raw, own⟩, untold⟩

/-- A handled answer is the view the gateway gave. -/
theorem routed_handled {result : GatewayResult} {created : Created}
    (handled : routed result = .handled created) :
    ∃ view, result = .ok view ∧ created = Created.ofView view := by
  cases result with
  | ok view =>
    cases handled
    exact ⟨view, rfl, rfl⟩
  | error status message code =>
    simp only [routed] at handled
    split at handled <;> cases handled

theorem routedUnlessEmpty_handled {provider : ProviderName} {isTest : Bool}
    {result : GatewayResult} {created : Created}
    (handled : routedUnlessEmpty provider isTest result = .handled created) :
    ∃ view, result = .ok view ∧ created = Created.ofView view := by
  cases result with
  | ok view =>
    simp only [routedUnlessEmpty] at handled
    split at handled
    · split at handled <;> cases handled
    · cases handled
      exact ⟨view, rfl, rfl⟩
  | error status message code => exact routed_handled handled

theorem always_createAtGateway {isTest : Bool} {simulated : Created} {raw : String}
    (own : simulated.id = .corrupt raw) (untold : Untold h) :
    Always (Licensed host.toHost (.submission req)) Creates
      (createAtGateway host order isTest simulated) h := by
  apply always_bind _ _ (always_forward untold)
  rintro h' result - ⟨untold', told⟩
  split
  next created handled =>
    obtain ⟨view, is, rfl⟩ := routedUnlessEmpty_handled handled
    exact creates_handled (told view is)
  · exact creates_refused _
  · split
    · exact creates_refused _
    · exact creates_own own untold'

theorem always_createAtStripe {isTest : Bool} {paymentId : String} (untold : Untold h) :
    Always (Licensed host.toHost (.submission req)) Creates
      (createAtStripe host order isTest paymentId req) h := by
  apply always_bind _ _ (always_forward untold)
  rintro h' result - ⟨untold', told⟩
  split
  next created handled =>
    obtain ⟨view, is, rfl⟩ := routed_handled handled
    exact creates_handled (told view is)
  · exact creates_refused _
  · dsimp only
    split
    · have own : (simulatedStripe paymentId).id = .corrupt paymentId := rfl
      exact creates_own own untold'
    · split
      · exact creates_refused _
      · refine ⟨trivial, fun answer => ?_⟩
        cases answer with
        | ok session =>
          have own : (Created.ofSession paymentId session).id = .corrupt paymentId := rfl
          exact creates_own own (untold'.cons rfl)
        | error message =>
          simp only [bind_eq, done_bind]
          split <;> exact creates_refused _

theorem always_createAtMock {paymentId : String} (untold : Untold h) :
    Always (Licensed host.toHost (.submission req)) Creates
      (createAtMock host order paymentId) h := by
  apply always_bind _ _ (always_forward untold)
  rintro h' result - ⟨untold', told⟩
  split
  next created handled =>
    obtain ⟨view, is, rfl⟩ := routed_handled handled
    exact creates_handled (told view is)
  · exact creates_refused _
  · split
    · exact creates_refused _
    · split
      · exact creates_refused _
      · have own : (simulatedMock host order paymentId).id = .corrupt paymentId := rfl
        exact creates_own own untold'

theorem always_create {isTest : Bool} {paymentId : String} (untold : Untold h) :
    Always (Licensed host.toHost (.submission req)) Creates
      (create host order isTest paymentId req) h := by
  unfold create
  cases order.provider with
  | paymob =>
    have own : (simulatedPaymob host order paymentId).id = .corrupt paymentId := rfl
    exact always_createAtGateway own untold
  | fawry =>
    have own : (simulatedFawry paymentId).id = .corrupt paymentId := rfl
    exact always_createAtGateway own untold
  | stripe => exact always_createAtStripe untold
  | mock => exact always_createAtMock untold

theorem always_persist {input : PersistInput} (upserts : ∀ now, Upserts (⟨.now, now⟩ :: h) input) :
    Always (Licensed host.toHost (.submission req)) (fun _ _ => True)
      (persistPaymentRecord input) h := by
  refine ⟨trivial, fun now => ⟨upserts now, fun stored => ?_⟩⟩
  cases stored with
  | ok row => trivial
  | error e =>
    simp only [bind_eq, done_bind]
    split <;> trivial

theorem always_replay {existing : SharedRow} (foundIn : FoundIn h (some existing)) :
    Always (Licensed host.toHost (.submission req)) (fun _ _ => True)
      (replay host req caller order existing) h := by
  unfold replay
  split
  · trivial
  · apply always_bind _ _ (always_persist fun now =>
      .inl ⟨Told.ofRow existing, foundIn existing rfl, rfl, rfl, rfl⟩)
    intro h' r _ _
    cases r <;> trivial

theorem always_createAndPersist (untold : Untold h) :
    Always (Licensed host.toHost (.submission req)) (fun _ _ => True)
      (createAndPersist host req caller order) h := by
  refine ⟨trivial, fun uuid => ?_⟩
  apply always_bind _ _ (always_create (untold.cons rfl))
  intro h' r _ createdIn
  cases r with
  | error answer => trivial
  | ok created =>
    have upserts (now : Instant) : Upserts (⟨.now, now⟩ :: h')
        (creationInput host caller (environmentOf req caller) order created) := by
      rcases createdIn created rfl with ⟨t, told, id, status, reference⟩ | ⟨own, untold'⟩
      · exact .inl ⟨t, told, id, status, reference⟩
      · exact .inr ⟨own, untold'.cons rfl⟩
    apply always_bind _ _ (always_persist upserts)
    intro h'' r' _ _
    cases r' <;> trivial

theorem always_findIdempotentPayment {userId key environment : String} (untold : Untold h) :
    Always (Licensed host.toHost (.submission req))
      (fun h r => (∀ existing, r = .ok (.row existing) → FoundIn h (some existing)) ∧
        (r = .ok .absent → Untold h))
      (findIdempotentPayment userId key environment) h := by
  have recovered (e : SqlError) (h' : WebHistory) (existing : SharedRow)
      (is : (if userId = sandboxUser then .ok .absent else .error e : Except SqlError
        IdempotencyLookup) = .ok (.row existing)) : FoundIn h' (some existing) := by
    split at is <;> cases is
  have told (test : PaymentRow → Bool) (row : SharedRow) (h' : WebHistory) :
      FoundIn (⟨.select test, .ok (some row)⟩ :: h') (some row) := by
    intro row' is
    cases is
    rfl
  refine ⟨trivial, fun found => ?_⟩
  match found with
  | .error e => exact ⟨recovered e _, fun _ => untold.cons rfl⟩
  | .ok (some row) =>
    constructor
    · intro existing is
      cases is
      exact told _ row h
    · intro absent
      cases absent
  | .ok none =>
    have untold' : Untold (⟨.select (ownKey userId key environment), .ok none⟩ :: h) :=
      untold.cons rfl
    refine ⟨trivial, fun any => ?_⟩
    match any with
    | .error e => exact ⟨recovered e _, fun _ => untold'.cons rfl⟩
    | .ok none =>
      constructor
      · intro existing is
        cases is
      · exact fun _ => untold'.cons rfl
    | .ok (some row) =>
      simp only [bind_eq, done_bind]
      split
      · constructor
        · intro existing is
          cases is
        · intro absent
          cases absent
      · constructor
        · intro existing is
          cases is
          exact told _ row _
        · intro absent
          cases absent

theorem always_submit (untold : Untold h) :
    Always (Licensed host.toHost (.submission req)) (fun _ _ => True)
      (submit host req caller order) h := by
  apply always_bind _ _ (always_findIdempotentPayment untold)
  rintro h' r - ⟨foundIn, absent⟩
  match r, foundIn, absent with
  | .error e, _, _ => trivial
  | .ok .crossTenant, _, _ => trivial
  | .ok (.row existing), foundIn, _ => exact always_replay (foundIn existing rfl)
  | .ok .absent, _, absent =>
    dsimp only
    split
    · trivial
    · trivial
    · exact always_createAndPersist (absent rfl)

theorem submission_licensed (req : ApiRequest) :
    Always (Licensed host.toHost (.submission req)) (fun _ _ => True)
      (PaymentRoutes.post host req) [] := by
  unfold PaymentRoutes.post
  split
  · trivial
  · apply always_bind _ _ (always_authenticate submission_passive untold_nil)
    intro h r _ untold
    match r with
    | .error e => trivial
    | .ok none => trivial
    | .ok (some caller) =>
      simp only [postAs]
      split
      · trivial
      · exact always_submit untold

end Submissions

/-- Every origin keeps its contract. -/
theorem bodies_licensed (host : ApiHost) (fingerprint : PaymentRequest → String) (o : WebOrigin) :
    Always (Licensed host.toHost o) (fun _ _ => True) (body host fingerprint o) [] := by
  cases o with
  | callback route req => exact always_then (callback_licensed route req)
  | submission req => exact always_then (submission_licensed req)
  | inquiry req id => exact always_then (inquiry_licensed req id)
  | operation op => exact always_then (operation_licensed fingerprint op [])

end OpenWrapper.RouteContracts
