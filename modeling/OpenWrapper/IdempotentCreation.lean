import OpenWrapper.Claimants

/-! # One creation for each idempotency key

The row inserted by `begin_payment` is the claim of its key. Only the task
that inserted it calls the provider; every other request under the key is
pointed to the row or refused. A call of the provider counts from the moment
the task awaits it, so a cancelled task keeps its call. -/

set_option autoImplicit false

namespace OpenWrapper.IdempotentCreation
open OpenWrapper.Ids OpenWrapper.Payments OpenWrapper.Schema OpenWrapper.ConstraintTable
open OpenWrapper.PaymentStore OpenWrapper.Providers OpenWrapper.Headers OpenWrapper.Effects
open OpenWrapper.Gateway OpenWrapper.Contracts OpenWrapper.StoreContract OpenWrapper.Evolution
open OpenWrapper.Claimants OpenWrapper.Suspended OpenWrapper.Suspended.Prog
open OpenWrapper.Interleaving

def creates (key : IdempotencyKey) : Effect → ℕ
  | .createPayment _ _ request => if request.idempotencyKey = key then 1 else 0
  | _ => 0

def awaited (key : IdempotencyKey) : Gw Reply → ℕ
  | .call e _ => creates key e
  | .done _ => 0

def created (key : IdempotencyKey) (h : Past) : ℕ := (h.map fun ev => creates key ev.1).sum

/-- The calls of a provider under the key, over all tasks. -/
def providerCalls (key : IdempotencyKey) (w : GwWorld) : ℕ :=
  (w.tasks.map fun t => created key t.history + awaited key t.rest).sum

structure Asks (key : IdempotencyKey) (t : GwTask) (request : PaymentRequest) : Prop where
  asked : requestOf t.origin = some request
  under : request.idempotencyKey = key

/-- The row of the key names this payment, and was claimed by a request with
the same fingerprint. -/
def ClaimedAs (app : App) (L : Ledger) (request : PaymentRequest) (id : PaymentId) : Prop :=
  ∃ row ∈ L.payments.rows, row.idempotencyKey = .stored request.idempotencyKey ∧
    row.id = .stored id ∧ row.requestFingerprint = app.fingerprint request

/-- The row of the key was claimed by a request with another fingerprint. -/
def Differs (app : App) (L : Ledger) (request : PaymentRequest) : Prop :=
  ∃ row ∈ L.payments.rows, row.idempotencyKey = .stored request.idempotencyKey ∧
    row.requestFingerprint ≠ app.fingerprint request

/-- The store was asked to begin the payment, and answered. -/
def Reached (t : GwTask) (request : PaymentRequest) : Prop :=
  ∃ owner v, told (.beginPaymentWithOwner request owner) v ∈ t.history

structure CreateOnce (b : Backend) (app : App) (key : IdempotencyKey)
    (reached : GwTask → PaymentRequest → Prop) (w : GwWorld) : Prop where
  once : providerCalls key w ≤ 1
  answered : ∀ t ∈ w.tasks, ∀ request reply id, Asks key t request → t.rest = .done reply →
    paymentIdOf reply = some id → ClaimedAs app w.shared.ledger request id
  agreed : ∀ t ∈ w.tasks, ∀ t' ∈ w.tasks, ∀ request request' reply reply' id id',
    Asks key t request → Asks key t' request' → t.rest = .done reply → t'.rest = .done reply' →
    paymentIdOf reply = some id → paymentIdOf reply' = some id' →
    id = id' ∧ app.fingerprint request = app.fingerprint request'
  refused : ∀ t ∈ w.tasks, ∀ request reply, Asks key t request → reached t request →
    Differs app w.shared.ledger request → t.rest = .done reply → isConflict reply
  inert : ∀ i t request c w', w.tasks[i]? = some t → Asks key t request →
    Differs app w.shared.ledger request → step (setting b app) w (.advance i c) = some w' →
    w'.shared.ledger = w.shared.ledger

section Claims

variable {app : App}

theorem ClaimedAs.evolves {L L' : Ledger} {request : PaymentRequest} {id : PaymentId}
    (claimed : ClaimedAs app L request id) (evolves : Evolves L L') :
    ClaimedAs app L' request id := by
  obtain ⟨row, mem, key, is, same⟩ := claimed
  obtain ⟨row', mem', cont⟩ := evolves.payments row mem
  exact ⟨row', mem', cont.idempotencyKey.trans key, cont.id.trans is,
    cont.requestFingerprint.trans same⟩

theorem ClaimedAs.not_differs {L : Ledger} {request : PaymentRequest} {id : PaymentId}
    (claimed : ClaimedAs app L request id) : ¬ Differs app L request := by
  rintro ⟨row', mem', key', other⟩
  obtain ⟨row, mem, key, -, same⟩ := claimed
  have one := row_eq_of_key mem mem' (key.trans key'.symm)
  rw [← one] at other
  exact other same

/-- Two claims of one key are the same claim. -/
theorem ClaimedAs.agree {L : Ledger} {request request' : PaymentRequest} {id id' : PaymentId}
    (claimed : ClaimedAs app L request id) (claimed' : ClaimedAs app L request' id')
    (same : request.idempotencyKey = request'.idempotencyKey) :
    id = id' ∧ app.fingerprint request = app.fingerprint request' := by
  obtain ⟨row, mem, key, is, print⟩ := claimed
  obtain ⟨row', mem', key', is', print'⟩ := claimed'
  have one : row = row' := row_eq_of_key mem mem' (by rw [key, key', same])
  subst one
  rw [is] at is'
  exact ⟨Text.stored.inj is', print.symm.trans print'⟩

/-- An answer that lets a request go on names the claim of its key. -/
def Names (app : App) (s : Shared) : GwEvent → Prop
  | ⟨.store (.beginPaymentWithOwner request _), .ok (.proceed id)⟩ =>
    ClaimedAs app s.ledger request id
  | ⟨.store (.beginPaymentWithOwner request _), .ok (.returnExisting payment)⟩ =>
    ClaimedAs app s.ledger request payment.id
  | _ => True

theorem Names.evolves {s s' : Shared} {ev : GwEvent} (names : Names app s ev)
    (evolves : Evolves s.ledger s'.ledger) : Names app s' ev := by
  unfold Names at names ⊢
  split
  · exact ClaimedAs.evolves names evolves
  · exact ClaimedAs.evolves names evolves
  · trivial

theorem outcome_names {b : Backend} {d : Draw} {L : Ledger} {s : Shared} {op : StoreOp}
    {r : op.Result} (outcome : Outcome app.fingerprint b d L op s.ledger r) :
    Names app s ⟨.store op, r⟩ := by
  generalize same : s.ledger = L' at outcome
  cases outcome with
  | begun request owner now payments inserted =>
    refine ⟨(newRow app.fingerprint request owner d.fresh now).kept b, ?_, rfl, rfl, rfl⟩
    rw [same]
    simp [(Table.insert_eq_some.mp inserted).2]
  | existing request owner row payment mem key parsed print =>
    refine ⟨row, ?_, key, (readFrom_of_toPayment parsed).id, print⟩
    rw [same]
    exact mem
  | failed op => cases op <;> trivial
  | _ => trivial

theorem react_names {b : Backend} {s s' : Shared} {e : Effect} {c : Choice} {r : e.Response}
    (reacted : react b app s e c = some (s', r)) : Names app s' ⟨e, r⟩ := by
  cases e with
  | store op =>
    obtain ⟨d, same, rfl⟩ := react_store reacted
    have outcome := execOp_outcome app.fingerprint b d s.ledger op
    rw [← same] at outcome
    exact outcome_names outcome
  | _ => trivial

end Claims

section Counting

variable {app : App} {key : IdempotencyKey}

def isProceed (key : IdempotencyKey) : Past → ℕ
  | [] => 0
  | ev :: _ => proceeds (.key key) ev

/-- Each call of the provider comes right after an answer of its own that let
the task proceed. -/
theorem created_le_proceeds {o : Origin} {h : Past} (sound : Sound (Licensed app o) h) :
    created key h + isProceed key h ≤ (h.map (proceeds (.key key))).sum := by
  induction h with
  | nil => simp [created, isProceed]
  | cons ev h ih =>
    have earlier := ih sound.2
    have license := sound.1
    obtain ⟨e, r⟩ := ev
    simp only [created, List.map_cons, List.sum_cons, isProceed] at earlier ⊢
    by_cases call : creates key e = 0
    · omega
    · cases e with
      | createPayment p id request =>
        obtain ⟨⟨owner, rest, rfl⟩, -⟩ := license
        by_cases under : request.idempotencyKey = key
        · simp only [proceeds, Mark.names, creates, under, beq_self_eq_true, if_true] at earlier ⊢
          omega
        · simp [creates, under] at call
      | _ => simp [creates] at call

theorem calls_le_proceeds {t : GwTask} (follows : Follows (Licensed app) (Answered app) t) :
    created key t.history + awaited key t.rest ≤ (t.history.map (proceeds (.key key))).sum := by
  have before : created key t.history + isProceed key t.history ≤ _ :=
    created_le_proceeds follows.2
  have always := follows.1
  unfold awaited
  split
  next e k suspended =>
    rw [suspended] at always
    by_cases call : creates key e = 0
    · omega
    · cases e with
      | createPayment p id request =>
        obtain ⟨⟨owner, rest, is⟩, -⟩ := always.1
        by_cases under : request.idempotencyKey = key
        · rw [is] at before ⊢
          simp only [isProceed, proceeds, Mark.names, creates, under, beq_self_eq_true, if_true] at before ⊢
          omega
        · simp [creates, under] at call
      | _ => simp [creates] at call
  · omega

theorem providerCalls_le_one {w : GwWorld} (claims : Claims app w) : providerCalls key w ≤ 1 := by
  have bound : providerCalls key w ≤ total (proceeds (.key key)) w :=
    sum_le_total fun t mem => calls_le_proceeds (claims.sane.follows t mem)
  have once := (claims.once (.key key)).le_one
  omega

end Counting

section Requests

/-- A create request turns to the store to begin its payment, and to do
anything else only after an answer that is not a conflict. -/
def Orderly (o : Origin) (h : Past) (e : Effect) : Prop :=
  ∀ request op, requestOf o = some request → e = .store op →
    (∃ owner, op = .beginPaymentWithOwner request owner) ∨
      ∃ owner v, told (.beginPaymentWithOwner request owner) v ∈ h ∧ v ≠ .conflict

variable {app : App} {o : Origin} {request : PaymentRequest}

theorem orderly_other {e : Effect} (h : Past) (other : ∀ op, e ≠ .store op) : Orderly o h e :=
  fun _ op _ is => absurd is (other op)

theorem orderly_unasked (p : Gw Reply) (h : Past) (silent : requestOf o = none) :
    Always (Orderly o) (fun _ _ => True) p h :=
  (always_true p h).mono (fun _ _ _ request op asked => by simp [silent] at asked)
    fun _ _ _ => trivial

theorem orderly_begun (p : Gw Reply) (h : Past) (asked : requestOf o = some request)
    {owner : Option ApiKeyInfo} {v : BeginOutcome} (begun : v ≠ .conflict) :
    Always (Orderly o) (fun _ _ => True) p
      (told (.beginPaymentWithOwner request owner) v :: h) := by
  refine (always_suffix p _).mono (fun h' e suffix request' op asked' _ => ?_) fun _ _ _ => trivial
  rw [asked] at asked'
  cases asked'
  exact .inr ⟨owner, v, suffix.subset List.mem_cons_self, begun⟩

theorem orderly_begin (h : Past) (asked : requestOf o = some request) (owner : Option ApiKeyInfo) :
    Orderly o h (.store (.beginPaymentWithOwner request owner)) := by
  rintro request' op asked' ⟨⟩
  rw [asked] at asked'
  cases asked'
  exact .inl ⟨owner, rfl⟩

theorem createPayment_orderly {headers h' : HeaderMap} {body : Handlers.CreatePaymentBody}
    (same : SameCaller headers h') (h : Past) :
    Always (Orderly (.http headers (.createPayment body))) (fun _ _ => True)
      (Handlers.createPayment app h' body) h := by
  unfold Handlers.createPayment
  rw [parse_sameCaller same]
  cases parsed : Handlers.parseCreatePayment headers body with
  | error e => trivial
  | ok request =>
    have asked : requestOf (.http headers (.createPayment body)) = some request := by
      simp [requestOf, parsed, Except.toOption]
    dsimp only
    split
    · trivial
    · simp only [Gw.begin, perform_bind, always_call]
      refine ⟨orderly_begin h asked _, fun r => ?_⟩
      cases r with
      | error e => trivial
      | ok outcome =>
        cases outcome with
        | conflict => trivial
        | returnExisting payment => exact orderly_begun _ h asked (by simp)
        | proceed id => exact orderly_begun _ h asked (by simp)

theorem grpc_createValidated_orderly {p : Provider} (h : Past)
    (asked : requestOf o = some request) :
    Always (Orderly o) (fun _ _ => True) (Grpc.createValidated p request) h := by
  simp only [Grpc.createValidated, Gw.begin, perform_bind, always_call]
  refine ⟨orderly_begin h asked _, fun r => ?_⟩
  cases r with
  | error e => trivial
  | ok outcome =>
    cases outcome with
    | conflict => trivial
    | returnExisting payment => exact orderly_begun _ h asked (by simp)
    | proceed id => exact orderly_begun _ h asked (by simp)

theorem body_orderly (app : App) (o : Origin) :
    Always (Orderly o) (fun _ _ => True) (body app o) [] := by
  cases o with
  | http headers route =>
    refine serveHttp_always (fun h _ _ => orderly_other h (by simp))
      (fun h _ => orderly_other h (by simp)) (fun _ _ _ _ _ _ => trivial) ?_
    intro h' h same quiet admitted
    cases route with
    | createPayment b => exact createPayment_orderly same h
    | _ => exact orderly_unasked _ h rfl
  | grpc call =>
    cases call with
    | createPayment req =>
      rw [body, Router.serveGrpc, Grpc.createPayment]
      cases parsed : Grpc.parseCreatePayment req with
      | error e => trivial
      | ok request =>
        dsimp only
        split
        · trivial
        · exact grpc_createValidated_orderly _ (by simp [requestOf, parsed, Except.toOption])
    | _ => exact orderly_unasked _ _ rfl
  | _ => exact orderly_unasked _ _ rfl

end Requests

structure Invariant (app : App) (w : GwWorld) : Prop where
  claims : Claims app w
  names : Recorded (Names app) w
  orderly : ∀ t ∈ w.tasks, Follows Orderly (fun _ _ _ => True) t

section Runs

variable {b : Backend} {app : App} {key : IdempotencyKey} {w w' : GwWorld}

theorem invariant_start (apiKeys : List ApiKeyRow) : Invariant app (start apiKeys) :=
  ⟨claims_start apiKeys, by simp [start, Recorded], by simp [start]⟩

theorem Invariant.step {a : GwAction} (inv : Invariant app w)
    (stepped : step (setting b app) w a = some w') : Invariant app w' where
  claims := inv.claims.step stepped
  names := by
    refine recorded_step (fun i c adv => react_names adv.reacted) ?_ inv.names stepped
    intro i c adv ev names
    exact names.evolves (react_evolves adv.reacted)
  orderly := follows_step (body_orderly app) inv.orderly stepped

variable {t : GwTask} {request : PaymentRequest}

/-- What lets a request go on is a claim with its own fingerprint. -/
theorem Invariant.claimedAs (inv : Invariant app w) (mem : t ∈ w.tasks)
    {owner : Option ApiKeyInfo} {v : BeginOutcome} (begun : v ≠ .conflict)
    (said : told (.beginPaymentWithOwner request owner) v ∈ t.history) :
    ∃ id, ClaimedAs app w.shared.ledger request id := by
  have names := inv.names t mem _ said
  cases v with
  | conflict => exact absurd rfl begun
  | proceed id => exact ⟨id, names⟩
  | returnExisting payment => exact ⟨payment.id, names⟩

theorem Invariant.answered (inv : Invariant app w) (mem : t ∈ w.tasks) {reply : Reply}
    {id : PaymentId} (asks : Asks key t request) (finished : t.rest = .done reply)
    (names : paymentIdOf reply = some id) : ClaimedAs app w.shared.ledger request id := by
  have answered := (inv.claims.sane.follows t mem).1
  rw [finished] at answered
  cases answered.granted request id asks.asked names with
  | proceeded owner id said => exact inv.names t mem _ said
  | reread owner claimed payment said read =>
    have same : payment.id = claimed := inv.claims.sane.truthful t mem _ read
    rw [same]
    exact inv.names t mem _ said
  | existing owner payment said => exact inv.names t mem _ said

theorem Invariant.refused (inv : Invariant app w) (mem : t ∈ w.tasks) {reply : Reply}
    (asks : Asks key t request) (reached : Reached t request)
    (differs : Differs app w.shared.ledger request) (finished : t.rest = .done reply) :
    isConflict reply := by
  obtain ⟨owner, v, said⟩ := reached
  have answered := (inv.claims.sane.follows t mem).1
  rw [finished] at answered
  by_cases conflict : v = .conflict
  · subst conflict
    exact (answered.refused request owner asks.asked said).1
  · obtain ⟨id, claimed⟩ := inv.claimedAs mem conflict said
    exact absurd differs claimed.not_differs

/-- The claim of a key is not made twice. -/
theorem begin_differs {d : Draw} {L : Ledger} {owner : Option ApiKeyInfo}
    (differs : Differs app L request) :
    (execOp app.fingerprint b d L (.beginPaymentWithOwner request owner)).1 = L := by
  have outcome := execOp_outcome app.fingerprint b d L (.beginPaymentWithOwner request owner)
  generalize (execOp app.fingerprint b d L (.beginPaymentWithOwner request owner)).1 = L'
    at outcome
  generalize (execOp app.fingerprint b d L (.beginPaymentWithOwner request owner)).2 = r
    at outcome
  cases outcome with
  | begun request owner now payments inserted =>
    obtain ⟨row, mem, key, -⟩ := differs
    exact absurd (Or.inr key) ((Table.insert_eq_some.mp inserted).1 row mem)
  | _ => rfl

theorem Invariant.inert (inv : Invariant app w) {i : ℕ} {c : Choice}
    (found : w.tasks[i]? = some t) (asks : Asks key t request)
    (differs : Differs app w.shared.ledger request)
    (stepped : Interleaving.step (setting b app) w (.advance i c) = some w') :
    w'.shared.ledger = w.shared.ledger := by
  obtain ⟨adv⟩ := advance_inv stepped
  rw [adv.shared_eq]
  have same : adv.task = t := Option.some.inj (adv.found.symm.trans found)
  have orderly := adv.licensed inv.orderly
  have asked : requestOf adv.task.origin = some request := by rw [same, asks.asked]
  have reacted := adv.reacted
  generalize adv.effect = e, adv.response = r at reacted orderly
  by_cases call : ∃ op, e = .store op
  · obtain ⟨op, rfl⟩ := call
    rcases orderly request op asked rfl with ⟨owner, rfl⟩ | ⟨owner, v, said, begun⟩
    · obtain ⟨d, result, -⟩ := react_store reacted
      rw [result, begin_differs differs]
    · obtain ⟨id, claimed⟩ := inv.claimedAs adv.mem begun said
      exact absurd differs claimed.not_differs
  · exact react_other reacted (by simpa using call)

/-- In every reachable world: one call of the provider for each key, one
payment in every answer, and a conflict for whoever reaches the store with
another fingerprint. -/
theorem create_once (b : Backend) (app : App) (key : IdempotencyKey) (w : GwWorld)
    (reachable : Reachable b app w) : CreateOnce b app key Reached w := by
  have inv : Invariant app w := Reachable.induction invariant_start
    (fun _ _ _ inv stepped => inv.step stepped) reachable
  exact {
    once := providerCalls_le_one inv.claims
    answered := fun t mem request reply id asks finished names =>
      inv.answered mem asks finished names
    agreed := by
      intro t mem t' mem' request request' reply reply' id id' asks asks' finished finished'
        names names'
      have claimed := inv.answered mem asks finished names
      have claimed' := inv.answered mem' asks' finished' names'
      exact claimed.agree claimed' (asks.under.trans asks'.under.symm)
    refused := fun t mem request reply asks reached differs finished =>
      inv.refused mem asks reached differs finished
    inert := fun i t request c w' found asks differs stepped =>
      inv.inert found asks differs stepped }

theorem create_once_paid : ∃ w, run (setting .sqlite shop) (start []) paid = some w ∧
    CreateOnce .sqlite shop ⟨"order-1", by decide⟩ Reached w := by
  have finished : (run (setting .sqlite shop) (start []) paid).isSome = true := by
    decide +kernel
  obtain ⟨w, ran⟩ := Option.isSome_iff_exists.mp finished
  exact ⟨w, ran, create_once .sqlite shop ⟨"order-1", by decide⟩ w ⟨[], paid, ran⟩⟩

/-- The same key again, for a provider the shop has no credentials for. -/
def unservedOrder : List GwAction :=
  ordered ++ [.spawn (.http orderHeaders (.createPayment (orderBody "paymob"))),
    .advance 1 (.acquired true)]

def rejectedOutright (t : GwTask) : Bool :=
  match t.rest with
  | .done (.http status _) => status == 422
  | _ => false

/-- A request the handler refuses before it turns to the store is not answered
with a conflict. -/
theorem not_every_other_request_conflicts : ¬ ∀ (b : Backend) (app : App) (key : IdempotencyKey)
    (w : GwWorld), Reachable b app w → CreateOnce b app key (fun _ _ => True) w := by
  intro claim
  have finished : (run (setting .sqlite shop) (start []) unservedOrder).map (fun w =>
      decide (∃ t ∈ w.tasks[1]?, rejectedOutright t = true ∧
        ∃ request ∈ requestOf t.origin, request.idempotencyKey = ⟨"order-1", by decide⟩ ∧
        ∃ row ∈ w.shared.ledger.payments.rows,
          row.idempotencyKey = .stored request.idempotencyKey ∧
            row.requestFingerprint ≠ shop.fingerprint request)) = some true := by
    decide +kernel
  obtain ⟨w, ran, holds⟩ := Option.map_eq_some_iff.mp finished
  obtain ⟨t, found, outright, request, asked, under, row, mem, key, other⟩ :=
    of_decide_eq_true holds
  have kept := claim .sqlite shop ⟨"order-1", by decide⟩ w ⟨[], unservedOrder, ran⟩
  unfold rejectedOutright at outright
  split at outright
  next status reply finished =>
    have conflict : status = 409 := kept.refused t (List.mem_of_getElem? found) request _
      ⟨asked, under⟩ trivial ⟨row, mem, key, other⟩ finished
    rw [conflict] at outright
    cases outright
  · cases outright

end Runs

end OpenWrapper.IdempotentCreation
