import OpenWrapper.RouteContracts

/-! # The paths of a submission

A creation that is not known yet goes to the gateway. Where that ends without
an answer the route may carry it on: with a session of Stripe, or with a
payment it makes up. What a submission writes comes from the row it found or
from one of these paths. -/

set_option autoImplicit false

namespace OpenWrapper.SubmissionPaths
open OpenWrapper.Ids OpenWrapper.Payments OpenWrapper.Schema OpenWrapper.Effects
open OpenWrapper.JavaScript OpenWrapper.WebDatabase OpenWrapper.CallbackRoutes
open OpenWrapper.ApiRequests OpenWrapper.PaymentRoutes OpenWrapper.RouteContracts
open OpenWrapper.Suspended OpenWrapper.Suspended.Prog

section Surroundings

/-- What the effects of one request meet, and what others do to the tables
before each of them. -/
structure Surroundings where
  draw : ℕ → WebDraw
  others : ℕ → Database → Database

def Surroundings.react (env : Surroundings) (n : ℕ) (D : Database) (e : WebEffect) :
    Database × e.Response :=
  respond (env.draw n) (env.others n D) e

/-- Whenever it is called, the gateway answers this. -/
def Surroundings.Answering (env : Surroundings) (g : GatewayAnswer) : Prop :=
  ∀ n, (env.draw n).gateway = g

/-- What an event of a submission says while the gateway answers this. -/
def Admitted (g : GatewayAnswer) : WebEvent → Prop
  | ⟨.forward _ _, answer⟩ => answer = g
  | ⟨.select test, .ok (some row)⟩ => test row.payment = true
  | ⟨.upsert input _, .ok row⟩ =>
    row.payment.providerReference = input.providerReference ∧ row.web = input.web
  | _ => True

abbrev Admits (g : GatewayAnswer) (h : History WebEffect.Response) : Prop :=
  ∀ ev ∈ h, Admitted g ev

theorem selected_passes {D : Database} {visit : PaymentRow → ℕ} {test : PaymentRow → Bool}
    {row : SharedRow} (selected : D.selectOne visit test = some row) : test row.payment = true := by
  obtain ⟨found, search, rfl⟩ := Option.map_eq_some_iff.mp selected
  exact List.find?_some search

theorem admitted_react {env : Surroundings} {g : GatewayAnswer} (answering : env.Answering g)
    (n : ℕ) (D : Database) (e : WebEffect) : Admitted g ⟨e, (env.react n D e).2⟩ := by
  cases e with
  | select test =>
    cases fails : (env.draw n).fails
    · simp only [Surroundings.react, respond, fails]
      cases selected : (env.others n D).selectOne (env.draw n).visit test with
      | none => trivial
      | some row => exact selected_passes selected
    · simp only [Surroundings.react, respond, fails]
      trivial
  | upsert input now =>
    cases fails : (env.draw n).fails
    · simp only [Surroundings.react, respond, fails]
      cases stored : (env.others n D).upsert input now with
      | error e => trivial
      | ok result =>
        rcases Database.upsert_cases stored with ⟨row, -, -, found, -⟩ | ⟨-, found, -⟩
        · exact ⟨by rw [found]; rfl, by rw [found]⟩
        · exact ⟨by rw [found]; rfl, by rw [found]⟩
    · simp only [Surroundings.react, respond, fails]
      trivial
  | forward request key => exact answering n
  | _ => trivial

end Surroundings

section Paths

variable (host : ApiHost) (order : Order) (isTest : Bool) (paymentId : String) (req : ApiRequest)

/-- What the call of the gateway comes back with. -/
def answered (g : GatewayAnswer) : GatewayResult :=
  match getGatewayUrl host with
  | none => gatewayUnavailable
  | some _ => createdResult g

def routing (result : GatewayResult) : Routed :=
  match order.provider with
  | .paymob | .fawry => routedUnlessEmpty order.provider isTest result
  | .stripe | .mock => routed result

def isKeyed : Bool :=
  truthy host.numberText (requestStripeKey order req) ||
    (host.variableOf "STRIPE_SECRET_KEY").isSome

/-- The route asks Stripe for a session of its own. -/
def callsStripe : Bool := order.provider == .stripe && isKeyed host order req

/-- The route makes a payment up. -/
def simulates : Bool :=
  match order.provider with
  | .paymob | .fawry => isTest || (getGatewayUrl host).isSome
  | .stripe => isTest && !isKeyed host order req
  | .mock => !(order.payload.amountMinorUnits % 100 == 99 ||
      order.payload.amountMinorUnits % 100 == 88)

/-- What the route does with a creation that the gateway left unanswered. -/
def carryOn : Web (Except Answer Created) :=
  match order.provider with
  | .paymob =>
    if !isTest && (getGatewayUrl host).isNone then pure (.error (gatewayRequired order))
    else pure (.ok (simulatedPaymob host order paymentId))
  | .fawry =>
    if !isTest && (getGatewayUrl host).isNone then pure (.error (gatewayRequired order))
    else pure (.ok (simulatedFawry paymentId))
  | .stripe =>
    if isTest && !isKeyed host order req then pure (.ok (simulatedStripe paymentId))
    else if !isKeyed host order req then pure (.error stripeMissing)
    else do
      match ← Web.createSession order.payload order.idempotencyKey with
      | .ok session => pure (.ok (Created.ofSession paymentId session))
      | .error message =>
        if isConfigError message then pure (.error stripeMissing)
        else pure (.error (apiError 502 "provider_error" "Stripe provider request failed."))
  | .mock =>
    if order.payload.amountMinorUnits % 100 = 99 then
      pure (.error (apiError 402 "card_declined" "Simulated card decline (amount ends in 99)"))
    else if order.payload.amountMinorUnits % 100 = 88 then
      pure (.error (apiError 504 "timeout"
        "Simulated network/provider timeout (amount ends in 88)"))
    else pure (.ok (simulatedMock host order paymentId))

/-- Every provider's branch is the call of the gateway and what follows from
how it is routed. -/
theorem create_eq : create host order isTest paymentId req =
    forwardPaymentToRustGateway host order.payload order.idempotencyKey >>= fun result =>
      match routing order isTest result with
      | .handled created => pure (.ok created)
      | .refused answer => pure (.error answer)
      | .unanswered => carryOn host order isTest paymentId req := by
  unfold create routing carryOn createAtGateway
  cases order.provider with
  | paymob => rfl
  | fawry => rfl
  | stripe => rfl
  | mock => rfl

end Paths

section Contract

variable (host : ApiHost) (req : ApiRequest) (caller : Caller) (order : Order) (g : GatewayAnswer)

/-- How the gateway's answer is routed. -/
def routedBy : Routed := routing order (isTestMode req caller) (answered host g)

/-- Where the values of a creation come from. -/
inductive Source (h : History WebEffect.Response) (created : Created) : Prop
  | handled (request : GatewayRequest) (key : String) (view : PaymentView)
      (told : ⟨.forward request key, .ok view⟩ ∈ h) (is : created = Created.ofView view)
      (routed : routedBy host req caller order g = .handled created)
  | session (request : GatewayRequest) (key paymentId : String) (session : WebDatabase.Session)
      (told : ⟨.createSession request key, .ok session⟩ ∈ h)
      (is : created = Created.ofSession paymentId session)
      (routed : routedBy host req caller order g = .unanswered)
      (calls : callsStripe host order req = true)
  | simulated (raw : String) (own : created.id = .corrupt raw)
      (routed : routedBy host req caller order g = .unanswered)
      (simulates : simulates host order (isTestMode req caller) req = true)

/-- A submission upserts the row that it found, or a creation with a source. -/
def Submits (h : History WebEffect.Response) : WebEffect → Prop
  | .upsert input _ =>
    (∃ test existing, ⟨.select test, .ok (some existing)⟩ ∈ h ∧
      keyText existing.payment.idempotencyKey = order.idempotencyKey ∧
      input = replayInput host caller (environmentOf req caller) order existing) ∨
    missingCredentials host req caller order = some none ∧ ∃ created,
      Source host req caller order g h created ∧
      input = creationInput host caller (environmentOf req caller) order created
  | .createSession _ _ => missingCredentials host req caller order = some none ∧
    routedBy host req caller order g = .unanswered ∧ callsStripe host order req = true
  | .forward _ _ => getGatewayUrl host ≠ none
  | .update _ _ => False
  | .gateway _ => False
  | _ => True

/-- What is answered as created has a source. -/
def Answers (h : History WebEffect.Response) (answer : Answer) : Prop :=
  ∀ view, answer = ⟨201, .payment view⟩ →
    missingCredentials host req caller order = some none ∧ ∃ created row,
      Source host req caller order g h created ∧
      row.payment.providerReference = created.providerReference ∧
      row.web.nextActionType = created.nextActionType ∧
      row.web.nextActionPayload = created.nextActionPayload ∧
      view = paymentToApiResponse row order.provider

end Contract

section Walk

variable {host : ApiHost} {req : ApiRequest} {caller : Caller} {order : Order} {g : GatewayAnswer}
variable {h : History WebEffect.Response}

/-- The contract, as long as the history is one the gateway's answer admits. -/
abbrev Keeps {α : Type} (host : ApiHost) (req : ApiRequest) (caller : Caller) (order : Order)
    (g : GatewayAnswer) (Q : History WebEffect.Response → α → Prop) (p : Web α)
    (h : History WebEffect.Response) : Prop :=
  Always (fun h e => Admits g h → Submits host req caller order g h e)
    (fun h a => Admits g h → Q h a) p h

/-- A history that is not admitted is of no concern, nor is any that follows. -/
theorem keeps_of_admits {α : Type} {Q : History WebEffect.Response → α → Prop} {p : Web α}
    (keeps : Admits g h → Keeps host req caller order g Q p h) :
    Keeps host req caller order g Q p h := by
  by_cases admits : Admits g h
  · exact keeps admits
  · apply (always_suffix p h).mono
    · intro h' e suffix admits'
      exact absurd (fun ev mem => admits' ev (suffix.mem mem)) admits
    · intro h' a suffix admits'
      exact absurd (fun ev mem => admits' ev (suffix.mem mem)) admits

theorem keeps_forward : Keeps host req caller order g
    (fun h' result => result = answered host g ∧ ∀ view, result = .ok view →
      ∃ request key, (⟨.forward request key, .ok view⟩ : WebEvent) ∈ h')
    (forwardPaymentToRustGateway host order.payload order.idempotencyKey) h := by
  unfold forwardPaymentToRustGateway answered
  cases configured : getGatewayUrl host with
  | none =>
    refine fun _ => ⟨rfl, fun view is => ?_⟩
    cases is
  | some url =>
    refine ⟨fun _ => by simp [Submits, configured], fun answer admits => ?_⟩
    have is : answer = g := admits _ List.mem_cons_self
    subst is
    refine ⟨rfl, fun view is => ?_⟩
    cases answer with
    | ok view' =>
      cases is
      exact ⟨order.payload, order.idempotencyKey, List.mem_cons_self⟩
    | error status message code =>
      simp only [createdResult] at is
      split at is <;> cases is
    | lost reason => cases is

/-- A handled answer is the view the gateway gave. -/
theorem routing_handled {isTest : Bool} {result : GatewayResult} {created : Created}
    (handled : routing order isTest result = .handled created) :
    ∃ view, result = .ok view ∧ created = Created.ofView view := by
  unfold routing at handled
  split at handled
  · exact routedUnlessEmpty_handled handled
  · exact routedUnlessEmpty_handled handled
  · exact routed_handled handled
  · exact routed_handled handled

abbrev Creates (host : ApiHost) (req : ApiRequest) (caller : Caller) (order : Order)
    (g : GatewayAnswer) (h : History WebEffect.Response) (r : Except Answer Created) : Prop :=
  (∀ created, r = .ok created → Source host req caller order g h created) ∧
    ∀ answer, r = .error answer → ∃ status code message, answer = apiError status code message

theorem creates_error (status : ℕ) (code message : String) :
    Creates host req caller order g h (.error (apiError status code message)) := by
  constructor
  · intro created is
    cases is
  · intro answer is
    cases is
    exact ⟨status, code, message, rfl⟩

theorem creates_ok {created : Created} (source : Source host req caller order g h created) :
    Creates host req caller order g h (.ok created) := by
  constructor
  · intro created' is
    cases is
    exact source
  · intro answer is
    cases is

theorem keeps_carryOn {paymentId : String}
    (known : missingCredentials host req caller order = some none)
    (unanswered : routedBy host req caller order g = .unanswered) :
    Keeps host req caller order g (Creates host req caller order g)
      (carryOn host order (isTestMode req caller) paymentId req) h := by
  have simulated {h' : History WebEffect.Response} {created : Created} {raw : String}
      (own : created.id = .corrupt raw)
      (made : simulates host order (isTestMode req caller) req = true) :
      Creates host req caller order g h' (.ok created) :=
    creates_ok (.simulated raw own unanswered made)
  unfold carryOn
  cases is : order.provider with
  | paymob =>
    dsimp only
    split
    · exact fun _ => creates_error _ _ _
    next carried =>
      have own : (simulatedPaymob host order paymentId).id = .corrupt paymentId := rfl
      refine fun _ => simulated own ?_
      simp only [simulates, is]
      simpa [Option.isSome_iff_ne_none, or_iff_not_imp_left] using carried
  | fawry =>
    dsimp only
    split
    · exact fun _ => creates_error _ _ _
    next carried =>
      have own : (simulatedFawry paymentId).id = .corrupt paymentId := rfl
      refine fun _ => simulated own ?_
      simp only [simulates, is]
      simpa [Option.isSome_iff_ne_none, or_iff_not_imp_left] using carried
  | stripe =>
    dsimp only
    split
    next unkeyed =>
      have own : (simulatedStripe paymentId).id = .corrupt paymentId := rfl
      refine fun _ => simulated own ?_
      simpa only [simulates, is] using unkeyed
    · split
      · exact fun _ => creates_error _ _ _
      next keyed =>
        have calls : callsStripe host order req = true := by
          simpa [callsStripe, is] using keyed
        refine ⟨fun _ => ⟨known, unanswered, calls⟩, fun made => ?_⟩
        cases made with
        | ok session =>
          exact fun _ => creates_ok
            (.session order.payload order.idempotencyKey paymentId session List.mem_cons_self rfl
              unanswered calls)
        | error message =>
          simp only [bind_eq, done_bind]
          split <;> exact fun _ => creates_error _ _ _
  | mock =>
    dsimp only
    split
    · exact fun _ => creates_error _ _ _
    · split
      · exact fun _ => creates_error _ _ _
      next declined late =>
        have own : (simulatedMock host order paymentId).id = .corrupt paymentId := rfl
        refine fun _ => simulated own ?_
        simp [simulates, is, declined, late]

theorem routing_refused {isTest : Bool} {result : GatewayResult} {answer : Answer}
    (refused : routing order isTest result = .refused answer) :
    ∃ status code message, answer = apiError status code message := by
  have plain {result : GatewayResult} (refused : routed result = .refused answer) :
      ∃ status code message, answer = apiError status code message := by
    cases result with
    | ok view => cases refused
    | error status message code =>
      simp only [routed] at refused
      split at refused
      · cases refused
      · cases refused
        exact ⟨_, _, _, rfl⟩
  have unlessEmpty {provider : ProviderName}
      (refused : routedUnlessEmpty provider isTest result = .refused answer) :
      ∃ status code message, answer = apiError status code message := by
    cases result with
    | ok view =>
      simp only [routedUnlessEmpty] at refused
      split at refused
      · split at refused
        · cases refused
        · cases refused
          exact ⟨_, _, _, rfl⟩
      · cases refused
    | error status message code =>
      have same : routed (.error status message code) = .refused answer := refused
      exact plain same
  unfold routing at refused
  split at refused
  · exact unlessEmpty refused
  · exact unlessEmpty refused
  · exact plain refused
  · exact plain refused

theorem keeps_create {paymentId : String}
    (known : missingCredentials host req caller order = some none) :
    Keeps host req caller order g (Creates host req caller order g)
      (create host order (isTestMode req caller) paymentId req) h := by
  rw [create_eq]
  apply always_bind _ _ keeps_forward
  intro h' result _ came
  apply keeps_of_admits
  intro admits
  obtain ⟨is, told⟩ := came admits
  cases route : routing order (isTestMode req caller) result with
  | handled created =>
    intro _
    obtain ⟨view, answer, made⟩ := routing_handled route
    obtain ⟨request, key, mem⟩ := told view answer
    exact creates_ok (.handled request key view mem made (by rw [routedBy, ← is]; exact route))
  | refused answer =>
    intro _
    obtain ⟨status, code, message, rfl⟩ := routing_refused route
    exact creates_error status code message
  | unanswered => exact keeps_carryOn known (by rw [routedBy, ← is]; exact route)

/-- A source that is known stays known. -/
theorem Source.mono {h' : History WebEffect.Response} {created : Created}
    (source : Source host req caller order g h created) (suffix : h <:+ h') :
    Source host req caller order g h' created := by
  cases source with
  | handled request key view told is routed =>
    exact .handled request key view (suffix.mem told) is routed
  | session request key paymentId session told is routed calls =>
    exact .session request key paymentId session (suffix.mem told) is routed calls
  | simulated raw own routed simulates => exact .simulated raw own routed simulates

/-- What is persisted is answered as the table has it, or as it was to be. -/
theorem keeps_persist {input : PersistInput}
    (submits : ∀ now now', Submits host req caller order g (⟨.now, now⟩ :: h) (.upsert input now')) :
    Keeps host req caller order g
      (fun h' r => h <:+ h' ∧ ∀ row, r = .ok row →
        row.payment.providerReference = input.providerReference ∧ row.web = input.web)
      (persistPaymentRecord input) h := by
  have later (now : Instant) (stored : Except SqlError SharedRow) :
      h <:+ ⟨.upsert input now, stored⟩ :: ⟨.now, now⟩ :: h :=
    (List.suffix_cons _ _).trans (List.suffix_cons _ _)
  refine ⟨fun _ => trivial, fun now => ⟨fun _ => submits now now, fun stored => ?_⟩⟩
  cases stored with
  | ok row =>
    intro admits
    refine ⟨later now _, fun row' is => ?_⟩
    cases is
    exact admits _ List.mem_cons_self
  | error e =>
    simp only [bind_eq, done_bind]
    split
    · intro _
      refine ⟨later now _, fun row is => ?_⟩
      cases is
      exact ⟨rfl, rfl⟩
    · intro _
      refine ⟨later now _, fun row is => ?_⟩
      cases is

theorem answers_error (status : ℕ) (code message : String) :
    Answers host req caller order g h (apiError status code message) := by
  intro view is
  cases is

theorem keeps_replay {existing : SharedRow} {test : PaymentRow → Bool}
    (mem : (⟨.select test, .ok (some existing)⟩ : WebEvent) ∈ h)
    (named : Admits g h → keyText existing.payment.idempotencyKey = order.idempotencyKey) :
    Keeps host req caller order g (Answers host req caller order g)
      (replay host req caller order existing) h := by
  apply keeps_of_admits
  intro admits
  unfold replay
  split
  · exact fun _ => answers_error _ _ _
  · apply always_bind _ _ (keeps_persist fun now now' =>
      .inl ⟨test, existing, List.mem_cons_of_mem _ mem, named admits, rfl⟩)
    intro h' r _ _
    cases r with
    | error e => exact fun _ => answers_error _ _ _
    | ok row =>
      intro _ view is
      cases is

theorem keeps_createAndPersist (known : missingCredentials host req caller order = some none) :
    Keeps host req caller order g (Answers host req caller order g)
      (createAndPersist host req caller order) h := by
  refine ⟨fun _ => trivial, fun uuid => ?_⟩
  apply always_bind _ _ (keeps_create known)
  intro h' r _ creates
  apply keeps_of_admits
  intro admits
  cases r with
  | error answer =>
    obtain ⟨status, code, message, rfl⟩ := (creates admits).2 answer rfl
    exact fun _ => answers_error status code message
  | ok created =>
    have source := (creates admits).1 created rfl
    apply always_bind _ _ (keeps_persist fun now now' =>
      .inr ⟨known, created, source.mono (List.suffix_cons _ _), rfl⟩)
    intro h'' r' _ persisted
    cases r' with
    | error e => exact fun _ => answers_error _ _ _
    | ok row =>
      intro admits' view is
      cases is
      obtain ⟨later, shape⟩ := persisted admits'
      obtain ⟨reference, web⟩ := shape row rfl
      have action : row.web.nextActionType = created.nextActionType ∧
          row.web.nextActionPayload = created.nextActionPayload := by
        rw [web]
        exact ⟨rfl, rfl⟩
      exact ⟨known, created, row, source.mono later, reference, action.1, action.2, rfl⟩

theorem keeps_findIdempotentPayment {userId key environment : String} :
    Keeps host req caller order g
      (fun h r => ∀ existing, r = .ok (.row existing) → ∃ test,
        (⟨.select test, .ok (some existing)⟩ : WebEvent) ∈ h ∧
          keyText existing.payment.idempotencyKey = key)
      (findIdempotentPayment userId key environment) h := by
  have recovered {h' : History WebEffect.Response} (e : SqlError) (existing : SharedRow)
      (is : (if userId = sandboxUser then .ok .absent else .error e : Except SqlError
        IdempotencyLookup) = .ok (.row existing)) : ∃ test,
      (⟨.select test, .ok (some existing)⟩ : WebEvent) ∈ h' ∧
        keyText existing.payment.idempotencyKey = key := by
    split at is <;> cases is
  refine ⟨fun _ => trivial, fun found => ?_⟩
  match found with
  | .error e => exact fun _ => recovered e
  | .ok (some row) =>
    intro admits existing is
    cases is
    have passes : ownKey userId key environment row.payment = true := admits _ List.mem_cons_self
    refine ⟨_, List.mem_cons_self, ?_⟩
    simp only [ownKey, Bool.and_eq_true, beq_iff_eq] at passes
    exact passes.1.2
  | .ok none =>
    refine ⟨fun _ => trivial, fun any => ?_⟩
    match any with
    | .error e => exact fun _ => recovered e
    | .ok none =>
      intro _ existing is
      cases is
    | .ok (some row) =>
      simp only [bind_eq, done_bind]
      split
      · intro _ existing is
        cases is
      · intro admits existing is
        cases is
        have passes : anyKey key environment row.payment = true := admits _ List.mem_cons_self
        refine ⟨_, List.mem_cons_self, ?_⟩
        simp only [anyKey, Bool.and_eq_true, beq_iff_eq] at passes
        exact passes.1

theorem keeps_submit : Keeps host req caller order g (Answers host req caller order g)
    (submit host req caller order) h := by
  apply always_bind _ _ keeps_findIdempotentPayment
  intro h' r _ found
  match r, found with
  | .error e, _ => exact fun _ => answers_error _ _ _
  | .ok .crossTenant, _ => exact fun _ => answers_error _ _ _
  | .ok (.row existing), found =>
    apply keeps_of_admits
    intro admits
    obtain ⟨test, mem, named⟩ := found admits existing rfl
    exact keeps_replay mem fun _ => named
  | .ok .absent, _ =>
    dsimp only
    split
    · exact fun _ => answers_error _ _ _
    · exact fun _ => answers_error _ _ _
    next known => exact keeps_createAndPersist known

/-- A request that is not accepted is answered with an error. -/
theorem accept_error {answer : Answer} (refused : accept host req = .error answer) :
    ∃ status code message, answer = apiError status code message := by
  unfold accept at refused
  split at refused
  · cases refused
    exact ⟨_, _, _, rfl⟩
  · split at refused
    · cases refused
      exact ⟨_, _, _, rfl⟩
    · dsimp only at refused
      split at refused
      · cases refused
        exact ⟨_, _, _, rfl⟩
      · split at refused
        · cases refused
          exact ⟨_, _, _, rfl⟩
        · cases refused

theorem keeps_postAs (accepted : accept host req = .ok order) :
    Keeps host req caller order g (Answers host req caller order g) (postAs host req caller) h := by
  simp only [postAs, accepted]
  exact keeps_submit

end Walk

section Alone

/-! A submission on empty tables that nothing disturbs. -/

def emptyTables : Database := ⟨Ledger.empty, fun _ => WebColumns.unset⟩

def undisturbed (d : WebDraw) : Surroundings := ⟨fun _ => d, fun _ D => D⟩

/-- Every statement is executed, and the gateway and Stripe answer this. -/
def answering (g : GatewayAnswer) (session : Except String WebDatabase.Session) : WebDraw where
  clock := ⟨0⟩
  visit _ := 0
  fails := false
  fresh := ⟨0⟩
  uuid := ""
  apiKey := none
  gateway := g
  session := session
  sessionStatus := .error ""

variable {host : ApiHost} {req : ApiRequest} {caller : Caller} {order : Order} {isTest : Bool}
variable {paymentId : String} {d : WebDraw} {D : Database} {n : ℕ}

/-- The call of the gateway, if one is made. -/
def forwarded (host : ApiHost) (order : Order) (g : GatewayAnswer) : History WebEffect.Response :=
  match getGatewayUrl host with
  | none => []
  | some _ => [⟨.forward order.payload order.idempotencyKey, g⟩]

theorem serial_forward : serial (fun _ => respond d) n D
    (forwardPaymentToRustGateway host order.payload order.idempotencyKey) =
      (D, answered host d.gateway) := by
  unfold forwardPaymentToRustGateway answered
  cases getGatewayUrl host <;> rfl

theorem past_forward : past (fun _ => respond d) n D
    (forwardPaymentToRustGateway host order.payload order.idempotencyKey) =
      forwarded host order d.gateway := by
  unfold forwardPaymentToRustGateway forwarded
  cases getGatewayUrl host <;> rfl

/-- An unanswered creation is carried on. -/
theorem serial_create (unanswered : routing order isTest (answered host d.gateway) = .unanswered) :
    serial (fun _ => respond d) n D (create host order isTest paymentId req) =
      serial (fun _ => respond d) n D (carryOn host order isTest paymentId req) := by
  rw [create_eq, serial_bind_steady, serial_forward]
  simp only [unanswered]

theorem past_create (unanswered : routing order isTest (answered host d.gateway) = .unanswered) :
    past (fun _ => respond d) n D (create host order isTest paymentId req) =
      past (fun _ => respond d) n D (carryOn host order isTest paymentId req) ++
        forwarded host order d.gateway := by
  rw [create_eq, past_bind_steady, serial_forward, past_forward]
  simp only [unanswered]

theorem carryOn_simulates (paymentId : String) (made : simulates host order isTest req = true) :
    ∃ created, created.id = .corrupt paymentId ∧
      carryOn host order isTest paymentId req = .done (.ok created) := by
  unfold carryOn
  unfold simulates at made
  cases is : order.provider with
  | paymob =>
    simp only [is] at made
    refine ⟨simulatedPaymob host order paymentId, rfl, if_neg ?_⟩
    simpa [Option.isSome_iff_ne_none, or_iff_not_imp_left] using made
  | fawry =>
    simp only [is] at made
    refine ⟨simulatedFawry paymentId, rfl, if_neg ?_⟩
    simpa [Option.isSome_iff_ne_none, or_iff_not_imp_left] using made
  | stripe =>
    simp only [is] at made
    exact ⟨simulatedStripe paymentId, rfl, if_pos made⟩
  | mock =>
    simp only [is, Bool.not_eq_true', Bool.or_eq_false_iff, beq_eq_false_iff_ne, ne_eq] at made
    refine ⟨simulatedMock host order paymentId, rfl, ?_⟩
    dsimp only
    rw [if_neg made.1, if_neg made.2]
    rfl

theorem carryOn_calls (calls : callsStripe host order req = true) :
    carryOn host order isTest paymentId req =
      Web.createSession order.payload order.idempotencyKey >>= fun
        | .ok session => pure (.ok (Created.ofSession paymentId session))
        | .error message =>
          if isConfigError message then pure (.error stripeMissing)
          else pure (.error (apiError 502 "provider_error" "Stripe provider request failed.")) := by
  simp only [callsStripe, Bool.and_eq_true, beq_iff_eq] at calls
  simp only [carryOn, calls.1, calls.2, Bool.not_true, Bool.and_false, Bool.false_eq_true, if_false]

theorem serial_handled {created : Created}
    (handled : routing order isTest (answered host d.gateway) = .handled created) :
    serial (fun _ => respond d) n D (create host order isTest paymentId req) =
      (D, .ok created) := by
  rw [create_eq, serial_bind_steady, serial_forward]
  simp only [handled]
  rfl

/-- Where a local path is open, it leads to a creation with an id of its own. -/
theorem serial_carried {g : GatewayAnswer} (session : WebDatabase.Session) (paymentId : String)
    (n : ℕ) (D : Database)
    (unanswered : routing order isTest (answered host g) = .unanswered)
    (carried : callsStripe host order req = true ∨ simulates host order isTest req = true) :
    ∃ created, created.id = .corrupt paymentId ∧
      serial (fun _ => respond (answering g (.ok session))) n D
        (create host order isTest paymentId req) = (D, .ok created) := by
  rcases carried with calls | made
  · refine ⟨Created.ofSession paymentId session, rfl, ?_⟩
    rw [serial_create unanswered, carryOn_calls calls]
    rfl
  · obtain ⟨created, own, is⟩ := carryOn_simulates paymentId made
    refine ⟨created, own, ?_⟩
    rw [serial_create unanswered, is]
    rfl

theorem upsert_empty (input : PersistInput) (now : Instant) :
    ∃ D, emptyTables.upsert input now = .ok (D, ⟨input.inserted now, input.web⟩) ∧
      D.ledger.payments.rows = [input.inserted now] := by
  cases stored : emptyTables.upsert input now with
  | error e => exact absurd stored (by simp [Database.upsert, emptyTables, Ledger.empty,
      ConstraintTable.Table.insert])
  | ok result =>
    obtain ⟨D, found⟩ := result
    rcases Database.upsert_cases stored with ⟨row, mem, -⟩ | ⟨-, is, rows⟩
    · cases mem
    · exact ⟨D, by rw [is], rows⟩

/-- What the two lookups leave of a submission that nothing is known of. -/
theorem serial_absent (accepted : accept host req = .ok order)
    (known : missingCredentials host req caller order = some none) (executed : d.fails = false) :
    serial (fun _ => respond d) 0 emptyTables (postAs host req caller) =
      serial (fun _ => respond d) 0 emptyTables (createAndPersist host req caller order) := by
  have none_found (test : PaymentRow → Bool) : emptyTables.selectOne d.visit test = none := rfl
  simp only [postAs, accepted, submit, findIdempotentPayment, Web.select, perform_bind, call_bind,
    serial_call, respond, executed, none_found, done_bind, known, Bool.false_eq_true, if_false,
    pure_eq]
  exact serial_steady _ _ _ _ _

/-- The lookups of a submission that nothing is known of. -/
def lookups (req : ApiRequest) (caller : Caller) (order : Order) : History WebEffect.Response :=
  [⟨.select (anyKey order.idempotencyKey (environmentOf req caller)), .ok none⟩,
    ⟨.select (ownKey caller.userId order.idempotencyKey (environmentOf req caller)), .ok none⟩]

theorem past_absent (accepted : accept host req = .ok order)
    (known : missingCredentials host req caller order = some none) (executed : d.fails = false) :
    past (fun _ => respond d) 0 emptyTables (postAs host req caller) =
      past (fun _ => respond d) 0 emptyTables (createAndPersist host req caller order) ++
        lookups req caller order := by
  have none_found (test : PaymentRow → Bool) : emptyTables.selectOne d.visit test = none := rfl
  simp only [postAs, accepted, submit, findIdempotentPayment, Web.select, perform_bind, call_bind,
    past_call, respond, executed, none_found, done_bind, known, Bool.false_eq_true, if_false,
    pure_eq, List.append_assoc]
  exact congrArg (· ++ _) (past_steady _ _ _ _ _)

variable {created : Created}

/-- A creation is inserted into the empty tables. -/
theorem serial_created (accepted : accept host req = .ok order)
    (known : missingCredentials host req caller order = some none) (executed : d.fails = false)
    (made : serial (fun _ => respond d) 0 emptyTables
      (create host order (isTestMode req caller) (localId d.uuid) req) =
        (emptyTables, .ok created)) :
    (serial (fun _ => respond d) 0 emptyTables (postAs host req caller)).1.ledger.payments.rows =
      [(creationInput host caller (environmentOf req caller) order created).inserted d.clock] := by
  obtain ⟨D', stored, rows⟩ := upsert_empty
    (creationInput host caller (environmentOf req caller) order created) d.clock
  rw [serial_absent accepted known executed, createAndPersist]
  simp only [Web.randomUUID, perform_bind, serial_call, respond]
  have later := (serial_steady (respond d) (0 + 1) 0 emptyTables
    (create host order (isTestMode req caller) (localId d.uuid) req)).trans made
  rw [serial_bind_steady, later]
  simp only [persistPaymentRecord, Web.now, Web.upsert, perform_bind, call_bind, serial_call,
    respond, executed, stored, Bool.false_eq_true, if_false, done_bind, pure_eq, serial_done]
  exact rows

theorem past_created (accepted : accept host req = .ok order)
    (known : missingCredentials host req caller order = some none) (executed : d.fails = false)
    (made : serial (fun _ => respond d) 0 emptyTables
      (create host order (isTestMode req caller) (localId d.uuid) req) =
        (emptyTables, .ok created)) :
    ∃ stored, past (fun _ => respond d) 0 emptyTables (postAs host req caller) =
      ⟨.upsert (creationInput host caller (environmentOf req caller) order created) d.clock, stored⟩ ::
        ⟨.now, d.clock⟩ :: (past (fun _ => respond d) 0 emptyTables
          (create host order (isTestMode req caller) (localId d.uuid) req) ++
            ⟨.randomUUID, d.uuid⟩ :: lookups req caller order) := by
  obtain ⟨D', stored, rows⟩ := upsert_empty
    (creationInput host caller (environmentOf req caller) order created) d.clock
  rw [past_absent accepted known executed, createAndPersist]
  simp only [Web.randomUUID, perform_bind, past_call, respond]
  have later := (serial_steady (respond d) (0 + 1) 0 emptyTables
    (create host order (isTestMode req caller) (localId d.uuid) req)).trans made
  have earlier := past_steady (respond d) (0 + 1) 0 emptyTables
    (create host order (isTestMode req caller) (localId d.uuid) req)
  rw [past_bind_steady, later, earlier]
  simp only [persistPaymentRecord, Web.now, Web.upsert, perform_bind, call_bind, past_call,
    respond, executed, stored, Bool.false_eq_true, if_false, done_bind, pure_eq, past_done,
    List.nil_append, List.append_assoc, List.cons_append]
  exact ⟨_, rfl⟩

end Alone

end OpenWrapper.SubmissionPaths
