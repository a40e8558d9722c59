import OpenWrapper.ReadableRows

/-! # Live creations

What a live submission stores and answers should come from the gateway or from
Stripe, and a creation that the gateway may have made should not be made again
elsewhere. The local paths of the route are meant for test payments; the
Paymob, Fawry and mock ones are open to live payments too. -/

set_option autoImplicit false

namespace OpenWrapper.LiveCreations
open OpenWrapper.Ids OpenWrapper.Payments OpenWrapper.Schema OpenWrapper.Effects
open OpenWrapper.JavaScript OpenWrapper.JsonValue OpenWrapper.WebDatabase
open OpenWrapper.CallbackRoutes OpenWrapper.ApiRequests OpenWrapper.PaymentRoutes
open OpenWrapper.SubmissionPaths OpenWrapper.StatusWrites OpenWrapper.ReadableRows
open OpenWrapper.Suspended OpenWrapper.Suspended.Prog

section Statements

/-- The reference and the next action are those of an answer the gateway or
Stripe gave to this request. -/
def FromAnswer (h : History WebEffect.Response) (reference type payload : Option String) : Prop :=
  (∃ request key view, (⟨.forward request key, .ok view⟩ : WebEvent) ∈ h ∧
    reference = view.providerReference ∧ type = view.nextAction.map actionType ∧
    payload = view.nextAction.bind actionPayload) ∨
  ∃ request key session, (⟨.createSession request key, .ok session⟩ : WebEvent) ∈ h ∧
    reference = some session.sessionId ∧ type = some "redirect_to_url" ∧
    payload = some (session.url.getD "")

/-- A row of the key that was found, written back. -/
def WritesBack (h : History WebEffect.Response) (input : PersistInput) : Prop :=
  ∃ test row, (⟨.select test, .ok (some row)⟩ : WebEvent) ∈ h ∧ input.id = row.payment.id ∧
    input.providerReference = row.payment.providerReference ∧
    input.web.nextActionType = row.web.nextActionType ∧
    input.web.nextActionPayload = row.web.nextActionPayload

/-- Nothing made up is stored, and after a call of the gateway that ended
without an answer nothing is created elsewhere. -/
def Genuine (h : History WebEffect.Response) : WebEffect → Prop
  | .upsert input _ => WritesBack h input ∨
    FromAnswer h input.providerReference input.web.nextActionType input.web.nextActionPayload
  | .createSession _ _ => ∀ request key reason,
    (⟨.forward request key, .lost reason⟩ : WebEvent) ∉ h
  | _ => True

/-- Nothing made up is answered as created. -/
def GenuineAnswer (h : History WebEffect.Response) (answer : Answer) : Prop :=
  ∀ view, answer = ⟨201, .payment view⟩ → ∃ row provider,
    view = paymentToApiResponse row provider ∧
    FromAnswer h row.payment.providerReference row.web.nextActionType row.web.nextActionPayload

variable (host : ApiHost) (req : ApiRequest) (caller : Caller) (g : GatewayAnswer)

/-- Whatever tables the submission meets and others make of them, what it does
and answers is genuine. -/
def NeverSimulated : Prop :=
  ∀ (env : Surroundings) (D : Database), env.Answering g →
    Sound Genuine (past env.react 0 D (postAs host req caller)) ∧
      GenuineAnswer (past env.react 0 D (postAs host req caller))
        (serial env.react 0 D (postAs host req caller)).2

/-- Where the gateway leaves a creation unanswered, the route makes no payment
up, and asks Stripe only if it has not called the gateway or was answered. -/
def Closed : Prop :=
  ∀ order, accept host req = .ok order → missingCredentials host req caller order = some none →
    routedBy host req caller order g = .unanswered →
    simulates host order false req = false ∧
      (callsStripe host order req = true → ∀ reason, g = .lost reason →
        getGatewayUrl host = none)

end Statements

section Main

variable {host : ApiHost} {req : ApiRequest} {caller : Caller} {order : Order} {g : GatewayAnswer}
variable {h : History WebEffect.Response}

theorem fromAnswer_source {created : Created} (live : isTestMode req caller = false)
    (closed : Closed host req caller g) (accepted : accept host req = .ok order)
    (known : missingCredentials host req caller order = some none)
    (source : Source host req caller order g h created) :
    FromAnswer h created.providerReference created.nextActionType created.nextActionPayload := by
  cases source with
  | handled request key view told is routed =>
    subst is
    exact .inl ⟨request, key, view, told, rfl, rfl, rfl⟩
  | session request key paymentId session told is routed calls =>
    subst is
    exact .inr ⟨request, key, session, told, rfl, rfl, rfl⟩
  | simulated raw own routed simulates =>
    rw [live, (closed order accepted known routed).1] at simulates
    cases simulates

theorem genuine_of_submits {e : WebEffect} (live : isTestMode req caller = false)
    (closed : Closed host req caller g) (accepted : accept host req = .ok order)
    (admits : Admits g h) (sound : Sound (Submits host req caller order g) h)
    (submits : Submits host req caller order g h e) : Genuine h e := by
  cases e with
  | upsert input now =>
    rcases submits with ⟨test, existing, mem, -, rfl⟩ | ⟨known, created, source, rfl⟩
    · exact .inl ⟨test, existing, mem, rfl, rfl, rfl, rfl⟩
    · exact .inr (fromAnswer_source live closed accepted known source)
  | createSession request key =>
    intro request' key' reason mem
    obtain ⟨known, unanswered, calls⟩ := submits
    have is : .lost reason = g := admits _ mem
    obtain ⟨h', -, configured⟩ := sound.of_mem mem
    exact configured ((closed order accepted known unanswered).2 calls reason is.symm)
  | _ => trivial

theorem neverSimulated_of_closed (live : isTestMode req caller = false)
    (closed : Closed host req caller g) : NeverSimulated host req caller g := by
  intro env D answers
  cases accepted : accept host req with
  | error answer =>
    simp only [postAs, accepted]
    refine ⟨trivial, fun view is => ?_⟩
    obtain ⟨status, code, message, rfl⟩ := accept_error accepted
    cases is
  | ok order =>
    have keeps : Keeps host req caller order g (Answers host req caller order g)
      (postAs host req caller) [] := keeps_postAs accepted
    have admits := past_answers (admitted_react answers) (postAs host req caller) 0 D
    obtain ⟨sound, answered⟩ := sound_past keeps trivial 0 D
    rw [List.append_nil] at sound answered
    have submitted := sound.admitted admits
    constructor
    · apply submitted.deep.mono
      rintro h e ⟨⟨admits, submits⟩, sound⟩
      exact genuine_of_submits live closed accepted admits (sound.mono fun _ _ step => step.2)
        submits
    · intro view is
      obtain ⟨known, created, row, source, reference, type, payload, shown⟩ :=
        answered admits view is
      have from_ := fromAnswer_source live closed accepted known source
      rw [← reference, ← type, ← payload] at from_
      exact ⟨row, order.provider, shown, from_⟩

/-- An answer that is not routed is no payment. -/
theorem unanswered_error {view : PaymentView}
    (unanswered : routing order false (answered host (.ok view)) = .unanswered) :
    getGatewayUrl host = none := by
  cases configured : getGatewayUrl host with
  | none => rfl
  | some url =>
    simp only [answered, configured, createdResult, routing] at unanswered
    split at unanswered
    all_goals
      simp only [routedUnlessEmpty, routed] at unanswered
      first
      | (split at unanswered <;> simp at unanswered)
      | cases unanswered

theorem mem_forwarded {ev : WebEvent} (mem : ev ∈ forwarded host order g) :
    getGatewayUrl host ≠ none ∧ ev = ⟨.forward order.payload order.idempotencyKey, g⟩ := by
  unfold forwarded at mem
  split at mem
  · cases mem
  next url configured => exact ⟨by simp [configured], List.mem_singleton.mp mem⟩

/-- What happens before a made-up payment is stored on empty tables. -/
def Uneventful (host : ApiHost) (g : GatewayAnswer) : WebEvent → Prop
  | ⟨.select _, found⟩ => found = .ok none
  | ⟨.forward _ _, answer⟩ => answer = g ∧ getGatewayUrl host ≠ none
  | ⟨.createSession _ _, _⟩ => False
  | _ => True

theorem not_fromAnswer {reference type payload : Option String}
    (unanswered : routing order false (answered host g) = .unanswered)
    (uneventful : ∀ ev ∈ h, Uneventful host g ev) : ¬ FromAnswer h reference type payload := by
  rintro (⟨request, key, view, mem, -⟩ | ⟨request, key, session, mem, -⟩)
  · obtain ⟨rfl, configured⟩ := uneventful _ mem
    exact configured (unanswered_error unanswered)
  · exact uneventful _ mem

theorem not_writesBack {input : PersistInput} (uneventful : ∀ ev ∈ h, Uneventful host g ev) :
    ¬ WritesBack h input := by
  rintro ⟨test, row, mem, -⟩
  cases uneventful _ mem

/-- On empty tables, what happens before a made-up payment is stored. -/
theorem uneventful_past (caller : Caller) (d : WebDraw)
    (creating : ∀ ev ∈ past (fun _ => respond d) 0 emptyTables
      (create host order false (localId d.uuid) req), Uneventful host g ev) :
    ∀ ev ∈ (⟨.now, d.clock⟩ : WebEvent) :: (past (fun _ => respond d) 0 emptyTables
      (create host order false (localId d.uuid) req) ++
        ⟨.randomUUID, d.uuid⟩ :: lookups req caller order), Uneventful host g ev := by
  intro ev mem
  rcases List.mem_cons.mp mem with rfl | mem
  · trivial
  · rcases List.mem_append.mp mem with mem | mem
    · exact creating ev mem
    · simp only [lookups, List.mem_cons, List.not_mem_nil, or_false] at mem
      rcases mem with rfl | rfl | rfl
      · trivial
      · rfl
      · rfl

theorem no_simulation (live : isTestMode req caller = false)
    (never : NeverSimulated host req caller g) (accepted : accept host req = .ok order)
    (known : missingCredentials host req caller order = some none)
    (unanswered : routing order false (answered host g) = .unanswered) :
    simulates host order false req = false := by
  by_contra made
  rw [Bool.not_eq_false] at made
  obtain ⟨created, own, carried⟩ := carryOn_simulates (localId "") made
  let d := answering g (.error "")
  have creation : serial (fun _ => respond d) 0 emptyTables
      (create host order (isTestMode req caller) (localId d.uuid) req) =
        (emptyTables, .ok created) := by
    rw [live, serial_create unanswered]
    exact congrArg (serial (fun _ => respond d) 0 emptyTables) carried
  have call : past (fun _ => respond d) 0 emptyTables
      (create host order false (localId d.uuid) req) = forwarded host order g := by
    rw [past_create unanswered]
    exact congrArg (fun p => past (fun _ => respond d) 0 emptyTables p ++ _) carried
  have uneventful := uneventful_past caller d fun ev mem => by
    obtain ⟨configured, rfl⟩ := mem_forwarded (call ▸ mem)
    exact ⟨rfl, configured⟩
  obtain ⟨stored, is⟩ := past_created accepted known rfl creation
  have sound : Sound Genuine (past (fun _ => respond d) 0 emptyTables (postAs host req caller)) :=
    (never (undisturbed d) emptyTables fun _ => rfl).1
  rw [is, live] at sound
  rcases sound.1 with kept | from_
  · exact not_writesBack uneventful kept
  · exact not_fromAnswer unanswered uneventful from_

theorem no_second_creation {reason : String} (live : isTestMode req caller = false)
    (never : NeverSimulated host req caller (.lost reason)) (accepted : accept host req = .ok order)
    (known : missingCredentials host req caller order = some none)
    (unanswered : routing order false (answered host (.lost reason)) = .unanswered)
    (calls : callsStripe host order req = true) : getGatewayUrl host = none := by
  by_contra configured
  let d := answering (.lost reason) (.ok ⟨"", none⟩)
  let asked : WebEvent := ⟨.createSession order.payload order.idempotencyKey, .ok ⟨"", none⟩⟩
  have creation : serial (fun _ => respond d) 0 emptyTables
      (create host order (isTestMode req caller) (localId d.uuid) req) =
        (emptyTables, .ok (Created.ofSession (localId d.uuid) ⟨"", none⟩)) := by
    rw [live, serial_create unanswered, carryOn_calls calls]
    rfl
  have call : past (fun _ => respond d) 0 emptyTables
      (create host order false (localId d.uuid) req) =
        asked :: forwarded host order (.lost reason) := by
    rw [past_create unanswered, carryOn_calls calls]
    rfl
  have lost : (⟨.forward order.payload order.idempotencyKey, .lost reason⟩ : WebEvent) ∈
      forwarded host order (.lost reason) := by
    unfold forwarded
    split
    next absent => exact absurd absent configured
    · exact List.mem_singleton_self _
  obtain ⟨stored, is⟩ := past_created accepted known rfl creation
  have sound : Sound Genuine (past (fun _ => respond d) 0 emptyTables (postAs host req caller)) :=
    (never (undisturbed d) emptyTables fun _ => rfl).1
  rw [is, live, call] at sound
  have again : Genuine (forwarded host order (.lost reason) ++
      ⟨.randomUUID, d.uuid⟩ :: lookups req caller order) asked.1 := sound.2.2.1
  exact again order.payload order.idempotencyKey reason (List.mem_append_left _ lost)

theorem closed_of_neverSimulated (live : isTestMode req caller = false)
    (never : NeverSimulated host req caller g) : Closed host req caller g := by
  intro order accepted known unanswered
  rw [routedBy, live] at unanswered
  refine ⟨no_simulation live never accepted known unanswered, fun calls reason lost => ?_⟩
  subst lost
  exact no_second_creation live never accepted known unanswered calls

/-- A live submission never stores or answers a made-up payment, and never
creates again what it lost, exactly if its local paths are closed. -/
theorem never_simulated_iff (host : ApiHost) (req : ApiRequest) (caller : Caller)
    (g : GatewayAnswer) (live : isTestMode req caller = false) :
    NeverSimulated host req caller g ↔ Closed host req caller g :=
  ⟨closed_of_neverSimulated live, neverSimulated_of_closed live⟩

end Main

section Samples

def paymobRequest : ApiRequest :=
  { orderRequest with headers := [("idempotency-key", "order-1"), ("x-paymob-secret-key", "sk"),
      ("x-paymob-public-key", "pk"), ("x-paymob-hmac-secret", "s"),
      ("x-paymob-integration-id", "7")] }

def liveCaller : Caller := ⟨1, "user-1", "live"⟩

def gatewayHost : ApiHost :=
  { sandboxHost with
    toHost := CallbackAuthentication.hostOf [("OPENWRAPPER_GATEWAY_URL", "http://gateway")]
      [(orderBody, .obj [("amount_minor_units", .num "100"),
        ("customer", .obj [("phone", .str "01000000000")])])] }

/-- Without a gateway a live Paymob payment is refused. -/
theorem never_simulated_unconfigured :
    NeverSimulated sandboxHost paymobRequest liveCaller (.lost "") := by
  apply (never_simulated_iff sandboxHost paymobRequest liveCaller (.lost "") rfl).mpr
  intro order accepted known unanswered
  have provider : order.provider = .paymob := by
    have shape : (accept sandboxHost paymobRequest).map Order.provider = .ok .paymob := rfl
    rw [accepted] at shape
    exact Except.ok.inj shape
  constructor
  · simp only [simulates, provider]
    rfl
  · intro calls
    simp [callsStripe, provider] at calls

/-- A gateway that does not answer in time leaves a live Paymob payment made up
by the web application. -/
theorem live_simulated : ¬ ∀ (host : ApiHost) (req : ApiRequest) (caller : Caller)
    (g : GatewayAnswer), isTestMode req caller = false → NeverSimulated host req caller g := by
  intro claim
  have closed := closed_of_neverSimulated (by rfl)
    (claim gatewayHost paymobRequest liveCaller (.lost "timeout") rfl)
  have accepted : ∃ order, accept gatewayHost paymobRequest = .ok order ∧
      order.provider = .paymob := ⟨_, rfl, rfl⟩
  obtain ⟨order, accepted, provider⟩ := accepted
  have known : missingCredentials gatewayHost paymobRequest liveCaller order = some none := by
    simp only [missingCredentials, provider]
    decide +kernel
  have unanswered : routedBy gatewayHost paymobRequest liveCaller order (.lost "timeout") =
      .unanswered := by
    simp only [routedBy, routing, provider]
    rfl
  have simulated := (closed order accepted known unanswered).1
  simp only [simulates, provider] at simulated
  revert simulated
  decide +kernel

end Samples

end OpenWrapper.LiveCreations
