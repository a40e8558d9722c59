import OpenWrapper.Authentication
import OpenWrapper.FawryDecimals

/-! # Whom a request acts for

The authentication layer writes into the headers whom the key stands for, and
the handlers take it from there. Whatever a client sends under the names of
those headers is dropped first, so a handler acts for the owner of the key the
request carries, or for nobody. -/

set_option autoImplicit false

namespace OpenWrapper.Ownership
open OpenWrapper.Ids OpenWrapper.Payments OpenWrapper.PaymentStore OpenWrapper.Headers
open OpenWrapper.Providers OpenWrapper.Stateless OpenWrapper.Effects OpenWrapper.Background
open OpenWrapper.Doubles OpenWrapper.MachineIntegers OpenWrapper.Gateway OpenWrapper.Contracts
open OpenWrapper.SignatureVerdicts OpenWrapper.FawryDecimals
open OpenWrapper.Suspended OpenWrapper.Suspended.Prog

section Texts

/-- A number the layer writes into a header is the one a handler reads there. -/
theorem parseI64_toString {n : ℤ} (fits : i64.Fits n) : parseI64 (toString n) = some n := by
  have range := i64_fits.mp fits
  cases n with
  | ofNat m =>
    have text : toString (Int.ofNat m) = String.ofList (Nat.toDigits 10 m) := rfl
    rw [text, parseI64_digits Nat.toDigits_ne_nil (toDigits_within m), digitsValue_toDigits]
    exact Kind.checked_of_fits fits
  | negSucc m =>
    have text : (toString (Int.negSucc m)).toList = '-' :: Nat.toDigits 10 (m + 1) := by
      simp [toString, Int.repr, Nat.repr]
    have read : parseDigits 0 (Nat.toDigits 10 (m + 1)) = some (m + 1) := by
      rw [parseDigits_of_digits (toDigits_within _) 0]
      exact congrArg some (digitsValue_toDigits _)
    rw [parseI64, text]
    simp [read, Nat.toDigits_ne_nil]
    omega

/-- The text can stand in a header. -/
def printable (s : String) : Bool := (HeaderValue.fromStr s).isSome

theorem toStr_of_fromStr {s : String} {v : HeaderValue} (made : HeaderValue.fromStr s = some v) :
    v.toStr = some s := by
  unfold HeaderValue.fromStr at made
  split at made
  · cases made
    rfl
  · cases made

theorem printable_toString (n : ℤ) : printable (toString n) = true := by
  have digit : ∀ c : Char, c.isDigit = true → 0x20 ≤ c.toNat ∧ c.toNat ≤ 0x7E := by
    intro c is
    have range : 48 ≤ c.toNat ∧ c.toNat ≤ 57 := by
      simpa [Char.isDigit, Char.le_def, UInt32.le_iff_toNat_le] using is
    omega
  have within : ∀ c ∈ (toString n).toList, 0x20 ≤ c.toNat ∧ c.toNat ≤ 0x7E := by
    intro c mem
    cases n with
    | ofNat m =>
      have text : (toString (Int.ofNat m)).toList = Nat.toDigits 10 m := String.toList_ofList
      rw [text] at mem
      exact digit c (toDigits_within m c mem)
    | negSucc m =>
      have text : (toString (Int.negSucc m)).toList = '-' :: Nat.toDigits 10 (m + 1) := by
        simp [toString, Int.repr, Nat.repr]
      rw [text] at mem
      rcases List.mem_cons.mp mem with rfl | digits
      · decide
      · exact digit c (toDigits_within _ c digits)
  have all : (toString n).toList.all (fun c =>
      (0x20 ≤ c.toNat && c.toNat ≤ 0x7E) || c == '\t') = true := by
    rw [List.all_eq_true]
    intro c mem
    simp [within c mem]
  rw [printable, HeaderValue.fromStr, if_pos all]
  rfl

theorem get_remove (h : HeaderMap) (name : String) : (h.remove name).get name = none := by
  simp [HeaderMap.get, HeaderMap.remove]

theorem getStr_insertStr (h : HeaderMap) {name value : String} (prints : printable value = true) :
    (Router.insertStr h name value).getStr name = some value := by
  obtain ⟨v, made⟩ := Option.isSome_iff_exists.mp prints
  simp [Router.insertStr, made, HeaderMap.getStr, toStr_of_fromStr made]

theorem getStr_insertStr_of_ne (h : HeaderMap) {name other value : String} (ne : other ≠ name) :
    (Router.insertStr h name value).getStr other = h.getStr other := by
  unfold Router.insertStr HeaderMap.getStr
  split
  · rw [HeaderMap.get_insert_of_ne h _ ne]
  · rfl

theorem printable_environmentOf (provided : String) :
    printable (Router.environmentOf provided) = true := by
  unfold Router.environmentOf
  split <;> decide

theorem getStr_insertStr_self (h : HeaderMap) {name : String} (absent : h.getStr name = none)
    (value : String) :
    (Router.insertStr h name value).getStr name = (some value).filter printable := by
  by_cases prints : printable value = true
  · rw [getStr_insertStr h prints, Option.filter_some_pos prints]
  · have dropped : HeaderValue.fromStr value = none := by simpa [printable] using prints
    rw [Option.filter_some_neg (by simpa using prints), Router.insertStr, dropped]
    exact absent

end Texts

section Identity

variable {app : App} {headers h' : HeaderMap} {h : Past} {owner : Option ApiKeyInfo}

/-- Whom a request acts for: nobody where no keys are asked for and none is
carried, nobody in an environment for a key of the configuration, and else the
owner of the key the lookup found. -/
inductive Authority (app : App) (headers : HeaderMap) : Past → Option ApiKeyInfo → Prop
  | unprotected (h : Past) : Router.providedKey headers = none → app.apiKeys = none →
      Authority app headers h none
  | static (h : Past) (provided key : String) : Router.providedKey headers = some provided →
      key ∈ app.apiKeys.getD [] → app.sha256Hex key = app.sha256Hex provided →
      Authority app headers h (some ⟨0, none, some (Router.environmentOf provided)⟩)
  | stored (provided : String) (key : ApiKeyInfo) (rest : Past) :
      Router.providedKey headers = some provided →
      (∀ known ∈ app.apiKeys.getD [], app.sha256Hex known ≠ app.sha256Hex provided) →
      i64.Fits key.id →
      Authority app headers (⟨.findApiKey (app.sha256Hex provided), .ok (some key)⟩ :: rest)
        (some ⟨key.id, key.userId.filter printable, some (Router.environmentOf provided)⟩)
  | oversized (provided : String) (key : ApiKeyInfo) (rest : Past) (owner : Option ApiKeyInfo) :
      ¬ i64.Fits key.id →
      Authority app headers (⟨.findApiKey (app.sha256Hex provided), .ok (some key)⟩ :: rest) owner

/-- The effect acts for the owner, as far as it acts for anyone, and is none
of reconciliation on the bus. -/
def InScope (owner : Option ApiKeyInfo) : Effect → Prop
  | .store (.beginPaymentWithOwner _ named) => named = owner
  | .recordEvent event => event.userId = owner.bind ApiKeyInfo.userId
  | .listEvents userId _ _ => userId = owner.bind ApiKeyInfo.userId
  | .createWebhookEndpoint endpoint => endpoint.userId = owner.bind ApiKeyInfo.userId
  | .listWebhookEndpoints userId => userId = owner.bind ApiKeyInfo.userId
  | .deleteWebhookEndpoint _ userId => userId = owner.bind ApiKeyInfo.userId
  | .publishReconcile _ => False
  | .receiveReconcile => False
  | .ackReconcile _ => False
  | _ => True

/-- The effect acts for nobody, and is none that acts for a user. -/
def Impersonal : Effect → Prop
  | .store (.beginPaymentWithOwner _ named) => named = none
  | .recordEvent _ => False
  | .listEvents _ _ _ => False
  | .createWebhookEndpoint _ => False
  | .listWebhookEndpoints _ => False
  | .deleteWebhookEndpoint _ _ => False
  | _ => True

/-- And it is none of reconciliation on the bus. -/
def Detached : Effect → Prop
  | .publishReconcile _ => False
  | .receiveReconcile => False
  | .ackReconcile _ => False
  | e => Impersonal e

theorem Detached.impersonal {e : Effect} (detached : Detached e) : Impersonal e := by
  cases e with
  | publishReconcile => cases detached
  | receiveReconcile => cases detached
  | ackReconcile => cases detached
  | _ => exact detached

/-- A handler that finds the owner in its headers acts for no other. -/
abbrev Scoped {α : Type} (owner : Option ApiKeyInfo) (p : Gw α) : Prop :=
  Confined (InScope owner) p

theorem owner_userId (h' : HeaderMap) : (Handlers.owner h').bind ApiKeyInfo.userId =
    h'.getStr "x-openwrapper-user-id" := by
  unfold Handlers.owner
  dsimp only
  cases (h'.getStr "x-openwrapper-api-key-id").bind parseI64 with
  | some id => rfl
  | none =>
    cases h'.getStr "x-openwrapper-user-id" with
    | some userId => rfl
    | none =>
      dsimp only
      split <;> rfl

theorem strip_absent (headers : HeaderMap) {name : String} (internal : isInternal name) :
    (Router.stripUntrusted headers).getStr name = none := by
  unfold Router.stripUntrusted HeaderMap.getStr
  rcases internal with rfl | rfl | rfl
  · rw [HeaderMap.get_remove_of_ne _ (by decide), HeaderMap.get_remove_of_ne _ (by decide),
      get_remove]
    rfl
  · rw [HeaderMap.get_remove_of_ne _ (by decide), get_remove]
    rfl
  · rw [get_remove]
    rfl

theorem owner_stripped (headers : HeaderMap) :
    Handlers.owner (Router.stripUntrusted headers) = none := by
  unfold Handlers.owner
  rw [strip_absent headers (.inl rfl), strip_absent headers (.inr (.inl rfl)),
    strip_absent headers (.inr (.inr rfl))]
  rfl

/-- The headers of a request that carries a key, before the key is looked up. -/
abbrev environed (headers : HeaderMap) (provided : String) : HeaderMap :=
  Router.insertStr (Router.stripUntrusted headers) "x-openwrapper-environment"
    (Router.environmentOf provided)

theorem environed_environment (headers : HeaderMap) (provided : String) :
    (environed headers provided).getStr "x-openwrapper-environment" =
      some (Router.environmentOf provided) :=
  getStr_insertStr _ (printable_environmentOf provided)

theorem environed_absent (headers : HeaderMap) (provided : String) {name : String}
    (internal : isInternal name) (other : name ≠ "x-openwrapper-environment") :
    (environed headers provided).getStr name = none := by
  rw [environed, getStr_insertStr_of_ne _ other]
  exact strip_absent headers internal

theorem owner_static (headers : HeaderMap) (provided : String) :
    Handlers.owner (environed headers provided) =
      some ⟨0, none, some (Router.environmentOf provided)⟩ := by
  unfold Handlers.owner
  rw [environed_environment, environed_absent headers provided (.inl rfl) (by decide),
    environed_absent headers provided (.inr (.inl rfl)) (by decide)]
  rfl

theorem owner_stored (headers : HeaderMap) (provided : String) {key : ApiKeyInfo}
    (fits : i64.Fits key.id) :
    Handlers.owner (Router.withApiKey (environed headers provided) key) =
      some ⟨key.id, key.userId.filter printable, some (Router.environmentOf provided)⟩ := by
  have absent := environed_absent headers provided (.inl rfl) (by decide)
  have present := environed_environment headers provided
  have id : (Router.withApiKey (environed headers provided) key).getStr
      "x-openwrapper-api-key-id" = some (toString key.id) :=
    getStr_insertStr _ (printable_toString key.id)
  have user : (Router.withApiKey (environed headers provided) key).getStr
      "x-openwrapper-user-id" = key.userId.filter printable := by
    rw [Router.withApiKey, getStr_insertStr_of_ne _ (by decide)]
    cases key.userId with
    | none => exact absent
    | some userId => exact getStr_insertStr_self _ absent userId
  have environment : (Router.withApiKey (environed headers provided) key).getStr
      "x-openwrapper-environment" = some (Router.environmentOf provided) := by
    rw [Router.withApiKey, getStr_insertStr_of_ne _ (by decide)]
    cases key.userId with
    | none => exact present
    | some userId =>
      rw [getStr_insertStr_of_ne _ (by decide)]
      exact present
  unfold Handlers.owner
  rw [id, user, environment, Option.bind_some, parseI64_toString fits]

end Identity

section Handlers

variable {app : App} {h' : HeaderMap} {owner : Option ApiKeyInfo} {p : Provider}
  {request : PaymentRequest} {id : PaymentId}

theorem createClaimed_scoped : Scoped owner (Handlers.createClaimed p request id) := by
  simp only [Handlers.createClaimed, Gw.createPayment, Gw.recordCreationResult, Gw.markFailed,
    Gw.markUnknown, Gw.getPayment, perform_bind, confined_call]
  refine ⟨trivial, fun r => ?_⟩
  cases r with
  | ok result =>
    refine ⟨trivial, fun r => ?_⟩
    cases r <;> trivial
  | error e =>
    dsimp only
    split
    · refine ⟨trivial, fun r => ?_⟩
      cases r <;> trivial
    · refine ⟨trivial, fun r => ?_⟩
      cases r with
      | error s => trivial
      | ok _ =>
        refine ⟨trivial, fun r => ?_⟩
        cases r with
        | error s => trivial
        | ok found => cases found <;> trivial

theorem createPayment_scoped {body : Handlers.CreatePaymentBody} :
    Scoped (Handlers.owner h') (Handlers.createPayment app h' body) := by
  unfold Handlers.createPayment
  cases Handlers.parseCreatePayment h' body with
  | error e => trivial
  | ok request =>
    dsimp only
    cases resolvePaymentProvider app.env app.providers request.provider.asStr h' with
    | error e => trivial
    | ok provider =>
      refine ⟨rfl, fun r => ?_⟩
      cases r with
      | error e => trivial
      | ok outcome =>
        cases outcome with
        | conflict => trivial
        | proceed id => exact createClaimed_scoped
        | returnExisting payment =>
          refine ⟨trivial, fun r => ?_⟩
          cases r with
          | error e => trivial
          | ok action => cases action <;> trivial

theorem viewPayment_scoped {payment : Payment} :
    Scoped owner (Handlers.viewPayment id payment) := by
  unfold Handlers.viewPayment
  split
  · trivial
  · refine ⟨trivial, fun r => ?_⟩
    cases r with
    | error e => trivial
    | ok action => cases action <;> trivial

theorem refresh_scoped {payment : Payment} :
    Scoped owner (Handlers.refresh app h' payment) := by
  unfold Handlers.refresh
  split
  · trivial
  · simp only [Gw.inquireStatus, Gw.applyReconciliationResult, Gw.getPayment, perform_bind,
      confined_call]
    refine ⟨trivial, fun r => ?_⟩
    cases r with
    | error e => trivial
    | ok resolved =>
      dsimp only
      split
      · refine ⟨trivial, fun _ => ⟨trivial, fun r => ?_⟩⟩
        cases r with
        | error e => trivial
        | ok found => cases found <;> trivial
      · trivial

theorem getPayment_scoped {id : Text PaymentId} :
    Scoped owner (Handlers.getPayment app h' id) := by
  have lookup : Scoped owner (Handlers.lookupPayment id) := by
    cases id <;> exact ⟨trivial, fun _ => trivial⟩
  apply confined_bind lookup
  intro r
  cases r with
  | error e => trivial
  | ok found =>
    cases found with
    | none => trivial
    | some payment =>
      apply confined_bind refresh_scoped
      intro r
      cases r with
      | error e => trivial
      | ok current => exact viewPayment_scoped

theorem executeRefund_scoped {payment : Payment} {reference : String} {previously : ℤ}
    {body : Handlers.CreateRefundBody} : Scoped (Handlers.owner h')
      (Handlers.executeRefund p h' payment id reference previously body) := by
  simp only [Handlers.executeRefund, Gw.refund, Gw.ulid, Gw.now, Gw.recordRefund, Gw.recordEvent,
    perform_bind, confined_call]
  refine ⟨trivial, fun r => ?_⟩
  cases r with
  | error e => trivial
  | ok result =>
    refine ⟨trivial, fun _ => ⟨trivial, fun _ => ⟨trivial, fun r => ?_⟩⟩⟩
    cases r with
    | error e => trivial
    | ok _ => exact ⟨trivial, fun _ => ⟨(owner_userId h').symm, fun _ => trivial⟩⟩

theorem createRefund_scoped {id : Text PaymentId} {body : Handlers.CreateRefundBody} :
    Scoped (Handlers.owner h') (Handlers.createRefund app h' id body) := by
  cases id with
  | corrupt raw => trivial
  | stored id =>
    simp only [Handlers.createRefund, Gw.getPayment, Gw.getTotalRefundedMinorUnits, perform_bind,
      confined_call]
    refine ⟨trivial, fun r => ?_⟩
    cases r with
    | error e => trivial
    | ok found =>
      cases found with
      | none => trivial
      | some payment =>
        dsimp only
        split
        · trivial
        split
        · trivial
        refine ⟨trivial, fun r => ?_⟩
        cases r with
        | error e => trivial
        | ok previously =>
          dsimp only
          split
          · trivial
          cases resolvePaymentProvider app.env app.providers payment.provider.asStr h' with
          | error e => trivial
          | ok provider =>
            dsimp only
            split
            · trivial
            cases payment.providerReference with
            | none => trivial
            | some reference => exact executeRefund_scoped

theorem createWebhookEndpoint_scoped {body : Handlers.CreateWebhookEndpointBody} :
    Scoped (Handlers.owner h') (Handlers.createWebhookEndpoint h' body) := by
  unfold Handlers.createWebhookEndpoint
  split
  · trivial
  · refine ⟨trivial, fun _ => ⟨trivial, fun _ => ⟨trivial, fun _ => ?_⟩⟩⟩
    refine ⟨(owner_userId h').symm, fun r => ?_⟩
    cases r <;> trivial

theorem handle_scoped (route : Router.Route) :
    Scoped (Handlers.owner h') (Router.handle app h' route) := by
  have user := (owner_userId h').symm
  cases route with
  | createPayment body => exact createPayment_scoped
  | getPayment id => exact getPayment_scoped
  | createRefund id body => exact createRefund_scoped
  | listRefunds id =>
    cases id with
    | corrupt raw => trivial
    | stored id =>
      refine ⟨trivial, fun r => ?_⟩
      cases r <;> trivial
  | listEvents query =>
    refine ⟨user, fun r => ?_⟩
    cases r <;> trivial
  | getEvent id =>
    simp only [Router.handle, Handlers.getEvent, Gw.getEvent, perform_bind, confined_call]
    refine ⟨trivial, fun r => ?_⟩
    cases r with
    | error e => trivial
    | ok found =>
      cases found with
      | none => trivial
      | some event =>
        dsimp only
        split
        · split <;> trivial
        · trivial
  | createWebhookEndpoint body => exact createWebhookEndpoint_scoped
  | listWebhookEndpoints =>
    refine ⟨user, fun r => ?_⟩
    cases r <;> trivial
  | deleteWebhookEndpoint id =>
    refine ⟨user, fun r => ?_⟩
    cases r with
    | error e => trivial
    | ok deleted => cases deleted <;> trivial

theorem serveGrpc_detached (call : Router.GrpcCall) :
    Confined Detached (Router.serveGrpc app call) := by
  cases call with
  | createPayment req =>
    rw [Router.serveGrpc, Grpc.createPayment]
    cases Grpc.parseCreatePayment req with
    | error e => trivial
    | ok request =>
      dsimp only
      cases app.providers request.provider.asStr with
      | none => trivial
      | some provider =>
        refine ⟨rfl, fun r => ?_⟩
        cases r with
        | error e => trivial
        | ok outcome =>
          cases outcome with
          | conflict => trivial
          | returnExisting payment => exact ⟨trivial, fun _ => trivial⟩
          | proceed id =>
            simp only [Grpc.createClaimed, Gw.createPayment, Gw.recordCreationResult,
              Gw.markFailed, Gw.markUnknown, Gw.now, perform_bind]
            refine ⟨trivial, fun r => ?_⟩
            cases r with
            | ok result =>
              refine ⟨trivial, fun r => ?_⟩
              cases r <;> trivial
            | error e =>
              dsimp only
              split
              · exact ⟨trivial, fun _ => trivial⟩
              · exact ⟨trivial, fun _ => ⟨trivial, fun _ => trivial⟩⟩
  | getPayment id =>
    cases id with
    | corrupt raw => trivial
    | stored id =>
      refine ⟨trivial, fun r => ?_⟩
      cases r with
      | error e => trivial
      | ok found =>
        cases found with
        | none => trivial
        | some payment => exact ⟨trivial, fun _ => trivial⟩
  | streamPaymentEvents filter =>
    cases filter with
    | none => trivial
    | some id =>
      cases id with
      | corrupt raw => trivial
      | stored id => exact ⟨trivial, fun _ => trivial⟩

theorem webhook_detached {name : String} {raw : RawWebhookRequest} :
    Confined Detached (Handlers.webhook app name raw) := by
  unfold Handlers.webhook
  cases app.providers name with
  | none => trivial
  | some provider =>
    dsimp only
    cases app.verifyAndParseWebhook provider raw with
    | error e => cases e <;> trivial
    | ok event =>
      dsimp only
      cases ProviderId.parse name with
      | error e => trivial
      | ok providerId =>
        dsimp only
        split
        · refine ⟨trivial, fun r => ?_⟩
          cases r <;> trivial
        · exact ⟨trivial, fun _ => trivial⟩

theorem consumeWebhook_detached : Confined Detached consumeWebhook := by
  simp only [consumeWebhook, Gw.receiveWebhook, Gw.ackWebhook, perform_bind, confined_call]
  refine ⟨trivial, fun d => ?_⟩
  apply confined_bind
  · unfold processWebhookMessage
    cases ProviderId.parse d.message.provider with
    | error e => trivial
    | ok providerId =>
      refine ⟨trivial, fun r => ?_⟩
      cases r <;> trivial
  · exact fun _ => ⟨trivial, fun _ => trivial⟩

theorem consumeReconciliation_impersonal {bus : BusConfig} :
    Confined Impersonal (consumeReconciliation app bus) := by
  simp only [consumeReconciliation, Gw.receiveReconcile, Gw.ackReconcile, perform_bind,
    confined_call]
  refine ⟨trivial, fun d => ?_⟩
  apply confined_bind
  · unfold processReconcileMessage
    cases d.message.paymentId with
    | corrupt raw => trivial
    | stored id =>
      dsimp only
      cases app.providers d.message.provider with
      | none => trivial
      | some provider =>
        simp only [settleMessage, Gw.inquireStatus, Gw.applyReconciliationResult,
          Gw.touchReconciliationAttempt, Gw.publishReconcile, perform_bind]
        refine ⟨trivial, fun r => ?_⟩
        cases r with
        | ok resolved =>
          dsimp only
          split
          · refine ⟨trivial, fun r => ?_⟩
            cases r <;> trivial
          · exact ⟨trivial, fun _ => trivial⟩
        | error e =>
          dsimp only
          cases retryMessage bus.maxRetries d.message with
          | none => trivial
          | some retry => exact ⟨trivial, fun _ => trivial⟩
  · exact fun _ => ⟨trivial, fun _ => trivial⟩

theorem reconcileInline_impersonal {reference : String} :
    Confined Impersonal (reconcileInline id p reference) := by
  simp only [reconcileInline, Gw.inquireStatus, Gw.applyReconciliationResult,
    Gw.touchReconciliationAttempt, perform_bind]
  refine ⟨trivial, fun r => ?_⟩
  cases r with
  | ok resolved =>
    dsimp only
    split <;> exact ⟨trivial, fun _ => trivial⟩
  | error e => exact ⟨trivial, fun _ => trivial⟩

theorem reconcileOne_impersonal {payment : Payment} :
    Confined Impersonal (reconcileOne app payment) := by
  unfold reconcileOne
  cases payment.providerReference with
  | none => exact ⟨trivial, fun _ => trivial⟩
  | some reference =>
    dsimp only
    cases reconcileProvider app payment with
    | none => exact ⟨trivial, fun _ => trivial⟩
    | some provider =>
      dsimp only
      split
      · exact ⟨trivial, fun _ => trivial⟩
      · split
        · exact ⟨trivial, fun _ => trivial⟩
        · exact reconcileInline_impersonal

theorem reconcileAll_impersonal (payments : List Payment) :
    Confined Impersonal (reconcileAll app payments) := by
  induction payments with
  | nil => trivial
  | cons payment rest ih => exact confined_bind reconcileOne_impersonal fun _ => ih

theorem runOnce_impersonal : Confined Impersonal (runOnce app) := by
  simp only [runOnce, Gw.listStaleUnknownPayments, perform_bind, confined_call]
  refine ⟨trivial, fun r => ?_⟩
  cases r with
  | error e => trivial
  | ok payments => exact confined_bind (reconcileAll_impersonal payments) fun _ => trivial

end Handlers

section Contract

variable {app : App}

/-- The request comes over HTTP. -/
def overHttp : Origin → Bool
  | .http _ _ => true
  | _ => false

/-- An HTTP request acts, once its key is looked up, for whom the key stands
for; any other task acts for nobody. -/
inductive ActsFor (app : App) : Origin → Past → Effect → Prop
  | lookup (o : Origin) (h : Past) (hash : String) : ActsFor app o h (.findApiKey hash)
  | request (headers : HeaderMap) (route : Router.Route) (h earlier : Past)
      (owner : Option ApiKeyInfo) (e : Effect) : earlier <:+ h →
      Authority app headers earlier owner → InScope owner e → ActsFor app (.http headers route) h e
  | other (o : Origin) (h : Past) (e : Effect) : overHttp o = false → Impersonal e →
      ActsFor app o h e

theorem actsFor_other {o : Origin} {p : Gw Reply} (other : overHttp o = false)
    (confined : Confined Impersonal p) : Always (ActsFor app o) (fun _ _ => True) p [] :=
  confined.always fun h e _ impersonal => .other o h e other impersonal

/-- Behind the key check the request acts for whom its headers then name. -/
theorem requireApiKey_always {P : Past → Effect → Prop} {Q : Past → Reply → Prop}
    {headers : HeaderMap} {next : HeaderMap → Gw Reply} (lookup : ∀ hash, P [] (.findApiKey hash))
    (unauthorized : ∀ h, Q h Router.unauthorized)
    (failed : ∀ h, Q h (.http 500 (.text "internal error")))
    (passed : ∀ h' h, Authority app headers h (Handlers.owner h') → Always P Q (next h') h) :
    Always P Q (Router.requireApiKey app headers next) [] := by
  unfold Router.requireApiKey
  dsimp only
  have same := (sameCaller_stripUntrusted headers).providedKey
  split
  next missing =>
    rw [same] at missing
    split
    next unprotected =>
      apply passed
      rw [owner_stripped]
      exact .unprotected _ missing (by simpa using unprotected)
    · exact unauthorized _
  next provided carried =>
    rw [same] at carried
    split
    next known =>
      obtain ⟨key, mem, equal⟩ := List.any_eq_true.mp known
      apply passed
      rw [owner_static]
      exact .static _ provided key carried mem (by simpa [Router.constantTimeEq] using equal)
    next unknown =>
      have differs : ∀ known ∈ app.apiKeys.getD [],
          app.sha256Hex known ≠ app.sha256Hex provided := by
        intro known mem same
        exact unknown (List.any_eq_true.mpr ⟨known, mem, by simp [Router.constantTimeEq, same]⟩)
      refine ⟨lookup _, fun r => ?_⟩
      cases r with
      | error e => exact failed _
      | ok found =>
        cases found with
        | none => exact unauthorized _
        | some key =>
          apply passed
          by_cases fits : i64.Fits key.id
          · rw [owner_stored headers provided fits]
            exact .stored provided key [] carried differs fits
          · exact .oversized provided key [] _ fits

/-- A confined program, run after the authority was settled, acts under it. -/
theorem Confined.actsFor {headers : HeaderMap} {route : Router.Route} {owner : Option ApiKeyInfo}
    {h later : Past} {p : Gw Reply} (confined : Scoped owner p)
    (authority : Authority app headers h owner) (suffix : h <:+ later) :
    Always (ActsFor app (.http headers route)) (fun _ _ => True) p later :=
  confined.always fun h' e grown scope =>
    .request headers route h' h owner e (suffix.trans grown) authority scope

theorem enforce_scoped (h' : HeaderMap) (route : Router.Route) :
    Scoped (Handlers.owner h') (Router.enforce (Router.handle app h' route)) := by
  refine ⟨trivial, fun r => ?_⟩
  cases r with
  | true => exact handle_scoped route
  | false => trivial

theorem serveHttp_actsFor (headers : HeaderMap) (route : Router.Route) :
    Always (ActsFor app (.http headers route)) (fun _ _ => True)
      (Router.serveHttp app headers route) [] := by
  apply requireApiKey_always (fun hash => .lookup _ _ hash) (fun _ => trivial) fun _ => trivial
  intro h' h authority
  exact Confined.actsFor (enforce_scoped h' route) authority (List.suffix_refl h)

theorem body_actsFor (app : App) (o : Origin) :
    Always (ActsFor app o) (fun _ _ => True) (body app o) [] := by
  cases o with
  | http headers route => exact serveHttp_actsFor headers route
  | grpc call =>
    exact actsFor_other rfl ((serveGrpc_detached call).weaken fun _ => Detached.impersonal)
  | webhook provider raw =>
    exact actsFor_other rfl (webhook_detached.weaken fun _ => Detached.impersonal)
  | webhookConsumer =>
    exact actsFor_other rfl (consumeWebhook_detached.weaken fun _ => Detached.impersonal)
  | reconcileConsumer =>
    have confined : Confined Impersonal (body app .reconcileConsumer) := by
      unfold body
      cases app.messageBus with
      | none => trivial
      | some bus => exact consumeReconciliation_impersonal
    exact actsFor_other rfl confined
  | reconciler => exact actsFor_other rfl runOnce_impersonal

end Contract

end OpenWrapper.Ownership
