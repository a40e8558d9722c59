import OpenWrapper.Claimants
import OpenWrapper.MerchantTables
import OpenWrapper.Ownership

/-! # Merchants apart

A row carries the identity its caller's key stands for, whichever of the three
tables it is in. A key with a user sees the events and the endpoints of that
user, and no request for another user removes them. -/

set_option autoImplicit false

namespace OpenWrapper.MerchantIsolation
open OpenWrapper.Ids OpenWrapper.Payments OpenWrapper.Schema OpenWrapper.ConstraintTable
open OpenWrapper.PaymentStore OpenWrapper.StoreContract OpenWrapper.Headers OpenWrapper.Effects
open OpenWrapper.MachineIntegers OpenWrapper.Gateway OpenWrapper.Contracts OpenWrapper.Evolution
open OpenWrapper.Authentication OpenWrapper.Ownership OpenWrapper.MerchantTables
open OpenWrapper.Refinements OpenWrapper.Suspended OpenWrapper.Suspended.Prog
open OpenWrapper.Interleaving

section Keys

variable {b : Backend} {app : App} {apiKeys : List ApiKeyRow} {headers : HeaderMap}
  {owner : Option ApiKeyInfo}

/-- Whom the key of a request stands for: nobody, a key of the configuration,
or the owner of an unrevoked row whose hash is that of the key. -/
inductive Entitled (b : Backend) (app : App) (apiKeys : List ApiKeyRow) (headers : HeaderMap) :
    Option ApiKeyInfo → Prop
  | unprotected : Router.providedKey headers = none → app.apiKeys = none →
      Entitled b app apiKeys headers none
  | static (provided key : String) : Router.providedKey headers = some provided →
      key ∈ app.apiKeys.getD [] → app.sha256Hex key = app.sha256Hex provided →
      Entitled b app apiKeys headers (some ⟨0, none, some (Router.environmentOf provided)⟩)
  | stored (provided : String) (row : ApiKeyRow) : Router.providedKey headers = some provided →
      (∀ known ∈ app.apiKeys.getD [], app.sha256Hex known ≠ app.sha256Hex provided) →
      row ∈ apiKeys → row.matchesHash (app.sha256Hex provided) = true → row.unrevoked b = true →
      Entitled b app apiKeys headers
        (some ⟨row.id, (row.info b).userId.filter printable,
          some (Router.environmentOf provided)⟩)

/-- The identifiers of the table are those of its column. -/
def WellKeyed (apiKeys : List ApiKeyRow) : Prop := ∀ row ∈ apiKeys, i64.Fits row.id

/-- What a lookup found is a row of the table, as the store reads it. -/
def KeyRead (b : Backend) (s : Shared) : GwEvent → Prop
  | ⟨.findApiKey hash, .ok (some key)⟩ =>
    ∃ row ∈ s.apiKeys, row.matchesHash hash = true ∧ row.unrevoked b = true ∧ key = row.info b
  | _ => True

theorem lookup_read {rows : List ApiKeyRow} {hash : String} {failed : Bool} {pick : ℕ}
    {key : ApiKeyInfo} (looked : lookupApiKey b rows hash failed pick = some (.ok (some key))) :
    ∃ row ∈ rows, row.matchesHash hash = true ∧ row.unrevoked b = true ∧ key = row.info b := by
  unfold lookupApiKey at looked
  split at looked
  · cases looked
  · dsimp only at looked
    split at looked
    · cases looked
    · obtain ⟨row, picked, is⟩ := Option.map_eq_some_iff.mp looked
      have mem := List.mem_of_getElem? picked
      rw [List.mem_filter, Bool.and_eq_true] at mem
      cases is
      exact ⟨row, mem.1, mem.2.1, mem.2.2, rfl⟩

theorem react_keyRead {s s' : Shared} {e : Effect} {c : Choice} {r : e.Response}
    (reacted : react b app s e c = some (s', r)) : KeyRead b s' ⟨e, r⟩ := by
  cases e with
  | findApiKey hash =>
    obtain ⟨failed, pick, looked⟩ := react_findApiKey reacted
    match r, looked with
    | .error e, _ => trivial
    | .ok none, _ => trivial
    | .ok (some key), looked =>
      rw [KeyRead, react_apiKeys reacted]
      exact lookup_read looked
  | _ => trivial

end Keys

section Answers

variable {app : App} {headers : HeaderMap}

/-- What an answer shows was read under the authority of the request. -/
def Shows (app : App) : Origin → Past → Reply → Prop
  | .http _ (.listEvents _), h, .http _ (.events data _) =>
    ∃ userId limit startingAfter, (⟨.listEvents userId limit startingAfter, .ok data⟩ : GwEvent) ∈ h
  | .http _ .listWebhookEndpoints, h, .http _ (.endpoints data) =>
    ∃ userId, (⟨.listWebhookEndpoints userId, .ok data⟩ : GwEvent) ∈ h
  | .http headers (.getEvent _), h, .http _ (.event event) =>
    ∃ earlier owner, earlier <:+ h ∧ Authority app headers earlier owner ∧
      (owner.bind ApiKeyInfo.userId = none ∨ event.userId = none ∨
        event.userId = owner.bind ApiKeyInfo.userId)
  | _, _, _ => True

theorem shows_apiError {route : Router.Route} {h : Past} (e : Errors.OpenWrapperError) :
    Shows app (.http headers route) h (Handlers.apiError e) := by
  unfold Handlers.apiError
  split
  · cases route <;> trivial
  · cases route <;> trivial

theorem getEvent_shows {h' : HeaderMap} {id : String} {h later : Past}
    (authority : Authority app headers h (Handlers.owner h')) (suffix : h <:+ later) :
    Always (fun _ _ => True) (Shows app (.http headers (.getEvent id)))
      (Handlers.getEvent h' id) later := by
  have user := owner_userId h'
  simp only [Handlers.getEvent, Gw.getEvent, perform_bind, always_call]
  refine ⟨trivial, fun r => ?_⟩
  have inside : h <:+ ⟨.getEvent id, r⟩ :: later := suffix.trans (List.suffix_cons _ _)
  cases r with
  | error e => exact shows_apiError _
  | ok found =>
    cases found with
    | none => exact shows_apiError _
    | some event =>
      dsimp only
      split
      next requester eventOwner asked owned =>
        split
        · exact shows_apiError _
        next same =>
          refine ⟨h, _, inside, authority, .inr (.inr ?_)⟩
          rw [user, asked, owned, not_ne_iff.mp same]
      next unmatched =>
        refine ⟨h, _, inside, authority, ?_⟩
        rw [user]
        cases asked : h'.getStr "x-openwrapper-user-id" with
        | none => exact .inl rfl
        | some requester =>
          cases owned : event.userId with
          | none => exact .inr (.inl rfl)
          | some eventOwner => exact absurd owned (unmatched requester eventOwner asked)

theorem handle_shows {h' : HeaderMap} {route : Router.Route} {h later : Past}
    (authority : Authority app headers h (Handlers.owner h')) (suffix : h <:+ later) :
    Always (fun _ _ => True) (Shows app (.http headers route)) (Router.handle app h' route)
      later := by
  cases route with
  | listEvents query =>
    refine ⟨trivial, fun r => ?_⟩
    cases r with
    | error e => exact shows_apiError _
    | ok data => exact ⟨_, _, _, List.mem_cons_self⟩
  | listWebhookEndpoints =>
    refine ⟨trivial, fun r => ?_⟩
    cases r with
    | error e => exact shows_apiError _
    | ok data => exact ⟨_, List.mem_cons_self⟩
  | getEvent id => exact getEvent_shows authority suffix
  | _ => exact (always_true _ _).mono (fun _ _ _ => trivial) fun _ _ _ => trivial

theorem body_shows (app : App) (o : Origin) :
    Always (fun _ _ => True) (Shows app o) (body app o) [] := by
  cases o with
  | http headers route =>
    show Always (fun _ _ => True) (Shows app (.http headers route))
      (Router.requireApiKey app headers fun h => Router.enforce (Router.handle app h route)) []
    apply requireApiKey_always (fun _ => trivial)
    · intro h
      cases route <;> trivial
    · intro h
      cases route <;> trivial
    · intro h' h authority
      refine ⟨trivial, fun r => ?_⟩
      cases r with
      | true => exact handle_shows authority (List.suffix_cons _ _)
      | false => cases route <;> trivial
  | _ => exact (always_true _ _).mono (fun _ _ _ => trivial) fun _ _ _ => trivial

theorem body_contract (app : App) (o : Origin) :
    Always (ActsFor app o) (Shows app o) (body app o) [] :=
  ((body_actsFor app o).and (body_shows app o)).mono (fun _ _ both => both.1)
    fun _ _ both => both.2

end Answers

section Claims

variable {b : Backend} {app : App} {apiKeys : List ApiKeyRow}

/-- The row is what this claim of this request made, as far as no later
statement assigns it. -/
structure ClaimOf (row : PaymentRow) (request : PaymentRequest) (owner : Option ApiKeyInfo)
    (id : PaymentId) : Prop where
  id : row.id = .stored id
  idempotencyKey : row.idempotencyKey = .stored request.idempotencyKey
  userId : row.userId = owner.bind ApiKeyInfo.userId
  apiKeyId : row.apiKeyId = owner.map ApiKeyInfo.id
  environment : row.environment = (owner.bind ApiKeyInfo.environment).getD "live"

theorem ClaimOf.change {row : PaymentRow} {request : PaymentRequest} {owner : Option ApiKeyInfo}
    {id : PaymentId} (claim : ClaimOf row request owner id) (p : PaymentRow → Bool)
    (edit : PaymentEdit) :
    ClaimOf (Table.change p (PaymentEdit.apply edit) row) request owner id := by
  unfold Table.change
  split
  · exact ⟨claim.id, claim.idempotencyKey, claim.userId, claim.apiKeyId, claim.environment⟩
  · exact claim

/-- The row stems from the claim of an earlier one, or from this one. -/
def Inherits (L : Ledger) (ev : GwEvent) (row' : PaymentRow) : Prop :=
  (∃ row ∈ L.payments.rows, ∀ request owner id, ClaimOf row request owner id →
    ClaimOf row' request owner id) ∨
    ∃ request owner id, ev = told (.beginPaymentWithOwner request owner) (.proceed id) ∧
      ClaimOf row' request owner id

theorem inherits_update {L L₀ : Ledger} {ev : GwEvent} {row' : PaymentRow} {id : Text PaymentId}
    {guarded : Bool} {edit : PaymentEdit} (same : L₀.payments.rows = L.payments.rows)
    (mem : row' ∈ (L₀.updatePayment id guarded edit).payments.rows) : Inherits L ev row' := by
  obtain ⟨row, was, rfl⟩ := List.mem_map.mp mem
  exact .inl ⟨row, same ▸ was, fun _ _ _ claim => claim.change _ edit⟩

theorem outcome_inherits {fp : PaymentRequest → String} {d : Draw} {L L' : Ledger} {op : StoreOp}
    {r : op.Result} (outcome : Outcome fp b d L op L' r) {row' : PaymentRow}
    (mem : row' ∈ L'.payments.rows) : Inherits L ⟨.store op, r⟩ row' := by
  cases outcome with
  | begun request owner now payments inserted =>
    rw [(Table.insert_eq_some.mp inserted).2] at mem
    rcases List.mem_append.mp mem with old | new
    · exact .inl ⟨row', old, fun _ _ _ claim => claim⟩
    · rw [List.mem_singleton.mp new]
      exact .inr ⟨request, owner, d.fresh, rfl, rfl, rfl, rfl, rfl, rfl⟩
  | applied => exact inherits_update rfl mem
  | appliedUnnamed => exact inherits_update rfl mem
  | refundRecorded => exact inherits_update rfl mem
  | created => exact inherits_update rfl mem
  | marked => exact inherits_update rfl mem
  | markedUnknown => exact inherits_update rfl mem
  | reconciled => exact inherits_update rfl mem
  | touched => exact inherits_update rfl mem
  | _ => exact .inl ⟨row', mem, fun _ _ _ claim => claim⟩

theorem react_inherits {s s' : Shared} {e : Effect} {c : Choice} {r : e.Response}
    (reacted : react b app s e c = some (s', r)) {row' : PaymentRow}
    (mem : row' ∈ s'.ledger.payments.rows) : Inherits s.ledger ⟨e, r⟩ row' := by
  cases e with
  | store op =>
    obtain ⟨d, ledger, response⟩ := react_store reacted
    rw [ledger] at mem
    rw [response]
    exact outcome_inherits (execOp_outcome _ b d _ op) mem
  | _ =>
    rw [react_other reacted (by simp)] at mem
    exact .inl ⟨row', mem, fun _ _ _ claim => claim⟩

/-- The row stems from a claim that a task was granted. -/
def FromClaim (w : GwWorld) (row : PaymentRow) : Prop :=
  ∃ o request owner id, Happened w o (told (.beginPaymentWithOwner request owner) (.proceed id)) ∧
    ClaimOf row request owner id

structure Attributed (b : Backend) (app : App) (apiKeys : List ApiKeyRow) (w : GwWorld) :
    Prop where
  follows : ∀ t ∈ w.tasks, Follows (ActsFor app) (Shows app) t
  found : Recorded (KeyRead b) w
  table : w.shared.apiKeys = apiKeys
  payments : ∀ row ∈ w.shared.ledger.payments.rows, FromClaim w row

theorem attributed_start : Attributed b app apiKeys (start apiKeys) :=
  ⟨by simp [start], by simp [start, Recorded], rfl,
    by simp [start, Shared.start, Ledger.empty]⟩

theorem Attributed.step {w w' : GwWorld} {a : GwAction} (attributed : Attributed b app apiKeys w)
    (stepped : step (setting b app) w a = some w') : Attributed b app apiKeys w' where
  follows := follows_step (body_contract app) attributed.follows stepped
  found := by
    refine recorded_step (fun i c adv => react_keyRead adv.reacted) ?_ attributed.found stepped
    intro i c adv ev found
    have same := react_apiKeys adv.reacted
    unfold KeyRead at found ⊢
    rw [same]
    exact found
  table := by
    obtain ⟨o, -, rfl⟩ | ⟨i, c, -, ⟨adv⟩⟩ | ⟨i, t, -, found, rfl⟩ := step_cases stepped
    · exact attributed.table
    · rw [adv.shared_eq, react_apiKeys adv.reacted]
      exact attributed.table
    · exact attributed.table
  payments := by
    have kept : ∀ row, FromClaim w row → FromClaim w' row := by
      rintro row ⟨o, request, owner, id, happened, claim⟩
      exact ⟨o, request, owner, id, happened_step happened stepped, claim⟩
    obtain ⟨o, -, rfl⟩ | ⟨i, c, -, ⟨adv⟩⟩ | ⟨i, t, -, found, rfl⟩ := step_cases stepped
    · exact fun row mem => kept row (attributed.payments row mem)
    · intro row mem
      rw [adv.shared_eq] at mem
      rcases react_inherits adv.reacted mem with
        ⟨row₀, was, inherits⟩ | ⟨request, owner, id, is, claim⟩
      · obtain ⟨o, request, owner, id, happened, claim⟩ := kept row₀ (attributed.payments row₀ was)
        exact ⟨o, request, owner, id, happened, inherits request owner id claim⟩
      · exact ⟨_, request, owner, id, is ▸ adv.happened, claim⟩
    · exact fun row mem => kept row (attributed.payments row mem)

theorem attributed_of_run {actions : List GwAction} {w : GwWorld}
    (ran : run (setting b app) (start apiKeys) actions = some w) : Attributed b app apiKeys w :=
  run_invariant' (fun _ _ _ attributed stepped => attributed.step stepped) attributed_start ran

/-- What a request finds out about its authority is true of the table. -/
theorem Attributed.entitled {w : GwWorld} (attributed : Attributed b app apiKeys w)
    (keyed : WellKeyed apiKeys) {t : GwTask} (mem : t ∈ w.tasks) {headers : HeaderMap}
    {earlier : Past} {owner : Option ApiKeyInfo} (suffix : earlier <:+ t.history)
    (authority : Authority app headers earlier owner) : Entitled b app apiKeys headers owner := by
  have read : ∀ hash key rest,
      earlier = (⟨.findApiKey hash, .ok (some key)⟩ : GwEvent) :: rest →
      ∃ row ∈ apiKeys, row.matchesHash hash = true ∧ row.unrevoked b = true ∧ key = row.info b := by
    intro hash key rest is
    have inside : (⟨.findApiKey hash, .ok (some key)⟩ : GwEvent) ∈ t.history :=
      suffix.subset (is ▸ List.mem_cons_self)
    have found := attributed.found t mem _ inside
    rwa [KeyRead, attributed.table] at found
  cases authority with
  | unprotected _ missing open_ => exact .unprotected missing open_
  | static _ provided key carried known same => exact .static provided key carried known same
  | stored provided key rest carried differs fits =>
    obtain ⟨row, inside, matching, unrevoked, rfl⟩ := read _ _ _ rfl
    exact .stored provided row carried differs inside matching unrevoked
  | oversized provided key rest owner large =>
    obtain ⟨row, inside, -, -, rfl⟩ := read _ _ _ rfl
    exact absurd (keyed row inside) large

/-- Whatever a task did, it did for whom its key stands for. -/
theorem Attributed.acted {w : GwWorld} (attributed : Attributed b app apiKeys w)
    (keyed : WellKeyed apiKeys) {o : Origin} {ev : GwEvent} (happened : Happened w o ev)
    (other : ∀ hash, ev.1 ≠ .findApiKey hash) :
    (∃ headers route owner, o = .http headers route ∧ Entitled b app apiKeys headers owner ∧
      InScope owner ev.1) ∨ (overHttp o = false ∧ Impersonal ev.1) := by
  obtain ⟨e, r⟩ := ev
  obtain ⟨t, mem, rfl, known⟩ := happened
  obtain ⟨h, suffix, acts⟩ := (attributed.follows t mem).2.of_mem known
  have inside : h <:+ t.history := (List.suffix_cons _ h).trans suffix
  cases is : t.origin with
  | http headers route =>
    rw [is] at acts
    cases acts with
    | lookup _ _ hash => exact absurd rfl (other hash)
    | request _ _ _ earlier owner _ before authority scope =>
      exact .inl ⟨headers, route, owner, rfl,
        attributed.entitled keyed mem (before.trans inside) authority, scope⟩
    | other _ _ _ not => cases not
  | _ =>
    rw [is] at acts
    cases acts with
    | lookup _ _ hash => exact absurd rfl (other hash)
    | other _ _ _ not scope => exact .inr ⟨not, scope⟩

/-- The keys of two merchants; the shop's digest of a key is the key. -/
def twoKeys : List ApiKeyRow :=
  [⟨1, some "usr_a", none, some "key_a", none, none, none, none⟩,
    ⟨2, some "usr_b", none, some "key_b", none, none, none, none⟩]

theorem twoKeys_wellKeyed : WellKeyed twoKeys := by
  intro row mem
  rcases List.mem_cons.mp mem with rfl | later
  · decide
  · rw [List.mem_singleton.mp later]
    decide

/-- The first merchant's order, which claims also to be somebody else's. -/
def keyedOrder : Origin :=
  .http ⟨[("idempotency-key", .text "order-1"), ("x-api-key", .text "key_a"),
    ("x-openwrapper-user-id", .text "usr_b")]⟩ (.createPayment (orderBody "stripe"))

def keyedOrdered : List GwAction :=
  [.spawn keyedOrder, .advance 0 (.lookup false 0), .advance 0 (.acquired true),
    .advance 0 (.draw (quietDraw 1))]

/-- A payment carries the identity of the key it was created with: the one
column by column that the request the store granted it to is entitled to. Over
gRPC it carries none. -/
theorem payments_belong_to_their_keys (keyed : WellKeyed apiKeys) {actions : List GwAction}
    {w : GwWorld} (ran : run (setting b app) (start apiKeys) actions = some w) :
    ∀ row ∈ w.shared.ledger.payments.rows, ∃ o request owner id, requestOf o = some request ∧
      Happened w o (told (.beginPaymentWithOwner request owner) (.proceed id)) ∧
      ClaimOf row request owner id ∧
      ((∃ headers body, o = .http headers (.createPayment body) ∧
        Entitled b app apiKeys headers owner) ∨
      ∃ req, o = .grpc (.createPayment req) ∧ owner = none) := by
  intro row mem
  have attributed := attributed_of_run ran
  have sane : Sane app w := sane_of_reachable ⟨apiKeys, actions, ran⟩
  obtain ⟨o, request, owner, id, happened, claim⟩ := attributed.payments row mem
  have asked : requestOf o = some request := by
    obtain ⟨t, inside, rfl, known⟩ := happened
    obtain ⟨h, -, license⟩ := (sane.follows t inside).2.of_mem known
    exact license.1
  refine ⟨o, request, owner, id, asked, happened, claim, ?_⟩
  rcases attributed.acted keyed happened (by simp) with
    ⟨headers, route, owner', rfl, entitled, scope⟩ | ⟨other, scope⟩
  · obtain rfl : owner = owner' := scope
    cases route with
    | createPayment body => exact .inl ⟨headers, body, rfl, entitled⟩
    | _ => cases asked
  · obtain rfl : owner = none := scope
    cases o with
    | grpc call =>
      cases call with
      | createPayment req => exact .inr ⟨req, rfl, rfl⟩
      | _ => cases asked
    | http headers route => cases other
    | _ => cases asked

theorem payments_belong_to_their_keys_first : ∃ w,
    run (setting .sqlite shop) (start twoKeys) keyedOrdered = some w ∧
    w.shared.ledger.payments.rows.map PaymentRow.userId = [some "usr_a"] ∧
    ∀ row ∈ w.shared.ledger.payments.rows, ∃ o request owner id, requestOf o = some request ∧
      Happened w o (told (.beginPaymentWithOwner request owner) (.proceed id)) ∧
      ClaimOf row request owner id ∧
      ((∃ headers body, o = .http headers (.createPayment body) ∧
        Entitled .sqlite shop twoKeys headers owner) ∨
      ∃ req, o = .grpc (.createPayment req) ∧ owner = none) := by
  have finished : (run (setting .sqlite shop) (start twoKeys) keyedOrdered).map
      (fun w => w.shared.ledger.payments.rows.map PaymentRow.userId) = some [some "usr_a"] := by
    decide +kernel
  obtain ⟨w, ran, users⟩ := Option.map_eq_some_iff.mp finished
  exact ⟨w, ran, users, payments_belong_to_their_keys twoKeys_wellKeyed ran⟩

end Claims

section Tables

variable {b : Backend} {app : App} {apiKeys : List ApiKeyRow} {w w' : TableWorld}

/-- An answer lists what is visible to the user it was asked for. -/
def Own : GwEvent → Prop
  | ⟨.listEvents userId _ _, .ok data⟩ => ∀ event ∈ data, userId = none ∨ event.userId = userId
  | ⟨.listWebhookEndpoints userId, .ok data⟩ =>
    ∀ endpoint ∈ data, userId = none ∨ endpoint.userId = userId
  | _ => True

theorem tableReact_own {s s' : Tables} {e : Effect} {c : TableChoice} {r : e.Response}
    (reacted : tableReact b app s e c = some (s', r)) : Own ⟨e, r⟩ := by
  cases e with
  | listEvents userId limit startingAfter =>
    cases r with
    | error e => trivial
    | ok data =>
      cases c with
      | gateway c => cases reacted
      | statement fate visit _ =>
        have read := (Prod.mk.inj (Option.some.inj reacted)).2
        intro event mem
        rw [read_ok read] at mem
        exact (mem_listEvents mem).2
  | listWebhookEndpoints userId =>
    cases r with
    | error e => trivial
    | ok data =>
      cases c with
      | gateway c => cases reacted
      | statement fate _ visit =>
        have read := (Prod.mk.inj (Option.some.inj reacted)).2
        intro endpoint mem
        rw [read_ok read] at mem
        exact (mem_listWebhookEndpoints.mp mem).2
  | _ => trivial

/-- Every row of the two tables was written by a task, and answers keep to
their user. -/
structure Kept (w : TableWorld) : Prop where
  events : ∀ row ∈ w.shared.events.rows, ∃ o r, Happened w o ⟨.recordEvent row, r⟩
  endpoints : ∀ row ∈ w.shared.endpoints.rows, ∃ o r, Happened w o ⟨.createWebhookEndpoint row, r⟩
  answers : Recorded (fun _ => Own) w

theorem kept_start : Kept (tablesStart apiKeys) :=
  ⟨by simp [tablesStart], by simp [tablesStart], by simp [tablesStart, Recorded]⟩

theorem happened_as {a : TableChoice} {i : ℕ} (adv : Advanced (tableSetting b app) w i a w')
    {e : Effect} (is : adv.effect = e) : ∃ o r, Happened w' o ⟨e, r⟩ := by
  subst is
  exact ⟨_, _, adv.happened⟩

theorem Kept.step {a : TableAction} (kept : Kept w)
    (stepped : step (tableSetting b app) w a = some w') : Kept w' where
  events := by
    have still : ∀ row ∈ w.shared.events.rows, ∃ o r, Happened w' o ⟨.recordEvent row, r⟩ := by
      intro row mem
      obtain ⟨o, r, happened⟩ := kept.events row mem
      exact ⟨o, r, happened_step happened stepped⟩
    obtain ⟨o, -, rfl⟩ | ⟨i, c, -, ⟨adv⟩⟩ | ⟨i, t, -, found, rfl⟩ := step_cases stepped
    · exact still
    · intro row mem
      rw [adv.shared_eq] at mem
      rcases (tableReact_change adv.reacted).event_cases mem with old | is
      · exact still row old
      · exact happened_as adv is
    · exact still
  endpoints := by
    have still : ∀ row ∈ w.shared.endpoints.rows,
        ∃ o r, Happened w' o ⟨.createWebhookEndpoint row, r⟩ := by
      intro row mem
      obtain ⟨o, r, happened⟩ := kept.endpoints row mem
      exact ⟨o, r, happened_step happened stepped⟩
    obtain ⟨o, -, rfl⟩ | ⟨i, c, -, ⟨adv⟩⟩ | ⟨i, t, -, found, rfl⟩ := step_cases stepped
    · exact still
    · intro row mem
      rw [adv.shared_eq] at mem
      rcases (tableReact_change adv.reacted).endpoint_cases mem with old | is
      · exact still row old
      · exact happened_as adv is
    · exact still
  answers := recorded_step (fun i c adv => tableReact_own adv.reacted) (fun _ _ _ _ own => own)
    kept.answers stepped

/-- What becomes of the rows there were. -/
structure Since (b : Backend) (w w' : TableWorld) : Prop where
  events : ∀ row ∈ w.shared.events.rows, row ∈ w'.shared.events.rows
  endpoints : ∀ row ∈ w.shared.endpoints.rows, row ∈ w'.shared.endpoints.rows ∨
    ∃ userId o r, visibleTo b userId row = true ∧
      Happened w' o ⟨.deleteWebhookEndpoint row.id userId, r⟩

theorem Since.step {w₀ : TableWorld} {a : TableAction} (since : Since b w₀ w)
    (stepped : step (tableSetting b app) w a = some w') : Since b w₀ w' where
  events := by
    intro row mem
    have inside := since.events row mem
    obtain ⟨o, -, rfl⟩ | ⟨i, c, -, ⟨adv⟩⟩ | ⟨i, t, -, found, rfl⟩ := step_cases stepped
    · exact inside
    · rw [adv.shared_eq]
      exact (tableReact_change adv.reacted).event_kept inside
    · exact inside
  endpoints := by
    intro row mem
    rcases since.endpoints row mem with inside | ⟨userId, o, r, visible, happened⟩
    · obtain ⟨o, -, rfl⟩ | ⟨i, c, -, ⟨adv⟩⟩ | ⟨i, t, -, found, rfl⟩ := step_cases stepped
      · exact .inl inside
      · rw [adv.shared_eq]
        rcases (tableReact_change adv.reacted).endpoint_kept inside with
          still | ⟨userId, is, visible⟩
        · exact .inl still
        · obtain ⟨o, r, happened⟩ := happened_as adv is
          exact .inr ⟨userId, o, r, visible, happened⟩
      · exact .inl inside
    · exact .inr ⟨userId, o, r, visible, happened_step happened stepped⟩

/-- The request ended with this answer. -/
def Answers (w : TableWorld) (headers : HeaderMap) (route : Router.Route) (body : HttpBody) :
    Prop :=
  ∃ t ∈ w.tasks, t.origin = .http headers route ∧ ∃ status, t.rest = .done (.http status body)

/-- An HTTP request, entitled to this owner, of which the event is known. -/
def Did (b : Backend) (app : App) (apiKeys : List ApiKeyRow) (w : TableWorld)
    (owner : Option ApiKeyInfo) (ev : GwEvent) : Prop :=
  ∃ headers route, Happened w (.http headers route) ev ∧ Entitled b app apiKeys headers owner

/-- The merchants of two moments of a run are apart. -/
structure Apart (b : Backend) (app : App) (apiKeys : List ApiKeyRow) (w w' : TableWorld) :
    Prop where
  events : ∀ row ∈ w'.shared.events.rows, ∃ owner r,
    Did b app apiKeys w' owner ⟨.recordEvent row, r⟩ ∧ row.userId = owner.bind ApiKeyInfo.userId
  endpoints : ∀ row ∈ w'.shared.endpoints.rows, ∃ owner r,
    Did b app apiKeys w' owner ⟨.createWebhookEndpoint row, r⟩ ∧
      row.userId = owner.bind ApiKeyInfo.userId
  listedEvents : ∀ headers query data more,
    Answers w' headers (.listEvents query) (.events data more) →
    ∃ owner, Entitled b app apiKeys headers owner ∧ ∀ event ∈ data,
      owner.bind ApiKeyInfo.userId = none ∨ event.userId = owner.bind ApiKeyInfo.userId
  shownEvent : ∀ headers id event, Answers w' headers (.getEvent id) (.event event) →
    ∃ owner, Entitled b app apiKeys headers owner ∧ (owner.bind ApiKeyInfo.userId = none ∨
      event.userId = none ∨ event.userId = owner.bind ApiKeyInfo.userId)
  listedEndpoints : ∀ headers data, Answers w' headers .listWebhookEndpoints (.endpoints data) →
    ∃ owner, Entitled b app apiKeys headers owner ∧ ∀ endpoint ∈ data,
      owner.bind ApiKeyInfo.userId = none ∨ endpoint.userId = owner.bind ApiKeyInfo.userId
  kept : ∀ row ∈ w.shared.events.rows, row ∈ w'.shared.events.rows
  removed : ∀ row ∈ w.shared.endpoints.rows, row ∉ w'.shared.endpoints.rows → ∃ owner r,
    Did b app apiKeys w' owner
      ⟨.deleteWebhookEndpoint row.id (owner.bind ApiKeyInfo.userId), r⟩ ∧
      (owner.bind ApiKeyInfo.userId = none ∨ row.userId = owner.bind ApiKeyInfo.userId)

/-- What a task of a run with the tables did over HTTP, it was entitled to. -/
theorem Attributed.did (attributed : Attributed b app apiKeys (seen Tables.shared w))
    (keyed : WellKeyed apiKeys) {o : Origin} {e : Effect} {r : e.Response}
    (happened : Happened w o ⟨e, r⟩) (other : ∀ hash, e ≠ .findApiKey hash)
    (personal : ¬ Impersonal e) :
    ∃ owner, Did b app apiKeys w owner ⟨e, r⟩ ∧ InScope owner e := by
  have happened' : Happened (seen Tables.shared w) o ⟨e, r⟩ := happened
  rcases attributed.acted keyed happened' other with
    ⟨headers, route, owner, rfl, entitled, scope⟩ | ⟨-, impersonal⟩
  · exact ⟨owner, ⟨headers, route, happened, entitled⟩, scope⟩
  · exact absurd impersonal personal

theorem Attributed.entitledTo (attributed : Attributed b app apiKeys (seen Tables.shared w))
    (keyed : WellKeyed apiKeys) {headers : HeaderMap} {route : Router.Route} {e : Effect}
    {r : e.Response} (happened : Happened w (.http headers route) ⟨e, r⟩)
    (other : ∀ hash, e ≠ .findApiKey hash) :
    ∃ owner, Entitled b app apiKeys headers owner ∧ InScope owner e := by
  have happened' : Happened (seen Tables.shared w) (.http headers route) ⟨e, r⟩ := happened
  rcases attributed.acted keyed happened' other with
    ⟨headers', route', owner, same, entitled, scope⟩ | ⟨not, -⟩
  · cases same
    exact ⟨owner, entitled, scope⟩
  · cases not

theorem Attributed.answered (attributed : Attributed b app apiKeys (seen Tables.shared w))
    {headers : HeaderMap} {route : Router.Route} {body : HttpBody}
    (answers : Answers w headers route body) : ∃ t ∈ w.tasks, t.origin = .http headers route ∧
      ∃ status, Shows app (.http headers route) t.history (.http status body) := by
  obtain ⟨t, mem, is, status, done⟩ := answers
  have shows_ := (attributed.follows t mem).1
  rw [done, is] at shows_
  exact ⟨t, mem, is, status, shows_⟩

def keyed (key : String) : HeaderMap := ⟨[("x-api-key", .text key)]⟩

/-- A request that is looked up, admitted and makes its statement. -/
def tableRequest (i : ℕ) (key : String) (route : Router.Route) (between : List Choice) :
    List TableAction :=
  .spawn (.http (keyed key) route) ::
    (.lookup false 0 :: .acquired true :: between).map (fun c => .advance i (.gateway c)) ++
    [.advance i (.statement .answered (fun _ => 0) fun _ => 0)]

def registered : List TableAction :=
  tableRequest 0 "key_a" (.createWebhookEndpoint ⟨"https://a.example/hook", none⟩)
    [.generated ⟨1⟩, .generated ⟨2⟩, .clock ⟨0⟩]

/-- The other merchant asks for the endpoint to be deleted, and for a list. -/
def trespassed : List TableAction :=
  tableRequest 1 "key_b" (.deleteWebhookEndpoint "we_00000000000000000000000001") [] ++
    tableRequest 2 "key_b" .listWebhookEndpoints []

/-- Whatever is interleaved with whatever: rows are written under the identity
of the key that asked, answers keep to the user of that key, events stay, and
an endpoint is removed for its own user or for a key without one. -/
theorem merchants_are_apart (keyed : WellKeyed apiKeys) {before after : List TableAction}
    (ran : run (tableSetting b app) (tablesStart apiKeys) before = some w)
    (ran' : run (tableSetting b app) w after = some w') : Apart b app apiKeys w w' := by
  have total : run (tableSetting b app) (tablesStart apiKeys) (before ++ after) = some w' := by
    rw [run_append, ran]
    exact ran'
  have attributed : Attributed b app apiKeys (seen Tables.shared w') := by
    obtain ⟨actions, ran₀⟩ := (tables_view b app).run total
    exact attributed_of_run ran₀
  have kept : Kept w' :=
    run_invariant' (fun _ _ _ kept stepped => kept.step stepped) kept_start total
  have since : Since b w w' := run_invariant' (fun _ _ _ since stepped => since.step stepped)
    ⟨fun _ mem => mem, fun _ mem => .inl mem⟩ ran'
  refine ⟨?_, ?_, ?_, ?_, ?_, since.events, ?_⟩
  · intro row mem
    obtain ⟨o, r, happened⟩ := kept.events row mem
    obtain ⟨owner, did, scope⟩ := attributed.did keyed happened (by simp) not_false
    exact ⟨owner, r, did, scope⟩
  · intro row mem
    obtain ⟨o, r, happened⟩ := kept.endpoints row mem
    obtain ⟨owner, did, scope⟩ := attributed.did keyed happened (by simp) not_false
    exact ⟨owner, r, did, scope⟩
  · intro headers query data more answers
    obtain ⟨t, mem, is, status, userId, limit, startingAfter, known⟩ := attributed.answered answers
    obtain ⟨owner, entitled, scope⟩ := attributed.entitledTo keyed ⟨t, mem, is, known⟩ (by simp)
    obtain rfl : userId = owner.bind ApiKeyInfo.userId := scope
    exact ⟨owner, entitled, kept.answers t mem _ known⟩
  · intro headers id event answers
    obtain ⟨t, mem, is, status, earlier, owner, suffix, authority, visible⟩ :=
      attributed.answered answers
    exact ⟨owner, attributed.entitled keyed mem suffix authority, visible⟩
  · intro headers data answers
    obtain ⟨t, mem, is, status, userId, known⟩ := attributed.answered answers
    obtain ⟨owner, entitled, scope⟩ := attributed.entitledTo keyed ⟨t, mem, is, known⟩ (by simp)
    obtain rfl : userId = owner.bind ApiKeyInfo.userId := scope
    exact ⟨owner, entitled, kept.answers t mem _ known⟩
  · intro row mem gone
    rcases since.endpoints row mem with still | ⟨userId, o, r, visible, happened⟩
    · exact absurd still gone
    · obtain ⟨owner, did, scope⟩ := attributed.did keyed happened (by simp) not_false
      obtain rfl : userId = owner.bind ApiKeyInfo.userId := scope
      exact ⟨owner, r, did, visibleTo_iff.mp visible⟩

theorem merchants_are_apart_two : ∃ w w',
    run (tableSetting .sqlite shop) (tablesStart twoKeys) registered = some w ∧
    run (tableSetting .sqlite shop) w trespassed = some w' ∧
    w'.shared.endpoints.rows.map WebhookEndpointRecord.id = ["we_00000000000000000000000001"] ∧
    Apart .sqlite shop twoKeys w w' := by
  have finished : ((run (tableSetting .sqlite shop) (tablesStart twoKeys) registered).bind fun w =>
      (run (tableSetting .sqlite shop) w trespassed).map fun w' =>
        w'.shared.endpoints.rows.map WebhookEndpointRecord.id) =
      some ["we_00000000000000000000000001"] := by
    decide +kernel
  obtain ⟨w, ran, rest⟩ := Option.bind_eq_some_iff.mp finished
  obtain ⟨w', ran', ids⟩ := Option.map_eq_some_iff.mp rest
  exact ⟨w, w', ran, ran', ids, merchants_are_apart twoKeys_wellKeyed ran ran'⟩

end Tables

end OpenWrapper.MerchantIsolation
