import OpenWrapper.Effects
import OpenWrapper.HttpExchange
import OpenWrapper.OutboundSignatures

/-! # The dispatch of outbound webhooks

The worker takes one message after the other. It asks the store for the active
endpoints, posts the event to those that subscribe to it and records how each
delivery went. -/

set_option autoImplicit false

namespace OpenWrapper.OutboundDispatch
open OpenWrapper.Effects OpenWrapper.PaymentStore OpenWrapper.HttpExchange
open OpenWrapper.OutboundSignatures OpenWrapper.Suspended OpenWrapper.Suspended.Prog

section Data

structure WebhookMessage where
  userId : Option String
  event : EventRecord
deriving DecidableEq

structure WebhookDeliveryRecord where
  id : String
  endpointId : String
  eventId : String
  eventType : String
  payload : EventPayload
  responseStatus : Option ℕ
  status : String
  attemptCount : ℕ
  nextRetryAt : Option ℤ
  createdAt : ℤ
deriving DecidableEq

structure PostRequest where
  url : String
  headers : List (String × String)
  body : String
deriving DecidableEq

/-- What the dispatch awaits. `post` names the endpoint and the event it is made
for; only the request is sent. -/
inductive Call where
  | getActiveWebhookEndpoints (userId : Option String)
  | now
  | ulid
  | post (endpoint : WebhookEndpointRecord) (event : EventRecord) (request : PostRequest)
  | recordWebhookDelivery (delivery : WebhookDeliveryRecord)

/-- A response, or the text of a network error. -/
abbrev HttpResult := Except String HttpStatus

abbrev Call.Response : Call → Type
  | getActiveWebhookEndpoints _ => StoreResult (List WebhookEndpointRecord)
  | now => ℤ
  | ulid => String
  | post _ _ _ => HttpResult
  | recordWebhookDelivery _ => StoreResult Unit

end Data

section Store

/-- `is_active = 1 AND (?1 IS NULL OR user_id = ?1)`. -/
def getActiveWebhookEndpoints (userId : Option String) (rows : List WebhookEndpointRecord) :
    List WebhookEndpointRecord :=
  rows.filter fun e => e.isActive && (userId.isNone || e.userId == userId)

/-- The statements of the other store, one for each case. -/
def Postgres.getActiveWebhookEndpoints (userId : Option String)
    (rows : List WebhookEndpointRecord) : List WebhookEndpointRecord :=
  match userId with
  | some uid => rows.filter fun e => e.isActive && e.userId == some uid
  | none => rows.filter fun e => e.isActive

theorem postgres_getActiveWebhookEndpoints (userId : Option String)
    (rows : List WebhookEndpointRecord) :
    Postgres.getActiveWebhookEndpoints userId rows = getActiveWebhookEndpoints userId rows := by
  cases userId with
  | none => simp [Postgres.getActiveWebhookEndpoints, getActiveWebhookEndpoints]
  | some uid => simp [Postgres.getActiveWebhookEndpoints, getActiveWebhookEndpoints]

end Store

section Dispatch

variable (h : Hmac) (payloadText : EventPayload → String)

def interested (e : WebhookEndpointRecord) (event : EventRecord) : Bool :=
  e.events.any fun ev => ev == "*" || ev == event.eventType

/-- The status of a delivery, the code of the response and the time of the retry. -/
def outcome (now : ℤ) : HttpResult → String × Option ℕ × Option ℤ
  | .ok resp =>
    if resp.isSuccess then ("delivered", some resp.code, none)
    else ("failed", some resp.code, some (now + 60))
  | .error _ => ("failed", none, some (now + 60))

def deliver (msg : WebhookMessage) (now : ℤ) (payloadStr : String) (e : WebhookEndpointRecord) :
    Prog Call.Response Unit := do
  let sigHeader := Gateway.createSignatureHeader h e.secret now payloadStr
  let id ← perform Call.ulid
  let res ← perform (Call.post e msg.event
    { url := e.url
      headers := [("Content-Type", "application/json"), ("X-OpenWrapper-Signature", sigHeader),
        ("User-Agent", "OpenWrapper-Webhook/0.2.7")]
      body := payloadStr })
  let (status, respCode, nextRetry) := outcome now res
  let _ ← perform (Call.recordWebhookDelivery
    { id := "del_" ++ id, endpointId := e.id, eventId := msg.event.id
      eventType := msg.event.eventType, payload := msg.event.payload
      responseStatus := respCode, status := status, attemptCount := 1
      nextRetryAt := nextRetry, createdAt := now })
  pure ()

def deliverAll (msg : WebhookMessage) (now : ℤ) (payloadStr : String) :
    List WebhookEndpointRecord → Prog Call.Response Unit
  | [] => pure ()
  | e :: rest =>
    if interested e msg.event then do
      deliver h msg now payloadStr e
      deliverAll msg now payloadStr rest
    else deliverAll msg now payloadStr rest

def dispatchSingleEvent (msg : WebhookMessage) : Prog Call.Response Unit := do
  match ← perform (Call.getActiveWebhookEndpoints msg.userId) with
  | .error _ => pure ()
  | .ok endpoints =>
    let now ← perform Call.now
    deliverAll h msg now (payloadText msg.event.payload) endpoints

end Dispatch

section Worker

/-- The table of endpoints; the identifier is its primary key. -/
structure Registered where
  rows : List WebhookEndpointRecord
  distinct : (rows.map (·.id)).Nodup

structure Attempt where
  endpoint : WebhookEndpointRecord
  event : EventRecord
  result : HttpResult

def accepts : HttpResult → Bool
  | .ok resp => resp.isSuccess
  | .error _ => false

/-- What was posted so far, and the deliveries that are recorded. -/
structure Outbox where
  attempts : List Attempt
  deliveries : List WebhookDeliveryRecord

def Outbox.attemptsOf (o : Outbox) (eventId : String) : List Attempt :=
  o.attempts.filter fun a => a.event.id == eventId

/-- How often the event was posted to the endpoint. -/
def Outbox.tries (o : Outbox) (eventId : String) (e : WebhookEndpointRecord) : ℕ :=
  ((o.attemptsOf eventId).filter fun a => a.endpoint.id == e.id).length

/-- What the worker meets while it has a message: the endpoints there are, the
error of the query if it fails, and the result of each post, by how often the
endpoint was tried before. -/
structure Surroundings where
  registered : Registered
  outage : Option StoreError
  clock : ℤ
  ulid : ℕ → String
  answer : WebhookEndpointRecord → ℕ → HttpResult
  recorded : WebhookDeliveryRecord → StoreResult Unit

def respond (s : Surroundings) : ℕ → Outbox → (c : Call) → Outbox × c.Response
  | _, o, .getActiveWebhookEndpoints userId =>
    (o, match s.outage with
      | some e => .error e
      | none => .ok (getActiveWebhookEndpoints userId s.registered.rows))
  | _, o, .now => (o, s.clock)
  | n, o, .ulid => (o, s.ulid n)
  | _, o, .post e event _ =>
    ({ o with attempts := o.attempts ++ [⟨e, event, s.answer e (o.tries event.id e)⟩] },
      s.answer e (o.tries event.id e))
  | _, o, .recordWebhookDelivery delivery =>
    (match s.recorded delivery with
      | .ok () => { o with deliveries := o.deliveries ++ [delivery] }
      | .error _ => o, s.recorded delivery)

/-- A message the worker received. -/
structure Turn where
  message : WebhookMessage
  surroundings : Surroundings

def Turn.eventId (t : Turn) : String := t.message.event.id

variable (h : Hmac) (payloadText : EventPayload → String)

def Turn.run (o : Outbox) (t : Turn) : Outbox :=
  (serial (respond t.surroundings) 0 o (dispatchSingleEvent h payloadText t.message)).1

/-- The worker's loop, over the messages in the order they were sent. -/
def serve (turns : List Turn) : Outbox := turns.foldl (Turn.run h payloadText) ⟨[], []⟩

/-- The messages of a run. Each is sent when its event was recorded, under an
identifier of its own. -/
structure Run where
  turns : List Turn
  distinct : (turns.map Turn.eventId).Nodup

/-- Everything that is ever posted of the event. -/
def Run.attemptsOf (run : Run) (t : Turn) : List Attempt :=
  (serve h payloadText run.turns).attemptsOf t.eventId

end Worker

section Promise

/-- The endpoint is to have the event. -/
structure Due (t : Turn) (e : WebhookEndpointRecord) : Prop where
  active : e.isActive = true
  owned : e.userId = t.message.userId
  subscribed : interested e t.message.event = true

/-- The event reaches exactly the right endpoints. An attempt that failed is not
the last one to its endpoint, one that was accepted is. -/
structure Dispatched (t : Turn) (attempts : List Attempt) : Prop where
  reached : ∀ e ∈ t.surroundings.registered.rows, Due t e → ∃ a ∈ attempts, a.endpoint = e
  persistent : ∀ before a after, attempts = before ++ a :: after → accepts a.result = false →
    ∃ b ∈ after, b.endpoint.id = a.endpoint.id
  once : ∀ before a after, attempts = before ++ a :: after → accepts a.result = true →
    ∀ b ∈ after, b.endpoint.id ≠ a.endpoint.id
  own : ∀ a ∈ attempts, a.endpoint ∈ t.surroundings.registered.rows ∧ Due t a.endpoint

/-- The query succeeds, or nothing is due; the first post to every endpoint that
is due is accepted; an event without an owner meets no owner's subscription. -/
def Turn.Smooth (t : Turn) : Prop :=
  match t.surroundings.outage with
  | some _ => ∀ e ∈ t.surroundings.registered.rows, ¬ Due t e
  | none =>
    (∀ e ∈ t.surroundings.registered.rows, Due t e →
      accepts (t.surroundings.answer e 0) = true) ∧
    (t.message.userId = none → ∀ e ∈ t.surroundings.registered.rows, e.isActive = true →
      interested e t.message.event = true → e.userId = none)

end Promise

section Turns

variable {h : Hmac} {payloadText : EventPayload → String} {s : Surroundings}
  {msg : WebhookMessage} {now : ℤ} {payloadStr : String} {t : Turn} {o : Outbox}

theorem recorded_attempts (n : ℕ) (o : Outbox) (delivery : WebhookDeliveryRecord) :
    (respond s n o (.recordWebhookDelivery delivery)).1.attempts = o.attempts := by
  show (match s.recorded delivery with
    | .ok () => { o with deliveries := o.deliveries ++ [delivery] }
    | .error _ => o : Outbox).attempts = o.attempts
  split
  · rfl
  · rfl

variable (s h msg now payloadStr) in
/-- One delivery is one post, whatever becomes of its record. -/
theorem deliver_attempts (n : ℕ) (o : Outbox) (e : WebhookEndpointRecord)
    (rest : Prog Call.Response Unit) :
    ∃ o', serial (respond s) n o (deliver h msg now payloadStr e >>= fun _ => rest) =
        serial (respond s) (n + 3) o' rest ∧
      o'.attempts = o.attempts ++ [⟨e, msg.event, s.answer e (o.tries msg.event.id e)⟩] := by
  refine ⟨_, rfl, ?_⟩
  exact recorded_attempts _ _ _

theorem tries_append (e e' : WebhookEndpointRecord) (event : EventRecord) (result : HttpResult)
    (apart : e.id ≠ e'.id) {o' : Outbox} (is : o'.attempts = o.attempts ++ [⟨e, event, result⟩])
    (eventId : String) : o'.tries eventId e' = o.tries eventId e' := by
  have filtered : (([⟨e, event, result⟩] : List Attempt).filter fun a =>
      a.event.id == eventId).filter (fun a => a.endpoint.id == e'.id) = [] := by
    rw [List.filter_comm]
    simp [apart]
  unfold Outbox.tries Outbox.attemptsOf
  rw [is, List.filter_append, List.filter_append, filtered, List.append_nil]

theorem deliverAll_attempts (n : ℕ) (endpoints : List WebhookEndpointRecord)
    (distinct : (endpoints.map (·.id)).Nodup)
    (fresh : ∀ e ∈ endpoints, o.tries msg.event.id e = 0) :
    (serial (respond s) n o (deliverAll h msg now payloadStr endpoints)).1.attempts =
      o.attempts ++ (endpoints.filter fun e => interested e msg.event).map fun e =>
        ⟨e, msg.event, s.answer e 0⟩ := by
  induction endpoints generalizing n o with
  | nil => simp [deliverAll]
  | cons e rest ih =>
    obtain ⟨apart, distinct'⟩ := List.nodup_cons.mp distinct
    have later : ∀ e' ∈ rest, o.tries msg.event.id e' = 0 := fun e' mem =>
      fresh e' (List.mem_cons_of_mem e mem)
    rw [deliverAll]
    split
    next subscribed =>
      obtain ⟨o', step, is⟩ := deliver_attempts h s msg now payloadStr n o e
        (deliverAll h msg now payloadStr rest)
      have fresh' : ∀ e' ∈ rest, o'.tries msg.event.id e' = 0 := by
        intro e' mem
        have other : e.id ≠ e'.id := fun same => apart (List.mem_map.mpr ⟨e', mem, same.symm⟩)
        rw [tries_append e e' _ _ other is]
        exact later e' mem
      rw [step, ih (n + 3) distinct' fresh', is, fresh e List.mem_cons_self,
        List.filter_cons, if_pos subscribed, List.map_cons, List.append_assoc,
        List.singleton_append]
    next notSubscribed =>
      rw [ih n distinct' later, List.filter_cons, if_neg notSubscribed]

/-- The endpoints a message is posted to. -/
def Turn.reached (t : Turn) : List WebhookEndpointRecord :=
  match t.surroundings.outage with
  | some _ => []
  | none => (getActiveWebhookEndpoints t.message.userId t.surroundings.registered.rows).filter
      fun e => interested e t.message.event

def Turn.attempts (t : Turn) : List Attempt :=
  t.reached.map fun e => ⟨e, t.message.event, t.surroundings.answer e 0⟩

/-- A turn posts its event, once to each endpoint it reaches. -/
theorem run_attempts (fresh : o.attemptsOf t.eventId = []) :
    (t.run h payloadText o).attempts = o.attempts ++ t.attempts := by
  have never (e : WebhookEndpointRecord) : o.tries t.message.event.id e = 0 := by
    unfold Outbox.tries
    rw [show o.attemptsOf t.message.event.id = [] from fresh]
    rfl
  have distinct : ((getActiveWebhookEndpoints t.message.userId
      t.surroundings.registered.rows).map (·.id)).Nodup :=
    (List.filter_sublist.map _).nodup t.surroundings.registered.distinct
  unfold Turn.run Turn.attempts Turn.reached dispatchSingleEvent
  rw [perform_bind, serial_call]
  cases down : t.surroundings.outage with
  | some e =>
    simp only [respond, down]
    simp
  | none =>
    simp only [respond, down]
    rw [perform_bind, serial_call]
    exact deliverAll_attempts _ _ distinct fun e _ => never e

theorem attempts_event {a : Attempt} (mem : a ∈ t.attempts) : a.event.id = t.eventId := by
  obtain ⟨e, -, rfl⟩ := List.mem_map.mp mem
  rfl

/-- Nothing was posted of an event by the turns of others. -/
theorem others_attempts {turns : List Turn} {eventId : String}
    (absent : eventId ∉ turns.map Turn.eventId) :
    (turns.flatMap Turn.attempts).filter (fun a => a.event.id == eventId) = [] := by
  rw [List.filter_eq_nil_iff]
  intro a mem
  obtain ⟨u, listed, within⟩ := List.mem_flatMap.mp mem
  rw [attempts_event within, beq_iff_eq]
  intro same
  exact absent (same ▸ List.mem_map_of_mem listed)

theorem serve_attempts (turns : List Turn) (distinct : (turns.map Turn.eventId).Nodup) :
    (serve h payloadText turns).attempts = turns.flatMap Turn.attempts := by
  induction turns using List.reverseRecOn with
  | nil => rfl
  | append_singleton turns t ih =>
    rw [List.map_append, List.nodup_append] at distinct
    obtain ⟨distinct', -, apart⟩ := distinct
    have absent : t.eventId ∉ turns.map Turn.eventId := fun mem =>
      apart _ mem _ List.mem_cons_self rfl
    have fresh : (serve h payloadText turns).attemptsOf t.eventId = [] := by
      unfold Outbox.attemptsOf
      rw [ih distinct']
      exact others_attempts absent
    have step : serve h payloadText (turns ++ [t]) =
        t.run h payloadText (serve h payloadText turns) := List.foldl_append
    rw [step, run_attempts fresh, ih distinct', List.flatMap_append, List.flatMap_singleton]

/-- What is posted of an event is what is posted in its turn. -/
theorem run_attemptsOf (run : Run) (mem : t ∈ run.turns) :
    run.attemptsOf h payloadText t = t.attempts := by
  obtain ⟨before, after, split⟩ := List.append_of_mem mem
  have distinct := run.distinct
  rw [split, List.map_append, List.map_cons, List.nodup_middle, List.nodup_cons] at distinct
  have absent := distinct.1
  rw [List.mem_append, not_or] at absent
  have own : t.attempts.filter (fun a => a.event.id == t.eventId) = t.attempts :=
    List.filter_eq_self.mpr fun a mem => by rw [attempts_event mem, beq_self_eq_true]
  unfold Run.attemptsOf Outbox.attemptsOf
  rw [serve_attempts _ run.distinct, split, List.flatMap_append, List.flatMap_cons,
    List.filter_append, List.filter_append, others_attempts absent.1, others_attempts absent.2, own,
    List.nil_append, List.append_nil]

end Turns

section Exactness

variable {t : Turn} {e : WebhookEndpointRecord}

theorem mem_reached : e ∈ t.reached ↔ t.surroundings.outage = none ∧
    e ∈ t.surroundings.registered.rows ∧ e.isActive = true ∧
    (t.message.userId = none ∨ e.userId = t.message.userId) ∧
    interested e t.message.event = true := by
  unfold Turn.reached
  cases t.surroundings.outage with
  | some error => simp
  | none =>
    simp only [getActiveWebhookEndpoints, List.mem_filter, Bool.and_eq_true, Bool.or_eq_true,
      Option.isNone_iff_eq_none, beq_iff_eq, true_and]
    tauto

theorem reached_of_due (up : t.surroundings.outage = none)
    (mem : e ∈ t.surroundings.registered.rows) (due : Due t e) : e ∈ t.reached :=
  mem_reached.mpr ⟨up, mem, due.active, .inr due.owned, due.subscribed⟩

/-- No two attempts of a turn are to one endpoint. -/
theorem attempts_apart (t : Turn) :
    t.attempts.Pairwise fun a b => b.endpoint.id ≠ a.endpoint.id := by
  have distinct : (t.reached.map (·.id)).Nodup := by
    unfold Turn.reached
    split
    · exact List.nodup_nil
    · exact ((List.filter_sublist.trans List.filter_sublist).map _).nodup
        t.surroundings.registered.distinct
  exact List.pairwise_map.mpr ((List.pairwise_map.mp distinct).imp Ne.symm)

theorem attempts_later {before after : List Attempt} {a b : Attempt}
    (split : t.attempts = before ++ a :: after) (mem : b ∈ after) :
    b.endpoint.id ≠ a.endpoint.id := by
  have apart := attempts_apart t
  rw [split, List.pairwise_append, List.pairwise_cons] at apart
  exact apart.2.1.1 b mem

theorem mem_attempts {a : Attempt} : a ∈ t.attempts ↔ a.endpoint ∈ t.reached ∧
    a = ⟨a.endpoint, t.message.event, t.surroundings.answer a.endpoint 0⟩ := by
  constructor
  · intro mem
    obtain ⟨e, reached, rfl⟩ := List.mem_map.mp mem
    exact ⟨reached, rfl⟩
  · rintro ⟨reached, is⟩
    rw [is]
    exact List.mem_map_of_mem reached

/-- What a turn without trouble reaches is due. -/
theorem due_of_reached (ownerless : t.message.userId = none →
      ∀ e ∈ t.surroundings.registered.rows, e.isActive = true →
        interested e t.message.event = true → e.userId = none)
    (reached : e ∈ t.reached) : e ∈ t.surroundings.registered.rows ∧ Due t e := by
  obtain ⟨-, mem, active, seen, subscribed⟩ := mem_reached.mp reached
  refine ⟨mem, active, ?_, subscribed⟩
  rcases seen with none_ | owned
  · rw [none_]
    exact ownerless none_ e mem active subscribed
  · exact owned

theorem dispatched_of_smooth (smooth : t.Smooth) : Dispatched t t.attempts := by
  unfold Turn.Smooth at smooth
  cases outage : t.surroundings.outage with
  | some error =>
    rw [outage] at smooth
    have nothing : t.attempts = [] := by simp [Turn.attempts, Turn.reached, outage]
    rw [nothing]
    constructor
    · exact fun e mem due => absurd due (smooth e mem)
    · intro before a after split
      simp at split
    · intro before a after split
      simp at split
    · simp
  | none =>
    rw [outage] at smooth
    obtain ⟨accepted, ownerless⟩ := smooth
    constructor
    · intro e mem due
      exact ⟨_, List.mem_map_of_mem (reached_of_due outage mem due), rfl⟩
    · intro before a after split failed
      have mem : a ∈ t.attempts := split ▸ List.mem_append_right _ List.mem_cons_self
      obtain ⟨reached, is⟩ := mem_attempts.mp mem
      obtain ⟨listed, due⟩ := due_of_reached ownerless reached
      rw [is, accepted _ listed due] at failed
      cases failed
    · exact fun before a after split _ b => attempts_later split
    · exact fun a mem => due_of_reached ownerless (mem_attempts.mp mem).1

theorem smooth_of_dispatched (dispatched : Dispatched t t.attempts) : t.Smooth := by
  unfold Turn.Smooth
  cases outage : t.surroundings.outage with
  | some error =>
    intro e mem due
    obtain ⟨a, attempt, -⟩ := dispatched.reached e mem due
    simp [Turn.attempts, Turn.reached, outage] at attempt
  | none =>
    constructor
    · intro e mem due
      have attempt : (⟨e, t.message.event, t.surroundings.answer e 0⟩ : Attempt) ∈ t.attempts :=
        List.mem_map_of_mem (reached_of_due outage mem due)
      obtain ⟨before, after, split⟩ := List.append_of_mem attempt
      by_contra failed
      obtain ⟨b, later, same⟩ := dispatched.persistent before _ after split (by simpa using failed)
      exact attempts_later split later same
    · intro none_ e mem active subscribed
      have reached : e ∈ t.reached := mem_reached.mpr ⟨outage, mem, active, .inl none_, subscribed⟩
      obtain ⟨-, due⟩ := dispatched.own _ (List.mem_map_of_mem reached)
      exact due.owned.trans none_

variable {h : Hmac} {payloadText : EventPayload → String} {run : Run}

theorem dispatched_iff (mem : t ∈ run.turns) :
    Dispatched t (run.attemptsOf h payloadText t) ↔ t.Smooth := by
  rw [run_attemptsOf run mem]
  exact ⟨smooth_of_dispatched, dispatched_of_smooth⟩

end Exactness

/-- Over a whole run, an event reaches exactly the right endpoints just when
nothing goes wrong at the first attempt and it has an owner to go by. -/
theorem dispatch_exact (h : Hmac) (payloadText : EventPayload → String) (run : Run) (t : Turn)
    (mem : t ∈ run.turns) : Dispatched t (run.attemptsOf h payloadText t) ↔ t.Smooth :=
  dispatched_iff mem

section Samples

def refundedEvent (userId : Option String) : EventRecord where
  id := "evt_1"
  userId := userId
  eventType := "payment.refunded"
  resourceId := "pay_1"
  payload := .other "{}"
  createdAt := 1725616800

def merchantEndpoint : WebhookEndpointRecord where
  id := "we_1"
  userId := some "merchant"
  url := "https://shop.example/hooks"
  secret := "whsec_1"
  events := ["*"]
  isActive := true
  createdAt := 1725610000

/-- One endpoint, and what it answers. -/
def merchantSurroundings (result : HttpResult) : Surroundings where
  registered := ⟨[merchantEndpoint], List.nodup_singleton _⟩
  outage := none
  clock := 1725616800
  ulid := fun _ => "01"
  answer := fun _ _ => result
  recorded := fun _ => .ok ()

def sampleTurn (userId : Option String) (result : HttpResult) : Turn where
  message := ⟨userId, refundedEvent userId⟩
  surroundings := merchantSurroundings result

def sampleRun (userId : Option String) (result : HttpResult) : Run where
  turns := [sampleTurn userId result]
  distinct := List.nodup_singleton _

def sampleHmac : Hmac := ⟨fun _ _ => List.replicate 32 0, fun _ _ => List.length_replicate⟩

theorem merchantEndpoint_due (result : HttpResult) :
    Due (sampleTurn (some "merchant") result) merchantEndpoint := by
  have subscribed : interested merchantEndpoint (refundedEvent (some "merchant")) = true := by
    decide
  exact ⟨rfl, rfl, subscribed⟩

theorem dispatch_exact_accepted :
    Dispatched (sampleTurn (some "merchant") (.ok ⟨200, "OK"⟩))
      ((sampleRun (some "merchant") (.ok ⟨200, "OK"⟩)).attemptsOf sampleHmac (fun _ => "{}")
        (sampleTurn (some "merchant") (.ok ⟨200, "OK"⟩))) := by
  refine (dispatch_exact sampleHmac (fun _ => "{}") (sampleRun (some "merchant") (.ok ⟨200, "OK"⟩))
    _ List.mem_cons_self).mpr ⟨fun _ _ _ => rfl, ?_⟩
  intro none_
  cases none_

/-- A delivery that is refused is not tried again, and an event without an owner
is posted to the endpoint of a merchant. -/
theorem dispatch_not_exact :
    ¬ Dispatched (sampleTurn (some "merchant") (.ok ⟨503, "Service Unavailable"⟩))
      ((sampleRun (some "merchant") (.ok ⟨503, "Service Unavailable"⟩)).attemptsOf sampleHmac
        (fun _ => "{}") (sampleTurn (some "merchant") (.ok ⟨503, "Service Unavailable"⟩))) ∧
    ¬ Dispatched (sampleTurn none (.ok ⟨200, "OK"⟩))
      ((sampleRun none (.ok ⟨200, "OK"⟩)).attemptsOf sampleHmac (fun _ => "{}")
        (sampleTurn none (.ok ⟨200, "OK"⟩))) := by
  constructor
  · rw [dispatched_iff List.mem_cons_self]
    rintro ⟨accepted, -⟩
    have refused := accepted _ List.mem_cons_self (merchantEndpoint_due _)
    revert refused
    decide
  · rw [dispatched_iff List.mem_cons_self]
    rintro ⟨-, ownerless⟩
    have owner := ownerless rfl _ List.mem_cons_self rfl (by decide)
    cases owner

end Samples

end OpenWrapper.OutboundDispatch
