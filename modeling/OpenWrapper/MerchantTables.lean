import OpenWrapper.EventPages
import OpenWrapper.Gateway
import OpenWrapper.OutboundDispatch
import OpenWrapper.Refinements

/-! # The tables a merchant sees

`events` and `merchant_webhook_endpoints` stand beside the ledger. With them in
the state, an answer about them is no longer the environment's to choose: only
whether a statement is carried out, and whether the store hears that it was. -/

set_option autoImplicit false

namespace OpenWrapper.MerchantTables
open OpenWrapper.Schema OpenWrapper.PaymentStore OpenWrapper.Effects OpenWrapper.Gateway
open OpenWrapper.EventPages OpenWrapper.OutboundDispatch OpenWrapper.Suspended
open OpenWrapper.Interleaving OpenWrapper.Refinements

section Statements

/-- A statement that fails may have been carried out: its answer was lost. -/
inductive Fate where
  | answered | failed | unreported
deriving DecidableEq

/-- What a write leaves and answers; `none` is a taken primary key. -/
def Fate.write {τ α : Type} (fate : Fate) (t : τ) (written : Option (τ × α)) :
    τ × StoreResult α :=
  match fate, written with
  | .answered, some (t', a) => (t', .ok a)
  | .unreported, some (t', _) => (t', .error .internal)
  | _, _ => (t, .error .internal)

def Fate.read {α : Type} (fate : Fate) (a : α) : StoreResult α :=
  if fate = .answered then .ok a else .error .internal

def EventTable.recordEvent (t : EventTable) (event : EventRecord) : Option (EventTable × Unit) :=
  if fresh : event.id ∉ t.rows.map EventRecord.id then
    some (⟨t.rows ++ [event], by
      rw [List.map_append]
      exact t.primaryKey.append (List.nodup_singleton _) (by simpa using fresh)⟩, ())
  else none

def EventTable.getEvent (t : EventTable) (id : String) : Option EventRecord :=
  t.rows.find? fun row => row.id == id

def Registered.createWebhookEndpoint (t : Registered) (endpoint : WebhookEndpointRecord) :
    Option (Registered × Unit) :=
  if fresh : endpoint.id ∉ t.rows.map WebhookEndpointRecord.id then
    some (⟨t.rows ++ [endpoint], by
      rw [List.map_append]
      exact t.distinct.append (List.nodup_singleton _) (by simpa using fresh)⟩, ())
  else none

/-- `?1 IS NULL OR user_id = ?1`; Postgres has a statement for either case. -/
def visibleTo (b : Backend) (userId : Option String) (endpoint : WebhookEndpointRecord) : Bool :=
  match b, userId with
  | .sqlite, _ => userId.isNone || endpoint.userId == userId
  | .postgres, some uid => endpoint.userId == some uid
  | .postgres, none => true

/-- `ORDER BY created_at DESC`. -/
def Registered.listWebhookEndpoints (b : Backend) (t : Registered)
    (visit : WebhookEndpointRecord → ℕ) (userId : Option String) : List WebhookEndpointRecord :=
  ((t.rows.filter (visibleTo b userId)).insertionSort fun r s => visit r ≤ visit s).insertionSort
    fun r s => s.createdAt ≤ r.createdAt

def Registered.deleteWebhookEndpoint (b : Backend) (t : Registered) (id : String)
    (userId : Option String) : Registered × Bool :=
  (⟨t.rows.filter fun e => !(e.id == id && visibleTo b userId e),
    t.distinct.sublist (List.filter_sublist.map _)⟩,
    t.rows.any fun e => e.id == id && visibleTo b userId e)

end Statements

section World

structure Tables where
  shared : Shared
  events : EventTable
  endpoints : Registered

/-- What the environment decides about one effect. -/
inductive TableChoice where
  | gateway (c : Choice)
  | statement (fate : Fate) (visitEvent : EventRecord → ℕ)
      (visitEndpoint : WebhookEndpointRecord → ℕ)

/-- The effect is a statement on one of the two tables. -/
def onTables : Effect → Bool
  | .recordEvent _ => true
  | .listEvents _ _ _ => true
  | .getEvent _ => true
  | .createWebhookEndpoint _ => true
  | .listWebhookEndpoints _ => true
  | .deleteWebhookEndpoint _ _ => true
  | _ => false

def tableReact (b : Backend) (app : App) (s : Tables) :
    (e : Effect) → TableChoice → Option (Tables × e.Response)
  | .recordEvent event, .statement fate _ _ =>
    let written := fate.write s.events (EventTable.recordEvent s.events event)
    some ({ s with events := written.1 }, written.2)
  | .listEvents userId limit startingAfter, .statement fate visit _ =>
    some (s, fate.read (s.events.listEvents visit userId limit startingAfter))
  | .getEvent id, .statement fate _ _ => some (s, fate.read (EventTable.getEvent s.events id))
  | .createWebhookEndpoint endpoint, .statement fate _ _ =>
    let written := fate.write s.endpoints
      (Registered.createWebhookEndpoint s.endpoints endpoint)
    some ({ s with endpoints := written.1 }, written.2)
  | .listWebhookEndpoints userId, .statement fate _ visit =>
    some (s, fate.read (Registered.listWebhookEndpoints b s.endpoints visit userId))
  | .deleteWebhookEndpoint id userId, .statement fate _ _ =>
    let written := fate.write s.endpoints
      (some (Registered.deleteWebhookEndpoint b s.endpoints id userId))
    some ({ s with endpoints := written.1 }, written.2)
  | e, .gateway c =>
    if onTables e then none
    else (react b app s.shared e c).map fun (shared, r) => ({ s with shared }, r)
  | _, _ => none

abbrev TableWorld := World Effect.Response Origin Reply Tables

abbrev TableAction := Action Origin TableChoice

def tableSetting (b : Backend) (app : App) :
    Setting Effect.Response Origin Reply Tables TableChoice where
  body := body app
  react := tableReact b app

def tablesStart (apiKeys : List ApiKeyRow) : TableWorld :=
  ⟨⟨Shared.start apiKeys, ⟨[], List.nodup_nil⟩, ⟨[], List.nodup_nil⟩⟩, []⟩

end World

section Statements

variable {b : Backend} {userId : Option String}

theorem visibleTo_iff {endpoint : WebhookEndpointRecord} :
    visibleTo b userId endpoint = true ↔ userId = none ∨ endpoint.userId = userId := by
  cases b with
  | sqlite => simp [visibleTo]
  | postgres => cases userId <;> simp [visibleTo]

theorem mem_listWebhookEndpoints {t : Registered} {visit : WebhookEndpointRecord → ℕ}
    {endpoint : WebhookEndpointRecord} :
    endpoint ∈ Registered.listWebhookEndpoints b t visit userId ↔
      endpoint ∈ t.rows ∧ (userId = none ∨ endpoint.userId = userId) := by
  rw [Registered.listWebhookEndpoints, List.mem_insertionSort, List.mem_insertionSort,
    List.mem_filter, visibleTo_iff]

theorem mem_listEvents {t : EventTable} {visit : EventRecord → ℕ} {limit : ℤ}
    {startingAfter : Option String} {event : EventRecord}
    (mem : event ∈ t.listEvents visit userId limit startingAfter) :
    event ∈ t.rows ∧ (userId = none ∨ event.userId = userId) := by
  have within := (newestFirst_perm _ _).mem_iff.mp (List.mem_of_mem_take mem)
  obtain ⟨stored, passes⟩ := List.mem_filter.mp within
  refine ⟨stored, ?_⟩
  cases userId with
  | none => exact .inl rfl
  | some uid =>
    simp only [ofUser, Bool.and_eq_true, beq_iff_eq] at passes
    exact .inr passes.1

/-- A write leaves the table, or what the write makes of it. -/
theorem write_cases {τ α : Type} (fate : Fate) (t : τ) (written : Option (τ × α)) :
    ((fate.write t written).1 = t ∧ (fate.write t written).2 = .error .internal) ∨
      ∃ t' a, written = some (t', a) ∧ (fate.write t written).1 = t' ∧
        ((fate.write t written).2 = .ok a ∨ (fate.write t written).2 = .error .internal) := by
  cases written with
  | none => cases fate <;> exact .inl ⟨rfl, rfl⟩
  | some pair =>
    cases fate with
    | answered => exact .inr ⟨pair.1, pair.2, rfl, rfl, .inl rfl⟩
    | failed => exact .inl ⟨rfl, rfl⟩
    | unreported => exact .inr ⟨pair.1, pair.2, rfl, rfl, .inr rfl⟩

theorem read_ok {α : Type} {fate : Fate} {a v : α} (answered : fate.read a = .ok v) : v = a := by
  unfold Fate.read at answered
  split at answered
  · exact (Except.ok.inj answered).symm
  · cases answered

theorem recordEvent_rows {t t' : EventTable} {event : EventRecord} {u : Unit}
    (recorded : EventTable.recordEvent t event = some (t', u)) : t'.rows = t.rows ++ [event] := by
  unfold EventTable.recordEvent at recorded
  split at recorded
  · cases recorded
    rfl
  · cases recorded

theorem createWebhookEndpoint_rows {t t' : Registered} {endpoint : WebhookEndpointRecord} {u : Unit}
    (created : Registered.createWebhookEndpoint t endpoint = some (t', u)) :
    t'.rows = t.rows ++ [endpoint] := by
  unfold Registered.createWebhookEndpoint at created
  split at created
  · cases created
    rfl
  · cases created

end Statements

section Reactions

variable {b : Backend} {app : App} {s s' : Tables}

/-- What a reaction does to the tables. -/
inductive Change (b : Backend) (s : Tables) : Effect → Tables → Prop
  | nothing (e : Effect) : Change b s e s
  | shared (e : Effect) (shared : Shared) : onTables e = false → Change b s e { s with shared }
  | recorded (event : EventRecord) (events : EventTable) : events.rows = s.events.rows ++ [event] →
      Change b s (.recordEvent event) { s with events }
  | created (endpoint : WebhookEndpointRecord) (endpoints : Registered) :
      endpoints.rows = s.endpoints.rows ++ [endpoint] →
      Change b s (.createWebhookEndpoint endpoint) { s with endpoints }
  | deleted (id : String) (userId : Option String) (endpoints : Registered) :
      endpoints.rows = s.endpoints.rows.filter (fun e => !(e.id == id && visibleTo b userId e)) →
      Change b s (.deleteWebhookEndpoint id userId) { s with endpoints }

/-- The gateway's own environment could have chosen the same answer. -/
theorem tableReact_forget {e : Effect} {c : TableChoice} {r : e.Response}
    (reacted : tableReact b app s e c = some (s', r)) :
    ∃ c', react b app s.shared e c' = some (s'.shared, r) := by
  unfold tableReact at reacted
  split at reacted
  case h_1 event fate _ _ =>
    cases reacted
    exact ⟨.recorded _, rfl⟩
  case h_2 =>
    cases reacted
    exact ⟨.events _, rfl⟩
  case h_3 =>
    cases reacted
    exact ⟨.event _, rfl⟩
  case h_4 =>
    cases reacted
    exact ⟨.recorded _, rfl⟩
  case h_5 =>
    cases reacted
    exact ⟨.endpoints _, rfl⟩
  case h_6 =>
    cases reacted
    exact ⟨.deleted _, rfl⟩
  case h_7 =>
    split at reacted
    · cases reacted
    · obtain ⟨⟨shared, r'⟩, chosen, is⟩ := Option.map_eq_some_iff.mp reacted
      cases is
      exact ⟨_, chosen⟩
  case h_8 => cases reacted

theorem tableReact_change {e : Effect} {c : TableChoice} {r : e.Response}
    (reacted : tableReact b app s e c = some (s', r)) : Change b s e s' := by
  unfold tableReact at reacted
  split at reacted
  case h_1 event fate _ _ =>
    cases reacted
    rcases write_cases fate s.events (EventTable.recordEvent s.events event) with
      ⟨same, -⟩ | ⟨t, u, is, now, -⟩
    · rw [same]
      exact .nothing _
    · rw [now]
      exact .recorded event t (recordEvent_rows is)
  case h_2 =>
    cases reacted
    exact .nothing _
  case h_3 =>
    cases reacted
    exact .nothing _
  case h_4 endpoint fate _ _ =>
    cases reacted
    rcases write_cases fate s.endpoints (Registered.createWebhookEndpoint s.endpoints endpoint) with
      ⟨same, -⟩ | ⟨t, u, is, now, -⟩
    · rw [same]
      exact .nothing _
    · rw [now]
      exact .created endpoint t (createWebhookEndpoint_rows is)
  case h_5 =>
    cases reacted
    exact .nothing _
  case h_6 id userId fate _ _ =>
    cases reacted
    rcases write_cases fate s.endpoints
      (some (Registered.deleteWebhookEndpoint b s.endpoints id userId)) with
      ⟨same, -⟩ | ⟨t, found, is, now, -⟩
    · rw [same]
      exact .nothing _
    · rw [now]
      obtain ⟨rfl, -⟩ := Prod.mk.inj (Option.some.inj is)
      exact .deleted id userId _ rfl
  case h_7 =>
    split at reacted
    · cases reacted
    next other =>
      obtain ⟨⟨shared, r'⟩, -, is⟩ := Option.map_eq_some_iff.mp reacted
      cases is
      exact .shared _ shared (by simpa using other)
  case h_8 => cases reacted

theorem Change.event_cases {e : Effect} (change : Change b s e s') {row : EventRecord}
    (mem : row ∈ s'.events.rows) : row ∈ s.events.rows ∨ e = .recordEvent row := by
  cases change with
  | recorded event events rows =>
    rw [rows] at mem
    rcases List.mem_append.mp mem with old | new
    · exact .inl old
    · rw [List.mem_singleton.mp new]
      exact .inr rfl
  | _ => exact .inl mem

/-- An event, once recorded, stays. -/
theorem Change.event_kept {e : Effect} (change : Change b s e s') {row : EventRecord}
    (mem : row ∈ s.events.rows) : row ∈ s'.events.rows := by
  cases change with
  | recorded event events rows =>
    rw [rows]
    exact List.mem_append_left _ mem
  | _ => exact mem

theorem Change.endpoint_cases {e : Effect} (change : Change b s e s')
    {row : WebhookEndpointRecord} (mem : row ∈ s'.endpoints.rows) :
    row ∈ s.endpoints.rows ∨ e = .createWebhookEndpoint row := by
  cases change with
  | created endpoint endpoints rows =>
    rw [rows] at mem
    rcases List.mem_append.mp mem with old | new
    · exact .inl old
    · rw [List.mem_singleton.mp new]
      exact .inr rfl
  | deleted id userId endpoints rows =>
    rw [rows] at mem
    exact .inl (List.mem_filter.mp mem).1
  | _ => exact .inl mem

/-- An endpoint goes only by a deletion that sees it. -/
theorem Change.endpoint_kept {e : Effect} (change : Change b s e s')
    {row : WebhookEndpointRecord} (mem : row ∈ s.endpoints.rows) :
    row ∈ s'.endpoints.rows ∨
      ∃ userId, e = .deleteWebhookEndpoint row.id userId ∧ visibleTo b userId row = true := by
  cases change with
  | created endpoint endpoints rows =>
    rw [rows]
    exact .inl (List.mem_append_left _ mem)
  | deleted id userId endpoints rows =>
    by_cases gone : (row.id == id && visibleTo b userId row) = true
    · obtain ⟨same, visible⟩ := Bool.and_eq_true_iff.mp gone
      rw [beq_iff_eq] at same
      exact .inr ⟨userId, same ▸ rfl, visible⟩
    · rw [rows]
      exact .inl (List.mem_filter.mpr ⟨mem, by simpa [imp_iff_not_or] using gone⟩)
  | _ => exact .inl mem

/-- Without the two tables, a run is one of the gateway. -/
theorem tables_view (b : Backend) (app : App) :
    Views Tables.shared (tableSetting b app) (setting b app) where
  body := fun _ => rfl
  react := fun _ _ _ _ _ reacted => tableReact_forget reacted

end Reactions

end OpenWrapper.MerchantTables
