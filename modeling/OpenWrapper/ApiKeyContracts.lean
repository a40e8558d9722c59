import OpenWrapper.ApiKeyRoutes
import OpenWrapper.MerchantIsolation

/-! # What the routes do to the table of keys

A session inserts what it has just generated, deletes from the keys of its own
user and says what the table said to it. No other task inserts or deletes. -/

set_option autoImplicit false

namespace OpenWrapper.ApiKeyContracts
open OpenWrapper.Ids OpenWrapper.Payments OpenWrapper.Schema OpenWrapper.PaymentStore
open OpenWrapper.Effects
open OpenWrapper.MachineIntegers OpenWrapper.Gateway OpenWrapper.Contracts OpenWrapper.Headers
open OpenWrapper.JsonValue OpenWrapper.JavaScript OpenWrapper.WebDatabase OpenWrapper.ApiRequests
open OpenWrapper.Ownership OpenWrapper.MerchantTables OpenWrapper.MerchantIsolation
open OpenWrapper.ApiKeyRoutes OpenWrapper.Lowerings OpenWrapper.Suspended
open OpenWrapper.Suspended.Prog OpenWrapper.Interleaving

section Table

/-- The row as it was, but for the time of its last use. -/
structure SameKey (row row' : KeyRow) : Prop where
  id : row'.id = row.id
  values : row'.values = row.values
  createdAt : row'.createdAt = row.createdAt
  revokedAt : row'.revokedAt = row.revokedAt

theorem SameKey.refl (row : KeyRow) : SameKey row row := ⟨rfl, rfl, rfl, rfl⟩

theorem SameKey.trans {a b c : KeyRow} (ab : SameKey a b) (bc : SameKey b c) : SameKey a c :=
  ⟨bc.id.trans ab.id, bc.values.trans ab.values, bc.createdAt.trans ab.createdAt,
    bc.revokedAt.trans ab.revokedAt⟩

/-- The statement deletes the row. -/
def Covers : KeyCall → KeyRow → Prop
  | .delete id userId, row => row.id = id ∧ row.values.userId = userId
  | .deleteAll userId, row => row.values.userId = userId
  | _, _ => False

theorem Covers.sameKey {e : KeyCall} {row row' : KeyRow} (same : SameKey row row')
    (covers : Covers e row') : Covers e row := by
  cases e with
  | delete id userId => exact ⟨same.id.symm.trans covers.1, by rw [← same.values]; exact covers.2⟩
  | deleteAll userId =>
    rw [Covers, ← same.values]
    exact covers
  | _ => cases covers

/-- What a call does to the table. -/
inductive KeyChange (t : KeyTable) : KeyCall → KeyTable → Prop
  | nothing (e : KeyCall) : KeyChange t e t
  | inserted (values : KeyValues) (skip : ℕ) (now : Instant) (result : KeyTable × KeyRow) :
      t.insert values skip now = some result → KeyChange t (.insert values) result.1
  | removed (e : KeyCall) (test : KeyRow → Bool) : (∀ row, test row = true ↔ Covers e row) →
      KeyChange t e (t.remove test)
  | touched (e : KeyCall) (test : KeyRow → Bool) (now : Instant) : KeyChange t e (t.touch test now)

variable {t t' : KeyTable} {e : KeyCall}

theorem insert_rows {values : KeyValues} {skip : ℕ} {now : Instant}
    {result : KeyTable × KeyRow} (inserted : t.insert values skip now = some result) :
    result.1.rows = t.rows ++ [result.2] ∧ result.2.id = t.nextId + skip ∧
      result.2.values = values ∧ result.2.revokedAt = none ∧
      result.1.nextId = t.nextId + skip + 1 := by
  unfold KeyTable.insert at inserted
  split at inserted
  · cases inserted
    exact ⟨rfl, rfl, rfl, rfl, rfl⟩
  · cases inserted

theorem sql_fst {τ α : Type} (fate : Fate) (s : τ) (result : τ × α) :
    (Fate.sql fate s result).1 = s ∨ (Fate.sql fate s result).1 = result.1 := by
  cases fate with
  | answered => exact .inr rfl
  | failed => exact .inl rfl
  | unreported => exact .inr rfl

theorem sql_ok {τ α : Type} {fate : Fate} {s s' : τ} {result : τ × α} {a : α}
    (answered : Fate.sql fate s result = (s', .ok a)) : s' = result.1 ∧ a = result.2 := by
  cases fate with
  | answered =>
    cases answered
    exact ⟨rfl, rfl⟩
  | failed => cases answered
  | unreported => cases answered

theorem change_sql {α : Type} {fate : Fate} {result : KeyTable × α}
    (change : KeyChange t e result.1) : KeyChange t e (Fate.sql fate t result).1 := by
  rcases sql_fst fate t result with same | now
  · rw [same]
    exact .nothing e
  · rw [now]
    exact change

theorem change_stamped (found : Option ApiKeyInfo) (used : Option Instant) :
    KeyChange t e (stamped t found used) := by
  cases found with
  | none => exact .nothing e
  | some key =>
    cases used with
    | none => exact .nothing e
    | some now => exact .touched e _ now

theorem keyReact_change {c : KeyChoice} {r : e.Response}
    (reacted : keyReact t e c = some (t', r)) : KeyChange t e t' := by
  unfold keyReact at reacted
  split at reacted
  case h_2 values fate skip now _ =>
    split at reacted
    · cases reacted
      exact .nothing _
    next result inserted =>
      obtain ⟨rfl, -⟩ := Prod.mk.inj (Option.some.inj reacted)
      exact change_sql (.inserted values skip now result inserted)
  case h_3 =>
    obtain ⟨rfl, -⟩ := Prod.mk.inj (Option.some.inj reacted)
    exact change_sql (.nothing _)
  case h_4 id userId fate _ _ _ =>
    obtain ⟨rfl, -⟩ := Prod.mk.inj (Option.some.inj reacted)
    exact change_sql (.removed _ _ fun row => by simp [Covers])
  case h_5 userId fate _ _ _ =>
    obtain ⟨rfl, -⟩ := Prod.mk.inj (Option.some.inj reacted)
    exact change_sql (.removed _ _ fun row => by simp [Covers])
  case h_6 =>
    obtain ⟨rfl, -⟩ := Prod.mk.inj (Option.some.inj reacted)
    exact change_sql (.touched _ _ _)
  case h_7 hash failed pick _ =>
    split at reacted
    · cases reacted
      exact .nothing _
    · obtain ⟨found, -, is⟩ := Option.map_eq_some_iff.mp reacted
      cases is
      exact .nothing _
  case h_8 hash failed pick used =>
    split at reacted
    · cases reacted
    · cases reacted
      exact .nothing _
    · cases reacted
      exact change_stamped _ _
  all_goals
    cases reacted
    try exact .nothing _

theorem sameKey_touch (test : KeyRow → Bool) (now : Instant) (row : KeyRow) :
    SameKey row (if test row then KeyTable.used now row else row) := by
  split
  · exact ⟨rfl, rfl, rfl, rfl⟩
  · exact SameKey.refl row

/-- A row is an earlier one, or the one that this call inserts. -/
theorem KeyChange.row_cases (change : KeyChange t e t') {row' : KeyRow} (mem : row' ∈ t'.rows) :
    (∃ row ∈ t.rows, SameKey row row') ∨
      (t.nextId ≤ row'.id ∧ row'.revokedAt = none ∧ e = .insert row'.values) := by
  cases change with
  | nothing => exact .inl ⟨row', mem, SameKey.refl row'⟩
  | inserted values skip now result inserted =>
    obtain ⟨rows, id, is, unrevoked, -⟩ := insert_rows inserted
    rw [rows] at mem
    rcases List.mem_append.mp mem with old | new
    · exact .inl ⟨row', old, SameKey.refl row'⟩
    · rw [List.mem_singleton.mp new]
      exact .inr ⟨by omega, unrevoked, by rw [is]⟩
  | removed e test covers =>
    exact .inl ⟨row', (List.mem_filter.mp mem).1, SameKey.refl row'⟩
  | touched e test now =>
    obtain ⟨row, was, rfl⟩ := List.mem_map.mp mem
    exact .inl ⟨row, was, sameKey_touch test now row⟩

/-- A row stays, unless this call deletes it. -/
theorem KeyChange.kept (change : KeyChange t e t') {row : KeyRow} (mem : row ∈ t.rows) :
    (∃ row' ∈ t'.rows, SameKey row row') ∨ Covers e row := by
  cases change with
  | nothing => exact .inl ⟨row, mem, SameKey.refl row⟩
  | inserted values skip now result inserted =>
    refine .inl ⟨row, ?_, SameKey.refl row⟩
    rw [(insert_rows inserted).1]
    exact List.mem_append_left _ mem
  | removed e test covers =>
    by_cases covered : Covers e row
    · exact .inr covered
    · have stays : (!test row) = true := by
        rw [← covers row] at covered
        simpa using covered
      exact .inl ⟨row, List.mem_filter.mpr ⟨mem, stays⟩, SameKey.refl row⟩
  | touched e test now => exact .inl ⟨_, List.mem_map_of_mem mem, sameKey_touch test now row⟩

theorem KeyChange.nextId_le (change : KeyChange t e t') : t.nextId ≤ t'.nextId := by
  cases change with
  | inserted values skip now result inserted =>
    have next := (insert_rows inserted).2.2.2.2
    omega
  | nothing => exact le_refl _
  | removed => exact le_refl _
  | touched => exact le_refl _

/-- The call deleted the row, and says so. -/
def removes (row : KeyRow) : KeyEvent → Bool
  | ⟨.delete id userId, .ok ()⟩ => row.id == id && row.values.userId == userId
  | ⟨.deleteAll userId, .ok ()⟩ => row.values.userId == userId
  | _ => false

theorem KeyTable.eq_of_id {row row' : KeyRow} (mem : row ∈ t.rows) (mem' : row' ∈ t.rows)
    (same : row'.id = row.id) : row' = row :=
  List.inj_on_of_nodup_map t.distinct mem' mem same

theorem remove_absent {test : KeyRow → Bool} {row : KeyRow} (mem : row ∈ t.rows)
    (tested : test row = true) : ∀ row' ∈ (t.remove test).rows, row'.id ≠ row.id := by
  intro row' mem' same
  obtain ⟨was, kept⟩ := List.mem_filter.mp mem'
  rw [KeyTable.eq_of_id mem was same] at kept
  simp [tested] at kept

/-- Where the deletion of a row is answered, the row has gone. -/
theorem keyReact_removed {c : KeyChoice} {r : e.Response} {row : KeyRow}
    (reacted : keyReact t e c = some (t', r)) (mem : row ∈ t.rows)
    (removed : removes row ⟨e, r⟩ = true) : ∀ row' ∈ t'.rows, row'.id ≠ row.id := by
  cases e with
  | delete id userId =>
    cases r with
    | error e => cases removed
    | ok a =>
      cases c with
      | statement fate skip now visit =>
        rw [(sql_ok (Option.some.inj reacted)).1]
        exact remove_absent mem removed
      | _ => cases reacted
  | deleteAll userId =>
    cases r with
    | error e => cases removed
    | ok a =>
      cases c with
      | statement fate skip now visit =>
        rw [(sql_ok (Option.some.inj reacted)).1]
        exact remove_absent mem removed
      | _ => cases reacted
  | _ => cases removed

/-- The identifier of the key that a lookup found. -/
def finds : KeyEvent → Option ℤ
  | ⟨.web (.findApiKey _), .ok (some key)⟩ => some key.id
  | ⟨.gateway (.findApiKey _), .ok (some key)⟩ => some key.id
  | _ => none

/-- The row a lookup answered with. -/
def Read (row : KeyRow) : KeyEvent → Prop
  | ⟨.web (.findApiKey hash), .ok (some key)⟩ => row.values.keyHash = hash ∧ key = row.webKey
  | ⟨.gateway (.findApiKey hash), .ok (some key)⟩ =>
    row.values.keyHash = hash ∧ key = row.shared.info .postgres
  | _ => False

theorem mem_of_find {hash : String} {pick : ℕ} {row : KeyRow}
    (found : t.find hash pick = some (some row)) : row ∈ t.rows ∧ row.values.keyHash = hash := by
  unfold KeyTable.find at found
  split at found
  · cases found
  · obtain ⟨row', picked, is⟩ := Option.map_eq_some_iff.mp found
    cases is
    obtain ⟨mem, test⟩ := List.mem_filter.mp (List.mem_of_getElem? picked)
    simp only [Bool.and_eq_true, beq_iff_eq] at test
    exact ⟨mem, test.1⟩

theorem shared_matchesHash {hash : String} {row : KeyRow} :
    row.shared.matchesHash hash = true ↔ row.values.keyHash = hash := by
  simp [KeyRow.shared, ApiKeyRow.matchesHash]

/-- A lookup reads what is in the table. -/
theorem keyReact_read {c : KeyChoice} {r : e.Response} {id : ℤ}
    (reacted : keyReact t e c = some (t', r)) (found : finds ⟨e, r⟩ = some id) :
    ∃ row ∈ t.rows, row.id = id ∧ Read row ⟨e, r⟩ := by
  unfold finds at found
  split at found
  next hash key same =>
    cases same
    cases found
    cases c with
    | lookup failed pick used =>
      dsimp only [keyReact] at reacted
      split at reacted
      · cases reacted
      · obtain ⟨row?, looked, is⟩ := Option.map_eq_some_iff.mp reacted
        cases row? with
        | none => cases is
        | some row =>
          cases is
          obtain ⟨mem, hash⟩ := mem_of_find looked
          exact ⟨row, mem, rfl, hash, rfl⟩
    | _ => cases reacted
  next hash key same =>
    cases same
    cases found
    cases c with
    | lookup failed pick used =>
      dsimp only [keyReact] at reacted
      split at reacted
      · cases reacted
      · cases reacted
      next found looked =>
        cases reacted
        obtain ⟨row, inside, matching, -, rfl⟩ := lookup_read looked
        obtain ⟨row', mem, rfl⟩ := List.mem_map.mp inside
        exact ⟨row', mem, rfl, shared_matchesHash.mp matching, rfl⟩
    | _ => cases reacted
  · cases found

end Table

section Contracts

variable {host : KeyHost} {api : ApiHost} {app : App} {o : KeyOrigin}

/-- The row holds what was generated from the secret. -/
def Issues (host : KeyHost) (values : KeyValues) (secret : Secret) (environment : String) :
    Prop :=
  let generated := issueApiKey host.sha256Hex environment secret
  values.keyHash = generated.keyHash ∧ values.keyPrefix = generated.keyPrefix ∧
    values.lastFour = generated.lastFour ∧ values.environment = generated.environment

/-- A task inserts what it has just generated, for the user of its session, and
deletes from the keys of that user. -/
def Manages (host : KeyHost) (o : KeyOrigin) (h : History KeyCall.Response) : KeyCall → Prop
  | .insert values => sessionOf o = some values.userId ∧ ∃ secret environment,
      h = [⟨.randomBytes, secret⟩] ∧ Issues host values secret environment
  | .delete _ userId => sessionOf o = some userId
  | .deleteAll userId => sessionOf o = some userId
  | _ => True

def gatewayCall (e : Effect) : Keys e.Response := perform (KeyCall.gateway e)

/-- A request to the gateway acts for whom its key stands for. -/
def Acts (app : App) : KeyOrigin → History KeyCall.Response → KeyCall → Prop
  | .request headers route, g, .gateway e =>
    ∃ h, Lowers gatewayCall h g ∧ ActsFor app (.http headers route) h e
  | _, _, _ => True

def KeyLicense (host : KeyHost) (app : App) (o : KeyOrigin) (h : History KeyCall.Response)
    (e : KeyCall) : Prop :=
  Manages host o h e ∧ Acts app o h e

/-- The token is not looked up. -/
def Ambient (api : ApiHost) (token : String) : Prop :=
  isSandboxToken token = true ∨ token ∈ ambientKeys api

/-- Whom a found key stands for. -/
def callerOf (key : WebApiKey) : Caller where
  id := key.id
  userId := key.userId
  environment := (nonEmpty (some key.environment)).getD (getApiKeyEnvironment key.keyPrefix)

/-- What an answer says of the table was said to the task by the table. -/
def Tells (host : KeyHost) (api : ApiHost) (o : KeyOrigin) (h : History KeyCall.Response) :
    KeyReply → Prop
  | .answer (.created key row environment) => ∃ values, (⟨.insert values, .ok row⟩ : KeyEvent) ∈ h ∧
      sessionOf o = some values.userId ∧ values.keyHash = hashApiKey host.sha256Hex key ∧
      values.environment = environment
  | .answer (.keys rows) => ∃ userId environment, sessionOf o = some userId ∧
      (⟨.select userId environment, .ok (rows.map Prod.fst)⟩ : KeyEvent) ∈ h
  | .caller (.ok (some caller)) => ∃ req, o = .authenticate req ∧
      ((Ambient api (presentedToken req) ∧ caller.id = 0) ∨
        ∃ key, caller = callerOf key ∧ (⟨.web (.findApiKey (api.sha256Hex
          (trimmed (presentedToken req)))), .ok (some key)⟩ : KeyEvent) ∈ h)
  | _ => True

/-- What a program of the routes does and answers. -/
abbrev Keeps (host : KeyHost) (api : ApiHost) (app : App) (o : KeyOrigin) (p : Keys KeyAnswer)
    (h : History KeyCall.Response) : Prop :=
  Always (KeyLicense host app o) (fun h a => Tells host api o h (.answer a)) p h

theorem acts_of_session {userId : String} {h : History KeyCall.Response} {e : KeyCall}
    (session : sessionOf o = some userId) : Acts app o h e := by
  cases o with
  | request headers route => cases session
  | _ => cases e <;> trivial

theorem issue_keeps {userId name environment : String} (session : sessionOf o = some userId) :
    Keeps host api app o (issue host userId name environment) [] := by
  refine ⟨⟨trivial, acts_of_session session⟩, fun secret => ?_⟩
  refine ⟨⟨⟨session, secret, environment, rfl, rfl, rfl, rfl, rfl⟩, acts_of_session session⟩,
    fun r => ?_⟩
  cases r with
  | error e => trivial
  | ok row => exact ⟨_, List.mem_cons_self, session, rfl, rfl⟩

theorem ended_keeps {message : Option String} {h : History KeyCall.Response}
    (r : Except SqlError Unit) : Keeps host api app o (ended message r) h := by
  cases r <;> trivial

theorem delete_keeps {userId : String} {id : ℤ} {message : Option String}
    (session : sessionOf o = some userId) :
    Keeps host api app o (perform (KeyCall.delete id userId) >>= ended message) [] :=
  ⟨⟨session, acts_of_session session⟩, fun r => ended_keeps r⟩

theorem deleteAll_keeps {userId : String} {message : Option String}
    (session : sessionOf o = some userId) :
    Keeps host api app o (perform (KeyCall.deleteAll userId) >>= ended message) [] :=
  ⟨⟨session, acts_of_session session⟩, fun r => ended_keeps r⟩

theorem get_keeps (user envParam : Option String) :
    Keeps host api app (.get user envParam) (GET user envParam) [] := by
  cases user with
  | none => trivial
  | some userId =>
    have session : sessionOf (.get (some userId) envParam) = some userId := rfl
    refine ⟨⟨trivial, acts_of_session session⟩, fun r => ?_⟩
    cases r with
    | error e => trivial
    | ok rows =>
      have same : ∀ g : KeyRow → String,
          (rows.map fun row => (row, g row)).map Prod.fst = rows := by
        intro g
        rw [List.map_map]
        exact List.map_id rows
      refine ⟨userId, envParam.filter fun s => s == "live" || s == "test", rfl, ?_⟩
      rw [same]
      exact List.mem_cons_self

theorem post_keeps (user : Option String) (body : Option Json) :
    Keeps host api app (.post user body) (POST host user body) [] := by
  unfold POST
  split
  · trivial
  · trivial
  · split
    · trivial
    · exact issue_keeps rfl

theorem delete_route_keeps (user : Option String) (body : Option Json) :
    Keeps host api app (.delete user body) (DELETE host user body) [] := by
  unfold DELETE
  split
  · trivial
  · trivial
  · split
    · trivial
    · split
      · exact deleteAll_keeps rfl
      · split
        · trivial
        · exact delete_keeps rfl

theorem createApiKey_keeps (user : Option String) (name environment : String) :
    Keeps host api app (.createApiKey user name environment)
      (createApiKey host user name environment) [] := by
  unfold createApiKey
  split
  · trivial
  · trivial
  · exact issue_keeps rfl

theorem revokeApiKey_keeps (user : Option String) (id : Option ℤ) :
    Keeps host api app (.revokeApiKey user id) (revokeApiKey user id) [] := by
  unfold revokeApiKey
  split
  · trivial
  · trivial
  · exact delete_keeps rfl

theorem removeAllKeysAction_keeps (user : Option String) :
    Keeps host api app (.removeAllKeysAction user) (removeAllKeysAction user) [] := by
  unfold removeAllKeysAction
  split
  · trivial
  · exact deleteAll_keeps rfl

theorem recordApiRequest_keeps (userId : String) (apiKeyId : Option ℤ) :
    Keeps host api app (.recordApiRequest userId apiKeyId) (recordApiRequest userId apiKeyId)
      [] := by
  unfold recordApiRequest
  split
  · trivial
  · exact ⟨⟨trivial, trivial⟩, fun r => ended_keeps r⟩

/-- A caller comes with an ambient token, or is whom the found key stands for. -/
theorem authenticate_found (api : ApiHost) (req : ApiRequest) :
    Always (fun _ _ => True) (fun h a => ∀ caller, a = .ok (some caller) →
      (Ambient api (presentedToken req) ∧ caller.id = 0) ∨
      ∃ key, caller = callerOf key ∧ (⟨.findApiKey (api.sha256Hex (trimmed (presentedToken req))),
        .ok (some key)⟩ : Event WebEffect.Response) ∈ h) (authenticateApiRequest api req) [] := by
  unfold authenticateApiRequest
  dsimp only
  split
  · intro caller is
    cases is
  · split
    next ambient =>
      intro caller is
      cases is
      have known : Ambient api (presentedToken req) := by simpa [Ambient] using ambient
      exact .inl ⟨known, rfl⟩
    · refine ⟨trivial, fun r => ?_⟩
      cases r with
      | error e =>
        intro caller is
        cases is
      | ok found =>
        cases found with
        | none =>
          intro caller is
          cases is
        | some key =>
          intro caller is
          cases is
          exact .inr ⟨key, rfl, List.mem_cons_self⟩

theorem authenticate_tells (req : ApiRequest) :
    Always (KeyLicense host app (.authenticate req)) (fun h a => Tells host api (.authenticate req)
      h (.caller a)) ((authenticateApiRequest api req).translate fun e => perform (KeyCall.web e))
      [] := by
  have each : ∀ e g, Always (KeyLicense host app (.authenticate req)) (fun _ _ => True)
      (perform (KeyCall.web e) : Keys e.Response) g :=
    fun _ _ => ⟨⟨trivial, trivial⟩, fun _ => trivial⟩
  have translated := always_translate (authenticate_found api req) .nil
    fun _ g e _ _ => each e g
  apply translated.mono fun _ _ license => license
  rintro g a ⟨h, lowers, told⟩
  match a, told with
  | .error e, _ => trivial
  | .ok none, _ => trivial
  | .ok (some caller), told =>
    refine ⟨req, rfl, ?_⟩
    rcases told caller rfl with ambient | ⟨key, is, mem⟩
    · exact .inl ambient
    · obtain ⟨part, ran, inside⟩ := lowers_mem lowers _ mem
      rw [runs_perform ran] at inside
      exact .inr ⟨key, is, inside List.mem_cons_self⟩

theorem request_acts (headers : HeaderMap) (route : Router.Route) :
    Always (KeyLicense host app (.request headers route)) (fun _ _ => True)
      ((Router.serveHttp app headers route).translate gatewayCall) [] := by
  have each : ∀ h g e, ActsFor app (.http headers route) h e → Lowers gatewayCall h g →
      Always (KeyLicense host app (.request headers route)) (fun _ _ => True) (gatewayCall e) g :=
    fun h g e acts lowers => ⟨⟨trivial, h, lowers, acts⟩, fun _ => trivial⟩
  have translated := always_translate (serveHttp_actsFor headers route) .nil each
  exact translated.mono (fun _ _ license => license) fun _ _ _ => trivial

theorem answers_tell {p : Keys KeyAnswer} (keeps : Keeps host api app o p []) :
    Always (KeyLicense host app o) (Tells host api o) (p >>= fun a => .done (.answer a)) [] :=
  always_bind p [] keeps fun _ _ _ told => told

theorem body_tells (host : KeyHost) (api : ApiHost) (app : App) (o : KeyOrigin) :
    Always (KeyLicense host app o) (Tells host api o) (body host api app o) [] := by
  cases o with
  | get user envParam => exact answers_tell (get_keeps user envParam)
  | post user body => exact answers_tell (post_keeps user body)
  | delete user body => exact answers_tell (delete_route_keeps user body)
  | createApiKey user name environment =>
    exact answers_tell (createApiKey_keeps user name environment)
  | revokeApiKey user id => exact answers_tell (revokeApiKey_keeps user id)
  | removeAllKeysAction user => exact answers_tell (removeAllKeysAction_keeps user)
  | recordApiRequest userId apiKeyId => exact answers_tell (recordApiRequest_keeps userId apiKeyId)
  | authenticate req => exact always_bind _ [] (authenticate_tells req) fun _ _ _ told => told
  | request headers route =>
    exact always_bind _ [] (request_acts headers route) fun _ _ _ _ => trivial

end Contracts

end OpenWrapper.ApiKeyContracts
