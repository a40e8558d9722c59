import OpenWrapper.ApiRequests
import OpenWrapper.MerchantTables

/-! # API keys

The web application issues keys and removes them; the web application and the
gateway look them up in one table. Only the digest of a key is stored. -/

set_option autoImplicit false

namespace OpenWrapper.ApiKeyRoutes
open OpenWrapper.Ids OpenWrapper.Schema OpenWrapper.PaymentStore OpenWrapper.Headers
open OpenWrapper.JsonValue OpenWrapper.JavaScript OpenWrapper.Effects OpenWrapper.Gateway
open OpenWrapper.MachineIntegers OpenWrapper.WebDatabase OpenWrapper.ApiRequests
open OpenWrapper.MerchantTables
open OpenWrapper.Suspended OpenWrapper.Suspended.Prog OpenWrapper.Interleaving

section Keys

/-- Digits, letters, `-` and `_`. -/
def isBase64Url (c : Char) : Bool :=
  let n := c.toNat
  (48 ≤ n && n ≤ 57) || (65 ≤ n && n ≤ 90) || (97 ≤ n && n ≤ 122) || n == 45 || n == 95

/-- `randomBytes(24).toString("base64url")`. -/
structure Secret where
  text : String
  length : text.toList.length = 32
  alphabet : ∀ c ∈ text.toList, isBase64Url c = true

structure IssuedKey where
  key : String
  environment : String
  keyHash : String
  keyPrefix : String
  lastFour : String

variable (sha256Hex : String → String)

def hashApiKey (key : String) : String := sha256Hex (trimmed key)

def issueApiKey (environment : String) (secret : Secret) : IssuedKey :=
  let env := if environment = "test" then "test" else "live"
  let key := "ow_" ++ env ++ "_" ++ secret.text
  { key, environment := env, keyHash := hashApiKey sha256Hex key
    keyPrefix := String.ofList (key.toList.take 12)
    lastFour := String.ofList (key.toList.drop (key.toList.length - 4)) }

end Keys

section Table

/-- What `db.insert(apiKeys).values(…)` is given. -/
structure KeyValues where
  userId : String
  name : String
  keyHash : String
  keyPrefix : String
  lastFour : String
  environment : String
deriving DecidableEq

structure KeyRow where
  id : ℤ
  values : KeyValues
  createdAt : Instant
  lastUsedAt : Option Instant
  revokedAt : Option String
deriving DecidableEq

/-- `api_keys`. The identifiers come from a sequence, which takes none twice. -/
structure KeyTable where
  rows : List KeyRow
  nextId : ℤ
  distinct : (rows.map KeyRow.id).Nodup
  positive : 0 < nextId
  taken : ∀ row ∈ rows, 0 < row.id ∧ row.id < nextId ∧ i64.Fits row.id

namespace KeyTable

/-- `INSERT … RETURNING`. The sequence may have skipped numbers, and ends with
the last one of its type. -/
def insert (t : KeyTable) (values : KeyValues) (skip : ℕ) (now : Instant) :
    Option (KeyTable × KeyRow) :=
  if fits : i64.Fits (t.nextId + skip) then
    let row : KeyRow := ⟨t.nextId + skip, values, now, none, none⟩
    some (⟨t.rows ++ [row], t.nextId + skip + 1, by
      rw [List.map_append]
      refine t.distinct.append (List.nodup_singleton _) ?_
      intro id old new
      obtain ⟨row', mem, rfl⟩ := List.mem_map.mp old
      have earlier := (t.taken row' mem).2.1
      have is : row'.id = t.nextId + skip := by simpa [row] using new
      omega, by
      have positive := t.positive
      omega, by
      intro row' mem
      have positive := t.positive
      rcases List.mem_append.mp mem with old | new
      · have earlier := t.taken row' old
        exact ⟨earlier.1, by omega, earlier.2.2⟩
      · rw [List.mem_singleton.mp new]
        exact ⟨by show 0 < t.nextId + skip; omega, lt_add_one _, fits⟩⟩, row)
  else none

def remove (t : KeyTable) (test : KeyRow → Bool) : KeyTable :=
  ⟨t.rows.filter fun row => !test row, t.nextId, t.distinct.sublist (List.filter_sublist.map _),
    t.positive, fun row mem => t.taken row (List.mem_filter.mp mem).1⟩

def used (now : Instant) (row : KeyRow) : KeyRow := { row with lastUsedAt := some now }

def touch (t : KeyTable) (test : KeyRow → Bool) (now : Instant) : KeyTable where
  rows := t.rows.map fun row => if test row then used now row else row
  nextId := t.nextId
  distinct := by
    have same : (KeyRow.id ∘ fun row => if test row then used now row else row) = KeyRow.id := by
      funext row
      simp only [Function.comp]
      split <;> rfl
    rw [List.map_map, same]
    exact t.distinct
  positive := t.positive
  taken := by
    intro row mem
    obtain ⟨row', was, rfl⟩ := List.mem_map.mp mem
    split <;> exact t.taken row' was

/-- `key_hash = ? AND revoked_at IS NULL`. -/
def matching (t : KeyTable) (keyHash : String) : List KeyRow :=
  t.rows.filter fun row => row.values.keyHash == keyHash && row.revokedAt.isNone

/-- `LIMIT 1`: any of the matching rows. -/
def find (t : KeyTable) (keyHash : String) (pick : ℕ) : Option (Option KeyRow) :=
  if (t.matching keyHash).isEmpty then some none else ((t.matching keyHash)[pick]?).map some

end KeyTable

def KeyRow.webKey (row : KeyRow) : WebApiKey :=
  ⟨row.id, row.values.userId, row.values.environment, row.values.keyPrefix⟩

/-- The row as the gateway's store reads it. -/
def KeyRow.shared (row : KeyRow) : ApiKeyRow :=
  ⟨row.id, some row.values.userId, none, some row.values.keyHash, none,
    some row.values.environment, row.revokedAt, none⟩

end Table

section Calls

/-- What the routes and the requests that present a key await. -/
inductive KeyCall where
  | randomBytes
  | insert (values : KeyValues)
  | select (userId : String) (environment : Option String)
  | delete (id : ℤ) (userId : String)
  | deleteAll (userId : String)
  | touch (id : ℤ) (userId : String)
  | web (e : WebEffect)
  | gateway (e : Effect)

abbrev KeyCall.Response : KeyCall → Type
  | randomBytes => Secret
  | insert _ => Except SqlError KeyRow
  | select _ _ => Except SqlError (List KeyRow)
  | delete _ _ => Except SqlError Unit
  | deleteAll _ => Except SqlError Unit
  | touch _ _ => Except SqlError Unit
  | web e => e.Response
  | gateway e => e.Response

abbrev Keys : Type → Type := Prog KeyCall.Response

abbrev KeyEvent := Event KeyCall.Response

inductive KeyAnswer where
  | failure (status : ℕ) (message : String)
  | keys (rows : List (KeyRow × String))
  | created (key : String) (row : KeyRow) (environment : String)
  | success (message : Option String)
  /-- The handler threw. -/
  | threw

/-- The platform: the digest, and the integer that `Number(v)` is, if it is
one. -/
structure KeyHost where
  sha256Hex : String → String
  integer : Value → Option ℤ

variable (host : KeyHost)

/-- `z.string().trim().min(2).max(40)`. -/
def nameSchema (name : String) : Option String :=
  if 2 ≤ utf16Length (trimmed name) ∧ utf16Length (trimmed name) ≤ 40 then some (trimmed name)
  else none

/-- `createKeySchema.safeParse`. -/
def createKeySchema (body : Json) : Option (String × String) :=
  match body with
  | .obj _ => do
    let name ← match body.get "name" with
      | some (.str s) => nameSchema s
      | _ => none
    let environment ← match body.get "environment" with
      | none => some "live"
      | some (.str s) => if s = "live" ∨ s = "test" then some s else none
      | _ => none
    pure (name, environment)
  | _ => none

/-- What `POST` and `createApiKey` do with a valid name. -/
def issue (userId name environment : String) : Keys KeyAnswer := do
  let secret ← perform KeyCall.randomBytes
  let generated := issueApiKey host.sha256Hex environment secret
  match ← perform (KeyCall.insert ⟨userId, name, generated.keyHash, generated.keyPrefix,
      generated.lastFour, generated.environment⟩) with
  | .error _ => pure .threw
  | .ok row => pure (.created generated.key row generated.environment)

def unauthorized : KeyAnswer := .failure 401 "Unauthorized"

def GET (user envParam : Option String) : Keys KeyAnswer :=
  match user with
  | none => pure unauthorized
  | some userId => do
    let envFilter := envParam.filter fun s => s == "live" || s == "test"
    match ← perform (KeyCall.select userId envFilter) with
    | .error _ => pure .threw
    | .ok rows => pure (.keys (rows.map fun row => (row,
        (nonEmpty (some row.values.environment)).getD (getApiKeyEnvironment row.values.keyPrefix))))

/-- The body is absent where it is not JSON. -/
def POST (user : Option String) (body : Option Json) : Keys KeyAnswer :=
  match user, body with
  | none, _ => pure unauthorized
  | some _, none => pure (.failure 400 "Invalid JSON payload")
  | some userId, some body =>
    match createKeySchema body with
    | none => pure (.failure 400 "Provide a valid name (2-40 characters) and environment.")
    | some (name, environment) => issue host userId name environment

def ended (message : Option String) : Except SqlError Unit → Keys KeyAnswer
  | .error _ => pure .threw
  | .ok () => pure (.success message)

def DELETE (user : Option String) (body : Option Json) : Keys KeyAnswer :=
  match user, body with
  | none, _ => pure unauthorized
  | some _, none => pure (.failure 400 "Invalid JSON payload")
  | some userId, some body =>
    match member "all" (some body) with
    | none => pure .threw
    | some all =>
      if isTrue all then do
        ended (some "All keys removed") (← perform (KeyCall.deleteAll userId))
      else
        match (host.integer (body.get "id")).filter fun id => 0 < id with
        | none => pure (.failure 400 "Invalid key ID.")
        | some id => do ended none (← perform (KeyCall.delete id userId))

/-- The server actions; without a session they throw. -/
def createApiKey (user : Option String) (name environment : String) : Keys KeyAnswer :=
  match user, nameSchema name with
  | none, _ => pure .threw
  | some _, none => pure (.failure 200 "Use a name between 2 and 40 characters.")
  | some userId, some parsed => issue host userId parsed environment

def revokeApiKey (user : Option String) (id : Option ℤ) : Keys KeyAnswer :=
  match user, id.filter fun id => 0 < id with
  | none, _ => pure .threw
  | some _, none => pure (.failure 200 "Invalid key.")
  | some userId, some id => do ended none (← perform (KeyCall.delete id userId))

def removeAllKeysAction (user : Option String) : Keys KeyAnswer :=
  match user with
  | none => pure .threw
  | some userId => do ended none (← perform (KeyCall.deleteAll userId))

/-- `recordApiRequest`, as far as it writes to the table of keys. -/
def recordApiRequest (userId : String) (apiKeyId : Option ℤ) : Keys KeyAnswer :=
  match apiKeyId.filter fun id => 0 < id with
  | none => pure (.success none)
  | some id => do ended none (← perform (KeyCall.touch id userId))

end Calls

section World

inductive KeyOrigin where
  | get (user envParam : Option String)
  | post (user : Option String) (body : Option Json)
  | delete (user : Option String) (body : Option Json)
  | createApiKey (user : Option String) (name environment : String)
  | revokeApiKey (user : Option String) (id : Option ℤ)
  | removeAllKeysAction (user : Option String)
  | recordApiRequest (userId : String) (apiKeyId : Option ℤ)
  /-- A request to the web API, up to its authentication. -/
  | authenticate (req : ApiRequest)
  /-- A request to the gateway. -/
  | request (headers : HeaderMap) (route : Router.Route)

inductive KeyReply where
  | answer (a : KeyAnswer)
  | caller (found : Except SqlError (Option Caller))
  | reply (r : Reply)

def body (host : KeyHost) (api : ApiHost) (app : App) : KeyOrigin → Keys KeyReply
  | .get user envParam => GET user envParam >>= fun a => .done (.answer a)
  | .post user body => POST host user body >>= fun a => .done (.answer a)
  | .delete user body => DELETE host user body >>= fun a => .done (.answer a)
  | .createApiKey user name environment =>
    createApiKey host user name environment >>= fun a => .done (.answer a)
  | .revokeApiKey user id => revokeApiKey user id >>= fun a => .done (.answer a)
  | .removeAllKeysAction user => removeAllKeysAction user >>= fun a => .done (.answer a)
  | .recordApiRequest userId apiKeyId =>
    recordApiRequest userId apiKeyId >>= fun a => .done (.answer a)
  | .authenticate req =>
    (authenticateApiRequest api req).translate (fun e => perform (KeyCall.web e)) >>=
      fun found => .done (.caller found)
  | .request headers route =>
    (Router.serveHttp app headers route).translate (fun e => perform (KeyCall.gateway e)) >>=
      fun r => .done (.reply r)

/-- What the environment decides about one call. The gateway stamps a key it
found with the time, unless that statement fails. -/
inductive KeyChoice where
  | secret (s : Secret)
  | statement (fate : Fate) (skip : ℕ) (now : Instant) (visit : KeyRow → ℕ)
  | lookup (failed : Bool) (pick : ℕ) (used : Option Instant)
  | web (answer : (e : WebEffect) → e.Response)
  | gateway (answer : (e : Effect) → e.Response)

def Fate.sql {τ α : Type} (fate : Fate) (t : τ) (result : τ × α) : τ × Except SqlError α :=
  match fate with
  | .answered => (result.1, .ok result.2)
  | .failed => (t, .error .failed)
  | .unreported => (result.1, .error .failed)

def stamped (t : KeyTable) (found : Option ApiKeyInfo) (used : Option Instant) : KeyTable :=
  match found, used with
  | some key, some now => t.touch (fun row => row.id == key.id) now
  | _, _ => t

def selected (t : KeyTable) (userId : String) (environment : Option String)
    (visit : KeyRow → ℕ) : List KeyRow :=
  ((t.rows.filter fun row => row.values.userId == userId && row.revokedAt.isNone &&
      environment.all (· == row.values.environment)).insertionSort
    fun r s => visit r ≤ visit s).insertionSort
      fun r s => s.createdAt.nanoseconds ≤ r.createdAt.nanoseconds

def keyReact (t : KeyTable) : (e : KeyCall) → KeyChoice → Option (KeyTable × e.Response)
  | .randomBytes, .secret s => some (t, s)
  | .insert values, .statement fate skip now _ =>
    match t.insert values skip now with
    | none => some (t, .error .failed)
    | some inserted => some (Fate.sql fate t inserted)
  | .select userId environment, .statement fate _ _ visit =>
    some (Fate.sql fate t (t, selected t userId environment visit))
  | .delete id userId, .statement fate _ _ _ =>
    some (Fate.sql fate t
      (t.remove fun row => row.id == id && row.values.userId == userId, ()))
  | .deleteAll userId, .statement fate _ _ _ =>
    some (Fate.sql fate t (t.remove fun row => row.values.userId == userId, ()))
  | .touch id userId, .statement fate _ now _ =>
    some (Fate.sql fate t
      (t.touch (fun row => row.id == id && row.values.userId == userId) now, ()))
  | .web (.findApiKey hash), .lookup failed pick _ =>
    if failed then some (t, .error .failed)
    else (t.find hash pick).map fun found => (t, .ok (found.map KeyRow.webKey))
  | .gateway (.findApiKey hash), .lookup failed pick used =>
    match lookupApiKey .postgres (t.rows.map KeyRow.shared) hash failed pick with
    | none => none
    | some (.error e) => some (t, .error e)
    | some (.ok found) => some (stamped t found used, .ok found)
  | .web (.findApiKey _), _ => none
  | .gateway (.findApiKey _), _ => none
  | .web e, .web answer => some (t, answer e)
  | .gateway e, .gateway answer => some (t, answer e)
  | _, _ => none

abbrev KeyWorld := World KeyCall.Response KeyOrigin KeyReply KeyTable

abbrev KeyAction := Action KeyOrigin KeyChoice

def keySetting (host : KeyHost) (api : ApiHost) (app : App) :
    Setting KeyCall.Response KeyOrigin KeyReply KeyTable KeyChoice where
  body := body host api app
  react := keyReact

/-- The user of the session a request comes with. -/
def sessionOf : KeyOrigin → Option String
  | .get user _ => user
  | .post user _ => user
  | .delete user _ => user
  | .createApiKey user _ _ => user
  | .revokeApiKey user _ => user
  | .removeAllKeysAction user => user
  | _ => none

end World

end OpenWrapper.ApiKeyRoutes
