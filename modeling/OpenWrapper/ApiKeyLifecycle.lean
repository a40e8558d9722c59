import OpenWrapper.ApiKeyContracts
import OpenWrapper.Pieces
import OpenWrapper.ReadableRows

/-! # The life of an API key

A key enters the table when its user asks for one and leaves it when its user
removes it. What has left does not come back: no request that starts afterwards
is let in on it, neither by the web application nor by the gateway. -/

set_option autoImplicit false

namespace OpenWrapper.ApiKeyLifecycle
open OpenWrapper.Ids OpenWrapper.Payments OpenWrapper.PaymentStore OpenWrapper.Effects
open OpenWrapper.MachineIntegers OpenWrapper.Gateway OpenWrapper.Contracts OpenWrapper.Headers
open OpenWrapper.JavaScript OpenWrapper.WebDatabase OpenWrapper.ApiRequests
open OpenWrapper.ReadableRows OpenWrapper.Ownership OpenWrapper.MerchantTables
open OpenWrapper.ApiKeyRoutes OpenWrapper.ApiKeyContracts OpenWrapper.Pieces
open OpenWrapper.Lowerings OpenWrapper.Suspended OpenWrapper.Interleaving

section Samples

/-! A user has a key issued, a request presents it, and the user removes it. -/

def plainHost : KeyHost := ⟨id, fun _ => none⟩

def emptyTable : KeyTable := ⟨[], 1, List.nodup_nil, Int.one_pos, by simp⟩

def firstSecret : Secret where
  text := "0123456789abcdefghijklmnopqrstuv"
  length := by decide
  alphabet := List.all_eq_true.mp (by decide)

def firstKey : String := (issueApiKey id "live" firstSecret).key

def answered : KeyChoice := .statement .answered 0 ⟨0⟩ fun _ => 0

def issuing : List KeyAction :=
  [.spawn (.post (some "usr_a") (some (.obj [("name", .str "Shop")]))),
    .advance 0 (.secret firstSecret), .advance 0 answered]

/-- A request that presents the first key, as the task of this number. -/
def presenting (i : ℕ) : List KeyAction :=
  [.spawn (.authenticate ⟨"v1", [("x-api-key", firstKey)], 0, ""⟩),
    .advance i (.lookup false 0 none)]

def revoking : List KeyAction :=
  [.spawn (.revokeApiKey (some "usr_a") (some 1)), .advance 1 answered]

/-- Who was let into the web API. -/
def callers (w : KeyWorld) : List Caller := w.tasks.filterMap fun t =>
  match t.rest with
  | .done (.caller (.ok found)) => found
  | _ => none

end Samples

section Owners

variable {host : KeyHost} {api : ApiHost} {app : App} {t₀ : KeyTable} {w w' : KeyWorld}

/-- What the table said to a task. -/
def Answered : KeyEvent → Prop
  | ⟨.insert values, .ok row⟩ => row.values = values
  | ⟨.select userId _, .ok rows⟩ => ∀ row ∈ rows, row.values.userId = userId ∧ row.revokedAt = none
  | _ => True

theorem mem_selected {t : KeyTable} {userId : String} {environment : Option String}
    {visit : KeyRow → ℕ} {row : KeyRow} (mem : row ∈ selected t userId environment visit) :
    row.values.userId = userId ∧ row.revokedAt = none := by
  rw [selected, List.mem_insertionSort, List.mem_insertionSort, List.mem_filter] at mem
  simp only [Bool.and_eq_true, beq_iff_eq, Option.isNone_iff_eq_none] at mem
  exact ⟨mem.2.1.1, mem.2.1.2⟩

theorem keyReact_answered {t t' : KeyTable} {e : KeyCall} {c : KeyChoice} {r : e.Response}
    (reacted : keyReact t e c = some (t', r)) : Answered ⟨e, r⟩ := by
  cases e with
  | insert values =>
    cases r with
    | error e => trivial
    | ok row =>
      cases c with
      | statement fate skip now visit =>
        dsimp only [keyReact] at reacted
        split at reacted
        · cases reacted
        next result inserted =>
          rw [Answered, (sql_ok (Option.some.inj reacted)).2]
          exact (insert_rows inserted).2.2.1
      | _ => cases reacted
  | select userId environment =>
    cases r with
    | error e => trivial
    | ok rows =>
      cases c with
      | statement fate skip now visit =>
        rw [Answered, (sql_ok (Option.some.inj reacted)).2]
        exact fun row mem => mem_selected mem
      | _ => cases reacted
  | _ => trivial

/-- The row was there before the first task, or a task inserted it. -/
def Stems (t₀ : KeyTable) (w : KeyWorld) (row : KeyRow) : Prop :=
  (∃ row₀ ∈ t₀.rows, SameKey row₀ row) ∨
    (row.revokedAt = none ∧ ∃ o r, Happened w o ⟨.insert row.values, r⟩)

theorem Stems.sameKey {row row' : KeyRow} (stems : Stems t₀ w row) (same : SameKey row row') :
    Stems t₀ w row' := by
  rcases stems with ⟨row₀, mem₀, same₀⟩ | ⟨unrevoked, happened⟩
  · exact .inl ⟨row₀, mem₀, same₀.trans same⟩
  · rw [← same.values] at happened
    exact .inr ⟨same.revokedAt.trans unrevoked, happened⟩

theorem Stems.step {a : KeyAction} {row : KeyRow} (stems : Stems t₀ w row)
    (stepped : step (keySetting host api app) w a = some w') : Stems t₀ w' row := by
  rcases stems with first | ⟨unrevoked, o, r, happened⟩
  · exact .inl first
  · exact .inr ⟨unrevoked, o, r, happened_step happened stepped⟩

/-- What is in the table and what lookups found there stems from somewhere;
what answers say is so. -/
structure Kept (host : KeyHost) (api : ApiHost) (app : App) (t₀ : KeyTable) (w : KeyWorld) :
    Prop where
  follows : ∀ t ∈ w.tasks, Follows (KeyLicense host app) (Tells host api) t
  answers : Recorded (fun _ => Answered) w
  rows : ∀ row ∈ w.shared.rows, Stems t₀ w row
  lookups : ∀ t ∈ w.tasks, ∀ ev ∈ t.history, ∀ id, finds ev = some id →
    i64.Fits id ∧ ∃ row, row.id = id ∧ Stems t₀ w row ∧ Read row ev

theorem happened_call {c : KeyChoice} {i : ℕ}
    (adv : Advanced (keySetting host api app) w i c w') {e : KeyCall} (is : adv.effect = e) :
    ∃ o r, Happened w' o ⟨e, r⟩ := by
  subst is
  exact ⟨_, _, adv.happened⟩

theorem Kept.step {a : KeyAction} (kept : Kept host api app t₀ w)
    (stepped : step (keySetting host api app) w a = some w') : Kept host api app t₀ w' where
  follows := follows_step (body_tells host api app) kept.follows stepped
  answers := recorded_step (fun i c adv => keyReact_answered adv.reacted)
    (fun _ _ _ _ answered => answered) kept.answers stepped
  rows := by
    have still : ∀ row ∈ w.shared.rows, Stems t₀ w' row :=
      fun row mem => (kept.rows row mem).step stepped
    obtain ⟨o, -, rfl⟩ | ⟨i, c, -, ⟨adv⟩⟩ | ⟨i, t, -, found, rfl⟩ := step_cases stepped
    · exact still
    · intro row mem
      rw [adv.shared_eq] at mem
      rcases (keyReact_change adv.reacted).row_cases mem with
        ⟨row₁, was, same⟩ | ⟨-, unrevoked, inserts⟩
      · exact (still row₁ was).sameKey same
      · exact .inr ⟨unrevoked, happened_call adv inserts⟩
    · exact still
  lookups := by
    have still : ∀ t ∈ w.tasks, ∀ ev ∈ t.history, ∀ id, finds ev = some id →
        i64.Fits id ∧ ∃ row, row.id = id ∧ Stems t₀ w' row ∧ Read row ev := by
      intro t mem ev known id found
      obtain ⟨fits, row, is, stems, read⟩ := kept.lookups t mem ev known id found
      exact ⟨fits, row, is, stems.step stepped, read⟩
    obtain ⟨o, -, is⟩ | ⟨i, c, -, ⟨adv⟩⟩ | ⟨i, t', -, at_, is⟩ := step_cases stepped
    · intro t mem ev known id found
      rw [is] at mem
      rcases List.mem_append.mp mem with old | new
      · exact still t old ev known id found
      · rw [List.mem_singleton.mp new] at known
        cases known
    · intro t mem ev known id found
      rcases adv.event_cases mem known with ⟨rfl, -⟩ | ⟨t₀, mem₀, -, earlier⟩
      · obtain ⟨row, inside, same, read⟩ := keyReact_read adv.reacted found
        have fits := (w.shared.taken row inside).2.2
        exact ⟨same ▸ fits, row, same, (kept.rows row inside).step stepped, read⟩
      · exact still t₀ mem₀ ev earlier id found
    · intro t mem ev known id found
      rw [is] at mem
      rcases List.mem_or_eq_of_mem_set mem with old | rfl
      · exact still t old ev known id found
      · exact still t' (List.mem_of_getElem? at_) ev known id found

theorem kept_start : Kept host api app t₀ (⟨t₀, []⟩ : KeyWorld) :=
  ⟨by simp, by simp [Recorded], fun row mem => .inl ⟨row, mem, SameKey.refl row⟩, by simp⟩

theorem kept_of_run {actions : List KeyAction}
    (ran : run (keySetting host api app) ⟨t₀, []⟩ actions = some w) : Kept host api app t₀ w :=
  run_invariant' (fun _ _ _ kept stepped => kept.step stepped) kept_start ran

/-- What becomes of the rows there were. -/
def Since (w w' : KeyWorld) : Prop := ∀ row ∈ w.shared.rows,
  (∃ row' ∈ w'.shared.rows, SameKey row row') ∨ ∃ o ev, Happened w' o ev ∧ Covers ev.1 row

theorem Since.step {w₀ : KeyWorld} {a : KeyAction} (since : Since w₀ w)
    (stepped : step (keySetting host api app) w a = some w') : Since w₀ w' := by
  intro row mem
  rcases since row mem with ⟨row₁, mem₁, same₁⟩ | ⟨o, ev, happened, covers⟩
  · obtain ⟨o, -, rfl⟩ | ⟨i, c, -, ⟨adv⟩⟩ | ⟨i, t, -, found, rfl⟩ := step_cases stepped
    · exact .inl ⟨row₁, mem₁, same₁⟩
    · rw [adv.shared_eq]
      rcases (keyReact_change adv.reacted).kept mem₁ with ⟨row₂, mem₂, same₂⟩ | covers
      · exact .inl ⟨row₂, mem₂, same₁.trans same₂⟩
      · exact .inr ⟨_, _, adv.happened, covers.sameKey same₁⟩
    · exact .inl ⟨row₁, mem₁, same₁⟩
  · exact .inr ⟨o, ev, happened_step happened stepped, covers⟩

/-- A task with the session of this user has drawn the secret. -/
def Drew (w : KeyWorld) (userId : String) (secret : Secret) : Prop :=
  ∃ t ∈ w.tasks, sessionOf t.origin = some userId ∧ (⟨.randomBytes, secret⟩ : KeyEvent) ∈ t.history

/-- The keys of two moments of a run are their users' own. -/
structure Own (host : KeyHost) (t₀ : KeyTable) (w w' : KeyWorld) : Prop where
  issued : ∀ row ∈ w'.shared.rows, (∃ row₀ ∈ t₀.rows, SameKey row₀ row) ∨
    (row.revokedAt = none ∧ ∃ secret environment, Drew w' row.values.userId secret ∧
      Issues host row.values secret environment)
  removed : ∀ row ∈ w.shared.rows, (∃ row' ∈ w'.shared.rows, SameKey row row') ∨
    ∃ o ev, Happened w' o ev ∧ Covers ev.1 row ∧ sessionOf o = some row.values.userId
  shown : ∀ t ∈ w'.tasks, ∀ key row environment,
    t.rest = .done (.answer (.created key row environment)) →
    sessionOf t.origin = some row.values.userId ∧
      row.values.keyHash = hashApiKey host.sha256Hex key ∧ row.values.environment = environment
  listed : ∀ t ∈ w'.tasks, ∀ rows, t.rest = .done (.answer (.keys rows)) →
    ∀ entry ∈ rows, sessionOf t.origin = some entry.1.values.userId ∧ entry.1.revokedAt = none

/-- A task that deletes a row has the session of its user. -/
theorem Kept.removes (kept : Kept host api app t₀ w) {o : KeyOrigin} {ev : KeyEvent} {row : KeyRow}
    (happened : Happened w o ev) (covers : Covers ev.1 row) :
    sessionOf o = some row.values.userId := by
  obtain ⟨t, mem, rfl, known⟩ := happened
  obtain ⟨h, -, license, -⟩ := (kept.follows t mem).2.of_mem known
  obtain ⟨e, r⟩ := ev
  cases e with
  | delete id userId =>
    rw [covers.2]
    exact license
  | deleteAll userId =>
    rw [show row.values.userId = userId from covers]
    exact license
  | _ => cases covers

/-- A row that a task inserted was generated by it. -/
theorem Kept.issued (kept : Kept host api app t₀ w) {o : KeyOrigin} {values : KeyValues}
    {r : KeyCall.Response (.insert values)} (happened : Happened w o ⟨.insert values, r⟩) :
    ∃ secret environment, Drew w values.userId secret ∧ Issues host values secret environment := by
  obtain ⟨t, inside, rfl, known⟩ := happened
  obtain ⟨h, suffix, ⟨session, secret, environment, is, issues⟩, -⟩ :=
    (kept.follows t inside).2.of_mem known
  have drawn : (⟨.randomBytes, secret⟩ : KeyEvent) ∈ t.history := by
    apply suffix.subset
    rw [is]
    exact List.mem_cons_of_mem _ List.mem_cons_self
  exact ⟨secret, environment, ⟨t, inside, session, drawn⟩, issues⟩

/-- Whatever is interleaved with whatever: a key is in the table because it was
there, or because its user had it issued; it leaves the table through its user;
and a user is shown the user's own. -/
theorem keys_are_their_users {before after : List KeyAction}
    (ran : run (keySetting host api app) ⟨t₀, []⟩ before = some w)
    (ran' : run (keySetting host api app) w after = some w') : Own host t₀ w w' := by
  have kept : Kept host api app t₀ w' :=
    run_invariant' (fun _ _ _ kept stepped => kept.step stepped) (kept_of_run ran) ran'
  have since : Since w w' := run_invariant' (fun _ _ _ since stepped => since.step stepped)
    (fun row mem => .inl ⟨row, mem, SameKey.refl row⟩) ran'
  refine ⟨?_, ?_, ?_, ?_⟩
  · intro row mem
    rcases kept.rows row mem with first | ⟨unrevoked, o, r, happened⟩
    · exact .inl first
    · exact .inr ⟨unrevoked, kept.issued happened⟩
  · intro row mem
    rcases since row mem with still | ⟨o, ev, happened, covers⟩
    · exact .inl still
    · exact .inr ⟨o, ev, happened, covers, kept.removes happened covers⟩
  · intro t mem key row environment ended
    have tells := (kept.follows t mem).1
    rw [ended] at tells
    obtain ⟨values, known, session, hash, same⟩ := tells
    have is : row.values = values := kept.answers t mem _ known
    rw [is]
    exact ⟨session, hash, same⟩
  · intro t mem rows ended entry inside
    have tells := (kept.follows t mem).1
    rw [ended] at tells
    obtain ⟨userId, environment, session, known⟩ := tells
    have listed := kept.answers t mem _ known entry.1 (List.mem_map_of_mem inside)
    rw [listed.1]
    exact ⟨session, listed.2⟩

theorem keys_are_their_users_one : ∃ w w',
    run (keySetting plainHost sandboxHost shop) ⟨emptyTable, []⟩ issuing = some w ∧
    run (keySetting plainHost sandboxHost shop) w revoking = some w' ∧
    w.shared.rows.map (fun row => row.values.userId) = ["usr_a"] ∧ w'.shared.rows.length = 0 ∧
    Own plainHost emptyTable w w' := by
  have finished : ((run (keySetting plainHost sandboxHost shop) ⟨emptyTable, []⟩ issuing).bind
      fun w => (run (keySetting plainHost sandboxHost shop) w revoking).map fun w' =>
        (w.shared.rows.map fun row => row.values.userId, w'.shared.rows.length)) =
      some (["usr_a"], 0) := by
    decide +kernel
  obtain ⟨w, ran, rest⟩ := Option.bind_eq_some_iff.mp finished
  obtain ⟨w', ran', is⟩ := Option.map_eq_some_iff.mp rest
  obtain ⟨users, rows⟩ := Prod.mk.inj is
  exact ⟨w, w', ran, ran', users, rows, keys_are_their_users ran ran'⟩

end Owners

section Removed

variable {host : KeyHost} {api : ApiHost} {app : App} {t₀ : KeyTable} {w w' : KeyWorld} {id : ℤ}

/-- The key has gone, and the tasks from this one on have not found it. -/
structure Gone (id : ℤ) (n : ℕ) (w : KeyWorld) : Prop where
  spent : id < w.shared.nextId
  absent : ∀ row ∈ w.shared.rows, row.id ≠ id
  unfound : ∀ j t, n ≤ j → w.tasks[j]? = some t → ∀ ev ∈ t.history, finds ev ≠ some id

theorem Gone.step {n : ℕ} {a : KeyAction} (gone : Gone id n w)
    (stepped : step (keySetting host api app) w a = some w') : Gone id n w' := by
  obtain ⟨o, -, rfl⟩ | ⟨i, c, -, ⟨adv⟩⟩ | ⟨i, t, -, found, rfl⟩ := step_cases stepped
  · refine ⟨gone.spent, gone.absent, ?_⟩
    intro j t later at_ ev known
    rcases Nat.lt_or_ge j w.tasks.length with old | new
    · rw [List.getElem?_append_left old] at at_
      exact gone.unfound j t later at_ ev known
    · have fresh : t = Task.start (keySetting host api app) o := by
        rw [List.getElem?_append_right new] at at_
        exact List.mem_singleton.mp (List.mem_of_getElem? at_)
      rw [fresh] at known
      cases known
  · have change := keyReact_change adv.reacted
    rw [adv.result]
    refine ⟨gone.spent.trans_le change.nextId_le, ?_, ?_⟩
    · intro row mem
      rcases change.row_cases mem with ⟨row₀, was, same⟩ | ⟨new, -⟩
      · rw [same.id]
        exact gone.absent row₀ was
      · exact (gone.spent.trans_le new).ne'
    · intro j t later at_ ev known
      rw [← adv.result] at at_
      rcases adv.index_cases at_ with ⟨rfl, rfl⟩ | ⟨-, before⟩
      · rcases List.mem_cons.mp known with rfl | earlier
        · intro is
          obtain ⟨row, mem, same, -⟩ := keyReact_read adv.reacted is
          exact gone.absent row mem same
        · exact gone.unfound j _ later adv.found ev earlier
      · exact gone.unfound j t later before ev known
  · refine ⟨gone.spent, gone.absent, ?_⟩
    intro j t' later at_ ev known
    by_cases here : i = j
    · subst here
      have inside : i < w.tasks.length := (List.getElem?_eq_some_iff.mp found).1
      rw [List.getElem?_set_self inside] at at_
      cases at_
      exact gone.unfound i t later found ev known
    · rw [List.getElem?_set_ne here] at at_
      exact gone.unfound j t' later at_ ev known

/-- A claim names the key of the configuration, or one that the request
found. -/
theorem Kept.claimant (kept : Kept host api app t₀ w)
    {t : Task KeyCall.Response KeyOrigin KeyReply} (mem : t ∈ w.tasks) {headers : HeaderMap}
    {route : Router.Route} (is : t.origin = .request headers route) {request : PaymentRequest}
    {owner : ApiKeyInfo} {r : KeyCall.Response (.gateway
      (.store (.beginPaymentWithOwner request (some owner))))}
    (known : (⟨.gateway (.store (.beginPaymentWithOwner request (some owner))), r⟩ : KeyEvent) ∈
      t.history) :
    ∃ provided, Router.providedKey headers = some provided ∧
      ((owner.id = 0 ∧ ∃ key ∈ app.apiKeys.getD [], app.sha256Hex key = app.sha256Hex provided) ∨
      ∃ key, owner = ⟨key.id, key.userId.filter printable, some (Router.environmentOf provided)⟩ ∧
        (⟨.gateway (.findApiKey (app.sha256Hex provided)), .ok (some key)⟩ : KeyEvent) ∈
          t.history) := by
  obtain ⟨g, suffix, -, acts⟩ := (kept.follows t mem).2.of_mem known
  rw [is] at acts
  obtain ⟨h, lowers, acts⟩ := acts
  cases acts with
  | other o h e other _ => cases other
  | request headers route h earlier owner' e within authority scope =>
    obtain rfl : some owner = owner' := scope
    have carried : ∀ hash key rest,
        earlier = (⟨.findApiKey hash, .ok (some key)⟩ : GwEvent) :: rest →
        (⟨.gateway (.findApiKey hash), .ok (some key)⟩ : KeyEvent) ∈ t.history := by
      intro hash key rest is
      have inside : (⟨.findApiKey hash, .ok (some key)⟩ : GwEvent) ∈ h :=
        within.subset (is ▸ List.mem_cons_self)
      obtain ⟨part, ran, subset⟩ := lowers_mem lowers _ inside
      rw [runs_perform ran] at subset
      exact suffix.subset (List.mem_cons_of_mem _ (subset List.mem_cons_self))
    cases authority with
    | static _ provided key carries configured same =>
      exact ⟨provided, carries, .inl ⟨rfl, key, configured, same⟩⟩
    | stored provided key rest carries differs fits =>
      exact ⟨provided, carries, .inr ⟨key, rfl, carried _ _ _ rfl⟩⟩
    | oversized provided key rest _ large =>
      exact absurd (kept.lookups t mem _ (carried _ _ _ rfl) key.id rfl).1 large

/-- What the requests that start later come to without the key. -/
structure Revoked (id : ℤ) (n : ℕ) (w : KeyWorld) : Prop where
  absent : ∀ row ∈ w.shared.rows, row.id ≠ id
  refused : ∀ j t, n ≤ j → w.tasks[j]? = some t → ∀ caller,
    t.rest = .done (.caller (.ok (some caller))) → caller.id ≠ id
  unclaimed : ∀ j t, n ≤ j → w.tasks[j]? = some t → ∀ headers route,
    t.origin = .request headers route → ∀ request owner r,
    (⟨.gateway (.store (.beginPaymentWithOwner request (some owner))), r⟩ : KeyEvent) ∈ t.history →
    owner.id ≠ id

theorem Gone.revoked {n : ℕ} (gone : Gone id n w) (positive : 0 < id)
    (kept : Kept host api app t₀ w) : Revoked id n w := by
  refine ⟨gone.absent, ?_, ?_⟩
  · intro j t later at_ caller ended
    have tells := (kept.follows t (List.mem_of_getElem? at_)).1
    rw [ended] at tells
    obtain ⟨req, -, ⟨-, ambient⟩ | ⟨key, rfl, known⟩⟩ := tells
    · omega
    · intro is
      exact gone.unfound j t later at_ _ known (congrArg some is)
  · intro j t later at_ headers route is request owner r known
    obtain ⟨provided, -, ⟨static, -⟩ | ⟨key, rfl, found⟩⟩ :=
      kept.claimant (List.mem_of_getElem? at_) is known
    · omega
    · intro same
      exact gone.unfound j t later at_ _ found (congrArg some same)

/-- Once the deletion of a key is answered, no request that starts later is let
in on it, whichever of the two applications it comes to. -/
theorem removed_keys_are_dead {before after : List KeyAction} {w₁ w₂ : KeyWorld} {i : ℕ}
    {c : KeyChoice} {t : Task KeyCall.Response KeyOrigin KeyReply} {ev : KeyEvent} {row : KeyRow}
    (ran : run (keySetting host api app) ⟨t₀, []⟩ before = some w) (mem : row ∈ w.shared.rows)
    (stepped : step (keySetting host api app) w (.advance i c) = some w₁)
    (found : w₁.tasks[i]? = some t) (latest : t.history.head? = some ev)
    (removed : removes row ev = true) (ran' : run (keySetting host api app) w₁ after = some w₂) :
    Revoked row.id w₁.tasks.length w₂ := by
  have total : run (keySetting host api app) ⟨t₀, []⟩ (before ++ .advance i c :: after) =
      some w₂ := by
    rw [run_append, ran, Option.bind_some, run, stepped]
    exact ran'
  have gone : Gone row.id w₁.tasks.length w₁ := by
    obtain ⟨o, is, -⟩ | ⟨i', c', is, ⟨adv⟩⟩ | ⟨i', t', is, -⟩ := step_cases stepped
    · cases is
    · cases is
      rcases adv.index_cases found with ⟨-, rfl⟩ | ⟨other, -⟩
      · cases latest
        have change := keyReact_change adv.reacted
        refine ⟨?_, ?_, ?_⟩
        · rw [adv.shared_eq]
          exact (w.shared.taken row mem).2.1.trans_le change.nextId_le
        · rw [adv.shared_eq]
          exact keyReact_removed adv.reacted mem removed
        · intro j t later at_
          exact absurd (List.getElem?_eq_some_iff.mp at_).1 (not_lt_of_ge later)
      · exact absurd rfl other
    · cases is
  have gone' : Gone row.id w₁.tasks.length w₂ :=
    run_invariant' (fun _ _ _ gone stepped => gone.step stepped) gone ran'
  exact gone'.revoked (w.shared.taken row mem).1 (kept_of_run total)

theorem removed_keys_are_dead_one : ∃ w w₁ w₂ row,
    run (keySetting plainHost sandboxHost shop) ⟨emptyTable, []⟩ (issuing ++
      [.spawn (.revokeApiKey (some "usr_a") (some 1))]) = some w ∧ row ∈ w.shared.rows ∧
    step (keySetting plainHost sandboxHost shop) w (.advance 1 answered) = some w₁ ∧
    run (keySetting plainHost sandboxHost shop) w₁ (presenting 2) = some w₂ ∧
    w₂.tasks.length = 3 ∧ callers w₂ = [] ∧ Revoked row.id w₁.tasks.length w₂ := by
  have finished : ((run (keySetting plainHost sandboxHost shop) ⟨emptyTable, []⟩ (issuing ++
      [.spawn (.revokeApiKey (some "usr_a") (some 1))])).bind fun w =>
        w.shared.rows.head?.bind fun row =>
        (step (keySetting plainHost sandboxHost shop) w (.advance 1 answered)).bind fun w₁ =>
        (w₁.tasks[1]?).bind fun t => t.history.head?.bind fun ev =>
        (run (keySetting plainHost sandboxHost shop) w₁ (presenting 2)).map fun w₂ =>
          (removes row ev, w₂.tasks.length, callers w₂)) = some (true, 3, []) := by
    decide +kernel
  obtain ⟨w, ran, rest⟩ := Option.bind_eq_some_iff.mp finished
  obtain ⟨row, first, rest⟩ := Option.bind_eq_some_iff.mp rest
  obtain ⟨w₁, stepped, rest⟩ := Option.bind_eq_some_iff.mp rest
  obtain ⟨t, found, rest⟩ := Option.bind_eq_some_iff.mp rest
  obtain ⟨ev, latest, rest⟩ := Option.bind_eq_some_iff.mp rest
  obtain ⟨w₂, ran', is⟩ := Option.map_eq_some_iff.mp rest
  obtain ⟨removed, is⟩ := Prod.mk.inj is
  obtain ⟨tasks, refused⟩ := Prod.mk.inj is
  have mem := List.mem_of_mem_head? first
  exact ⟨w, w₁, w₂, row, ran, mem, stepped, ran', tasks, refused,
    removed_keys_are_dead ran mem stepped found latest removed ran'⟩

end Removed

section Holders

variable {host : KeyHost} {api : ApiHost} {app : App} {t₀ : KeyTable} {w : KeyWorld}

theorem trimmed_trimmed (s : String) : trimmed (trimmed s) = trimmed s := by
  have is (s : String) : (trimmed s).toList = trimBy isSpace s.toList := String.toList_ofList
  apply String.toList_injective
  rw [is, is, trimBy_trimBy]

theorem trimmed_presentedToken (req : ApiRequest) :
    trimmed (presentedToken req) = presentedToken req := by
  unfold presentedToken
  split
  · exact trimmed_trimmed _
  · cases nonEmpty (req.header "x-api-key") with
    | none => rfl
    | some value => exact trimmed_trimmed value

theorem solid_of_base64Url {c : Char} (is : isBase64Url c = true) : isSpace c = false := by
  simp only [isBase64Url, Bool.or_eq_true, Bool.and_eq_true, decide_eq_true_eq, beq_iff_eq] at is
  simp only [isSpace, Bool.or_eq_false_iff, Bool.and_eq_false_iff, decide_eq_false_iff_not,
    beq_eq_false_iff_ne, ne_eq]
  omega

section Issued

variable (sha256Hex : String → String) (environment : String) (secret : Secret)

/-- The key in characters. -/
theorem issued_toList : (issueApiKey sha256Hex environment secret).key.toList =
    "ow_".toList ++ (issueApiKey sha256Hex environment secret).environment.toList ++ "_".toList ++
      secret.text.toList := by
  simp [issueApiKey]

theorem issued_environment : (issueApiKey sha256Hex environment secret).environment = "test" ∨
    (issueApiKey sha256Hex environment secret).environment = "live" := by
  unfold issueApiKey
  dsimp only
  split
  · exact .inl rfl
  · exact .inr rfl

/-- No key has a blank to be trimmed. -/
theorem trimmed_issued : trimmed (issueApiKey sha256Hex environment secret).key =
    (issueApiKey sha256Hex environment secret).key := by
  have solid : ∀ c ∈ (issueApiKey sha256Hex environment secret).key.toList, isSpace c = false := by
    intro c mem
    rw [issued_toList] at mem
    rcases List.mem_append.mp mem with front | text
    · have plain : ("ow_".toList ++
          (issueApiKey sha256Hex environment secret).environment.toList ++ "_".toList).all
            (fun c => !isSpace c) = true := by
        rcases issued_environment sha256Hex environment secret with is | is <;> rw [is] <;> decide
      simpa using List.all_eq_true.mp plain c front
    · exact solid_of_base64Url (secret.alphabet c text)
  apply String.toList_injective
  rw [trimmed, String.toList_ofList]
  exact trimBy_eq_self solid

/-- The gateway reads from a key the environment it was issued for. -/
theorem environmentOf_issued : Router.environmentOf (issueApiKey sha256Hex environment secret).key =
    (issueApiKey sha256Hex environment secret).environment := by
  have text := issued_toList sha256Hex environment secret
  generalize (issueApiKey sha256Hex environment secret).key = key at text ⊢
  rcases issued_environment sha256Hex environment secret with is | is
  · rw [is] at text ⊢
    have test : startsWith key "ow_test_" = true := by
      rw [startsWith, text]
      rfl
    rw [Router.environmentOf, test]
    rfl
  · rw [is] at text ⊢
    have live : startsWith key "ow_live_" = true := by
      rw [startsWith, text]
      rfl
    have test : startsWith key "ow_test_" = false := by
      rw [startsWith, text]
      rfl
    have other : ∀ s, startsWith s "ow_live_" = false → (key == s) = false := by
      intro s not
      apply beq_false_of_ne
      rintro rfl
      rw [live] at not
      cases not
    rw [Router.environmentOf, test, other _ (by decide), other _ (by decide)]
    rfl

end Issued

/-- The token is a key that was issued to the user for the environment. -/
def IssuedTo (host : KeyHost) (w : KeyWorld) (userId token environment : String) : Prop :=
  ∃ secret asked, Drew w userId secret ∧ token = (issueApiKey host.sha256Hex asked secret).key ∧
    environment = (issueApiKey host.sha256Hex asked secret).environment

theorem issuedTo_of_hash (injective : Function.Injective host.sha256Hex)
    (kept : Kept host api app t₀ w) {row : KeyRow} {token : String} (stems : Stems t₀ w row)
    (hash : row.values.keyHash = host.sha256Hex token) :
    (∃ row₀ ∈ t₀.rows, row₀.id = row.id) ∨
      IssuedTo host w row.values.userId token row.values.environment := by
  rcases stems with ⟨row₀, mem, same⟩ | ⟨-, o, r, happened⟩
  · exact .inl ⟨row₀, mem, same.id.symm⟩
  · obtain ⟨secret, asked, drew, digest, -, -, environment⟩ := kept.issued happened
    refine .inr ⟨secret, asked, drew, ?_, environment⟩
    have generated : (issueApiKey host.sha256Hex asked secret).keyHash =
        host.sha256Hex (trimmed (issueApiKey host.sha256Hex asked secret).key) := rfl
    rw [trimmed_issued] at generated
    apply injective
    rw [← hash, digest, generated]

theorem environment_kept {values : KeyValues} {secret : Secret} {asked : String}
    (is : values.environment = (issueApiKey host.sha256Hex asked secret).environment) :
    (nonEmpty (some values.environment)).getD (getApiKeyEnvironment values.keyPrefix) =
      values.environment := by
  rw [is]
  rcases issued_environment host.sha256Hex asked secret with known | known
  · rw [known]
    rfl
  · rw [known]
    rfl

/-- Whoever is let in presents a key that was issued to that user. -/
structure Held (host : KeyHost) (api : ApiHost) (app : App) (t₀ : KeyTable) (w : KeyWorld) :
    Prop where
  web : ∀ t ∈ w.tasks, ∀ req caller, t.origin = .authenticate req →
    t.rest = .done (.caller (.ok (some caller))) → Ambient api (presentedToken req) ∨
      (∃ row₀ ∈ t₀.rows, row₀.id = caller.id) ∨
      IssuedTo host w caller.userId (presentedToken req) caller.environment
  gateway : ∀ t ∈ w.tasks, ∀ headers route, t.origin = .request headers route →
    ∀ request owner r, (⟨.gateway (.store (.beginPaymentWithOwner request (some owner))), r⟩ :
      KeyEvent) ∈ t.history → ∃ provided, Router.providedKey headers = some provided ∧
      ((∃ key ∈ app.apiKeys.getD [], app.sha256Hex key = app.sha256Hex provided) ∨
      (∃ row₀ ∈ t₀.rows, row₀.id = owner.id) ∨ ∃ userId environment,
        IssuedTo host w userId provided environment ∧
        owner.userId = (some userId).filter printable ∧ owner.environment = some environment)

/-- Both applications take a caller for the user to whom the key that comes
with the request was issued, and in the environment it was issued for. -/
theorem callers_hold_issued_keys (injective : Function.Injective host.sha256Hex)
    (web : api.sha256Hex = host.sha256Hex) (gateway : app.sha256Hex = host.sha256Hex)
    {actions : List KeyAction}
    (ran : run (keySetting host api app) ⟨t₀, []⟩ actions = some w) : Held host api app t₀ w := by
  have kept : Kept host api app t₀ w := kept_of_run ran
  constructor
  · intro t mem req caller is ended
    have tells := (kept.follows t mem).1
    rw [ended, is] at tells
    obtain ⟨req', same, ⟨ambient, -⟩ | ⟨key, rfl, known⟩⟩ := tells
    · cases same
      exact .inl ambient
    · cases same
      obtain ⟨-, row, -, stems, hash, rfl⟩ := kept.lookups t mem _ known key.id rfl
      rw [web, trimmed_presentedToken] at hash
      rcases issuedTo_of_hash injective kept stems hash with first | issued
      · exact .inr (.inl first)
      · obtain ⟨secret, asked, drew, token, environment⟩ := issued
        refine .inr (.inr ⟨secret, asked, drew, token, ?_⟩)
        rw [← environment, ← environment_kept environment]
        rfl
  · intro t mem headers route is request owner r known
    obtain ⟨provided, carries, ⟨-, static⟩ | ⟨key, rfl, found⟩⟩ := kept.claimant mem is known
    · exact ⟨provided, carries, .inl static⟩
    · obtain ⟨-, row, -, stems, hash, rfl⟩ := kept.lookups t mem _ found key.id rfl
      rw [gateway] at hash
      refine ⟨provided, carries, .inr ?_⟩
      rcases issuedTo_of_hash injective kept stems hash with first | issued
      · exact .inl first
      · refine .inr ⟨_, _, issued, rfl, ?_⟩
        obtain ⟨secret, asked, -, rfl, environment⟩ := issued
        rw [environment, environmentOf_issued]

theorem callers_hold_issued_keys_one : ∃ w,
    run (keySetting plainHost sandboxHost shop) ⟨emptyTable, []⟩ (issuing ++ presenting 1) =
      some w ∧ callers w = [⟨1, "usr_a", "live"⟩] ∧
    Held plainHost sandboxHost shop emptyTable w := by
  have finished : (run (keySetting plainHost sandboxHost shop) ⟨emptyTable, []⟩
      (issuing ++ presenting 1)).map callers = some [⟨1, "usr_a", "live"⟩] := by
    decide +kernel
  obtain ⟨w, ran, known⟩ := Option.map_eq_some_iff.mp finished
  exact ⟨w, ran, known, callers_hold_issued_keys Function.injective_id rfl rfl ran⟩

end Holders

end OpenWrapper.ApiKeyLifecycle
