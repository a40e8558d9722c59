import OpenWrapper.StatusWrites

/-! # The references the web application writes

A payment is inquired, and found by the gateway's webhooks, under the reference
its adapter stored. The web application writes the same column from whatever
field a callback names and from the gateway's answers. The reference stays as
long as these bring no other. -/

set_option autoImplicit false

namespace OpenWrapper.ReferenceWrites
open OpenWrapper.Ids OpenWrapper.Payments OpenWrapper.Schema OpenWrapper.ConstraintTable
open OpenWrapper.Providers OpenWrapper.JsonValue OpenWrapper.JavaScript OpenWrapper.WebDatabase
open OpenWrapper.CallbackRoutes OpenWrapper.CallbackAuthentication OpenWrapper.ApiRequests
open OpenWrapper.WebWorld OpenWrapper.RouteContracts OpenWrapper.StatusWrites
open OpenWrapper.Suspended OpenWrapper.Suspended.Prog OpenWrapper.Interleaving

section Statements

variable (host : Host) (p : PaymentId) (r : String)

/-- The payment's row has the reference. -/
def ReferenceIs (D : Database) : Prop :=
  ∃ row ∈ D.ledger.payments.rows, row.id = .stored p ∧ row.providerReference = some r

def About (h : WebHistory) : Prop := ∃ t ∈ lastTold h, t.id = .stored p

/-- A callback for the payment brings its reference or none, and the gateway's
answers about it name its reference. -/
def FaithfulStep : Performance → Prop
  | ⟨.callback route req, _, .update id _, _⟩ =>
    id = .stored p → ∀ x, Brings host route req x → x = "" ∨ x = r
  | ⟨_, h, .fetch _, d⟩ => About p h → ∀ view, d.gateway = .ok view →
      view.providerReference.getD "" = "" ∨ view.providerReference = some r
  | ⟨_, _, .forward _ _, d⟩ => ∀ view, d.gateway = .ok view → view.paymentId = p →
      view.providerReference = some r
  | _ => True

/-- Besides, the creation of the payment is over. -/
def Faithful (w : WebState) : WebAction → Prop
  | .spawn (.operation op) => createdBy op ≠ some p
  | a => ∀ performed ∈ performance w a, FaithfulStep host p r performed

end Statements

section Histories

variable (p : PaymentId) (r : String)

/-- Whatever the history tells of the payment names its reference, and what was
fetched about it names that one or none. -/
def Truthful : WebHistory → Prop
  | [] => True
  | ev :: h => (∀ t ∈ told ev, t.id = .stored p → t.providerReference = some r) ∧
      (∀ path view, ev = ⟨.fetch path, .ok view⟩ → About p h →
        view.providerReference.getD "" = "" ∨ view.providerReference = some r) ∧ Truthful h

variable {p r} {h : WebHistory}

theorem Truthful.told (truthful : Truthful p r h) {t : Told} (last : lastTold h = some t)
    (about : t.id = .stored p) : t.providerReference = some r := by
  induction h with
  | nil => cases last
  | cons ev h ih =>
    obtain ⟨head, -, rest⟩ := truthful
    cases tells : RouteContracts.told ev with
    | none => exact ih rest (by rwa [lastTold_cons tells] at last)
    | some t' =>
      have is : lastTold (ev :: h) = some t' := by simp [lastTold, tells]
      have same : t' = t := Option.some.inj (is.symm.trans last)
      exact same ▸ head t' tells (same ▸ about)

/-- The reference just fetched about the payment is its own or none. -/
theorem Truthful.fetched (truthful : Truthful p r h) (about : About p h) {x : String}
    (fetched : Fetched h x) : x = "" ∨ x = r := by
  obtain ⟨path, view, h', rfl, rfl⟩ := fetched
  have named : About p h' := by
    obtain ⟨t, last, is⟩ := about
    exact ⟨t, by rwa [lastTold_cons rfl] at last, is⟩
  rcases truthful.2.1 path view rfl named with none_ | same
  · exact .inl none_
  · exact .inr (by rw [same]; rfl)

end Histories

section Frames

variable {p : PaymentId} {r : String} {D D' : Database}

theorem ReferenceIs.unique (held : ReferenceIs p r D) {row : PaymentRow}
    (mem : row ∈ D.ledger.payments.rows) (is : row.id = .stored p) :
    row.providerReference = some r := by
  obtain ⟨row', mem', is', reference⟩ := held
  rw [D.ledger.payments.eq_of_clash mem mem' (.inl (is.trans is'.symm))]
  exact reference

theorem ReferenceIs.of_rows (held : ReferenceIs p r D)
    (rows : ∀ row ∈ D.ledger.payments.rows, row ∈ D'.ledger.payments.rows) :
    ReferenceIs p r D' := by
  obtain ⟨row, mem, is, reference⟩ := held
  exact ⟨row, rows row mem, is, reference⟩

theorem ReferenceIs.map {test : PaymentRow → Bool} {f : PaymentRow → PaymentRow}
    (held : ReferenceIs p r D)
    (rows : D'.ledger.payments.rows = D.ledger.payments.rows.map (Table.change test f))
    (kept : ∀ row, (f row).id = row.id)
    (same : ∀ row ∈ D.ledger.payments.rows, test row = true → row.id = .stored p →
      (f row).providerReference = some r) : ReferenceIs p r D' := by
  obtain ⟨row, mem, is, reference⟩ := held
  refine ⟨Table.change test f row, by rw [rows]; exact List.mem_map_of_mem mem,
    (Table.change_proj PaymentRow.id kept row).trans is, ?_⟩
  by_cases hit : test row = true
  · rw [Table.change_of_pos hit]
    exact same row mem hit is
  · rw [Table.change_of_neg (Bool.eq_false_iff.mpr hit)]
    exact reference

/-- An insertion that clashes with no row adds no row of the payment. -/
theorem ReferenceIs.append {row : PaymentRow} (held : ReferenceIs p r D)
    (rows : D'.ledger.payments.rows = D.ledger.payments.rows ++ [row]) : ReferenceIs p r D' := by
  apply held.of_rows
  intro row' mem
  rw [rows]
  exact List.mem_append_left _ mem

theorem perform_keeps {L L' : Ledger} {w : Write} {affected : ℕ} {web : Text PaymentId → WebColumns}
    (keeps : WriteKeeps p w) (held : ReferenceIs p r ⟨L, web⟩)
    (performed : w.perform .postgres L = .ok (L', affected)) : ReferenceIs p r ⟨L', web⟩ := by
  cases w with
  | insertPayment row =>
    simp only [Write.perform] at performed
    split at performed
    next payments inserted =>
      cases performed
      exact held.append (Table.insert_eq_some.mp inserted).2
    · cases performed
  | updatePayment id guarded edit =>
    cases performed
    have rows : (⟨L.updatePayment id guarded (edit.kept .postgres), web⟩ :
        Database).ledger.payments.rows = (⟨L, web⟩ : Database).ledger.payments.rows.map
          (Table.change (targets id guarded) (edit.kept .postgres).apply) := rfl
    apply held.map rows (fun row => rfl)
    intro row mem hit is
    have targeted : row.id = id := by
      simp only [targets, Bool.and_eq_true, beq_iff_eq] at hit
      exact hit.1
    have unassigned := keeps (targeted.symm.trans is)
    simp only [PaymentEdit.apply, PaymentEdit.kept, unassigned, Option.orElse_none]
    exact held.unique mem is
  | insertWebhookEvent event =>
    simp only [Write.perform] at performed
    split at performed
    · cases performed
      exact held
    · cases performed
  | insertRefund refund =>
    simp only [Write.perform] at performed
    split at performed
    · cases performed
      exact held
    · cases performed

theorem performAll_keeps {ws : List Write} {L L' : Ledger} {web : Text PaymentId → WebColumns}
    (keeps : ∀ w ∈ ws, WriteKeeps p w) (held : ReferenceIs p r ⟨L, web⟩)
    (performed : performAll .postgres L ws = .ok L') : ReferenceIs p r ⟨L', web⟩ := by
  induction ws generalizing L with
  | nil =>
    cases performed
    exact held
  | cons w rest ih =>
    simp only [performAll] at performed
    split at performed
    next L'' affected first =>
      exact ih (fun w mem => keeps w (List.mem_cons_of_mem _ mem))
        (perform_keeps (keeps w List.mem_cons_self) held first) performed
    · cases performed

theorem exec_keeps {s : Stmt} (d : WebDraw) (keeps : StatementKeeps p s)
    (held : ReferenceIs p r D) : ReferenceIs p r (D.exec d s).1 := by
  rcases D.exec_cases d s with same | ⟨w, L, affected, rfl, performed, result⟩ |
    ⟨ws, L, rfl, performed, result⟩
  · rw [same]
    exact held
  · rw [result]
    exact perform_keeps keeps held performed
  · rw [result]
    exact performAll_keeps keeps held performed

end Frames

section Steps

variable {host : Host} {p : PaymentId} {r : String} {D D' : Database} {o : WebOrigin}
variable {h : WebHistory} {d : WebDraw}

/-- An update assigns the reference that it brought, or leaves it. -/
theorem update_keeps {brought : String → Prop} {id : Text PaymentId} {edit : WebEdit} {t : Told}
    {status : PaymentStatus} (now : Instant) (updates : Updates brought h id edit t status)
    (truthful : Truthful p r h) (faithful : id = .stored p → ∀ x, brought x → x = "" ∨ x = r)
    (held : ReferenceIs p r D) : ReferenceIs p r (D.update id edit now) := by
  apply held.map (D.rows_update id edit now) (fun row => rfl)
  intro row mem hit is
  have targeted : id = .stored p := by
    have named : row.id = id := by simpa [targets] using hit
    exact named.symm.trans is
  have reference : t.providerReference = some r :=
    truthful.told updates.told (updates.id_eq.symm.trans targeted)
  rcases updates.reference with unassigned | ⟨x, bring, assigned⟩
  · simp only [WebEdit.apply, unassigned, Option.getD_none]
    exact held.unique mem is
  · simp only [WebEdit.apply, assigned, Option.getD_some]
    rcases faithful targeted x bring with rfl | rfl
    · rw [reference]
      rfl
    · rw [reference]
      by_cases empty : x = "" <;> simp [orElse, empty]

/-- What is told of a payment is written back, and the ids of the web
application name no payment of the gateway. -/
theorem upsert_keeps {input : PersistInput} {now : Instant} {found : SharedRow}
    (upserts : Upserts h input) (truthful : Truthful p r h) (held : ReferenceIs p r D)
    (stored : D.upsert input now = .ok (D', found)) : ReferenceIs p r D' := by
  rcases D.upsert_cases stored with ⟨-, -, -, -, rows⟩ | ⟨-, -, rows⟩
  · apply held.map rows (fun row => rfl)
    intro row mem hit is
    have targeted : input.id = .stored p := by
      have named : row.id = input.id := by simpa [targets] using hit
      exact named.symm.trans is
    rcases upserts with ⟨t, told, id, -, reference⟩ | ⟨⟨raw, own⟩, -⟩
    · have written : (input.assigned now row).providerReference = input.providerReference := rfl
      rw [written, reference]
      exact truthful.told told (id.symm.trans targeted)
    · rw [own] at targeted
      cases targeted
  · exact held.append rows

/-- A licensed effect keeps the reference. -/
theorem respond_keeps {e : WebEffect} (licensed : Licensed host o h e)
    (other : ∀ op, o = .operation op → createdBy op ≠ some p)
    (faithful : FaithfulStep host p r ⟨o, h, e, d⟩) (truthful : Truthful p r h)
    (held : ReferenceIs p r D) : ReferenceIs p r (respond d D e).1 := by
  cases e with
  | update id edit =>
    by_cases fails : d.fails = true
    · simp only [respond, fails, if_true]
      exact held
    · simp only [respond, fails]
      cases o with
      | callback route req =>
        obtain ⟨t, status, updates⟩ := licensed
        exact update_keeps d.clock updates truthful faithful held
      | inquiry req id =>
        obtain ⟨t, status, updates⟩ := licensed
        refine update_keeps d.clock updates truthful (fun targeted x fetched => ?_) held
        exact truthful.fetched ⟨t, updates.told, updates.id_eq.symm.trans targeted⟩ fetched
      | submission req => exact licensed.elim
      | operation op => exact licensed.elim
  | upsert input now =>
    by_cases fails : d.fails = true
    · simp only [respond, fails, if_true]
      exact held
    · simp only [respond, fails]
      cases stored : D.upsert input now with
      | error e => exact held
      | ok result =>
        cases o with
        | submission req => exact upsert_keeps licensed truthful held stored
        | callback route req => exact licensed.elim
        | inquiry req id => exact licensed.elim
        | operation op => exact licensed.elim
  | gateway s =>
    cases o with
    | operation op => exact exec_keeps d (licensed p (other op rfl)) held
    | callback route req => exact licensed.elim
    | inquiry req id => exact licensed.elim
    | submission req => exact licensed.elim
  | _ => exact held

/-- What an effect answers about the payment names its reference. -/
theorem truthful_respond {e : WebEffect} (faithful : FaithfulStep host p r ⟨o, h, e, d⟩)
    (truthful : Truthful p r h) (held : ReferenceIs p r D) :
    Truthful p r (⟨e, (respond d D e).2⟩ :: h) := by
  have silent {ev : WebEvent} (untold : told ev = none)
      (unfetched : ∀ path view, ev ≠ ⟨.fetch path, .ok view⟩) : Truthful p r (ev :: h) := by
    refine ⟨fun t tells => ?_, fun path view is => absurd is (unfetched path view), truthful⟩
    rw [untold] at tells
    cases tells
  cases e with
  | select test =>
    refine ⟨fun t tells is => ?_, fun path view is => ?_, truthful⟩
    · by_cases fails : d.fails = true
      · simp only [respond, fails, if_true] at tells
        cases tells
      · simp only [respond, fails] at tells
        cases selected : D.selectOne d.visit test with
        | none =>
          simp only [selected] at tells
          cases tells
        | some found =>
          simp only [selected] at tells
          cases tells
          obtain ⟨row, mem, rfl, -⟩ := CallbackWrites.selectOne_mem selected
          exact held.unique mem is
    · cases is
  | forward request key =>
    refine ⟨fun t tells is => ?_, fun path view is => (by cases is), truthful⟩
    simp only [respond] at tells
    cases answer : d.gateway with
    | ok view =>
      rw [answer] at tells
      cases tells
      have about : view.paymentId = p := Text.stored.inj is
      cases o <;> exact faithful view answer about
    | error status message code =>
      rw [answer] at tells
      cases tells
    | lost reason =>
      rw [answer] at tells
      cases tells
  | fetch path =>
    refine ⟨fun t tells => ?_, fun path' view is about => ?_, truthful⟩
    · cases tells
    · have answered : d.gateway = .ok view := by
        simp only [respond] at is
        generalize d.gateway = answer at is
        cases is
        rfl
      cases o <;> exact faithful about view answered
  | _ => exact silent rfl (fun path view is => by cases is)

end Steps

section Runs

variable {host : ApiHost} {fingerprint : PaymentRequest → String} {p : PaymentId} {r : String}

/-- What every step of a faithful run keeps. -/
structure Kept (host : ApiHost) (p : PaymentId) (r : String) (w : WebState) : Prop where
  held : ReferenceIs p r w.shared
  follows : ∀ t ∈ w.tasks, Follows (Licensed host.toHost) (fun _ _ _ => True) t
  others : ∀ t ∈ w.tasks, ∀ op, t.origin = .operation op → createdBy op ≠ some p
  truthful : ∀ t ∈ w.tasks, Truthful p r t.history

theorem kept_step {w w' : WebState} {a : WebAction} (kept : Kept host p r w)
    (faithful : Faithful host.toHost p r w a)
    (stepped : step (setting host fingerprint) w a = some w') : Kept host p r w' := by
  have follows := follows_step (bodies_licensed host fingerprint) kept.follows stepped
  obtain ⟨o, rfl, rfl⟩ | ⟨i, d, rfl, ⟨adv⟩⟩ | ⟨i, t, rfl, found, rfl⟩ := step_cases stepped
  · refine ⟨kept.held, follows, fun t mem op is => ?_, fun t mem => ?_⟩
    · rcases List.mem_append.mp mem with old | new
      · exact kept.others t old op is
      · cases List.mem_singleton.mp new
        have origin : o = .operation op := is
        subst origin
        exact faithful
    · rcases List.mem_append.mp mem with old | new
      · exact kept.truthful t old
      · cases List.mem_singleton.mp new
        trivial
  · have step : FaithfulStep host.toHost p r ⟨adv.task.origin, adv.task.history, adv.effect, d⟩ :=
      faithful _ (performance_of_advanced adv)
    have before := kept.truthful _ adv.mem
    have reacted : respond d w.shared adv.effect = (adv.shared, adv.response) :=
      Option.some.inj adv.reacted
    refine ⟨?_, follows, fun t mem op is => ?_, fun t mem => ?_⟩
    · have held := respond_keeps (adv.licensed kept.follows) (kept.others _ adv.mem) step before
        kept.held
      rw [reacted] at held
      rw [adv.shared_eq]
      exact held
    · rcases adv.task_cases mem with rfl | ⟨j, -, found⟩
      · exact kept.others _ adv.mem op is
      · exact kept.others t (List.mem_of_getElem? found) op is
    · rcases adv.task_cases mem with rfl | ⟨j, -, found⟩
      · have after := truthful_respond step before kept.held
        rw [reacted] at after
        exact after
      · exact kept.truthful t (List.mem_of_getElem? found)
  · have dropped (t' : Task WebEffect.Response WebOrigin (Option Answer))
        (mem : t' ∈ w.tasks.set i t.dropped) :
        ∃ t₀ ∈ w.tasks, t₀.origin = t'.origin ∧ t₀.history = t'.history := by
      rcases List.mem_or_eq_of_mem_set mem with old | rfl
      · exact ⟨t', old, rfl, rfl⟩
      · exact ⟨t, List.mem_of_getElem? found, rfl, rfl⟩
    refine ⟨kept.held, follows, fun t' mem op is => ?_, fun t' mem => ?_⟩
    · obtain ⟨t₀, old, origin, -⟩ := dropped t' mem
      exact kept.others t₀ old op (origin.trans is)
    · obtain ⟨t₀, old, -, history⟩ := dropped t' mem
      rw [← history]
      exact kept.truthful t₀ old

/-- As long as callbacks and the gateway's answers bring no other reference for
the payment, its row keeps the one its adapter stored. -/
theorem reference_kept (host : ApiHost) (fingerprint : PaymentRequest → String) (p : PaymentId)
    (r : String) (w w' : WebState) (as : List WebAction) (idle : w.tasks = [])
    (stored : ReferenceIs p r w.shared)
    (faithful : Meets (setting host fingerprint) (Faithful host.toHost p r) w as)
    (ran : run (setting host fingerprint) w as = some w') : ReferenceIs p r w'.shared := by
  have initial : Kept host p r w := by
    constructor
    · exact stored
    all_goals
      intro t mem
      rw [idle] at mem
      cases mem
  exact (run_invariant (fun _ _ _ kept met stepped => kept_step kept met stepped) initial faithful
    ran).held

end Runs

section Samples

def mockRun : List WebAction := callbackRun (withStatus .pending)

theorem mockRun_faithful : Meets (setting mockHost fun _ => "") (Faithful mockHost.toHost ⟨1⟩ "mock_1")
    (StatusWrites.shop (withStatus .pending)) mockRun := by
  have brings_none (x : String) (brings : Brings mockHost.toHost .mock unsigned x) : x = "" := by
    obtain ⟨cb, ok, rfl⟩ := brings
    have is : Mock.inspect mockHost.toHost unsigned = .ok ⟨none, "", "INV-1", .succeeded, ""⟩ := by
      decide +kernel
    rw [is] at ok
    cases ok
    rfl
  refine ⟨by simp [Faithful, performance], fun w₁ stepped => ?_⟩
  cases stepped
  refine ⟨fun performed is => ?_, fun w₂ stepped => ?_⟩
  · cases is
    trivial
  cases stepped
  refine ⟨fun performed is => ?_, fun w₃ stepped => ?_⟩
  · cases is
    trivial
  cases stepped
  refine ⟨fun performed is => ?_, fun w₄ stepped => trivial⟩
  cases is
  exact fun _ x brings => .inl (brings_none x brings)

theorem reference_kept_paid : ∃ w', run (setting mockHost fun _ => "")
    (StatusWrites.shop (withStatus .pending)) mockRun = some w' ∧
    ReferenceIs ⟨1⟩ "mock_1" w'.shared :=
  ⟨_, rfl, reference_kept mockHost (fun _ => "") ⟨1⟩ "mock_1" _ _ mockRun rfl
    ⟨withStatus .pending, List.mem_singleton_self _, rfl, rfl⟩ mockRun_faithful rfl⟩

/-- A payment as the gateway's Fawry adapter leaves it: its reference is the
merchant reference number. -/
def fawryRow : PaymentRow := pendingRow 1 .order ProviderId.fawry "INV-1" "INV-1"

def paidBody : String :=
  "\x7b\"fawryRefNumber\":\"970177\",\"merchantRefNumber\":\"INV-1\",\"orderStatus\":\"PAID\"," ++
    "\"messageSignature\":\"970177INV-1PAIDPAYATFAWRYkey\"\x7d"

def paid : CallbackRequest := ⟨none, [], 124, paidBody⟩

def fawryHost : ApiHost :=
  { webHost [] with
    toHost := hostOf [("FAWRY_MERCHANT_CODE", "m"), ("FAWRY_SECURE_KEY", "key")]
      [(paidBody, .obj [("fawryRefNumber", .str "970177"), ("merchantRefNumber", .str "INV-1"),
        ("orderStatus", .str "PAID"), ("messageSignature", .str "970177INV-1PAIDPAYATFAWRYkey")])] }

def paidRun : List WebAction :=
  .spawn (.callback .fawry paid) :: List.replicate 2 (.advance 0 (CallbackWrites.favouring fawryRow))

instance (p : PaymentId) (r : String) (D : Database) : Decidable (ReferenceIs p r D) :=
  inferInstanceAs (Decidable (∃ row ∈ D.ledger.payments.rows,
    row.id = .stored p ∧ row.providerReference = some r))

/-- Fawry's own number replaces the merchant reference number that the gateway
inquires the payment under. -/
theorem reference_overwritten : ¬ ∀ (host : ApiHost) (fingerprint : PaymentRequest → String)
    (p : PaymentId) (r : String) (w w' : WebState) (as : List WebAction), w.tasks = [] →
    ReferenceIs p r w.shared →
    (∀ a ∈ as, ∀ route req, a = .spawn (.callback route req) → Signed host.toHost route req) →
    (∀ a ∈ as, ∀ op, a ≠ .spawn (.operation op)) →
    run (setting host fingerprint) w as = some w' → ReferenceIs p r w'.shared := by
  intro claim
  have signed : Signed fawryHost.toHost .fawry paid :=
    ⟨_, _, ⟨"m", "key"⟩, rfl, rfl, by decide +kernel, rfl, by decide +kernel⟩
  have kept (w' : WebState) (ran : run (setting fawryHost fun _ => "") (StatusWrites.shop fawryRow)
      paidRun = some w') : ReferenceIs ⟨1⟩ "INV-1" w'.shared := by
    apply claim fawryHost (fun _ => "") ⟨1⟩ "INV-1" (StatusWrites.shop fawryRow) w' paidRun rfl
      ⟨fawryRow, List.mem_singleton_self _, rfl, rfl⟩ _ _ ran
    · intro a mem route req is
      subst is
      simp only [paidRun, List.mem_cons, List.mem_replicate] at mem
      rcases mem with is | ⟨-, is⟩
      · cases is
        exact signed
      · cases is
    · intro a mem op is
      subst is
      simp [paidRun] at mem
  exact run_refutes (setting fawryHost fun _ => "") (StatusWrites.shop fawryRow) paidRun
    (I := fun w => ReferenceIs ⟨1⟩ "INV-1" w.shared) (by decide +kernel) kept

end Samples

end OpenWrapper.ReferenceWrites
