import OpenWrapper.RouteContracts

/-! # The statuses the web application writes

Each route guards its write by hand, with the status it read before. The guards
know `succeeded` and `failed`, and nothing holds between the read and the
write. A write is a legal transition as long as the row still has the status
the route was told, no refund status is involved, and no unknown payment is
reported pending. -/

set_option autoImplicit false

namespace OpenWrapper.StatusWrites
open OpenWrapper.Ids OpenWrapper.Payments OpenWrapper.Schema OpenWrapper.ConstraintTable
open OpenWrapper.Providers OpenWrapper.JsonValue OpenWrapper.WebDatabase
open OpenWrapper.CallbackRoutes OpenWrapper.CallbackAuthentication OpenWrapper.ApiRequests
open OpenWrapper.WebWorld OpenWrapper.RouteContracts
open OpenWrapper.Suspended OpenWrapper.Suspended.Prog OpenWrapper.Interleaving

section Statements

def isRefund (status : Text PaymentStatus) : Bool :=
  status == .stored .partiallyRefunded || status == .stored .refunded

/-- The pairs that the routes' guards decide. -/
def Covered (s t : Text PaymentStatus) : Prop :=
  isRefund s = false ∧ isRefund t = false ∧ ¬ (s = .stored .unknown ∧ t = .stored .pending)

instance (s t : Text PaymentStatus) : Decidable (Covered s t) :=
  inferInstanceAs (Decidable (_ ∧ _ ∧ ¬ (_ ∧ _)))

/-- The row has the status that the route was last told. -/
def Current (h : WebHistory) (row : PaymentRow) : Prop :=
  ∃ t ∈ lastTold h, t.id = row.id ∧ t.status = row.status

/-- The write finds the row as the route was told, and within what its guard
covers. -/
def Undisturbed (D : Database) (h : WebHistory) : WebEffect → Prop
  | .update id edit => ∀ row ∈ D.ledger.payments.rows, row.id = id →
      Current h row ∧ Covered row.status edit.status
  | .upsert input _ => ∀ row ∈ D.ledger.payments.rows, row.id = input.id → Current h row
  | _ => True

instance (h : WebHistory) (row : PaymentRow) : Decidable (Current h row) :=
  inferInstanceAs (Decidable (∃ t ∈ lastTold h, t.id = row.id ∧ t.status = row.status))

instance (D : Database) (h : WebHistory) : (e : WebEffect) → Decidable (Undisturbed D h e)
  | .update id edit => inferInstanceAs (Decidable (∀ row ∈ D.ledger.payments.rows, row.id = id →
      Current h row ∧ Covered row.status edit.status))
  | .upsert input _ => inferInstanceAs (Decidable (∀ row ∈ D.ledger.payments.rows,
      row.id = input.id → Current h row))
  | .select _ | .recordEvent _ _ _ | .findApiKey _ | .randomUUID | .now | .forward _ _
  | .fetch _ | .createSession _ _ | .retrieveSession _ | .gateway _ => .isTrue trivial

def Transition : Text PaymentStatus → Text PaymentStatus → Prop
  | .stored s, .stored t => PaymentStatus.Legal s t
  | _, _ => True

instance : (s t : Text PaymentStatus) → Decidable (Transition s t)
  | .stored s, .stored t => inferInstanceAs (Decidable (PaymentStatus.Legal s t))
  | .corrupt _, .stored _ => .isTrue trivial
  | .stored _, .corrupt _ => .isTrue trivial
  | .corrupt _, .corrupt _ => .isTrue trivial

/-- No row changes its status but by a legal transition. -/
def LawfulChange (D D' : Database) : Prop :=
  ∀ row ∈ D.ledger.payments.rows, ∀ row' ∈ D'.ledger.payments.rows, row'.id = row.id →
    Transition row.status row'.status

instance (D D' : Database) : Decidable (LawfulChange D D') :=
  inferInstanceAs (Decidable (∀ row ∈ D.ledger.payments.rows,
    ∀ row' ∈ D'.ledger.payments.rows, row'.id = row.id → Transition row.status row'.status))

/-- A write of the web application finds its row undisturbed. -/
def Timely (w : WebState) (a : WebAction) : Prop :=
  ∀ p ∈ performance w a, Undisturbed w.shared p.history p.effect

/-- A step of the web application changes statuses by legal transitions only. -/
def Lawful (w : WebState) (a : WebAction) : Prop :=
  ∀ p ∈ performance w a, byWeb p.effect = true →
    LawfulChange w.shared (respond p.draw w.shared p.effect).1

instance (w : WebState) (a : WebAction) : Decidable (Timely w a) :=
  inferInstanceAs (Decidable (∀ p ∈ performance w a, Undisturbed w.shared p.history p.effect))

instance (w : WebState) (a : WebAction) : Decidable (Lawful w a) :=
  inferInstanceAs (Decidable (∀ p ∈ performance w a, byWeb p.effect = true →
    LawfulChange w.shared (respond p.draw w.shared p.effect).1))

end Statements

section Writing

variable {D : Database} {h : WebHistory}

theorem transition_self (s : Text PaymentStatus) : Transition s s := by
  cases s with
  | stored s => exact PaymentStatus.validateTransition_self s
  | corrupt raw => trivial

/-- The guard decides the pairs it covers as the state machine does. -/
theorem legal_of_covered (s t : PaymentStatus) : isIllegal (.stored s) t = false →
    Covered (.stored s) (.stored t) → PaymentStatus.Legal s t := by
  cases s <;> cases t <;> decide

theorem transition_of_covered {s : Text PaymentStatus} {t : PaymentStatus}
    (legal : isIllegal s t = false) (covered : Covered s (.stored t)) :
    Transition s (.stored t) := by
  cases s with
  | corrupt raw => trivial
  | stored s => exact legal_of_covered s t legal covered

theorem lawful_self (D : Database) : LawfulChange D D := by
  intro row mem row' mem' same
  rw [D.ledger.payments.eq_of_clash mem' mem (.inl same)]
  exact transition_self row.status

theorem lawful_map {D' : Database} {id : Text PaymentId} {f : PaymentRow → PaymentRow}
    (rows : D'.ledger.payments.rows = D.ledger.payments.rows.map (Table.change (targets id false) f))
    (kept : ∀ row, (f row).id = row.id)
    (lawful : ∀ row ∈ D.ledger.payments.rows, row.id = id → Transition row.status (f row).status) :
    LawfulChange D D' := by
  intro row mem row' mem' same
  rw [rows] at mem'
  obtain ⟨before, before_mem, rfl⟩ := List.mem_map.mp mem'
  have ids : (Table.change (targets id false) f before).id = before.id :=
    Table.change_proj PaymentRow.id kept before
  have is : before = row :=
    D.ledger.payments.eq_of_clash before_mem mem (.inl (ids.symm.trans same))
  subst is
  by_cases hit : before.id = id
  · rw [Table.change_of_pos (by simp [targets, hit])]
    exact lawful before mem hit
  · rw [Table.change_of_neg (by simp [targets, hit])]
    exact transition_self before.status

theorem lawful_update {brought : String → Prop} {id : Text PaymentId} {edit : WebEdit} {t : Told}
    {status : PaymentStatus} {now : Instant} (updates : Updates brought h id edit t status)
    (undisturbed : Undisturbed D h (.update id edit)) : LawfulChange D (D.update id edit now) := by
  apply lawful_map (D.rows_update id edit now) (fun row => rfl)
  intro row mem same
  obtain ⟨⟨t', told, -, current⟩, covered⟩ := undisturbed row mem same
  have is : t' = t := Option.some.inj (told.symm.trans updates.told)
  have guarded := updates.guarded
  rw [is] at current
  rw [current] at guarded
  rw [updates.status_eq] at covered
  have written : (edit.apply now row).status = .stored status := updates.status_eq
  rw [written]
  exact transition_of_covered guarded covered

theorem lawful_upsert {input : PersistInput} {now : Instant} {D' : Database} {found : SharedRow}
    (upserts : Upserts h input) (undisturbed : Undisturbed D h (.upsert input now))
    (stored : D.upsert input now = .ok (D', found)) : LawfulChange D D' := by
  rcases D.upsert_cases stored with ⟨-, -, -, -, rows⟩ | ⟨fresh, -, rows⟩
  · apply lawful_map rows (fun row => rfl)
    intro row mem same
    obtain ⟨t', told, is, current⟩ := undisturbed row mem same
    have written : (input.assigned now row).status = input.status := rfl
    rw [written]
    rcases upserts with ⟨t, told', -, status, -⟩ | ⟨⟨raw, own⟩, untold⟩
    · have same_told : t' = t := Option.some.inj (told.symm.trans told')
      rw [status, ← same_told, current]
      exact transition_self row.status
    · obtain ⟨id, stored⟩ := untold t' told
      rw [stored, same, own] at is
      cases is
  · intro row mem row' mem' same
    rw [rows] at mem'
    rcases List.mem_append.mp mem' with old | new
    · exact lawful_self D row mem row' old same
    · cases List.mem_singleton.mp new
      exact absurd (.inl same.symm) (fresh row mem)

/-- A licensed write that finds its row undisturbed is lawful. -/
theorem lawful_respond {host : Host} {o : WebOrigin} {e : WebEffect} (d : WebDraw)
    (ours : byWeb e = true) (licensed : Licensed host o h e) (undisturbed : Undisturbed D h e) :
    LawfulChange D (respond d D e).1 := by
  cases e with
  | update id edit =>
    by_cases fails : d.fails = true
    · simp only [respond, fails, if_true]
      exact lawful_self D
    · simp only [respond, fails]
      cases o with
      | callback route req =>
        obtain ⟨t, status, updates⟩ := licensed
        exact lawful_update updates undisturbed
      | inquiry req id =>
        obtain ⟨t, status, updates⟩ := licensed
        exact lawful_update updates undisturbed
      | submission req => exact licensed.elim
      | operation op => exact licensed.elim
  | upsert input now =>
    by_cases fails : d.fails = true
    · simp only [respond, fails, if_true]
      exact lawful_self D
    · simp only [respond, fails]
      cases stored : D.upsert input now with
      | error e => exact lawful_self D
      | ok result =>
        cases o with
        | submission req => exact lawful_upsert licensed undisturbed stored
        | callback route req => exact licensed.elim
        | inquiry req id => exact licensed.elim
        | operation op => exact licensed.elim
  | gateway statement => cases ours
  | _ => exact lawful_self D

end Writing

section Main

/-- In every run in which each write of the web application finds its row as
the route was told, and within what its guard covers, every status it
overwrites is left by a legal transition. -/
theorem web_writes_lawful (host : ApiHost) (fingerprint : PaymentRequest → String) (w : WebState)
    (as : List WebAction) (idle : w.tasks = [])
    (timely : Meets (setting host fingerprint) Timely w as) :
    Meets (setting host fingerprint) Lawful w as := by
  apply meets_of_contract (bodies_licensed host fingerprint) _ idle timely
  intro w a licensed timely p performs ours
  exact lawful_respond p.draw ours (licensed p performs) (timely p performs)

end Main

section Samples

def webHost (documents : List (String × Json)) : ApiHost where
  toHost := hostOf [] documents
  safeInteger := parseI64
  isEmail _ := true
  isHttpUrl _ := true
  gatewayBase := some
  encodeURIComponent := id
  printJson _ := ""

def mockHost : ApiHost :=
  webHost [(unsignedBody, .obj [("merchant_reference", .str "INV-1"), ("status", .str "succeeded")])]

def withStatus (status : PaymentStatus) : PaymentRow :=
  { pendingRow 1 .order ProviderId.mock "mock_1" "INV-1" with
    status := .stored status }

/-- One payment, and no request under way. -/
def shop (row : PaymentRow) : WebState := ⟨holding [row] (List.pairwise_singleton _ _), []⟩

/-- A mock callback that mints its event id, finds the payment and updates it. -/
def callbackRun (row : PaymentRow) : List WebAction :=
  .spawn (.callback .mock unsigned) :: List.replicate 3 (.advance 0 (CallbackWrites.favouring row))

theorem web_writes_lawful_paid : Meets (setting mockHost fun _ => "") Lawful
    (shop (withStatus .pending)) (callbackRun (withStatus .pending)) :=
  web_writes_lawful mockHost (fun _ => "") _ _ rfl (by decide +kernel)

/-- A refunded payment is marked as succeeded again. -/
theorem web_writes_unlawful : ¬ ∀ (host : ApiHost) (fingerprint : PaymentRequest → String)
    (w : WebState) (as : List WebAction), w.tasks = [] →
    Meets (setting host fingerprint) Lawful w as := by
  intro claim
  have lawful := claim mockHost (fun _ => "") (shop (withStatus .refunded))
    (callbackRun (withStatus .refunded)) rfl
  exact absurd lawful (by decide +kernel)

end Samples

end OpenWrapper.StatusWrites
