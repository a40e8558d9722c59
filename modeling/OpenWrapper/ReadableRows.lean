import OpenWrapper.SubmissionPaths
import OpenWrapper.StatusWrites

/-! # The rows the gateway can read

The gateway reads a stale payment back by parsing every column, and gives the
whole batch up at the first row that does not parse. The web application's own
ids are no ULIDs, and its checks of a request are not the gateway's. The rows a
submission leaves can be read as long as the gateway itself made the payment. -/

set_option autoImplicit false

namespace OpenWrapper.ReadableRows
open OpenWrapper.Ids OpenWrapper.Amounts OpenWrapper.Payments OpenWrapper.Schema
open OpenWrapper.ConstraintTable OpenWrapper.PaymentStore OpenWrapper.JavaScript
open OpenWrapper.WebDatabase OpenWrapper.CallbackRoutes OpenWrapper.ApiRequests
open OpenWrapper.PaymentRoutes OpenWrapper.SubmissionPaths OpenWrapper.StatusWrites
open OpenWrapper.Suspended OpenWrapper.Suspended.Prog

section Statements

variable (host : ApiHost) (req : ApiRequest) (caller : Caller) (g : GatewayAnswer)

/-- `row_to_payment` accepts every row. -/
def Readable (D : Database) : Prop := ∀ row ∈ D.ledger.payments.rows, row.toPayment.isSome = true

/-- The gateway's own parsers accept the key, the currency and the amount. -/
def Parses (order : Order) : Prop :=
  (∃ key, IdempotencyKey.parse order.idempotencyKey = .ok key) ∧
    ∃ currency amount, Currency.parse order.payload.currency = .ok currency ∧
      Money.fromMinorUnits order.payload.amountMinorUnits currency = .ok amount

/-- A creation the gateway answers is one its parsers accept, and the route
makes none up and calls no provider where the gateway leaves it unanswered. -/
def MadeByGateway : Prop :=
  ∀ order, accept host req = .ok order → missingCredentials host req caller order = some none →
    match routedBy host req caller order g with
    | .handled _ => Parses order
    | .refused _ => True
    | .unanswered => callsStripe host order req = false ∧
        simulates host order (isTestMode req caller) req = false

/-- Wherever the submission is cut short, whatever readable tables it meets and
others leave it, the tables are readable. -/
def LeavesReadable : Prop :=
  ∀ (env : Surroundings) (D : Database), env.Answering g →
    (∀ n D, Readable D → Readable (env.others n D)) → Readable D →
    Leaves env.react Readable 0 D (postAs host req caller)

/-- No row's content stops the batch of stale payments. -/
def BatchReads (D : Database) : Prop :=
  ∀ (fingerprint : PaymentRequest → String) (d : Draw) (minAge limit : ℤ),
    (∀ n, d.fails n = false) → 0 ≤ limit → ∃ payments,
      (execOp fingerprint .postgres d D.ledger (.listStaleUnknownPayments minAge limit)).2 =
        .ok payments

end Statements

section Batches

theorem collect_readable {rows : List PaymentRow}
    (readable : ∀ row ∈ rows, row.toPayment.isSome = true) :
    ∃ payments, collect PaymentRow.toPayment rows = some payments := by
  induction rows with
  | nil => exact ⟨[], rfl⟩
  | cons row rows ih =>
    obtain ⟨payment, read⟩ := Option.isSome_iff_exists.mp (readable row List.mem_cons_self)
    obtain ⟨payments, rest⟩ := ih fun row mem => readable row (List.mem_cons_of_mem _ mem)
    exact ⟨payment :: payments, by simp [collect, read, rest]⟩

theorem batch_reads {D : Database} (readable : Readable D) : BatchReads D := by
  intro fingerprint d minAge limit executed natural
  have mem (cutoff : Instant) (row : PaymentRow)
      (taken : row ∈ (staleRows .postgres d cutoff D.ledger.payments.rows).take limit.toNat) :
      row ∈ D.ledger.payments.rows := by
    have stale := List.mem_of_mem_take taken
    rw [staleRows, List.mem_insertionSort, List.mem_filter] at stale
    exact StatementRules.mem_scan.mp stale.1
  obtain ⟨payments, collected⟩ := collect_readable fun row taken =>
    readable row (mem ((d.clock 0).minus minAge) row taken)
  refine ⟨payments, ?_⟩
  have bounded : ¬ limit < 0 := by omega
  simp only [execOp, program, PaymentStore.listStaleUnknownPayments, Sql.now, Sql.selectStale,
    perform_bind, serial_call, exec, Stmt.run, executed, Session.on, Backend.limited, bounded,
    if_false, collected, pure_eq, serial_done]

end Batches

section Columns

variable {row : PaymentRow} {order : Order}

theorem toPayment_isSome_iff : row.toPayment.isSome = true ↔
    ((∃ id, row.id = .stored id) ∧ (∃ key, row.idempotencyKey = .stored key) ∧
      (∃ provider, row.provider = .stored provider) ∧ ∃ status, row.status = .stored status) ∧
    ∃ currency amount, row.currency = .stored currency ∧
      Money.fromMinorUnits row.amountMinorUnits currency = .ok amount := by
  unfold PaymentRow.toPayment
  constructor
  · intro some
    split at some
    next currency id key provider status is named from_ by_ stored =>
      split at some
      next amount bounded =>
        exact ⟨⟨⟨id, Text.parse_eq_some.mp named⟩, ⟨key, Text.parse_eq_some.mp from_⟩,
          ⟨provider, Text.parse_eq_some.mp by_⟩, status, Text.parse_eq_some.mp stored⟩,
          currency, amount, Text.parse_eq_some.mp is, bounded⟩
      · cases some
    · cases some
  · rintro ⟨⟨⟨id, named⟩, ⟨key, keyed⟩, ⟨provider, by_⟩, status, stored⟩, currency, amount, is,
      bounded⟩
    simp [named, keyed, by_, stored, is, bounded]

/-- The input leaves a row that can be read, whether it is inserted or assigned
to one. -/
def Fit (input : PersistInput) : Prop :=
  (∃ status, input.status = .stored status) ∧
    ∀ now, (input.inserted now).toPayment.isSome = true

theorem readable_upsert {D D' : Database} {input : PersistInput} {now : Instant} {found : SharedRow}
    (fit : Fit input) (readable : Readable D) (stored : D.upsert input now = .ok (D', found)) :
    Readable D' := by
  intro row mem
  rcases D.upsert_cases stored with ⟨-, -, -, -, rows⟩ | ⟨-, -, rows⟩
  · rw [rows] at mem
    obtain ⟨before, before_mem, rfl⟩ := List.mem_map.mp mem
    have was := readable before before_mem
    by_cases hit : targets input.id false before = true
    · rw [Table.change_of_pos hit]
      obtain ⟨⟨id, key, provider, -⟩, amount⟩ := toPayment_isSome_iff.mp was
      exact toPayment_isSome_iff.mpr ⟨⟨id, key, provider, fit.1⟩, amount⟩
    · rw [Table.change_of_neg (Bool.eq_false_iff.mpr hit)]
      exact was
  · rw [rows] at mem
    rcases List.mem_append.mp mem with old | new
    · exact readable row old
    · rw [List.mem_singleton.mp new]
      exact fit.2 now

theorem keyColumn_keyText (key : IdempotencyKey) : keyColumn (keyText (.stored key)) = .stored key := by
  simp [keyColumn, keyText, IdempotencyKey.parse_asStr]

theorem keyColumn_stored {raw : String} :
    (∃ key, keyColumn raw = .stored key) ↔ ∃ key, IdempotencyKey.parse raw = .ok key := by
  unfold keyColumn
  cases IdempotencyKey.parse raw <;> simp

theorem currencyColumn_stored {raw : String} {currency : Currency} :
    currencyColumn raw = .stored currency ↔ Currency.parse raw = .ok currency := by
  unfold currencyColumn
  cases Currency.parse raw <;> simp

theorem providerColumn_stored (provider : ProviderName) :
    ∃ id, providerColumn provider = .stored id := by
  cases provider <;> exact ⟨_, rfl⟩

variable {host : ApiHost} {caller : Caller} {environment : String}

/-- A row that is written back stays readable. -/
theorem fit_replay {existing : SharedRow} (readable : existing.payment.toPayment.isSome = true)
    (named : keyText existing.payment.idempotencyKey = order.idempotencyKey) :
    Fit (replayInput host caller environment order existing) := by
  obtain ⟨⟨id, ⟨key, keyed⟩, provider, status⟩, amount⟩ := toPayment_isSome_iff.mp readable
  refine ⟨status, fun now => toPayment_isSome_iff.mpr ⟨⟨id, ⟨key, ?_⟩, provider, status⟩, amount⟩⟩
  have column : keyColumn order.idempotencyKey = .stored key := by
    rw [← named, keyed]
    exact keyColumn_keyText key
  exact column

/-- A creation can be read exactly if it has the gateway's id, and the
gateway's parsers accept the request. -/
theorem readable_creation_iff {created : Created} {now : Instant} :
    ((creationInput host caller environment order created).inserted now).toPayment.isSome = true ↔
      (∃ id, created.id = .stored id) ∧ Parses order := by
  rw [toPayment_isSome_iff]
  simp only [PersistInput.inserted, creationInput, keyColumn_stored, currencyColumn_stored, Parses]
  constructor
  · rintro ⟨⟨id, key, -, -⟩, parses⟩
    exact ⟨id, key, parses⟩
  · rintro ⟨id, key, parses⟩
    exact ⟨⟨id, key, providerColumn_stored order.provider, created.status, rfl⟩, parses⟩

end Columns

section Main

variable {host : ApiHost} {req : ApiRequest} {caller : Caller} {order : Order} {g : GatewayAnswer}
variable {h : History WebEffect.Response}

/-- What the effects may be for the tables to stay readable. -/
def Harmless : WebEffect → Prop
  | .upsert input _ => Fit input
  | .update _ _ => False
  | .gateway _ => False
  | _ => True

theorem harmless_respond {e : WebEffect} {D : Database} (d : WebDraw) (harmless : Harmless e)
    (readable : Readable D) : Readable (respond d D e).1 := by
  cases e with
  | upsert input now =>
    by_cases fails : d.fails = true
    · simp only [respond, fails, if_true]
      exact readable
    · simp only [respond, fails]
      cases stored : D.upsert input now with
      | error e => exact readable
      | ok result => exact readable_upsert harmless readable stored
  | update id edit => exact harmless.elim
  | gateway s => exact harmless.elim
  | _ => exact readable

/-- An event of a submission on readable tables: a row that is found is one. -/
def FromReadable (g : GatewayAnswer) : WebEvent → Prop
  | ⟨.select test, .ok (some row)⟩ => test row.payment = true ∧ row.payment.toPayment.isSome = true
  | ev => Admitted g ev

theorem FromReadable.admitted {ev : WebEvent} (from_ : FromReadable g ev) : Admitted g ev := by
  unfold FromReadable at from_
  split at from_
  · exact from_.1
  · exact from_

theorem fromReadable_react {env : Surroundings} (answers : env.Answering g)
    (others : ∀ n D, Readable D → Readable (env.others n D)) (n : ℕ) (D : Database) (e : WebEffect)
    (readable : Readable D) : FromReadable g ⟨e, (env.react n D e).2⟩ := by
  have admitted := admitted_react answers n D e
  cases e with
  | select test =>
    by_cases fails : (env.draw n).fails = true
    · simp only [Surroundings.react, respond, fails, if_true]
      trivial
    · simp only [Surroundings.react, respond, fails] at admitted ⊢
      cases selected : (env.others n D).selectOne (env.draw n).visit test with
      | none => trivial
      | some row =>
        obtain ⟨found, mem, rfl, passes⟩ := CallbackWrites.selectOne_mem selected
        exact ⟨passes, others n D readable found mem⟩
  | _ => exact admitted

/-- What a submission writes is fit where the gateway makes the payments. -/
theorem harmless_of_submits {e : WebEffect} (made : MadeByGateway host req caller g)
    (accepted : accept host req = .ok order) (from_ : ∀ ev ∈ h, FromReadable g ev)
    (submits : Submits host req caller order g h e) : Harmless e := by
  cases e with
  | upsert input now =>
    rcases submits with ⟨test, existing, mem, named, rfl⟩ | ⟨known, created, source, rfl⟩
    · exact fit_replay (from_ _ mem).2 named
    · have path := made order accepted known
      cases source with
      | handled request key view told is routed =>
        rw [routed] at path
        refine ⟨⟨created.status, rfl⟩, fun now => readable_creation_iff.mpr ⟨?_, path⟩⟩
        rw [is]
        exact ⟨view.paymentId, rfl⟩
      | session request key paymentId session told is routed calls =>
        rw [routed] at path
        rw [path.1] at calls
        cases calls
      | simulated raw own routed simulates =>
        rw [routed] at path
        rw [path.2] at simulates
        cases simulates
  | update id edit => exact submits.elim
  | gateway s => exact submits.elim
  | _ => trivial

theorem leaves_readable (made : MadeByGateway host req caller g) :
    LeavesReadable host req caller g := by
  intro env D answers others readable
  cases accepted : accept host req with
  | error answer =>
    simp only [postAs, accepted]
    exact (leaves_done _ _ _ _ _).mpr readable
  | ok order =>
    have keeps : Keeps host req caller order g (Answers host req caller order g)
      (postAs host req caller) [] := keeps_postAs accepted
    apply leaves_of_always (A := FromReadable g) (P := fun _ e => Harmless e)
      (fun n D e readable => fromReadable_react answers others n D e readable)
      (fun n D h e readable harmless => harmless_respond _ harmless (others n D readable))
      (keeps.mono _ fun _ _ _ => trivial) _ readable
    · intro h e submits from_
      exact harmless_of_submits made accepted from_ (submits fun ev mem => (from_ ev mem).admitted)
    · intro ev mem
      cases mem

theorem made_of_leaves (leaves : LeavesReadable host req caller g) :
    MadeByGateway host req caller g := by
  intro order accepted known
  have empty : Readable emptyTables := by
    intro row mem
    cases mem
  have inserted {session : Except String WebDatabase.Session} {created : Created}
      (made : serial (fun _ => respond (answering g session)) 0 emptyTables
        (create host order (isTestMode req caller) (localId (answering g session).uuid) req) =
          (emptyTables, .ok created)) :
      (∃ id, created.id = .stored id) ∧ Parses order := by
    have left := (leaves (undisturbed (answering g session)) emptyTables (fun _ => rfl)
      (fun _ _ readable => readable) empty).ends
    have mem : (creationInput host caller (environmentOf req caller) order created).inserted ⟨0⟩ ∈
        (serial (fun _ => respond (answering g session)) 0 emptyTables
          (postAs host req caller)).1.ledger.payments.rows := by
      rw [serial_created accepted known rfl made]
      exact List.mem_singleton_self _
    exact readable_creation_iff.mp (left _ mem)
  cases routed : routedBy host req caller order g with
  | handled created =>
    have made : serial (fun _ => respond (answering g (.error ""))) 0 emptyTables
        (create host order (isTestMode req caller) (localId "") req) =
          (emptyTables, .ok created) := serial_handled routed
    exact (inserted made).2
  | refused answer => trivial
  | unanswered =>
    have closed : ¬ (callsStripe host order req = true ∨
        simulates host order (isTestMode req caller) req = true) := by
      intro carried
      obtain ⟨created, own, made⟩ :=
        serial_carried ⟨"", none⟩ (localId "") 0 emptyTables routed carried
      obtain ⟨id, stored⟩ := (inserted made).1
      rw [own] at stored
      cases stored
    rw [not_or, Bool.not_eq_true, Bool.not_eq_true] at closed
    exact closed

/-- The rows that a submission leaves can be read, under every gateway that
answers this, exactly if the gateway makes the payments; and readable rows stop
no batch. -/
theorem rows_readable_iff (host : ApiHost) (req : ApiRequest) (caller : Caller)
    (g : GatewayAnswer) : (LeavesReadable host req caller g ↔ MadeByGateway host req caller g) ∧
      ∀ D, Readable D → BatchReads D := by
  refine ⟨⟨made_of_leaves, leaves_readable⟩, fun D readable => batch_reads readable⟩

end Main

section Samples

def orderBody : String :=
  "\x7b\"amount_minor_units\":100,\"customer\":\x7b\"phone\":\"01000000000\"\x7d\x7d"

def orderRequest : ApiRequest := ⟨"v1", [("idempotency-key", "order-1")], 63, orderBody⟩

/-- No gateway is configured. -/
def sandboxHost : ApiHost :=
  webHost [(orderBody, .obj [("amount_minor_units", .num "100"),
    ("customer", .obj [("phone", .str "01000000000")])])]

def testCaller : Caller := ⟨1, "user-1", "test"⟩

/-- A test payment that the web application makes up is stored under an id that
the gateway cannot parse. -/
theorem rows_unreadable : ¬ ∀ (host : ApiHost) (req : ApiRequest) (caller : Caller)
    (g : GatewayAnswer), LeavesReadable host req caller g := by
  intro claim
  have made := made_of_leaves (claim sandboxHost orderRequest testCaller (.lost ""))
  have accepted : ∃ order, accept sandboxHost orderRequest = .ok order ∧
      order.provider = .paymob := ⟨_, rfl, rfl⟩
  obtain ⟨order, accepted, provider⟩ := accepted
  have known : missingCredentials sandboxHost orderRequest testCaller order = some none := rfl
  have unanswered : routedBy sandboxHost orderRequest testCaller order (.lost "") =
      .unanswered := by
    simp only [routedBy, routing, provider]
    rfl
  have path := made order accepted known
  rw [unanswered] at path
  simp [simulates, provider, testCaller, isTestMode] at path

end Samples

end OpenWrapper.ReadableRows
