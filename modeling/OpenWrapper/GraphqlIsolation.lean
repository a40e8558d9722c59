import OpenWrapper.CallbackAuthentication
import OpenWrapper.GraphqlRoute

/-! # Whose payments the GraphQL route returns

Both resolvers add the condition on the owner for a known user only. A request
that nobody is authenticated for reads every merchant's payments. -/

set_option autoImplicit false

namespace OpenWrapper.GraphqlIsolation
open OpenWrapper.Ids OpenWrapper.Payments OpenWrapper.Providers OpenWrapper.Schema
open OpenWrapper.JsonValue OpenWrapper.WebDatabase OpenWrapper.CallbackRoutes
open OpenWrapper.GraphqlRoute
open OpenWrapper.Suspended OpenWrapper.Suspended.Prog

/-- A GraphQL request, what its authentication meets, and the database. -/
structure Call where
  host : GraphqlHost
  req : GraphqlRequest
  draws : ℕ → WebDraw
  db : Database

namespace Call

variable (c : Call)

def context : GraphQLContext :=
  (serial (fun n => respond (c.draws n)) 0 c.db (contextOf c.host c.req)).2

def user : Option String := c.context.user

def fields : List RootField := fieldsOf c.host c.req

def answer (readings : ℕ → Reading) : GraphqlAnswer :=
  GraphqlRoute.answer c.host c.req c.db readings c.context

end Call

/-- The payment is the authenticated user's. -/
def Belongs (user : Option String) (node : PaymentNode) : Prop :=
  ∃ u, user = some u ∧ node.row.payment.userId = some u

/-- Some stored payment fits the arguments of the field, whoever owns it. -/
def Fits (D : Database) : RootField → Prop
  | .payment id => ∃ row ∈ D.ledger.payments.rows, idText row.id = id
  | .payments args =>
    safeOffset args.offset < (D.ledger.payments.rows.filter (selected args)).length
  | _ => False

section Resolvers

variable {host : GraphqlHost} {D : Database} {reading : Reading} {context : GraphQLContext}
  {u : String}

theorem mem_visited {row : PaymentRow} : row ∈ visited D reading ↔ row ∈ D.ledger.payments.rows :=
  List.mem_insertionSort _

theorem visited_perm : (visited D reading).Perm D.ledger.payments.rows :=
  List.perm_insertionSort _ _

theorem owned_of_user {row : PaymentRow} (known : context.user = some u) :
    owned context row = true ↔ row.userId = some u := by
  simp [owned, known]

theorem owned_of_unknown {row : PaymentRow} (unknown : context.user = none) :
    owned context row = true := by
  simp [owned, unknown]

/-- For a known user each resolver returns only payments of the user. -/
theorem resolved_owned (known : context.user = some u) (field : RootField) :
    ∀ node ∈ (resolve host D reading context field).nodes, node.row.payment.userId = some u := by
  intro node mem
  cases field with
  | payment id =>
    simp only [resolve, payment] at mem
    split at mem
    next found fetched =>
      split at fetched
      · cases fetched
      · cases fetched
        obtain ⟨row, search, rfl⟩ := Option.map_eq_some_iff.mp (Option.mem_toList.mp mem)
        have passes := List.find?_some search
        simp only [Bool.and_eq_true] at passes
        exact (owned_of_user known).mp passes.2
    · cases mem
  | payments args =>
    simp only [resolve, payments] at mem
    split at mem
    next nodes fetched =>
      split at fetched
      · cases fetched
      · cases fetched
        obtain ⟨row, taken, rfl⟩ := List.mem_map.mp mem
        have kept := List.mem_of_mem_drop (List.mem_of_mem_take taken)
        rw [newestFirst, List.mem_insertionSort, List.mem_filter, Bool.and_eq_true] at kept
        exact (owned_of_user known).mp kept.2.1
    · cases mem
  | _ => cases mem

/-- Without a user the owner restricts nothing. -/
theorem length_unowned (unknown : context.user = none) (args : PaymentsArgs) :
    ((visited D reading).filter fun row => owned context row && selected args row).length =
      (D.ledger.payments.rows.filter (selected args)).length := by
  simp only [owned_of_unknown unknown, Bool.true_and]
  exact (visited_perm.filter _).length_eq

theorem safeLimit_pos (limit : Option ℤ) : 0 < safeLimit limit := by
  unfold safeLimit
  omega

/-- Without a user a resolver returns a payment if any fits and the query is
executed. -/
theorem resolved_unowned (unknown : context.user = none) (works : reading.fails = false)
    {field : RootField} (fits : Fits D field) :
    (resolve host D reading context field).nodes ≠ [] := by
  cases field with
  | payment id =>
    obtain ⟨row, mem, named⟩ := fits
    simp only [resolve, payment, works, Bool.false_eq_true, if_false]
    cases search : (visited D reading).find? fun row => idText row.id == id && owned context row with
    | some found => simp [Resolved.nodes]
    | none =>
      have unseen := List.find?_eq_none.mp search row (mem_visited.mpr mem)
      simp [named, owned_of_unknown unknown] at unseen
  | payments args =>
    have limited := safeLimit_pos args.limit
    have left : safeOffset args.offset < _ := fits
    simp only [resolve, payments, works, Bool.false_eq_true, if_false, Resolved.nodes]
    intro empty
    have short := congrArg List.length empty
    simp only [List.length_map, List.length_take, List.length_drop, List.length_nil, newestFirst,
      List.length_insertionSort, length_unowned unknown] at short
    omega
  | _ => exact fits.elim

/-- And none if none fits. -/
theorem resolved_unfit (unknown : context.user = none) {field : RootField}
    (unfit : ¬ Fits D field) : (resolve host D reading context field).nodes = [] := by
  cases field with
  | payment id =>
    have absent : ((visited D reading).find? fun row => idText row.id == id && owned context row) =
        none := by
      rw [List.find?_eq_none]
      intro row mem
      have differs : idText row.id ≠ id := fun named => unfit ⟨row, mem_visited.mp mem, named⟩
      simp [differs]
    simp only [resolve, payment, absent]
    by_cases fails : reading.fails = true <;> simp [fails, Resolved.nodes]
  | payments args =>
    have few : (D.ledger.payments.rows.filter (selected args)).length ≤ safeOffset args.offset :=
      Nat.le_of_not_lt unfit
    have none_left : (newestFirst .postgres ((visited D reading).filter fun row =>
        owned context row && selected args row)).drop (safeOffset args.offset) = [] := by
      rw [List.drop_eq_nil_iff, newestFirst, List.length_insertionSort, length_unowned unknown]
      exact few
    simp only [resolve, payments, none_left]
    by_cases fails : reading.fails = true <;> simp [fails, Resolved.nodes]
  | _ => rfl

end Resolvers

section Main

variable {c : Call} {readings : ℕ → Reading}

/-- A request without a document is answered without payments. -/
theorem refused_nodes {m : Method} {refused : GraphqlAnswer} (is : documentOf m = .error refused) :
    refused.nodes = [] := by
  cases m with
  | get accept query =>
    simp only [documentOf] at is
    split at is
    · cases is
      rfl
    · split at is
      · cases is
      · cases is
        rfl
  | post body =>
    cases body with
    | error message =>
      cases is
      rfl
    | ok body =>
      simp only [documentOf] at is
      split at is
      · split at is
        · cases is
          rfl
        · cases is
      · cases is
        rfl
      · cases is
        rfl

theorem thrown_nodes (message : String) (m : Method) : (thrown message m).nodes = [] := by
  cases m <;> rfl

/-- What is returned comes from the fields of the request. -/
theorem mem_answer {node : PaymentNode} : node ∈ (c.answer readings).nodes ↔
    ∃ i field, c.fields[i]? = some field ∧
      node ∈ (resolve c.host c.db (readings i) c.context field).nodes := by
  unfold Call.answer GraphqlRoute.answer Call.fields fieldsOf
  cases received : documentOf c.req.method with
  | error refused => simp [refused_nodes received]
  | ok document =>
    obtain ⟨source, variableValues, operationName⟩ := document
    cases planned : c.host.plan source variableValues operationName with
    | error message => simp [planned, thrown_nodes]
    | ok plan =>
      cases plan with
      | none => simp [planned, GraphqlAnswer.nodes]
      | some fields =>
        simp only [planned, executeGraphQL, GraphqlAnswer.nodes, List.mem_flatMap, List.mem_map,
          Prod.exists, List.mk_mem_zipIdx_iff_getElem?]
        constructor
        · rintro ⟨result, ⟨field, i, asked, rfl⟩, returned⟩
          exact ⟨i, field, asked, returned⟩
        · rintro ⟨i, field, asked, returned⟩
          exact ⟨_, ⟨field, i, asked, rfl⟩, returned⟩

/-- Readings under which every query is executed. -/
def working : ℕ → Reading := fun _ => ⟨⟨0⟩, fun _ => 0, false⟩

/-- Every payment returned is the authenticated user's exactly if there is such
a user, or else nothing stored fits what is asked for. -/
theorem tenant_isolated_iff (c : Call) :
    (∀ readings, ∀ node ∈ (c.answer readings).nodes, Belongs c.user node) ↔
      c.user ≠ none ∨ ∀ field ∈ c.fields, ¬ Fits c.db field := by
  constructor
  · intro held
    by_contra neither
    rw [not_or] at neither
    obtain ⟨anonymous, leaking⟩ := neither
    have unknown : c.context.user = none := not_not.mp anonymous
    push Not at leaking
    obtain ⟨field, mem, fits⟩ := leaking
    obtain ⟨i, asked⟩ := List.getElem?_of_mem mem
    have answered : (resolve c.host c.db (working i) c.context field).nodes ≠ [] :=
      resolved_unowned unknown rfl fits
    obtain ⟨node, returned⟩ := List.exists_mem_of_ne_nil _ answered
    obtain ⟨u, known, -⟩ := held working node (mem_answer.mpr ⟨i, field, asked, returned⟩)
    exact absurd (unknown.symm.trans known) (by simp)
  · rintro (known | unfit) readings node mem
    · obtain ⟨i, field, asked, returned⟩ := mem_answer.mp mem
      obtain ⟨u, is⟩ := Option.ne_none_iff_exists'.mp known
      exact ⟨u, is, resolved_owned is field node returned⟩
    · obtain ⟨i, field, asked, returned⟩ := mem_answer.mp mem
      cases is : c.user with
      | some u => exact ⟨u, rfl, resolved_owned is field node returned⟩
      | none =>
        rw [resolved_unfit is (unfit field (List.mem_of_getElem? asked))] at returned
        cases returned

section Samples

def query : String := "\x7b payment(id: \"00000000000000000000000001\") \x7b id amountMinorUnits \x7d \x7d"

/-- A host without sessions, whose library knows one document. -/
def anonymousHost : GraphqlHost where
  toHost := CallbackAuthentication.hostOf [] []
  safeInteger _ := none
  isEmail _ := true
  isHttpUrl _ := true
  gatewayBase := some
  encodeURIComponent := id
  printJson _ := ""
  getSession _ := some none
  toISOString _ := ""
  plan source _ _ :=
    .ok (if source = query then some [.payment "00000000000000000000000001"] else none)

/-- A merchant's payment. -/
def merchantRow : PaymentRow :=
  { CallbackAuthentication.pendingRow 1 .order ProviderId.stripe "cs_1" "INV-1" with
    userId := some "usr_merchant" }

/-- Nobody asks for the merchant's payment. -/
def anonymous : Call where
  host := anonymousHost
  req := ⟨[], .get "application/json" (some query)⟩
  draws := fun _ => CallbackWrites.favouring merchantRow
  db := CallbackAuthentication.holding [merchantRow] (List.pairwise_singleton _ _)

/-- And it is returned. -/
theorem tenants_not_isolated : ¬ ∀ (c : Call) (readings : ℕ → Reading),
    ∀ node ∈ (c.answer readings).nodes, Belongs c.user node := by
  intro claimed
  have returned : paymentNode anonymousHost anonymous.db merchantRow ∈
      (anonymous.answer working).nodes := by
    apply mem_answer.mpr
    refine ⟨0, .payment "00000000000000000000000001", by decide +kernel, ?_⟩
    exact List.mem_singleton_self _
  obtain ⟨u, known, -⟩ := claimed anonymous working _ returned
  have unknown : anonymous.user = none := by rfl
  rw [unknown] at known
  cases known

end Samples

end Main

end OpenWrapper.GraphqlIsolation
