import OpenWrapper.Claimants

/-! # Live payments and the mock

Which adapter a payment is inquired or refunded at is decided anew by every
request, from the server's configuration and the caller's credentials. It is
of the kind the payment was created at as long as the credentials of the two
requests are complete, or incomplete, alike. -/

set_option autoImplicit false

namespace OpenWrapper.Simulation
open OpenWrapper.Ids OpenWrapper.Errors OpenWrapper.Payments OpenWrapper.Schema
open OpenWrapper.ConstraintTable OpenWrapper.PaymentStore OpenWrapper.StoreContract
open OpenWrapper.Providers OpenWrapper.Headers OpenWrapper.Stateless OpenWrapper.Effects
open OpenWrapper.Gateway OpenWrapper.Contracts OpenWrapper.Evolution OpenWrapper.Claimants
open OpenWrapper.Suspended OpenWrapper.Interleaving

/-- The caller or the environment supplies every credential of the provider. -/
def credentialed (env : Env) (h : HeaderMap) (name : String) : Bool :=
  match name with
  | "fawry" =>
    (credential env h "x-fawry-merchant-code" "FAWRY_MERCHANT_CODE").isSome &&
      (credential env h "x-fawry-secure-key" "FAWRY_SECURE_KEY").isSome
  | "paymob" =>
    (credential env h "x-paymob-secret-key" "PAYMOB_SECRET_KEY").isSome &&
      (credential env h "x-paymob-public-key" "PAYMOB_PUBLIC_KEY").isSome &&
      (credential env h "x-paymob-hmac-secret" "PAYMOB_HMAC_SECRET").isSome &&
      (paymobIntegration env h).isSome
  | "stripe" => (credential env h "x-stripe-secret-key" "STRIPE_SECRET_KEY").isSome
  | _ => false

/-- The headers a provider is resolved from. -/
def callerHeaders : Origin → HeaderMap
  | .http headers _ => headers
  | _ => ⟨[]⟩

/-- The server has the provider, or both callers have its credentials, or
neither has. -/
def Alike (app : App) (name : String) (o o' : Origin) : Prop :=
  (app.providers name).isSome = true ∨
    credentialed app.env (callerHeaders o) name = credentialed app.env (callerHeaders o') name

instance (app : App) (name : String) (o o' : Origin) : Decidable (Alike app name o o') :=
  inferInstanceAs (Decidable (_ ∨ _))

/-- The adapter an effect creates the payment at. -/
def creationAt (id : PaymentId) : Effect → Option Provider
  | .createPayment p of_ _ => if of_ = id then some p else none
  | _ => none

/-- The adapter an effect inquires the payment at, or refunds it at. -/
def consultedAt (id : PaymentId) : Effect → Option Provider
  | .inquireStatus p payment _ => if payment = .stored id then some p else none
  | .refund p of_ _ _ _ => if of_ = id then some p else none
  | _ => none

/-- The effect stores what an inquiry or a refund came to. -/
def storesResult (id : PaymentId) : Effect → Bool
  | .store (.applyReconciliationResult of_ _) => of_ == id
  | .store (.recordRefund record _) => record.paymentId == id
  | _ => false

/-- Every adapter consulted about the payment is simulated exactly if the one
it was created at is, and results are stored only from such an adapter. -/
structure Separated (id : PaymentId) (w : GwWorld) : Prop where
  consulted : ∀ t ∈ w.tasks, ∀ ev ∈ t.history, ∀ p, creationAt id ev.1 = some p →
    ∀ t' ∈ w.tasks, ∀ ev' ∈ t'.history, ∀ p', consultedAt id ev'.1 = some p' →
    p'.simulated = p.simulated
  stored : ∀ t ∈ w.tasks, ∀ ev ∈ t.history, ∀ p, creationAt id ev.1 = some p →
    ∀ t' ∈ w.tasks, ∀ ev' ∈ t'.history, storesResult id ev'.1 = true →
    ∃ asked ∈ t'.history, ∃ p', consultedAt id asked.1 = some p' ∧ p'.simulated = p.simulated

def creates (id : PaymentId) (t : GwTask) : Bool :=
  t.history.any fun ev => (creationAt id ev.1).isSome

/-- Whoever consults an adapter about the payment has the credentials of its
provider exactly if the request that created it had. -/
def Consistent (app : App) (id : PaymentId) (w : GwWorld) (i : ℕ) : Prop :=
  ∀ t ∈ w.tasks[i]?, t.awaiting (fun e => (consultedAt id e).isSome) = true →
    ∀ t' ∈ w.tasks, creates id t' = true → ∀ row ∈ w.shared.ledger.payments.rows,
      row.id = .stored id → ∀ provider ∈ row.provider.parse,
        Alike app provider.asStr t.origin t'.origin

instance (app : App) (id : PaymentId) (w : GwWorld) (i : ℕ) : Decidable (Consistent app id w i) :=
  inferInstanceAs (Decidable (∀ t ∈ w.tasks[i]?, _))

def Guard (app : App) (id : PaymentId) (w : GwWorld) : GwAction → Prop
  | .advance i _ => Consistent app id w i
  | .spawn _ => True
  | .cancel _ => True

instance (app : App) (id : PaymentId) (w : GwWorld) : (a : GwAction) → Decidable (Guard app id w a)
  | .advance i _ => inferInstanceAs (Decidable (Consistent app id w i))
  | .spawn _ => .isTrue trivial
  | .cancel _ => .isTrue trivial

section Resolution

variable {app : App} {env : Env} {configured : Configured} {h : HeaderMap} {name : String}
  {p : Provider}

theorem newFawry_simulated {config : FawryConfig} (made : Provider.newFawry config = .ok p) :
    p.simulated = false := by
  unfold Provider.newFawry at made
  split at made
  · cases made
  · cases made
    rfl

theorem cachedMockProvider_simulated (name : String) :
    (cachedMockProvider name).simulated = true := by
  unfold cachedMockProvider
  split <;> rfl

theorem mock_of_test {e : OpenWrapperError} {test : Bool}
    (resolved : (if test = true then .ok (cachedMockProvider name) else .error e :
      Except OpenWrapperError Provider) = .ok p) : p.simulated = true := by
  split at resolved
  · cases resolved
    exact cachedMockProvider_simulated name
  · cases resolved

theorem resolveFawry_simulated (resolved : resolveFawry env h = .ok p) :
    p.simulated = !credentialed env h "fawry" := by
  unfold resolveFawry at resolved
  split at resolved
  next merchantCode secureKey code key =>
    rw [newFawry_simulated resolved]
    simp [credentialed, code, key]
  next missing =>
    rw [mock_of_test resolved]
    cases code : credential env h "x-fawry-merchant-code" "FAWRY_MERCHANT_CODE" with
    | none => simp [credentialed, code]
    | some merchantCode =>
      cases key : credential env h "x-fawry-secure-key" "FAWRY_SECURE_KEY" with
      | none => simp [credentialed, key]
      | some secureKey => exact absurd key (missing _ _ code)

theorem resolvePaymob_simulated (resolved : resolvePaymob env h = .ok p) :
    p.simulated = !credentialed env h "paymob" := by
  unfold resolvePaymob at resolved
  split at resolved
  next secretKey publicKey hmacSecret integration secret public_ hmac integrated =>
    split at resolved
    · cases resolved
    · cases resolved
      simp [credentialed, secret, public_, hmac, integrated, Provider.simulated]
  next missing =>
    rw [mock_of_test resolved]
    cases secret : credential env h "x-paymob-secret-key" "PAYMOB_SECRET_KEY" with
    | none => simp [credentialed, secret]
    | some secretKey =>
      cases public_ : credential env h "x-paymob-public-key" "PAYMOB_PUBLIC_KEY" with
      | none => simp [credentialed, public_]
      | some publicKey =>
        cases hmac : credential env h "x-paymob-hmac-secret" "PAYMOB_HMAC_SECRET" with
        | none => simp [credentialed, hmac]
        | some hmacSecret =>
          cases integrated : paymobIntegration env h with
          | none => simp [credentialed, integrated]
          | some integration => exact absurd integrated (missing _ _ _ _ secret public_ hmac)

theorem resolveStripe_simulated (resolved : resolveStripe env h = .ok p) :
    p.simulated = !credentialed env h "stripe" := by
  unfold resolveStripe at resolved
  split at resolved
  next secretKey key =>
    cases resolved
    simp [credentialed, key, Provider.simulated]
  next missing =>
    rw [mock_of_test resolved]
    simp [credentialed, missing]

theorem resolveMock_simulated (resolved : resolveMock h = .ok p) : p.simulated = true := by
  unfold resolveMock at resolved
  split at resolved
  all_goals
    cases resolved
    rfl

/-- Where the server has no provider of the name, the credentials decide. -/
theorem resolve_simulated (resolved : resolvePaymentProvider env configured name h = .ok p)
    (unconfigured : configured name = none) : p.simulated = !credentialed env h name := by
  unfold resolvePaymentProvider at resolved
  rw [unconfigured] at resolved
  dsimp only at resolved
  split at resolved
  · exact resolveFawry_simulated resolved
  · exact resolvePaymob_simulated resolved
  · exact resolveStripe_simulated resolved
  · exact resolveMock_simulated resolved
  · cases resolved

theorem resolve_configured (resolved : resolvePaymentProvider env configured name h = .ok p)
    {q : Provider} (known : configured name = some q) : p = q := by
  unfold resolvePaymentProvider at resolved
  rw [known] at resolved
  cases resolved
  rfl

theorem credentialed_sameCaller {headers h' : HeaderMap} (same : SameCaller headers h') :
    credentialed env h' name = credentialed env headers name := by
  have value : ∀ header, ¬ isInternal header → headerValue h' header = headerValue headers header := by
    intro header outside
    rw [headerValue, headerValue, HeaderMap.getStr, HeaderMap.getStr, same header outside]
  have supplied : ∀ header variable_, ¬ isInternal header →
      credential env h' header variable_ = credential env headers header variable_ := by
    intro header variable_ outside
    rw [credential, credential, value header outside]
  unfold credentialed paymobIntegration
  repeat rw [supplied]
  all_goals simp [isInternal]

theorem resolves_simulated {o : Origin} (resolves : Resolves app o name p)
    (unconfigured : app.providers name = none) :
    p.simulated = !credentialed app.env (callerHeaders o) name := by
  cases resolves with
  | server o name p known => rw [unconfigured] at known; cases known
  | request headers h route name p same resolved =>
    rw [resolve_simulated resolved unconfigured, credentialed_sameCaller same]
    rfl
  | environment name p resolved => exact resolve_simulated resolved unconfigured

theorem resolves_configured {o : Origin} (resolves : Resolves app o name p) {q : Provider}
    (known : app.providers name = some q) : p = q := by
  cases resolves with
  | server o name p known' => rw [known] at known'; exact (Option.some.inj known').symm
  | request headers h route name p same resolved => exact resolve_configured resolved known
  | environment name p resolved => exact resolve_configured resolved known

theorem resolves_alike {o o' : Origin} {p' : Provider} (resolves : Resolves app o name p)
    (resolves' : Resolves app o' name p') (alike : Alike app name o o') :
    p.simulated = p'.simulated := by
  cases known : app.providers name with
  | some q => rw [resolves_configured resolves known, resolves_configured resolves' known]
  | none =>
    rcases alike with configured | same
    · rw [known] at configured
      cases configured
    · rw [resolves_simulated resolves known, resolves_simulated resolves' known, same]

end Resolution

section Rows

/-- The payment is stored under this provider's name. -/
def StoredAt (L : Ledger) (id : PaymentId) (provider : ProviderId) : Prop :=
  ∃ row ∈ L.payments.rows, row.id = .stored id ∧ row.provider = .stored provider

theorem StoredAt.evolves {L L' : Ledger} {id : PaymentId} {provider : ProviderId}
    (stored : StoredAt L id provider) (evolves : Evolves L L') : StoredAt L' id provider := by
  obtain ⟨row, mem, is, at_⟩ := stored
  obtain ⟨row', mem', cont⟩ := evolves.payments row mem
  exact ⟨row', mem', cont.id.trans is, cont.provider.trans at_⟩

theorem StoredAt.unique {L : Ledger} {id : PaymentId} {provider provider' : ProviderId}
    (stored : StoredAt L id provider) (stored' : StoredAt L id provider') :
    provider = provider' := by
  obtain ⟨row, mem, is, at_⟩ := stored
  obtain ⟨row', mem', is', at_'⟩ := stored'
  have one := row_eq_of_id mem mem' (is.trans is'.symm)
  rw [one, at_'] at at_
  exact (Text.stored.inj at_).symm

/-- A claim stores its payment under the provider the request names. -/
def Provided (s : Shared) : GwEvent → Prop
  | ⟨.store (.beginPaymentWithOwner request _), .ok (.proceed id)⟩ =>
    StoredAt s.ledger id request.provider
  | _ => True

theorem Provided.evolves {s s' : Shared} {ev : GwEvent} (provided : Provided s ev)
    (evolves : Evolves s.ledger s'.ledger) : Provided s' ev := by
  unfold Provided at provided ⊢
  split
  · exact StoredAt.evolves provided evolves
  · trivial

theorem react_provided {b : Backend} {app : App} {s s' : Shared} {e : Effect} {c : Choice}
    {r : e.Response} (reacted : react b app s e c = some (s', r)) : Provided s' ⟨e, r⟩ := by
  cases e with
  | store op =>
    obtain ⟨d, same, rfl⟩ := react_store reacted
    have outcome := execOp_outcome app.fingerprint b d s.ledger op
    rw [← same] at outcome
    generalize (execOp app.fingerprint b d s.ledger op).2 = r at outcome
    generalize same : s'.ledger = L' at outcome
    cases outcome with
    | begun request owner now payments inserted =>
      refine ⟨(newRow app.fingerprint request owner d.fresh now).kept b, ?_, rfl, rfl⟩
      rw [same]
      simp [(Table.insert_eq_some.mp inserted).2]
    | failed op => cases op <;> trivial
    | _ => trivial
  | _ => trivial

end Rows

section Calls

variable {app : App} {w : GwWorld} {t : GwTask} {id : PaymentId} {e : Effect} {p : Provider}

/-- The adapter was resolved from the name the payment is stored under. -/
def ResolvedFor (app : App) (w : GwWorld) (id : PaymentId) (o : Origin) (p : Provider) : Prop :=
  ∃ provider, StoredAt w.shared.ledger id provider ∧ Resolves app o provider.asStr p

theorem creation_resolved (provided : Recorded Provided w) (mem : t ∈ w.tasks) {h : Past}
    (suffix : h <:+ t.history) (license : Licensed app t.origin h e)
    (creation : creationAt id e = some p) : ResolvedFor app w id t.origin p := by
  unfold creationAt at creation
  split at creation
  next q of_ request =>
    split at creation
    next same =>
      cases creation
      subst same
      obtain ⟨⟨owner, rest, began⟩, resolves⟩ := license
      have said : told (.beginPaymentWithOwner request owner) (.proceed of_) ∈ t.history :=
        suffix.subset (by rw [began]; exact List.mem_cons_self)
      exact ⟨request.provider, provided t mem _ said, resolves⟩
    · cases creation
  · cases creation

theorem consulted_resolved (claims : Claims app w) (mem : t ∈ w.tasks)
    (license : Licensed app t.origin t.history e) (consulted : consultedAt id e = some p) :
    ResolvedFor app w id t.origin p := by
  unfold consultedAt at consulted
  split at consulted
  next q payment reference =>
    split at consulted
    next same =>
      cases consulted
      subst same
      rcases license with ⟨held, holds, is, known, resolves⟩ | ⟨d, received, is, -, known⟩
      · obtain ⟨row, still⟩ := claims.sane.stored mem holds
        exact ⟨held.provider, ⟨row, still.mem, still.id.trans is.symm, still.provider⟩, resolves⟩
      · obtain ⟨row, stored, same, ⟨provider, at_, named⟩, -⟩ :=
          claims.posted.handed t mem _ received
        rw [← named] at known
        exact ⟨provider, ⟨row, stored, same.trans is.symm, at_⟩, .server _ _ _ known⟩
    · cases consulted
  next q of_ reference amount reason =>
    split at consulted
    next same =>
      cases consulted
      subst same
      obtain ⟨asked, payment, previously, checked, is, -, resolves⟩ := license
      obtain ⟨rest, read⟩ := checked.read
      have holds : Holds t.history payment :=
        ⟨told (.getPayment asked) (some payment), by rw [read]; simp, List.mem_cons_self⟩
      obtain ⟨row, still⟩ := claims.sane.stored mem holds
      exact ⟨payment.provider, ⟨row, still.mem, by rw [is]; exact still.id, still.provider⟩,
        resolves⟩
    · cases consulted
  · cases consulted

theorem settles_of_consulted (consulted : consultedAt id e = some p) : settles id e = true := by
  unfold consultedAt at consulted
  split at consulted
  next q payment reference =>
    split at consulted
    next same => simp [settles, same]
    · cases consulted
  next q of_ reference amount reason =>
    split at consulted
    next same => simp [settles, same]
    · cases consulted
  · cases consulted

theorem not_consulted_of_creation {q : Provider} (creation : creationAt id e = some p) :
    consultedAt id e ≠ some q := by
  cases e with
  | createPayment p of_ request => simp [consultedAt]
  | _ => simp [creationAt] at creation

/-- A task about to create a payment has the row still untouched. -/
theorem creation_claimed (claims : Claims app w) (mem : t ∈ w.tasks)
    (license : Licensed app t.origin t.history e) (creation : creationAt id e = some p) :
    Claimed w.shared.ledger id := by
  unfold creationAt at creation
  split at creation
  next q of_ request =>
    split at creation
    next same =>
      subst same
      obtain ⟨⟨owner, rest, began⟩, -⟩ := license
      exact claims.pristine of_ t mem (claims.unwritten_of_proceeding mem began)
    · cases creation
  · cases creation

/-- A result is stored right after the answer of the adapter it came from. -/
theorem consulted_of_stored (sane : Sane app w) (mem : t ∈ w.tasks) {h : Past}
    (suffix : h <:+ t.history) (license : Licensed app t.origin h e)
    (stores : storesResult id e = true) :
    ∃ asked ∈ t.history, ∃ p, consultedAt id asked.1 = some p := by
  unfold storesResult at stores
  split at stores
  next of_ status =>
    obtain ⟨-, p, reference, rest, inquired⟩ := license
    refine ⟨⟨.inquireStatus p (.stored of_) reference, .ok status⟩, suffix.subset ?_, p, ?_⟩
    · rw [inquired]
      exact List.mem_cons_self
    · simp [consultedAt, beq_iff_eq.mp stores]
  next record status =>
    obtain ⟨now, generated, p, payment, reference, result, previously, rest, is, checked, -⟩ :=
      license.answered
    obtain ⟨earlier, read⟩ := checked.read
    have named : payment.id = record.paymentId := sane.truthful t mem
      (told (.getPayment record.paymentId) (some payment)) (suffix.subset (by rw [is, read]; simp))
    refine ⟨⟨.refund p payment.id reference record.amountMinorUnits record.reason, .ok result⟩,
      suffix.subset (by rw [is]; simp), p, ?_⟩
    simp [consultedAt, named, beq_iff_eq.mp stores]
  · cases stores

end Calls

section Runs

variable {b : Backend} {app : App} {id : PaymentId} {w w' : GwWorld}

structure Invariant (app : App) (id : PaymentId) (w : GwWorld) : Prop where
  claims : Claims app w
  provided : Recorded Provided w
  consulted : ∀ t ∈ w.tasks, ∀ ev ∈ t.history, ∀ p, creationAt id ev.1 = some p →
    ∀ t' ∈ w.tasks, ∀ ev' ∈ t'.history, ∀ p', consultedAt id ev'.1 = some p' →
    p'.simulated = p.simulated

theorem invariant_start (apiKeys : List ApiKeyRow) : Invariant app id (start apiKeys) :=
  ⟨claims_start apiKeys, by simp [start, Recorded], by simp [start]⟩

/-- Who consulted an adapter found the payment's reference in its row. -/
theorem referenced_of_consulted (claims : Claims app w) {t : GwTask} (mem : t ∈ w.tasks)
    {ev : GwEvent} (known : ev ∈ t.history) {p : Provider}
    (consulted : consultedAt id ev.1 = some p) : Referenced w.shared.ledger id := by
  obtain ⟨h, suffix, license⟩ := (claims.sane.follows t mem).2.of_mem known
  exact referenced_of_settles claims.sane claims.posted mem ((List.suffix_cons _ _).trans suffix)
    license (settles_of_consulted consulted)

/-- An adapter consulted under the guard is of the kind the payment was
created at. -/
theorem consult_step (inv : Invariant app id w) {i : ℕ} {c : Choice}
    (adv : Advanced (setting b app) w i c w') (consistent : Consistent app id w i) {t : GwTask}
    (mem : t ∈ w.tasks) {ev : GwEvent} (known : ev ∈ t.history) {p p' : Provider}
    (creation : creationAt id ev.1 = some p) (consulted : consultedAt id adv.effect = some p') :
    p'.simulated = p.simulated := by
  obtain ⟨h, suffix, license⟩ := (inv.claims.sane.follows t mem).2.of_mem known
  obtain ⟨provider, stored, resolves⟩ := creation_resolved inv.provided mem
    ((List.suffix_cons _ _).trans suffix) license creation
  obtain ⟨provider', stored', resolves'⟩ := consulted_resolved inv.claims adv.mem
    (adv.licensed inv.claims.sane.follows) consulted
  have one : provider' = provider := stored'.unique stored
  subst one
  obtain ⟨row, held, is, at_⟩ := stored
  have waiting : adv.task.awaiting (fun e => (consultedAt id e).isSome) = true :=
    Task.awaiting_iff.mpr ⟨adv.live, adv.effect, adv.resume, adv.suspended, by simp [consulted]⟩
  have made : creates id t = true :=
    List.any_eq_true.mpr ⟨ev, known, by simp [creation]⟩
  have alike := consistent adv.task adv.found waiting t mem made row held is provider'
    (by simp [at_])
  exact resolves_alike resolves' resolves alike

theorem Invariant.step {a : GwAction} (inv : Invariant app id w) (guard : Guard app id w a)
    (stepped : step (setting b app) w a = some w') : Invariant app id w' where
  claims := inv.claims.step stepped
  provided := by
    refine recorded_step (fun i c adv => react_provided adv.reacted) ?_ inv.provided stepped
    intro i c adv ev provided
    exact provided.evolves (react_evolves adv.reacted)
  consulted := by
    intro t mem ev known p creation t' mem' ev' known' p' consulted
    obtain ⟨o, -, rfl⟩ | ⟨i, c, rfl, ⟨adv⟩⟩ | ⟨i, dropped, -, found, rfl⟩ := step_cases stepped
    · have earlier : ∀ t : GwTask, t ∈ w.tasks ++ [Task.start (setting b app) o] →
          ∀ ev ∈ t.history, t ∈ w.tasks := by
        intro t mem ev known
        rcases List.mem_append.mp mem with old | new
        · exact old
        · rw [List.mem_singleton.mp new] at known
          cases known
      exact inv.consulted t (earlier t mem ev known) ev known p creation t'
        (earlier t' mem' ev' known') ev' known' p' consulted
    · have license := adv.licensed inv.claims.sane.follows
      rcases adv.event_cases mem known with ⟨rfl, -⟩ | ⟨s, was, -, knew⟩
      · rcases adv.event_cases mem' known' with ⟨rfl, -⟩ | ⟨s', was', -, knew'⟩
        · exact absurd consulted (not_consulted_of_creation creation)
        · have claimed := creation_claimed inv.claims adv.mem license creation
          exact absurd (referenced_of_consulted inv.claims was' knew' consulted)
            claimed.not_referenced
      · rcases adv.event_cases mem' known' with ⟨rfl, -⟩ | ⟨s', was', -, knew'⟩
        · exact consult_step inv adv guard was knew creation consulted
        · exact inv.consulted s was ev knew p creation s' was' ev' knew' p' consulted
    · have earlier : ∀ t : GwTask, t ∈ w.tasks.set i dropped.dropped →
          ∃ s ∈ w.tasks, s.history = t.history := by
        intro t mem
        rcases List.mem_or_eq_of_mem_set mem with old | rfl
        · exact ⟨t, old, rfl⟩
        · exact ⟨dropped, List.mem_of_getElem? found, rfl⟩
      obtain ⟨s, was, same⟩ := earlier t mem
      obtain ⟨s', was', same'⟩ := earlier t' mem'
      exact inv.consulted s was ev (by rw [same]; exact known) p creation s' was' ev'
        (by rw [same']; exact known') p' consulted

theorem separated_of_invariant (inv : Invariant app id w) : Separated id w where
  consulted := inv.consulted
  stored := by
    intro t mem ev known p creation t' mem' ev' known' stores
    obtain ⟨h, suffix, license⟩ := (inv.claims.sane.follows t' mem').2.of_mem known'
    obtain ⟨asked, heard, p', consulted⟩ := consulted_of_stored inv.claims.sane mem'
      ((List.suffix_cons _ _).trans suffix) license stores
    exact ⟨asked, heard, p', consulted,
      inv.consulted t mem ev known p creation t' mem' asked heard p' consulted⟩

/-- In every run whose consultations are made with the credentials the payment
was created with, live payments and simulated ones stay apart. -/
theorem simulation_separated (b : Backend) (app : App) (apiKeys : List ApiKeyRow)
    (id : PaymentId) (actions : List GwAction) (w : GwWorld)
    (guarded : Meets (setting b app) (Guard app id) (start apiKeys) actions)
    (ran : run (setting b app) (start apiKeys) actions = some w) : Separated id w :=
  separated_of_invariant (run_invariant (fun _ _ _ inv guard stepped => inv.step guard stepped)
    (invariant_start apiKeys) guarded ran)

theorem simulation_separated_paid : ∃ w, run (setting .sqlite shop) (start []) paid = some w ∧
    Separated ⟨1⟩ w := by
  have finished : (run (setting .sqlite shop) (start []) paid).isSome = true := by
    decide +kernel
  obtain ⟨w, ran⟩ := Option.isSome_iff_exists.mp finished
  exact ⟨w, ran, simulation_separated .sqlite shop [] ⟨1⟩ paid w (by decide +kernel) ran⟩

/-- A gateway with no providers of its own, a live key and a test key; the
digests of the keys are their SHA-256. -/
def statelessShop : App :=
  { shop with
    providers := fun _ => none
    apiKeys := some ["ow_live_1", "ow_test_1"]
    sha256Hex := fun text =>
      if text = "ow_live_1" then
        "b5ca54f405ec80ef20f69e4c79005bd5764009484f09b67aa40534ad2386745d"
      else if text = "ow_test_1" then
        "139bd2387d19c0971e9ff412b9866329ee4a075809114568e03911fddcc9ac68"
      else "-" ++ text }

def liveHeaders : HeaderMap := ⟨[("x-api-key", .text "ow_live_1"),
  ("idempotency-key", .text "order-1"), ("x-stripe-secret-key", .text "sk_live")]⟩

def testHeaders : HeaderMap := ⟨[("x-api-key", .text "ow_test_1")]⟩

/-- A payment created at Stripe, and a GET with the test key and no
credentials: the mock reports that it succeeded. -/
def settledByMock : List GwAction :=
  [.spawn (.http liveHeaders (.createPayment (orderBody "stripe"))),
    .advance 0 (.acquired true), .advance 0 (.draw (quietDraw 1)),
    .advance 0 (.created (.ok orderResult)), .advance 0 (.draw (quietDraw 0)),
    .spawn (.http testHeaders (.getPayment (.stored ⟨1⟩))), .advance 1 (.acquired true),
    .advance 1 (.draw (quietDraw 0)), .advance 1 (.inquired (.ok .succeeded)),
    .advance 1 (.draw (quietDraw 0))]

theorem simulation_not_separated : ¬ ∀ (b : Backend) (app : App) (apiKeys : List ApiKeyRow)
    (id : PaymentId) (actions : List GwAction) (w : GwWorld),
    run (setting b app) (start apiKeys) actions = some w → Separated id w := by
  intro claim
  have consulted : ∀ w, run (setting .sqlite statelessShop) (start []) settledByMock = some w →
      ∀ t ∈ w.tasks, ∀ ev ∈ t.history, ∀ p ∈ creationAt ⟨1⟩ ev.1, ∀ t' ∈ w.tasks,
        ∀ ev' ∈ t'.history, ∀ p' ∈ consultedAt ⟨1⟩ ev'.1, p'.simulated = p.simulated :=
    fun w ran => (claim .sqlite statelessShop [] ⟨1⟩ settledByMock w ran).consulted
  exact run_refutes (setting .sqlite statelessShop) (start []) settledByMock (by decide +kernel)
    consulted

end Runs

end OpenWrapper.Simulation
