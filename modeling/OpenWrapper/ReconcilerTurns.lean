import OpenWrapper.ReconcilerFairness

/-! # Every stale payment gets its turn

A pass asks about the hundred stale payments that sort first. Each write after
an inquiry moves its payment behind the others, so that the next pass comes to
those not asked about yet; a payment whose inquiry is followed by no write
stays in front. -/

set_option autoImplicit false

namespace OpenWrapper.ReconcilerTurns
open OpenWrapper.Ids OpenWrapper.Errors OpenWrapper.Payments OpenWrapper.Providers
open OpenWrapper.ConstraintTable OpenWrapper.Schema OpenWrapper.PaymentStore OpenWrapper.Effects
open OpenWrapper.Background OpenWrapper.Gateway OpenWrapper.ReconcilerContracts
open OpenWrapper.ReconcilerStore OpenWrapper.ReconcilerFairness
open OpenWrapper.Suspended OpenWrapper.Interleaving

section Progress

variable {app : App} {cutoff : Instant} {L₀ : Ledger} {w w' : GwWorld} {a : GwAction} {i : ℕ}
  {c : Choice}

def ReachedRow (w : GwWorld) (row : PaymentRow) : Prop :=
  ∃ id, row.id = .stored id ∧ Reached w id

/-- The row is about the payment that was listed. -/
structure Describes (row : PaymentRow) (payment : Payment) : Prop where
  id : row.id = .stored payment.id
  provider : row.provider = .stored payment.provider
  providerReference : row.providerReference = payment.providerReference

open Classical in
/-- How far the passes have come, of the payments that were stale at first. -/
structure Progress (app : App) (cutoff : Instant) (L₀ : Ledger) (w : GwWorld) : Prop where
  course : Course app cutoff w
  stems : ∀ row ∈ w.shared.ledger.payments.rows, ∃ row₀ ∈ L₀.payments.rows,
    row₀.id = row.id ∧ row₀.provider = row.provider ∧
      row₀.providerReference = row.providerReference
  early : ∀ row ∈ w.shared.ledger.payments.rows, Listable row →
    Late cutoff row ∨ row ∈ staleAt cutoff L₀
  kept : ∀ row ∈ staleAt cutoff L₀, row ∈ w.shared.ledger.payments.rows ∨ ReachedRow w row
  told : ∀ o age limit stale,
    Happened w o ⟨.store (.listStaleUnknownPayments age limit), .ok stale⟩ →
      ∀ payment ∈ stale, ∃ row₀ ∈ L₀.payments.rows, Describes row₀ payment
  counted : min (staleAt cutoff L₀).card (100 * passes w) ≤
    ((staleAt cutoff L₀).filter (ReachedRow w)).card

theorem mem_staleAt {row : PaymentRow} :
    row ∈ staleAt cutoff L₀ ↔ row ∈ L₀.payments.rows ∧ Listable row ∧ ¬ Late cutoff row := by
  simp only [staleAt, List.mem_toFinset, List.mem_filter, stale_iff]

theorem reachedRow_step {row : PaymentRow} (reached : ReachedRow w row)
    (stepped : step (setting .sqlite app) w a = some w') : ReachedRow w' row := by
  obtain ⟨id, is, reached⟩ := reached
  exact ⟨id, is, reached_step reached stepped⟩

theorem event_of_effect (adv : Moved app w i c w') {e : Effect} (is : adv.effect = e) :
    ∃ r, (⟨adv.effect, adv.response⟩ : GwEvent) = ⟨e, r⟩ := by
  subst is
  exact ⟨adv.response, rfl⟩

theorem passes_step (adv : Moved app w i c w') :
    passes w' = isListing ⟨adv.effect, adv.response⟩ + passes w :=
  total_advance isListing adv

open Classical in
theorem counted_of_subset {S : Finset PaymentRow} {n : ℕ} {p q : PaymentRow → Prop}
    (counted : n ≤ (S.filter p).card) (grows : ∀ row ∈ S, p row → q row) :
    n ≤ (S.filter q).card := by
  apply counted.trans
  apply Finset.card_le_card
  intro row mem
  rw [Finset.mem_filter] at mem ⊢
  exact ⟨mem.1, grows row mem.1 mem.2⟩

/-- The payments of a list that is read, and their rows. -/
theorem described_of_listed {age limit : ℤ} {listed : List Payment}
    (progress : Progress app cutoff L₀ w) (adv : Moved app w i c w')
    (proceeds : Proceeds cutoff w i adv.effect c)
    (event : (⟨adv.effect, adv.response⟩ : GwEvent) =
      ⟨.store (.listStaleUnknownPayments age limit), .ok listed⟩) :
    ∀ payment ∈ listed, ∃ row₀ ∈ L₀.payments.rows, Describes row₀ payment := by
  have licensed := (progress.course.ours.rotating adv).1
  obtain ⟨reacted, -⟩ := adv.of_event event
  obtain ⟨d, rfl, -, answer⟩ := react_draw reacted
  have effect_ : adv.effect = .store (.listStaleUnknownPayments age limit) :=
    congrArg Sigma.fst event
  rw [effect_] at proceeds licensed
  obtain ⟨-, -, rfl, rfl⟩ := licensed
  rw [list_answer proceeds.1] at answer
  dsimp only at answer
  split at answer
  next payments collected =>
    cases answer
    intro payment mem
    obtain ⟨row, inTake, read⟩ := StoreContract.mem_of_collect collected payment mem
    have inTable := (mem_listing.mp (List.mem_of_mem_take inTake)).1
    obtain ⟨row₀, mem₀, id, provider, reference⟩ := progress.stems row inTable
    have from_ := readFrom_of_toPayment read
    exact ⟨row₀, mem₀, id.trans from_.id, provider.trans from_.provider,
      reference.trans from_.providerReference⟩
  · cases answer

/-- A payment that was stale at first and is not reached is in front. -/
theorem listed_of_unreached {d : Draw} {row : PaymentRow} (progress : Progress app cutoff L₀ w)
    (fresh : ((d.clock 0).minus minAge).rfc3339Before cutoff = false)
    (mem : row ∈ staleAt cutoff L₀) (unreached : ¬ ReachedRow w row) :
    row ∈ listing d w.shared.ledger := by
  obtain ⟨-, listable, early⟩ := mem_staleAt.mp mem
  have inTable : row ∈ w.shared.ledger.payments.rows :=
    (progress.kept row mem).resolve_right unreached
  rw [mem_listing, stale_iff]
  refine ⟨inTable, listable, fun late => early ?_⟩
  rw [Late, not_before_iff] at late ⊢
  rw [not_before_iff] at fresh
  exact fresh.trans late

theorem capable_of_told (progress : Progress app cutoff L₀ w) {row : PaymentRow} {id : PaymentId}
    (mem : row ∈ staleAt cutoff L₀) (is : row.id = .stored id) (askable : Askable app row) :
    ∀ o age limit stale,
      Happened w o ⟨.store (.listStaleUnknownPayments age limit), .ok stale⟩ →
        ∀ payment ∈ stale, payment.id = id → Capable app payment := by
  intro o age limit stale happened payment inList named
  obtain ⟨row₀, mem₀, describes⟩ := progress.told o age limit stale happened payment inList
  obtain ⟨inTable, listable, -⟩ := mem_staleAt.mp mem
  have same : row₀.id = row.id := by rw [describes.id, named, is]
  have one : row₀ = row := L₀.payments.eq_of_clash mem₀ inTable (.inl same)
  rw [one] at describes
  obtain ⟨provider, p, stored, configured, able⟩ := askable
  have provided : payment.provider = provider :=
    Text.stored.inj (describes.provider.symm.trans stored)
  constructor
  · rw [← describes.providerReference]
    exact listable.2
  · rw [provided]
    exact ⟨p, configured, able⟩

/-- What was reached and has been processed is behind the others. -/
theorem late_of_reached (progress : Progress app cutoff L₀ w) (quiet : Quiet w)
    {row : PaymentRow} (mem : row ∈ staleAt cutoff L₀) (askable : Askable app row)
    (reached : ReachedRow w row) (inTable : row ∈ w.shared.ledger.payments.rows) :
    Late cutoff row := by
  obtain ⟨id, is, reached⟩ := reached
  have asked : InquiredAbout w id := inquired_of_reached progress.course quiet
    (capable_of_told progress mem is askable) reached
  exact moved_of_inquired progress.course quiet asked row inTable is
    (mem_staleAt.mp mem).2.1.1

open Classical in
/-- A pass reaches up to a hundred more. -/
theorem counted_listing {age limit : ℤ} (progress : Progress app cutoff L₀ w)
    (askable : ∀ row ∈ staleAt cutoff L₀, Askable app row) (adv : Moved app w i c w')
    (stepped : step (setting .sqlite app) w (.advance i c) = some w') {r : StoreResult (List Payment)}
    (event : (⟨adv.effect, adv.response⟩ : GwEvent) =
      ⟨.store (.listStaleUnknownPayments age limit), r⟩)
    (proceeds : Proceeds cutoff w i adv.effect c) (moves : Moves app w adv.effect c) :
    min (staleAt cutoff L₀).card (100 * passes w') ≤
      ((staleAt cutoff L₀).filter (ReachedRow w')).card := by
  have quiet : Quiet w := quiet_of_listing progress.course.ours adv event proceeds
  have licensed := (progress.course.ours.rotating adv).1
  obtain ⟨reacted, -⟩ := adv.of_event event
  obtain ⟨d, rfl, -, answer⟩ := react_draw reacted
  have effect_ : adv.effect = .store (.listStaleUnknownPayments age limit) :=
    congrArg Sigma.fst event
  have met : Happened w' adv.task.origin ⟨.store (.listStaleUnknownPayments age limit), r⟩ := by
    rw [← event]
    exact adv.happened
  have counts : passes w' = 1 + passes w := by
    rw [passes_step adv, event]
    rfl
  rw [effect_] at proceeds moves licensed
  obtain ⟨-, -, rfl, rfl⟩ := licensed
  obtain ⟨works, fresh, -, -⟩ := proceeds
  obtain ⟨payments, collected, found⟩ := collect_of_readable moves
  rw [list_answer works, collected] at answer
  -- the unreached are the early ones among the listed
  have listed : ∀ row ∈ (staleAt cutoff L₀).filter fun row => ¬ ReachedRow w row,
      row ∈ listing d w.shared.ledger := by
    intro row mem
    rw [Finset.mem_filter] at mem
    exact listed_of_unreached progress fresh mem.1 mem.2
  have before : ∀ row ∈ (staleAt cutoff L₀).filter fun row => ¬ ReachedRow w row,
      ¬ Late cutoff row := by
    intro row mem
    rw [Finset.mem_filter] at mem
    exact (mem_staleAt.mp mem.1).2.2
  have after : ∀ row ∈ listing d w.shared.ledger,
      row ∉ (staleAt cutoff L₀).filter (fun row => ¬ ReachedRow w row) → Late cutoff row := by
    intro row mem outside
    obtain ⟨inTable, stale_⟩ := mem_listing.mp mem
    rcases progress.early row inTable (stale_iff.mp stale_).1 with late | inFront
    · exact late
    · have reached : ReachedRow w row := by
        by_contra unreached
        exact outside (Finset.mem_filter.mpr ⟨inFront, unreached⟩)
      exact late_of_reached progress quiet inFront (askable row inFront) reached inTable
  have front := listing_first listed before after
  have grown : ((staleAt cutoff L₀).filter (ReachedRow w)).card +
      (((staleAt cutoff L₀).filter fun row => ¬ ReachedRow w row).filter
        (· ∈ (listing d w.shared.ledger).take 100)).card ≤
      ((staleAt cutoff L₀).filter (ReachedRow w')).card := by
    rw [← Finset.card_union_of_disjoint]
    · apply Finset.card_le_card
      intro row mem
      rcases Finset.mem_union.mp mem with old | new
      · rw [Finset.mem_filter] at old
        exact Finset.mem_filter.mpr ⟨old.1, reachedRow_step old.2 stepped⟩
      · rw [Finset.mem_filter, Finset.mem_filter] at new
        obtain ⟨payment, inList, read⟩ := found row new.2
        have is := (readFrom_of_toPayment read).id
        refine Finset.mem_filter.mpr ⟨new.1.1, payment.id, is, _, _, met, ?_⟩
        rw [answer]
        simp only [lists, Bool.or_eq_true, List.any_eq_true]
        exact .inr ⟨payment, inList, by simp⟩
    · rw [Finset.disjoint_left]
      intro row old new
      rw [Finset.mem_filter] at old
      rw [Finset.mem_filter, Finset.mem_filter] at new
      exact new.1.2 old.2
  have split_ := Finset.card_filter_add_card_filter_not (s := staleAt cutoff L₀) (ReachedRow w)
  have earlier := progress.counted
  rw [counts]
  omega

theorem passes_other (adv : Moved app w i c w')
    (other : ∀ age limit, adv.effect ≠ .store (.listStaleUnknownPayments age limit)) :
    passes w' = passes w := by
  have none_ : isListing ⟨adv.effect, adv.response⟩ = 0 := by
    unfold isListing
    split
    next age limit r event =>
      exact absurd (congrArg Sigma.fst event) (other age limit)
    · rfl
  rw [passes_step adv, none_, Nat.zero_add]

section Rows

variable (progress : Progress app cutoff L₀ w) (adv : Moved app w i c w')
  (proceeds : Proceeds cutoff w i adv.effect c) (moves : Moves app w adv.effect c)
include progress proceeds moves

theorem stems_step : ∀ row ∈ w'.shared.ledger.payments.rows, ∃ row₀ ∈ L₀.payments.rows,
    row₀.id = row.id ∧ row₀.provider = row.provider ∧
      row₀.providerReference = row.providerReference := by
  rw [adv.shared_eq]
  rcases ledger_cases adv progress.course.ours proceeds moves with ⟨same, -⟩ | ⟨id, written⟩
  · rw [same]
    exact progress.stems
  · intro row mem
    rcases written.rewritten.back row mem with old | ⟨before, inTable, -, restamped⟩
    · exact progress.stems row old
    · rw [restamped.id, restamped.provider, restamped.providerReference]
      exact progress.stems before inTable

theorem early_step : ∀ row ∈ w'.shared.ledger.payments.rows, Listable row →
    Late cutoff row ∨ row ∈ staleAt cutoff L₀ := by
  rw [adv.shared_eq]
  rcases ledger_cases adv progress.course.ours proceeds moves with ⟨same, -⟩ | ⟨id, written⟩
  · rw [same]
    exact progress.early
  · intro row mem listable
    rcases written.rewritten.back row mem with old | ⟨before, -, -, restamped⟩
    · exact progress.early row old listable
    · exact .inl restamped.late

theorem kept_step (stepped : step (setting .sqlite app) w (.advance i c) = some w') :
    ∀ row ∈ staleAt cutoff L₀, row ∈ w'.shared.ledger.payments.rows ∨ ReachedRow w' row := by
  intro row mem
  rcases progress.kept row mem with stored | reached
  · rw [adv.shared_eq]
    rcases ledger_cases adv progress.course.ours proceeds moves with ⟨same, -⟩ | ⟨id, written⟩
    · rw [same]
      exact .inl stored
    · by_cases about : row.id = .stored id
      · obtain ⟨ev, known, names⟩ := written.known
        exact .inr ⟨id, about, reached_step ⟨_, ev, ⟨adv.task, adv.mem, rfl, known⟩, names⟩ stepped⟩
      · exact .inl (written.rewritten.forth row stored about)
  · exact .inr (reachedRow_step reached stepped)

omit moves in
theorem told_step {o : Origin} {age limit : ℤ} {stale : List Payment}
    (happened : Happened w' o ⟨.store (.listStaleUnknownPayments age limit), .ok stale⟩) :
    ∀ payment ∈ stale, ∃ row₀ ∈ L₀.payments.rows, Describes row₀ payment := by
  rcases adv.happened_cases happened with ⟨event, -⟩ | earlier
  · exact described_of_listed progress adv proceeds event.symm
  · exact progress.told o age limit stale earlier

end Rows

theorem progress_step (askable : ∀ row ∈ staleAt cutoff L₀, Askable app row)
    (progress : Progress app cutoff L₀ w) (fair : Fair app cutoff w a)
    (stepped : step (setting .sqlite app) w a = some w') : Progress app cutoff L₀ w' := by
  classical
  have course := course_step progress.course fair stepped
  have grows : ∀ row ∈ staleAt cutoff L₀, ReachedRow w row → ReachedRow w' row :=
    fun row _ reached => reachedRow_step reached stepped
  rcases orderly_cases fair.1 stepped with ⟨o, -, rfl⟩ | ⟨i, c, rfl, adv, proceeds⟩
  · exact {
      course
      stems := progress.stems
      early := progress.early
      kept := fun row mem => (progress.kept row mem).imp_right (grows row mem)
      told := fun o age limit stale happened =>
        progress.told o age limit stale (happened_spawn happened)
      counted := by
        rw [passes, total_spawn]
        exact counted_of_subset progress.counted grows }
  · have moves : Moves app w adv.effect c := fair.2 _ (performing_eq adv)
    exact {
      course
      stems := stems_step progress adv proceeds moves
      early := early_step progress adv proceeds moves
      kept := kept_step progress adv proceeds moves stepped
      told := fun o age limit stale => told_step progress adv proceeds
      counted := by
        by_cases lists_ : ∃ age limit, adv.effect = .store (.listStaleUnknownPayments age limit)
        · obtain ⟨age, limit, lists_⟩ := lists_
          obtain ⟨r, event⟩ := event_of_effect adv lists_
          exact counted_listing progress askable adv stepped event proceeds moves
        · rw [passes_other adv fun age limit is => lists_ ⟨age, limit, is⟩]
          exact counted_of_subset progress.counted grows }

theorem progress_start (idle : w.tasks = []) (empty : w.shared.reconcileQueue = []) :
    Progress app cutoff w.shared.ledger w := by
  have nothing : ∀ o ev, ¬ Happened w o ev := by
    rintro o ev ⟨t, mem, -⟩
    rw [idle] at mem
    cases mem
  exact {
    course := {
      ours := by
        intro t mem
        rw [idle] at mem
        cases mem
      fresh := by
        intro d mem
        rw [empty] at mem
        cases mem
      received := fun o d happened => (nothing _ _ happened).elim
      published := fun o m r happened => (nothing _ _ happened).elim
      answered := fun o p payment reference r happened => (nothing _ _ happened).elim
      moved := fun o ev id happened => (nothing _ _ happened).elim }
    stems := fun row mem => ⟨row, mem, rfl, rfl, rfl⟩
    early := by
      intro row mem listable
      by_cases late : Late cutoff row
      · exact .inl late
      · exact .inr (mem_staleAt.mpr ⟨mem, listable, late⟩)
    kept := fun row mem => .inl (mem_staleAt.mp mem).1
    told := fun o age limit stale happened => (nothing _ _ happened).elim
    counted := by simp [passes, total, idle] }

/-- After enough passes every payment that was stale at first has been
inquired about. -/
theorem all_inquired (progress : Progress app cutoff L₀ w)
    (askable : ∀ row ∈ staleAt cutoff L₀, Askable app row) (settled : Settled w)
    (enough : (staleAt cutoff L₀).card ≤ 100 * passes w) :
    ∀ row ∈ staleAt cutoff L₀, ∃ id, row.id = .stored id ∧ InquiredAbout w id := by
  classical
  intro row mem
  have counted := progress.counted
  rw [min_eq_left enough] at counted
  have all := Finset.eq_of_subset_of_card_le (Finset.filter_subset _ _) counted
  have reached : ReachedRow w row := by
    have inFilter : row ∈ (staleAt cutoff L₀).filter (ReachedRow w) := by
      rw [all]
      exact mem
    exact (Finset.mem_filter.mp inFilter).2
  obtain ⟨id, is, reached⟩ := reached
  exact ⟨id, is, inquired_of_reached progress.course
    (quiet_of_settled progress.course.ours settled)
    (capable_of_told progress mem is (askable row mem)) reached⟩

end Progress

section Passes

/-- Passes of the reconciler follow each other over a store whose payments are
stale at the cutoff, and all that they began is processed. -/
structure Passes (app : App) (cutoff : Instant) (w : GwWorld) (as : List GwAction) (w' : GwWorld) :
    Prop where
  idle : w.tasks = []
  empty : w.shared.reconcileQueue = []
  askable : ∀ row ∈ staleAt cutoff w.shared.ledger, Askable app row
  orderly : Meets (setting .sqlite app) (Orderly cutoff) w as
  ran : run (setting .sqlite app) w as = some w'
  settled : Settled w'

/-- With a pass for each hundred of them, every stale payment was inquired
about. -/
def InquiredInTurn (cutoff : Instant) (w w' : GwWorld) : Prop :=
  (staleAt cutoff w.shared.ledger).card ≤ 100 * passes w' →
    ∀ row ∈ staleAt cutoff w.shared.ledger, ∃ id, row.id = .stored id ∧ InquiredAbout w' id

/-- Passes that leave no payment in front come to all of them. -/
theorem inquired_in_turn {app : App} {cutoff : Instant} {w w' : GwWorld} {as : List GwAction}
    (passed : Passes app cutoff w as w') (forward : Meets (setting .sqlite app) (Forward app) w as) :
    InquiredInTurn cutoff w w' := by
  intro enough
  have progress : Progress app cutoff w.shared.ledger w' :=
    run_invariant (fun _ _ _ progress fair stepped =>
        progress_step passed.askable progress fair stepped)
      (progress_start passed.idle passed.empty) (passed.orderly.and forward) passed.ran
  exact all_inquired progress passed.askable passed.settled enough

end Passes

section Runs

def second : ℤ := 1000000000

/-- Key `n` of the shop's orders. -/
def orderKey (n : ℕ) : Text IdempotencyKey :=
  match IdempotencyKey.parse (toString n) with
  | .ok key => .stored key
  | .error _ => .corrupt (toString n)

/-- A Stripe payment created at second `n`, with no answer yet. -/
def pendingRow (n : ℕ) : PaymentRow where
  id := .stored ⟨n⟩
  idempotencyKey := orderKey n
  requestFingerprint := ""
  provider := .stored ProviderId.stripe
  providerReference := some "cs"
  status := .stored .pending
  amountMinorUnits := 100
  currency := .stored .usd
  merchantReference := none
  nextActionJson := none
  userId := none
  apiKeyId := none
  environment := "test"
  createdAt := ⟨n * second⟩
  updatedAt := ⟨n * second⟩

def pendingTable (n : ℕ) : Table PaymentRow PaymentClash :=
  match (List.range n).foldlM (fun (t : Table PaymentRow PaymentClash) k => t.insert (pendingRow k)) Table.empty with
  | some t => t
  | none => Table.empty

/-- The rows of a table that rows of this kind were put into one by one. -/
theorem pendingRows_foldlM {ks : List ℕ} {t t' : Table PaymentRow PaymentClash}
    (put : ks.foldlM (fun (t : Table PaymentRow PaymentClash) k => t.insert (pendingRow k)) t =
      some t') : t'.rows = t.rows ++ ks.map pendingRow := by
  induction ks generalizing t with
  | nil =>
    cases put
    simp
  | cons k ks ih =>
    obtain ⟨between, first, rest⟩ := Option.bind_eq_some_iff.mp put
    rw [ih rest, (Table.insert_eq_some.mp first).2]
    simp

theorem pendingTable_sub (n : ℕ) :
    (pendingTable n).rows.Sublist ((List.range n).map pendingRow) := by
  unfold pendingTable
  split
  next t put =>
    rw [pendingRows_foldlM put]
    exact List.Sublist.refl _
  · exact List.nil_sublist _

def cutoff : Instant := ⟨200 * second⟩

def clocked (t : ℤ) : Draw where
  clock := fun _ => ⟨t⟩
  fresh := ⟨0⟩
  visit := fun _ => 0
  fails := fun _ => false

def pass (i n : ℕ) (answer : Except OpenWrapperError PaymentStatus) : List GwAction :=
  .spawn .reconciler :: .advance i (.draw (clocked (1000 * second))) ::
    (List.replicate n [Action.advance i (.inquired answer),
      .advance i (.draw (clocked (1000 * second)))]).flatten

def pendingWorld (n : ℕ) : GwWorld :=
  ⟨⟨⟨pendingTable n, Table.empty, Table.empty⟩, [], [], [], 0⟩, []⟩

theorem askable_pending {n : ℕ} {row : PaymentRow}
    (mem : row ∈ staleAt cutoff (pendingWorld n).shared.ledger) : Askable shop row := by
  have listed := (pendingTable_sub n).subset (mem_staleAt.mp mem).1
  obtain ⟨k, -, is⟩ := List.mem_map.mp listed
  have stripe_ : row.provider = .stored ProviderId.stripe := by
    rw [← is]
    rfl
  exact ⟨ProviderId.stripe, stripeAccount, stripe_, by decide, by decide⟩

/-- One stale payment, and a pass that finds it paid. -/
theorem inquired_in_turn_one : ∃ w', Passes shop cutoff (pendingWorld 1) (pass 0 1 (.ok .succeeded)) w' ∧
    InquiredInTurn cutoff (pendingWorld 1) w' := by
  have ends_in : (run (setting .sqlite shop) (pendingWorld 1) (pass 0 1 (.ok .succeeded))).any
      (fun w => decide (Settled w)) = true := by decide +kernel
  obtain ⟨w', ran, settled⟩ := (Option.any_eq_true _ _).mp ends_in
  have passed : Passes shop cutoff (pendingWorld 1) (pass 0 1 (.ok .succeeded)) w' := {
    idle := rfl
    empty := rfl
    askable := fun row mem => askable_pending mem
    orderly := by decide +kernel
    ran
    settled := of_decide_eq_true settled }
  exact ⟨w', passed, inquired_in_turn passed (by decide +kernel)⟩

/-- Two passes that are told that nothing has changed. -/
def unanswered : List GwAction := pass 0 100 (.ok .pending) ++ pass 1 100 (.ok .pending)

/-- The first hundred payments stay in front of the last one. -/
theorem starved : ¬ ∀ app cutoff w as w', Passes app cutoff w as w' → InquiredInTurn cutoff w w' := by
  intro all
  have ends_in : (run (setting .sqlite shop) (pendingWorld 101) unanswered).any (fun w =>
      passes w == 2 && decide (Settled w) &&
        w.tasks.all fun t => t.history.all fun ev => !isInquiry ⟨100⟩ ev) = true := by
    decide +kernel
  obtain ⟨w', ran, facts⟩ := (Option.any_eq_true _ _).mp ends_in
  simp only [Bool.and_eq_true, beq_iff_eq, decide_eq_true_eq] at facts
  obtain ⟨⟨two, settled⟩, silent⟩ := facts
  have passed : Passes shop cutoff (pendingWorld 101) unanswered w' := {
    idle := rfl
    empty := rfl
    askable := fun row mem => askable_pending mem
    orderly := by decide +kernel
    ran
    settled }
  have few : (staleAt cutoff (pendingWorld 101).shared.ledger).card ≤ 101 := by
    have rows := (pendingTable_sub 101).length_le
    rw [List.length_map, List.length_range] at rows
    exact (List.toFinset_card_le _).trans ((List.length_filter_le _ _).trans rows)
  have last : pendingRow 100 ∈ staleAt cutoff (pendingWorld 101).shared.ledger := by
    rw [mem_staleAt, ← stale_iff]
    exact ⟨by decide +kernel, by decide +kernel⟩
  obtain ⟨id, is, o, ev, ⟨t, mem, -, known⟩, asks⟩ :=
    all _ _ _ _ _ passed (by omega) (pendingRow 100) last
  have named : id = ⟨100⟩ := (Text.stored.inj is).symm
  have quiet := List.all_eq_true.mp (List.all_eq_true.mp silent t mem) ev known
  rw [named] at asks
  simp [asks] at quiet

end Runs

end OpenWrapper.ReconcilerTurns
