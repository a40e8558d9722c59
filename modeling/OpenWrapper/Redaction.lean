import OpenWrapper.KeyedLists
import OpenWrapper.JavaScript

/-! # Redaction of callbacks

What the adapters leave of a callback for diagnostics. One of them looks for
sensitive members at every depth and in any case of letters, the other at the
outermost object only. -/

set_option autoImplicit false

namespace OpenWrapper.Redaction
open OpenWrapper.JsonValue OpenWrapper.KeyedLists OpenWrapper.JavaScript

def eqIgnoreAsciiCase (a b : String) : Bool :=
  a.toList.map asciiLower == b.toList.map asciiLower

namespace Paymob

def sensitiveDiagnosticFields : List String :=
  ["api_key", "billing_data", "card_num", "client_secret", "email", "first_name", "hmac",
    "last_name", "pan", "phone_number", "shipping_data", "shipping_details", "signature", "token"]

def sensitive (name : String) : Bool := sensitiveDiagnosticFields.any (eqIgnoreAsciiCase name)

mutual

def redactSensitiveFields : Json → Json
  | .obj fields => .obj (retainFields fields)
  | .arr items => .arr (redactItems items)
  | value => value

def redactItems : List Json → List Json
  | [] => []
  | item :: rest => redactSensitiveFields item :: redactItems rest

def retainFields : List (String × Json) → List (String × Json)
  | [] => []
  | (name, nested) :: rest =>
    if sensitive name then retainFields rest
    else (name, redactSensitiveFields nested) :: retainFields rest

end

end Paymob

namespace Fawry

def sensitiveFieldsToRedact : List String :=
  ["customerName", "customerMobile", "customerMail", "threeDSInfo", "invoiceInfo",
    "messageSignature"]

def sensitive (name : String) : Bool := sensitiveFieldsToRedact.any (eqIgnoreAsciiCase name)

/-- `Map::remove`. -/
def remove (field : String) (members : List (String × Json)) : List (String × Json) :=
  members.filter fun m => m.1 != field

def redactSensitiveFields : Json → Json
  | .obj members => .obj (sensitiveFieldsToRedact.foldl (fun obj field => remove field obj) members)
  | payload => payload

end Fawry

section Documents

/-- The values a document is made of, itself among them. -/
inductive Within : Json → Json → Prop where
  | self (v : Json) : Within v v
  | item {w v : Json} {items : List Json} (mem : v ∈ items) (inside : Within w v) :
      Within w (.arr items)
  | member {w v : Json} {name : String} {members : List (String × Json)}
      (mem : (name, v) ∈ members) (inside : Within w v) : Within w (.obj members)

/-- No object of the document, at whatever depth, has a member of such a name. -/
def Clean (sensitive : String → Bool) (v : Json) : Prop :=
  ∀ members, Within (.obj members) v → ∀ m ∈ members, sensitive m.1 = false

inductive Step where
  | member (name : String)
  | item (index : ℕ)
deriving DecidableEq

def Step.follow : Step → Json → Option Json
  | .member name, .obj members => lastOf name members
  | .item index, .arr items => items[index]?
  | _, _ => none

/-- The value at the end of a path. -/
def reach : List Step → Json → Option Json
  | [], v => some v
  | step :: rest, v => (step.follow v).bind (reach rest)

/-- The path passes through no member of such a name. -/
def Avoids (sensitive : String → Bool) (path : List Step) : Prop :=
  ∀ name, Step.member name ∈ path → sensitive name = false

/-- Nothing sensitive is left, everything else is where it was, and there is
nothing more to do. -/
structure Redacts (sensitive : String → Bool) (redact : Json → Json) (v : Json) : Prop where
  complete : Clean sensitive (redact v)
  minimal : ∀ path, Avoids sensitive path → reach path (redact v) = (reach path v).map redact
  idempotent : redact (redact v) = redact v

theorem lastOf_filter {name : String} (kept : String → Bool) (is : kept name = true)
    (members : List (String × Json)) :
    lastOf name (members.filter fun m => kept m.1) = lastOf name members := by
  induction members with
  | nil => rfl
  | cons m rest ih =>
    obtain ⟨other, w⟩ := m
    rw [List.filter_cons]
    split
    · rw [lastOf, lastOf, ih]
    next dropped =>
      have apart : other ≠ name := by
        rintro rfl
        exact dropped is
      rw [ih, lastOf]
      cases lastOf name rest with
      | some u => rfl
      | none => simp [apart]

theorem lastOf_mapValues (f : Json → Json) (name : String) (members : List (String × Json)) :
    lastOf name (mapValues f members) = (lastOf name members).map f := by
  induction members with
  | nil => rfl
  | cons m rest ih =>
    obtain ⟨other, w⟩ := m
    show lastOf name ((other, f w) :: mapValues f rest) = _
    rw [lastOf, lastOf, ih]
    cases lastOf name rest with
    | some u => rfl
    | none =>
      by_cases here : other = name
      · simp [here]
      · simp [here]

variable {sensitive : String → Bool}

theorem Clean.item {items : List Json} (clean : Clean sensitive (.arr items)) :
    ∀ v ∈ items, Clean sensitive v :=
  fun _ mem members inside => clean members (.item mem inside)

theorem Clean.member {members : List (String × Json)} (clean : Clean sensitive (.obj members)) :
    ∀ m ∈ members, Clean sensitive m.2 :=
  fun _ mem members inside => clean members (.member mem inside)

theorem Clean.names {members : List (String × Json)} (clean : Clean sensitive (.obj members)) :
    ∀ m ∈ members, sensitive m.1 = false := clean members (.self _)

theorem clean_arr {items : List Json} :
    Clean sensitive (.arr items) ↔ ∀ v ∈ items, Clean sensitive v := by
  constructor
  · exact Clean.item
  · intro each members within
    cases within with
    | item mem inside => exact each _ mem members inside

theorem clean_obj {members : List (String × Json)} :
    Clean sensitive (.obj members) ↔
      ∀ m ∈ members, sensitive m.1 = false ∧ Clean sensitive m.2 := by
  constructor
  · intro clean m mem
    exact ⟨clean.names m mem, clean.member m mem⟩
  · intro each inner within
    cases within with
    | self => exact fun m mem => (each m mem).1
    | member mem inside => exact (each _ mem).2 inner inside

theorem avoids_cons {step : Step} {rest : List Step} (avoids : Avoids sensitive (step :: rest)) :
    (∀ name, step = .member name → sensitive name = false) ∧ Avoids sensitive rest := by
  constructor
  · rintro name rfl
    exact avoids name List.mem_cons_self
  · exact fun name mem => avoids name (List.mem_cons_of_mem step mem)

/-- What a document is made of is as clean as the document. -/
theorem Clean.reach {v w : Json} {path : List Step} (clean : Clean sensitive v)
    (found : reach path v = some w) : Clean sensitive w := by
  induction path generalizing v with
  | nil =>
    cases found
    exact clean
  | cons step rest ih =>
    obtain ⟨u, follows, found'⟩ := Option.bind_eq_some_iff.mp found
    apply ih _ found'
    cases step with
    | member name =>
      cases v with
      | obj members => exact clean.member _ (mem_of_lastOf follows)
      | _ => cases follows
    | item index =>
      cases v with
      | arr items => exact clean.item u (List.mem_of_getElem? follows)
      | _ => cases follows

end Documents

namespace Paymob

variable {v : Json}

theorem redactItems_eq (items : List Json) :
    redactItems items = items.map redactSensitiveFields := by
  induction items with
  | nil => rfl
  | cons item rest ih => rw [redactItems, ih, List.map_cons]

theorem retainFields_eq (fields : List (String × Json)) : retainFields fields =
    mapValues redactSensitiveFields (fields.filter fun m => !sensitive m.1) := by
  induction fields with
  | nil => rfl
  | cons field rest ih =>
    obtain ⟨name, nested⟩ := field
    rw [retainFields, ih]
    by_cases dropped : sensitive name = true
    · simp [dropped]
    · simp [dropped, mapValues]

theorem mem_retainFields {fields : List (String × Json)} {m : String × Json}
    (mem : m ∈ retainFields fields) :
    sensitive m.1 = false ∧ ∃ nested, m.2 = redactSensitiveFields nested := by
  rw [retainFields_eq] at mem
  obtain ⟨field, kept, rfl⟩ := List.mem_map.mp mem
  have plain := (List.mem_filter.mp kept).2
  exact ⟨by simpa using plain, field.2, rfl⟩

theorem lastOf_retainFields {name : String} (plain : sensitive name = false)
    (fields : List (String × Json)) :
    lastOf name (retainFields fields) = (lastOf name fields).map redactSensitiveFields := by
  rw [retainFields_eq, lastOf_mapValues]
  congr 1
  exact lastOf_filter (fun name => !sensitive name) (by simp [plain]) fields

theorem redacted_clean (v : Json) : Clean sensitive (redactSensitiveFields v) := by
  intro members within
  generalize whole : redactSensitiveFields v = w at within
  induction within generalizing v with
  | self =>
    cases v with
    | obj fields =>
      rw [redactSensitiveFields] at whole
      injection whole with is
      intro m mem
      exact (mem_retainFields (is ▸ mem)).1
    | arr items =>
      rw [redactSensitiveFields] at whole
      cases whole
    | _ => cases whole
  | item mem inside ih =>
    cases v with
    | arr items =>
      rw [redactSensitiveFields, redactItems_eq] at whole
      injection whole with is
      rw [← is] at mem
      obtain ⟨item, -, redacted⟩ := List.mem_map.mp mem
      exact ih item redacted
    | obj fields =>
      rw [redactSensitiveFields] at whole
      cases whole
    | _ => cases whole
  | member mem inside ih =>
    cases v with
    | obj fields =>
      rw [redactSensitiveFields] at whole
      injection whole with is
      rw [← is] at mem
      obtain ⟨-, nested, redacted⟩ := mem_retainFields mem
      exact ih nested redacted.symm
    | arr items =>
      rw [redactSensitiveFields] at whole
      cases whole
    | _ => cases whole

theorem follow_redacted {step : Step} (plain : ∀ name, step = .member name → sensitive name = false)
    (v : Json) : step.follow (redactSensitiveFields v) =
      (step.follow v).map redactSensitiveFields := by
  cases step with
  | member name =>
    cases v with
    | obj fields =>
      rw [redactSensitiveFields]
      exact lastOf_retainFields (plain name rfl) fields
    | arr items =>
      rw [redactSensitiveFields]
      rfl
    | _ => rfl
  | item index =>
    cases v with
    | arr items =>
      rw [redactSensitiveFields, redactItems_eq]
      exact List.getElem?_map
    | obj fields =>
      rw [redactSensitiveFields]
      rfl
    | _ => rfl

theorem reach_redacted {path : List Step} (avoids : Avoids sensitive path) (v : Json) :
    reach path (redactSensitiveFields v) = (reach path v).map redactSensitiveFields := by
  induction path generalizing v with
  | nil => rfl
  | cons step rest ih =>
    obtain ⟨first, avoids'⟩ := avoids_cons avoids
    rw [reach, reach, follow_redacted first]
    cases step.follow v with
    | none => rfl
    | some w => exact ih avoids' w

mutual

theorem redact_of_clean : (v : Json) → Clean sensitive v → redactSensitiveFields v = v
  | .null, _ => rfl
  | .bool _, _ => rfl
  | .num _, _ => rfl
  | .str _, _ => rfl
  | .arr items, clean => by
    rw [redactSensitiveFields, redactItems_of_clean items (clean_arr.mp clean)]
  | .obj fields, clean => by
    rw [redactSensitiveFields, retainFields_of_clean fields (clean_obj.mp clean)]

theorem redactItems_of_clean : (items : List Json) → (∀ v ∈ items, Clean sensitive v) →
    redactItems items = items
  | [], _ => rfl
  | item :: rest, clean => by
    rw [redactItems, redact_of_clean item (clean item List.mem_cons_self),
      redactItems_of_clean rest fun v mem => clean v (List.mem_cons_of_mem _ mem)]

theorem retainFields_of_clean : (fields : List (String × Json)) →
    (∀ m ∈ fields, sensitive m.1 = false ∧ Clean sensitive m.2) → retainFields fields = fields
  | [], _ => rfl
  | (name, nested) :: rest, clean => by
    obtain ⟨plain, inside⟩ := clean (name, nested) List.mem_cons_self
    have kept : ¬ sensitive name = true := by
      rw [plain]
      decide
    rw [retainFields, if_neg kept, redact_of_clean nested inside,
      retainFields_of_clean rest fun m mem => clean m (List.mem_cons_of_mem _ mem)]

end

/-- It redacts every document. -/
theorem redacts (v : Json) : Redacts sensitive redactSensitiveFields v where
  complete := redacted_clean v
  minimal _ avoids := reach_redacted avoids v
  idempotent := redact_of_clean _ (redacted_clean v)

end Paymob

namespace Fawry

variable {v : Json} {members : List (String × Json)}

/-- What could be redacted and is not at the outermost object under a listed
name is not there. -/
def Exact : Json → Prop
  | .obj members =>
    ∀ m ∈ members, m.1 ∈ sensitiveFieldsToRedact ∨ sensitive m.1 = false ∧ Clean sensitive m.2
  | payload => Clean sensitive payload

theorem removed_eq (fields : List String) (members : List (String × Json)) :
    fields.foldl (fun obj field => remove field obj) members =
      members.filter fun m => decide (m.1 ∉ fields) := by
  induction fields generalizing members with
  | nil => simp
  | cons field rest ih =>
    rw [List.foldl_cons, ih, remove, List.filter_filter]
    congr 1
    funext m
    by_cases here : m.1 = field
    · simp [here]
    · simp [here]

theorem listed_sensitive {name : String} (listed : name ∈ sensitiveFieldsToRedact) :
    sensitive name = true :=
  List.any_eq_true.mpr ⟨name, listed, by simp [eqIgnoreAsciiCase]⟩

theorem not_listed {name : String} (plain : sensitive name = false) :
    name ∉ sensitiveFieldsToRedact := by
  intro listed
  rw [listed_sensitive listed] at plain
  cases plain

theorem redact_obj (members : List (String × Json)) : redactSensitiveFields (.obj members) =
    .obj (members.filter fun m => decide (m.1 ∉ sensitiveFieldsToRedact)) := by
  rw [redactSensitiveFields, removed_eq]

theorem redact_of_clean (clean : Clean sensitive v) : redactSensitiveFields v = v := by
  cases v with
  | obj members =>
    rw [redact_obj]
    congr 1
    apply List.filter_eq_self.mpr
    intro m mem
    exact decide_eq_true (not_listed (clean.names m mem))
  | _ => rfl

theorem redacted_clean (exact_ : Exact v) : Clean sensitive (redactSensitiveFields v) := by
  cases v with
  | obj members =>
    rw [redact_obj, clean_obj]
    intro m mem
    obtain ⟨mem', kept⟩ := List.mem_filter.mp mem
    rcases exact_ m mem' with listed | plain
    · exact absurd listed (of_decide_eq_true kept)
    · exact plain
  | _ => exact exact_

theorem exact_of_clean (clean : Clean sensitive (redactSensitiveFields v)) : Exact v := by
  cases v with
  | obj members =>
    rw [redact_obj, clean_obj] at clean
    intro m mem
    by_cases listed : m.1 ∈ sensitiveFieldsToRedact
    · exact .inl listed
    · exact .inr (clean m (List.mem_filter.mpr ⟨mem, decide_eq_true listed⟩))
  | _ => exact clean

theorem follow_redacted {step : Step} (plain : ∀ name, step = .member name → sensitive name = false)
    (v : Json) : step.follow (redactSensitiveFields v) = step.follow v := by
  cases step with
  | member name =>
    cases v with
    | obj members =>
      rw [redact_obj]
      exact lastOf_filter (fun name => decide (name ∉ sensitiveFieldsToRedact))
        (decide_eq_true (not_listed (plain name rfl))) members
    | _ => rfl
  | item index =>
    cases v with
    | obj members =>
      rw [redact_obj]
      rfl
    | _ => rfl

/-- Behind the first step of such a path there is nothing to redact. -/
theorem follow_clean {step : Step} (plain : ∀ name, step = .member name → sensitive name = false)
    (exact_ : Exact v) {w : Json} (follows : step.follow v = some w) : Clean sensitive w := by
  cases step with
  | member name =>
    cases v with
    | obj members =>
      rcases exact_ (name, w) (mem_of_lastOf follows) with listed | inside
      · exact absurd listed (not_listed (plain name rfl))
      · exact inside.2
    | _ => cases follows
  | item index =>
    cases v with
    | arr items => exact exact_.item w (List.mem_of_getElem? follows)
    | _ => cases follows

theorem reach_redacted {path : List Step} (avoids : Avoids sensitive path) (exact_ : Exact v) :
    reach path (redactSensitiveFields v) = (reach path v).map redactSensitiveFields := by
  cases path with
  | nil => rfl
  | cons step rest =>
    obtain ⟨first, -⟩ := avoids_cons avoids
    rw [reach, reach, follow_redacted first]
    cases follows : step.follow v with
    | none => rfl
    | some w =>
      have clean := follow_clean first exact_ follows
      rw [Option.bind_some]
      cases found : reach rest w with
      | none => rfl
      | some u => rw [Option.map_some, redact_of_clean (clean.reach found)]

theorem redacts_iff : Redacts sensitive redactSensitiveFields v ↔ Exact v := by
  constructor
  · intro redacts
    exact exact_of_clean redacts.complete
  · intro exact_
    constructor
    · exact redacted_clean exact_
    · exact fun path avoids => reach_redacted avoids exact_
    · exact redact_of_clean (redacted_clean exact_)

end Fawry

/-- One adapter redacts every document; both do just where whatever the other
has to redact is a member of the outermost object under its listed name. -/
theorem redaction_exact (v : Json) :
    Redacts Paymob.sensitive Paymob.redactSensitiveFields v ∧
      (Redacts Paymob.sensitive Paymob.redactSensitiveFields v ∧
        Redacts Fawry.sensitive Fawry.redactSensitiveFields v ↔ Fawry.Exact v) := by
  constructor
  · exact Paymob.redacts v
  · rw [Fawry.redacts_iff]
    exact and_iff_right (Paymob.redacts v)

/-- A notification that names the customer in one of its items. -/
def itemized : Json :=
  .obj [("orderItems", .arr [.obj [("customerName", .str "Mona Said")]]),
    ("requestId", .str "req-abc")]

theorem itemized_not_redacted :
    ¬ ∀ v : Json, Redacts Paymob.sensitive Paymob.redactSensitiveFields v ∧
      Redacts Fawry.sensitive Fawry.redactSensitiveFields v := by
  intro all
  have complete := (all itemized).2.complete
  have inside : Within (.obj [("customerName", .str "Mona Said")])
      (Fawry.redactSensitiveFields itemized) := by
    rw [itemized, Fawry.redact_obj]
    have kept : decide ("orderItems" ∉ Fawry.sensitiveFieldsToRedact) = true := by decide
    exact .member (List.mem_filter.mpr ⟨List.mem_cons_self, kept⟩)
      (.item List.mem_cons_self (.self _))
  have plain := complete _ inside ("customerName", .str "Mona Said") List.mem_cons_self
  revert plain
  decide

end OpenWrapper.Redaction
