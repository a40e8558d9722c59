import OpenWrapper.SignatureVerdicts
import OpenWrapper.WebhookAdapters

/-! # Timestamped signatures

Two verifiers read a timestamp and signatures from a header that anybody can
write, and take the distance of the timestamp from now before they look at a
signature. They are exact where the distance is an `i64`.
-/

set_option autoImplicit false

namespace OpenWrapper.TimestampedSignatures
open OpenWrapper.Hexadecimal OpenWrapper.Ids OpenWrapper.MachineIntegers
open OpenWrapper.OutboundSignatures OpenWrapper.Pieces OpenWrapper.Providers
open OpenWrapper.SignatureVerdicts OpenWrapper.WebhookAdapters

/-- HMAC-SHA256 of bytes under a secret. -/
structure Mac where
  sha256 : String → List UInt8 → List UInt8
  size : ∀ secret message, (sha256 secret message).length = 32

/-- The bytes of a text. -/
def utf8 (s : String) : List UInt8 := s.toUTF8.data.toList

/-- `(now - timestamp).abs()`. -/
def distance (now timestamp : ℤ) : Steps ℤ := do
  let difference ← i64.cast (now - timestamp)
  i64.cast |difference|

namespace Stripe

def late (now timestamp : ℤ) (toleranceSecs : ℕ) : Steps Bool :=
  if 0 < toleranceSecs then do
    let diff ← distance now timestamp
    let tolerance ← i64.cast toleranceSecs
    pure (decide (tolerance < diff))
  else pure false

def verifySignature (m : Mac) (now : ℤ) (webhookSecret : String) (rawBody : List UInt8)
    (headerVal : String) (toleranceSecs : ℕ) : Steps (Except WebhookError Unit) :=
  match WebhookAdapters.Stripe.parseSignatureHeader headerVal with
  | .error e => pure (.error e)
  | .ok parsed => do
    let late ← late now parsed.timestamp toleranceSecs
    if late then pure (.error .signatureInvalid)
    else
      let payload := WebhookAdapters.Stripe.formatSignedPayload parsed.timestamp rawBody
      if parsed.signatures.any fun signature =>
          decode signature == some (m.sha256 webhookSecret payload)
      then pure (.ok ())
      else pure (.error .signatureInvalid)

end Stripe

namespace Outbound

def late (now timestamp toleranceSeconds : ℤ) : Steps Bool :=
  if 0 < toleranceSeconds then do
    let diff ← distance now timestamp
    pure (decide (toleranceSeconds < diff))
  else pure false

def computeSignature (m : Mac) (secret : String) (timestamp : ℤ) (payload : String) : String :=
  encode (m.sha256 secret (utf8 (toString timestamp ++ "." ++ payload)))

def verifySignature (m : Mac) (now : ℤ) (secret header payload : String) (toleranceSeconds : ℤ) :
    Steps (Except String Unit) :=
  let found := scan Gateway.fields Gateway.parse (header.toList.splitOn ',')
  match found.timestamp with
  | none => pure (.error "missing timestamp in signature header")
  | some timestamp =>
    if found.signatures.isEmpty then pure (.error "missing v1 signature in header")
    else do
      let late ← late now timestamp toleranceSeconds
      if late then pure (.error "timestamp outside tolerance window")
      else
        match decode (computeSignature m secret timestamp payload) with
        | none => pure (.error "invalid expected hex")
        | some expected =>
          if found.signatures.any fun candidate => decodeChars candidate == some expected then
            pure (.ok ())
          else pure (.error "signature mismatch")

end Outbound

/-- The values of the elements with a key: an element is cut at its first `=`
and both sides are trimmed. -/
def elements (header : String) (key : List Char) : List (List Char) :=
  values Gateway.fields key (header.toList.splitOn ',')

/-- The last `t` element that is an `i64`. -/
def timestamp (header : String) : Option ℤ :=
  ((elements header ['t']).filterMap Gateway.parse).getLast?

/-- What is signed: the timestamp in decimal, a dot and the body. -/
def signedBytes (t : ℤ) (body : List UInt8) : List UInt8 := utf8 (toString t ++ ".") ++ body

def Accepted (m : Mac) (now : ℤ) (secret : String) (body : List UInt8) (header : String)
    (tolerance : ℕ) : Prop :=
  ∃ t, timestamp header = some t ∧ |now - t| ≤ tolerance ∧
    ∃ signature ∈ elements header ['v', '1'],
      decodeChars signature = some (m.sha256 secret (signedBytes t body))

/-- A verifier says what it should, and no step of it leaves its integers. -/
structure Exact {ε : Type} (verdict : Steps (Except ε Unit)) (accepted : Prop) : Prop where
  answers : verdict.value = .ok () ↔ accepted
  within : verdict.exact = true

/-- Where the clock is asked, the timestamp is less than 2^63 seconds from it. -/
def Near (now : ℤ) (header : String) (signatures : List (List Char)) : Prop :=
  ∀ t, timestamp header = some t → signatures ≠ [] → |now - t| < 9223372036854775808

section Distances

variable {now t : ℤ}

theorem distance_near (near : |now - t| < 9223372036854775808) :
    distance now t = pure |now - t| := by
  obtain ⟨low, high⟩ := abs_lt.mp near
  have positive := abs_nonneg (now - t)
  have absolute : i64.Fits |now - t| := i64_fits.mpr ⟨by omega, near⟩
  unfold distance
  rw [Kind.cast_of_fits (i64_fits.mpr ⟨low.le, high⟩), pure_bind, Kind.cast_of_fits absolute]

theorem distance_exact_iff : (distance now t).exact = true ↔ |now - t| < 9223372036854775808 := by
  constructor
  · unfold distance
    simp only [Steps.exact_bind, Kind.exact_cast, Bool.and_eq_true, decide_eq_true_eq]
    rintro ⟨fits, absolute⟩
    rw [Kind.value_cast fits] at absolute
    exact (i64_fits.mp absolute).2
  · intro near
    rw [distance_near near]
    rfl

theorem stripe_late_near {tolerance : ℕ} (positive : 0 < tolerance)
    (small : tolerance < 9223372036854775808) (near : |now - t| < 9223372036854775808) :
    Stripe.late now t tolerance = pure (decide ((tolerance : ℤ) < |now - t|)) := by
  have fits : i64.Fits (tolerance : ℤ) := i64_fits.mpr ⟨by omega, by omega⟩
  unfold Stripe.late
  rw [if_pos positive, distance_near near, pure_bind, Kind.cast_of_fits fits, pure_bind]

theorem stripe_late_exact {tolerance : ℕ} (positive : 0 < tolerance)
    (within : (Stripe.late now t tolerance).exact = true) : |now - t| < 9223372036854775808 := by
  unfold Stripe.late at within
  rw [if_pos positive, Steps.exact_bind, Bool.and_eq_true] at within
  exact distance_exact_iff.mp within.1

theorem stripe_late_value (now t : ℤ) (tolerance : ℕ) : (Stripe.late now t tolerance).value =
    decide (0 < tolerance ∧ i64.wrap tolerance < (distance now t).value) := by
  unfold Stripe.late
  by_cases positive : 0 < tolerance
  · rw [if_pos positive, Steps.value_bind, Steps.value_bind, Steps.value_pure]
    simp only [positive, true_and]
    rfl
  · rw [if_neg positive]
    simp [positive]

theorem outbound_late_near {tolerance : ℤ} (positive : 0 < tolerance)
    (near : |now - t| < 9223372036854775808) :
    Outbound.late now t tolerance = pure (decide (tolerance < |now - t|)) := by
  unfold Outbound.late
  rw [if_pos positive, distance_near near, pure_bind]

theorem outbound_late_exact {tolerance : ℤ} (positive : 0 < tolerance)
    (within : (Outbound.late now t tolerance).exact = true) : |now - t| < 9223372036854775808 := by
  unfold Outbound.late at within
  rw [if_pos positive, Steps.exact_bind, Bool.and_eq_true] at within
  exact distance_exact_iff.mp within.1

theorem outbound_late_value (now t tolerance : ℤ) : (Outbound.late now t tolerance).value =
    decide (0 < tolerance ∧ tolerance < (distance now t).value) := by
  unfold Outbound.late
  by_cases positive : 0 < tolerance
  · rw [if_pos positive, Steps.value_bind, Steps.value_pure]
    simp only [positive, true_and]
  · rw [if_neg positive]
    simp [positive]

end Distances

section Headers

variable {items : List (List Char)}

/-- An element without `=` has no value for one parser and an empty one for the
other. -/
theorem headerItem_cases (item : List Char) :
    (Gateway.fields item = none ∧ (WebhookAdapters.Stripe.headerItem item).2 = "") ∨
    ∃ key value, Gateway.fields item = some (key, value) ∧
      WebhookAdapters.Stripe.headerItem item = (String.ofList key, String.ofList value) := by
  unfold Gateway.fields trimmedSides splitOnce WebhookAdapters.Stripe.headerItem
  by_cases cut : item.contains '=' = true
  · rw [if_pos cut]
    exact .inr ⟨_, _, rfl, rfl⟩
  · rw [if_neg cut]
    refine .inl ⟨rfl, ?_⟩
    have all : item.dropWhile (· != '=') = [] := by
      rw [List.dropWhile_eq_nil_iff]
      intro c mem
      rw [bne_iff_ne]
      rintro rfl
      exact cut (List.contains_iff_mem.mpr mem)
    simp only [all]
    rfl

theorem parsed_timestamps (items : List (List Char)) :
    (((items.map WebhookAdapters.Stripe.headerItem).filter fun item => item.1 == "t").filterMap
      fun item => parseI64 item.2) =
      (values Gateway.fields ['t'] items).filterMap Gateway.parse := by
  induction items with
  | nil => rfl
  | cons item rest ih =>
    rw [List.map_cons, List.filter_cons]
    rcases headerItem_cases item with ⟨skipped, empty⟩ | ⟨key, value, read, is⟩
    · rw [values_cons_none _ skipped]
      have unread : parseI64 (WebhookAdapters.Stripe.headerItem item).2 = none := by
        rw [empty]
        rfl
      by_cases named : ((WebhookAdapters.Stripe.headerItem item).1 == "t") = true
      · rw [if_pos named, List.filterMap_cons, unread]
        exact ih
      · rw [if_neg named]
        exact ih
    · rw [values_cons_some _ read, is]
      have same : ((String.ofList key == "t") = true) ↔ key = ['t'] := by
        rw [beq_iff_eq, ← String.toList_inj, String.toList_ofList]
        rfl
      by_cases named : key = ['t']
      · rw [if_pos named, if_pos (same.mpr named), List.filterMap_cons, List.filterMap_cons, ih]
        rfl
      · rw [if_neg named, if_neg (named ∘ same.mp)]
        exact ih

theorem parsed_signatures (items : List (List Char)) :
    (((items.map WebhookAdapters.Stripe.headerItem).filter
      fun item => item.1 == "v1" && item.2 != "").map Prod.snd) =
      ((values Gateway.fields ['v', '1'] items).filter (· ≠ [])).map String.ofList := by
  induction items with
  | nil => rfl
  | cons item rest ih =>
    rw [List.map_cons, List.filter_cons]
    rcases headerItem_cases item with ⟨skipped, empty⟩ | ⟨key, value, read, is⟩
    · rw [values_cons_none _ skipped, empty]
      simp only [bne_self_eq_false, Bool.and_false, Bool.false_eq_true, if_false]
      exact ih
    · rw [values_cons_some _ read, is]
      have same : ((String.ofList key == "v1") = true) ↔ key = ['v', '1'] := by
        rw [beq_iff_eq, ← String.toList_inj, String.toList_ofList]
        rfl
      have filled : ((String.ofList value != "") = true) ↔ value ≠ [] := by
        rw [bne_iff_ne, ne_eq, ← String.toList_inj, String.toList_ofList]
        rfl
      by_cases named : key = ['v', '1']
      · by_cases some_ : value = []
        · rw [if_pos named, if_neg (by simp [some_]), List.filter_cons,
            if_neg (by simp [some_])]
          exact ih
        · have both := Bool.and_eq_true_iff.mpr ⟨same.mpr named, filled.mpr some_⟩
          rw [if_pos named, if_pos both, List.filter_cons, if_pos (by simp [some_]), List.map_cons,
            List.map_cons, ih]
      · rw [if_neg named, if_neg fun both => named (same.mp (Bool.and_eq_true_iff.mp both).1)]
        exact ih

/-- The timestamp of a header, and those of its signatures that are not empty. -/
theorem parseSignatureHeader_eq (header : String) :
    WebhookAdapters.Stripe.parseSignatureHeader header =
      match timestamp header with
      | none => .error .signatureMissing
      | some t =>
        if (elements header ['v', '1']).filter (· ≠ []) = [] then .error .signatureMissing
        else .ok ⟨t, ((elements header ['v', '1']).filter (· ≠ [])).map String.ofList⟩ := by
  unfold WebhookAdapters.Stripe.parseSignatureHeader timestamp elements
  simp only [parsed_timestamps, parsed_signatures]
  cases ((values Gateway.fields ['t'] (header.toList.splitOn ',')).filterMap
    Gateway.parse).getLast? with
  | none => rfl
  | some t => simp only [List.isEmpty_iff, List.map_eq_nil_iff]

end Headers

section Verdicts

variable {m : Mac} {now t : ℤ} {secret header : String} {body : List UInt8} {tolerance : ℕ}

/-- The code of a message is not empty, and an empty signature decodes to nothing. -/
theorem signature_filled {signature : List Char} {message : List UInt8}
    (decoded : decodeChars signature = some (m.sha256 secret message)) : signature ≠ [] := by
  rintro rfl
  have size := m.size secret message
  have empty : m.sha256 secret message = [] := (Option.some.inj decoded).symm
  rw [empty] at size
  cases size

theorem not_accepted (none_ : timestamp header = none) :
    ¬ Accepted m now secret body header tolerance := by
  rintro ⟨t, is, -⟩
  rw [none_] at is
  cases is

theorem accepted_iff (is : timestamp header = some t) :
    Accepted m now secret body header tolerance ↔ |now - t| ≤ tolerance ∧
      ∃ signature ∈ elements header ['v', '1'],
        decodeChars signature = some (m.sha256 secret (signedBytes t body)) := by
  unfold Accepted
  constructor
  · rintro ⟨t', is', accepted⟩
    obtain rfl := Option.some.inj (is.symm.trans is')
    exact accepted
  · intro accepted
    exact ⟨t, is, accepted⟩

theorem near_iff {signatures : List (List Char)} (is : timestamp header = some t)
    (some_ : signatures ≠ []) : Near now header signatures ↔ |now - t| < 9223372036854775808 := by
  constructor
  · intro near
    exact near t is some_
  · intro near t' is' _
    obtain rfl := Option.some.inj (is.symm.trans is')
    exact near

theorem Exact.refused {ε : Type} {accepted : Prop} (e : ε) (never : ¬ accepted) :
    Exact (pure (.error e)) accepted := by
  refine ⟨⟨fun answered => ?_, fun accepted => absurd accepted never⟩, rfl⟩
  cases answered

/-- The verdict on a timestamp at a distance. -/
theorem Exact.decided {ε : Type} (late invalid : ε) (apart : ℤ) (valid : Bool) :
    Exact (if decide (tolerance < apart) = true then pure (.error late)
      else if valid = true then pure (.ok ()) else pure (.error invalid))
      (apart ≤ tolerance ∧ valid = true) := by
  by_cases beyond : tolerance < apart
  · rw [if_pos (decide_eq_true beyond)]
    exact .refused late fun both => absurd both.1 (by omega)
  · rw [if_neg (by simpa using beyond)]
    cases valid with
    | false => exact .refused invalid fun both => Bool.false_ne_true both.2
    | true => exact ⟨⟨fun _ => ⟨by omega, rfl⟩, fun _ => rfl⟩, rfl⟩

/-- Of the signatures that are not empty, one decodes to a code. -/
theorem any_filled (signatures : List (List Char)) (message : List UInt8) :
    ((signatures.filter (· ≠ [])).map String.ofList).any
        (fun signature => decode signature == some (m.sha256 secret message)) = true ↔
      ∃ signature ∈ signatures, decodeChars signature = some (m.sha256 secret message) := by
  simp only [List.any_eq_true, List.mem_map, List.mem_filter, beq_iff_eq]
  constructor
  · rintro ⟨-, ⟨signature, ⟨mem, -⟩, rfl⟩, decoded⟩
    refine ⟨signature, mem, ?_⟩
    rw [decode, String.toList_ofList] at decoded
    exact decoded
  · rintro ⟨signature, mem, decoded⟩
    refine ⟨_, ⟨signature, ⟨mem, by simpa using signature_filled decoded⟩, rfl⟩, ?_⟩
    rw [decode, String.toList_ofList]
    exact decoded

theorem near_none {signatures : List (List Char)} (none_ : timestamp header = none) :
    Near now header signatures := by
  intro t is
  rw [none_] at is
  cases is

theorem stripe_exact_iff (positive : 0 < tolerance) (small : tolerance < 9223372036854775808) :
    Exact (Stripe.verifySignature m now secret body header tolerance)
        (Accepted m now secret body header tolerance) ↔
      Near now header ((elements header ['v', '1']).filter (· ≠ [])) := by
  unfold Stripe.verifySignature
  rw [parseSignatureHeader_eq]
  cases is : timestamp header with
  | none => exact ⟨fun _ => near_none is, fun _ => .refused _ (not_accepted is)⟩
  | some t =>
    simp only
    by_cases none_ : (elements header ['v', '1']).filter (· ≠ []) = []
    · rw [if_pos none_]
      constructor
      · intro _ _ _ some_
        exact absurd none_ some_
      · intro _
        apply Exact.refused
        intro accepted
        obtain ⟨-, signature, mem, decoded⟩ := (accepted_iff is).mp accepted
        have kept : signature ∈ (elements header ['v', '1']).filter (· ≠ []) :=
          List.mem_filter.mpr ⟨mem, by simpa using signature_filled decoded⟩
        rw [none_] at kept
        cases kept
    · rw [if_neg none_, near_iff is none_, accepted_iff is]
      constructor
      · intro exact_
        have within := exact_.within
        rw [Steps.exact_bind, Bool.and_eq_true] at within
        exact stripe_late_exact positive within.1
      · intro near
        simp only
        rw [stripe_late_near positive small near, pure_bind,
          ← any_filled (elements header ['v', '1']) (signedBytes t body)]
        exact .decided _ _ _ _

theorem signedBytes_utf8 (t : ℤ) (payload : String) :
    signedBytes t (utf8 payload) = utf8 (toString t ++ "." ++ payload) := by
  unfold signedBytes utf8
  simp [String.toUTF8]

theorem outbound_exact_iff {payload : String} (positive : 0 < tolerance) :
    Exact (Outbound.verifySignature m now secret header payload tolerance)
        (Accepted m now secret (utf8 payload) header tolerance) ↔
      Near now header (elements header ['v', '1']) := by
  have found : scan Gateway.fields Gateway.parse (header.toList.splitOn ',') =
      ⟨timestamp header, elements header ['v', '1']⟩ := scan_eq
  unfold Outbound.verifySignature
  simp only [found]
  cases is : timestamp header with
  | none => exact ⟨fun _ => near_none is, fun _ => .refused _ (not_accepted is)⟩
  | some t =>
    simp only
    by_cases none_ : elements header ['v', '1'] = []
    · rw [if_pos (List.isEmpty_iff.mpr none_)]
      constructor
      · intro _ _ _ some_
        exact absurd none_ some_
      · intro _
        apply Exact.refused
        intro accepted
        obtain ⟨-, signature, mem, -⟩ := (accepted_iff is).mp accepted
        rw [none_] at mem
        cases mem
    · rw [if_neg (by simpa using none_), near_iff is none_, accepted_iff is]
      have some_ : (0 : ℤ) < tolerance := by omega
      constructor
      · intro exact_
        have within := exact_.within
        rw [Steps.exact_bind, Bool.and_eq_true] at within
        exact outbound_late_exact some_ within.1
      · intro near
        have expected : decode (Outbound.computeSignature m secret t payload) =
            some (m.sha256 secret (signedBytes t (utf8 payload))) := by
          rw [signedBytes_utf8]
          exact decode_encode _
        have any : (elements header ['v', '1']).any (fun candidate => decodeChars candidate ==
            some (m.sha256 secret (signedBytes t (utf8 payload)))) = true ↔
            ∃ signature ∈ elements header ['v', '1'],
              decodeChars signature = some (m.sha256 secret (signedBytes t (utf8 payload))) := by
          simp only [List.any_eq_true, beq_iff_eq]
        rw [outbound_late_near some_ near, pure_bind, expected, ← any]
        exact .decided _ _ _ _

end Verdicts

section Bridges

variable {m : Mac} {secret header : String} {body : List UInt8} {tolerance : ℕ}

/-- The code of a text. -/
def Mac.ofText (m : Mac) : Hmac where
  sha256 secret message := m.sha256 secret (utf8 message)
  size secret message := m.size secret (utf8 message)

theorem wrapI64_eq (n : ℤ) : WebhookAdapters.Stripe.wrapI64 n = i64.wrap n := by
  simp [WebhookAdapters.Stripe.wrapI64, Kind.wrap, i64, Int.sub_eq_add_neg]

/-- The value of every step is that of the verifier that wraps around. -/
theorem stripe_value (k : Crypto) (same : k.hmacSha256 = m.sha256) (now : Instant) :
    (Stripe.verifySignature m now.seconds secret body header tolerance).value =
      WebhookAdapters.Stripe.verifySignature k now secret body header tolerance := by
  unfold Stripe.verifySignature WebhookAdapters.Stripe.verifySignature
  cases WebhookAdapters.Stripe.parseSignatureHeader header with
  | error e => rfl
  | ok parsed =>
    have apart : WebhookAdapters.Stripe.absI64
        (WebhookAdapters.Stripe.wrapI64 (now.seconds - parsed.timestamp)) =
        (distance now.seconds parsed.timestamp).value := by
      rw [WebhookAdapters.Stripe.absI64, wrapI64_eq, wrapI64_eq, Int.natCast_natAbs]
      rfl
    simp only [Steps.value_bind, stripe_late_value, decide_eq_true_eq, apart, same]
    rw [wrapI64_eq]
    split
    · rfl
    · split <;> rfl

theorem outbound_value {payload : String} (clock : Clock) (tolerance : Tolerance) :
    (Outbound.verifySignature m clock.now secret header payload tolerance.seconds).value =
      Gateway.verifySignature m.ofText clock secret header payload tolerance := by
  unfold Outbound.verifySignature Gateway.verifySignature
  simp only
  cases (scan Gateway.fields Gateway.parse (header.toList.splitOn ',')).timestamp with
  | none => rfl
  | some t =>
    simp only
    have apart : Gateway.distance clock.now t = (distance clock.now t).value := rfl
    have expected : Gateway.computeSignature m.ofText secret t payload =
        Outbound.computeSignature m secret t payload := rfl
    simp only [apart, expected]
    split
    · rfl
    · simp only [Steps.value_bind, outbound_late_value, decide_eq_true_eq]
      split
      · rfl
      · cases decode (Outbound.computeSignature m secret t payload) with
        | none => rfl
        | some bytes =>
          simp only
          split <;> rfl

end Bridges

section Claim

variable {m : Mac} {now : ℤ} {secret header payload : String} {body : List UInt8} {tolerance : ℕ}

theorem timestamped_signatures_exact_iff (positive : 0 < tolerance)
    (small : tolerance < 9223372036854775808) :
    (Exact (Stripe.verifySignature m now secret body header tolerance)
        (Accepted m now secret body header tolerance) ↔
      Near now header ((elements header ['v', '1']).filter (· ≠ []))) ∧
    (Exact (Outbound.verifySignature m now secret header payload tolerance)
        (Accepted m now secret (utf8 payload) header tolerance) ↔
      Near now header (elements header ['v', '1'])) :=
  ⟨stripe_exact_iff positive small, outbound_exact_iff positive⟩

/-- The code of `1725610000.event` under `whsec_1`. -/
def eventMac : Mac where
  sha256 _ _ := [242, 99, 224, 170, 12, 61, 2, 59, 171, 82, 52, 147, 25, 20, 145, 173, 75, 9,
    124, 111, 32,
    125, 200, 196, 146, 203, 239, 26, 170, 197, 115, 55]
  size _ _ := rfl

def eventHeader : String :=
  "t=1725610000,v1=f263e0aa0c3d023bab523493191491ad4b097c6f207dc8c492cbef1aaac57337"

theorem timestamped_signatures_exact_iff_event :
    (Exact (Stripe.verifySignature eventMac 1725610000 "whsec_1" (utf8 "event") eventHeader 300)
        (Accepted eventMac 1725610000 "whsec_1" (utf8 "event") eventHeader 300) ↔
      Near 1725610000 eventHeader ((elements eventHeader ['v', '1']).filter (· ≠ []))) ∧
    (Exact (Outbound.verifySignature eventMac 1725610000 "whsec_1" eventHeader "event" (300 : ℕ))
        (Accepted eventMac 1725610000 "whsec_1" (utf8 "event") eventHeader 300) ↔
      Near 1725610000 eventHeader (elements eventHeader ['v', '1'])) :=
  timestamped_signatures_exact_iff (by decide) (by decide)

/-- A timestamp 2^63 seconds ago. -/
theorem overflowing : ¬ ∀ (m : Mac) (now : ℤ) (secret header payload : String) (tolerance : ℕ),
    0 < tolerance → tolerance < 9223372036854775808 →
    Exact (Outbound.verifySignature m now secret header payload tolerance)
      (Accepted m now secret (utf8 payload) header tolerance) := by
  intro claimed
  obtain ⟨times, signatures⟩ :=
    created_values eventMac.ofText "whsec_1" (-9223372035129165808) "event"
  have exact_ := claimed eventMac 1725610000 "whsec_1"
    (Gateway.createSignatureHeader eventMac.ofText "whsec_1" (-9223372035129165808) "event") "event"
    300 (by decide) (by decide)
  have near := (outbound_exact_iff (by decide)).mp exact_
  have read : timestamp
      (Gateway.createSignatureHeader eventMac.ofText "whsec_1" (-9223372035129165808) "event") =
      some (-9223372035129165808) := by
    obtain ⟨i, writes, is⟩ := toString_numeral (-9223372035129165808)
    have parsed := gateway_reads writes (by rw [is]; decide)
    unfold timestamp elements
    rw [times, List.filterMap_cons, parsed, is]
    rfl
  have some_ : elements
      (Gateway.createSignatureHeader eventMac.ofText "whsec_1" (-9223372035129165808) "event")
      ['v', '1'] ≠ [] := by
    unfold elements
    rw [signatures]
    exact List.cons_ne_nil _ _
  exact absurd (near _ read some_) (by decide)

end Claim

end OpenWrapper.TimestampedSignatures
