import OpenWrapper.References
import OpenWrapper.SignedContent

/-! # The identity of an event

A Paymob event is named by the transaction and the digest of its MAC, a Fawry
event by the notification's own `requestId`, which is not signed, or else by
the digest of its signature. The store answers a second delivery of a recorded
event as a duplicate. -/

set_option autoImplicit false

namespace OpenWrapper.EventIdentity
open OpenWrapper.Ids OpenWrapper.Payments OpenWrapper.Providers OpenWrapper.JsonValue
open OpenWrapper.Hexadecimal OpenWrapper.WebhookAdapters OpenWrapper.SignedContent
open OpenWrapper.Schema OpenWrapper.ConstraintTable OpenWrapper.PaymentStore
open OpenWrapper.StatementRules OpenWrapper.Effects OpenWrapper.Gateway OpenWrapper.Contracts
open OpenWrapper.WorkingStore OpenWrapper.References OpenWrapper.Suspended

section Text

theorem nat_repr_clean (n : ℕ) : ':' ∉ (Nat.repr n).toList := by
  intro mem
  have digit_ : Char.isDigit ':' = true :=
    Nat.isDigit_of_mem_toDigits (b := 10) (n := n) (by decide) (by decide) (by simpa [Nat.repr] using mem)
  cases digit_

theorem int_clean (n : ℤ) : ':' ∉ (toString n).toList := by
  cases n with
  | ofNat n => exact nat_repr_clean n
  | negSucc n =>
    intro mem
    have text : (toString (Int.negSucc n)).toList = '-' :: (Nat.repr (n + 1)).toList := by
      show (Int.repr _).toList = _
      simp [Int.repr]
    rw [text] at mem
    rcases List.mem_cons.mp mem with sign | rest
    · cases sign
    · exact nat_repr_clean _ rest

theorem digit_ne_colon : ∀ n < 16, digit n ≠ ':' := by decide

theorem encode_clean (bytes : List UInt8) : ':' ∉ (encode bytes).toList := by
  rw [encode, String.toList_ofList]
  induction bytes with
  | nil => simp [encodeChars]
  | cons b rest ih =>
    have bound := b.toNat_lt
    have high := digit_ne_colon (b.toNat / 16) (by omega)
    have low := digit_ne_colon (b.toNat % 16) (by omega)
    simp [encodeChars, high.symm, low.symm, ih]

/-- Two texts cut at a colon that the parts of the first do not contain. -/
theorem cut_eq {a b c d : String} (clean : ':' ∉ a.toList) (free : ':' ∉ b.toList) :
    a ++ ":" ++ b = c ++ ":" ++ d ↔ a = c ∧ b = d := by
  constructor
  · intro same
    have texts : a.toList ++ ':' :: b.toList = c.toList ++ ':' :: d.toList := by
      simpa using congrArg String.toList same
    obtain ⟨first, -, second⟩ := (List.append_cons_inj_of_notMem clean free).mp texts
    exact ⟨String.toList_inj.mp first, String.toList_inj.mp second⟩
  · rintro ⟨rfl, rfl⟩
    rfl

end Text

section Identity

variable {k : Crypto} {event event' : WebhookEvent}

theorem paymob_identity_iff {secret hmac hmac' : String} {obj obj' : Json}
    (mac : Function.Injective (k.hmacSha512 secret)) (digest : Function.Injective k.sha256)
    (verified : Paymob.verify k obj hmac secret = true)
    (verified' : Paymob.verify k obj' hmac' secret = true)
    (parsed : Paymob.parseVerifiedTransaction k obj hmac = .ok event)
    (parsed' : Paymob.parseVerifiedTransaction k obj' hmac' = .ok event') :
    event.eventId = event'.eventId ↔ event.providerReference = event'.providerReference ∧
      String.join (signedFields k obj) = String.join (signedFields k obj') := by
  obtain ⟨id, amount, success, pending, errorOccured, told⟩ :=
    Paymob.parseVerifiedTransaction_ok.mp parsed
  obtain ⟨id', amount', success', pending', errorOccured', told'⟩ :=
    Paymob.parseVerifiedTransaction_ok.mp parsed'
  rw [told.read, told'.read, ← same_text_iff mac verified verified']
  show Paymob.eventId k id hmac = Paymob.eventId k id' hmac' ↔ toString id = toString id' ∧ _
  rw [Paymob.eventId, Paymob.eventId, String.append_assoc, String.append_assoc,
    String.append_assoc, String.append_assoc, String.append_right_inj, ← String.append_assoc,
    ← String.append_assoc, cut_eq (int_clean id) (encode_clean _)]
  constructor
  · rintro ⟨ids, digests⟩
    exact ⟨ids, digest (encode_injective digests)⟩
  · rintro ⟨ids, texts⟩
    rw [ids, texts]
    exact ⟨rfl, rfl⟩

/-- The notification's own id, unless it is blank. -/
def requestId (payload : Json) : Option String :=
  (Fawry.getStr payload "requestId").filter fun id => !isBlank id

/-- What a notification is identified by: its own id, or its signature. -/
def SameIdentity (k : Crypto) (payload payload' : Json) (signature signature' : String)
    (signed signed' : List String) : Prop :=
  match requestId payload, requestId payload' with
  | some id, some id' => id = id'
  | none, none => String.join signed = String.join signed'
  | some id, none => id = encode (k.sha256 (toAsciiLowercase signature'))
  | none, some id' => encode (k.sha256 (toAsciiLowercase signature)) = id'

theorem fawry_identity_iff {config : FawryConfig} {raw raw' : RawWebhookRequest}
    {payload payload' : Json} {signature signature' : String} {fields fields' : Fawry.SignedFields}
    (digest : Function.Injective k.sha256)
    (signed : Fawry.Signed k config raw payload signature fields)
    (signed' : Fawry.Signed k config raw' payload' signature' fields')
    (parsed : Fawry.verifyAndParse k config raw = .ok event)
    (parsed' : Fawry.verifyAndParse k config raw' = .ok event') :
    event.eventId = event'.eventId ↔
      SameIdentity k payload payload' signature signature' fields.parts fields'.parts := by
  obtain ⟨amount, -, rfl⟩ := read_from_signed signed parsed
  obtain ⟨amount', -, rfl⟩ := read_from_signed signed' parsed'
  show "fawry:" ++ (requestId payload).getD _ = "fawry:" ++ (requestId payload').getD _ ↔ _
  rw [String.append_right_inj, SameIdentity]
  cases requestId payload with
  | some id => cases requestId payload' <;> rfl
  | none =>
    cases requestId payload' with
    | some id' => rfl
    | none =>
      dsimp only [Option.getD_none]
      rw [← same_fields_text_iff digest signed signed']
      exact ⟨fun same => digest (encode_injective same), fun same => by rw [same]⟩

end Identity

section Replay

variable {fp : PaymentRequest → String} {b : Backend} {d : Draw} {L : Ledger}
  {report : WebhookReport} {event event' : WebhookEvent}

theorem scan_carried {provider : ProviderId} {reference : String}
    (carried : Carried L provider reference) : ∃ row,
      ((scan d L.payments.rows).find? fun row =>
        row.provider == .stored provider && row.providerReference == some reference) = some row := by
  obtain ⟨row, mem, at_, named⟩ := carried
  apply Option.isSome_iff_exists.mp
  rw [List.find?_isSome]
  exact ⟨row, mem_scan.mpr mem, by simp [at_, named]⟩

/-- A second delivery of a recorded event changes nothing. -/
theorem duplicate_of_recorded (carried : Carried L report.provider report.providerReference)
    (recorded : EventRecorded L report.eventId) :
    execOp fp b (working d) L (.applyWebhookEvent report) = (L, .ok .duplicate) := by
  obtain ⟨row, found⟩ := scan_carried (d := working d) carried
  have refused : ∀ received, L.webhookEvents.insert
      ((⟨report.eventId, report.provider, row.id, received⟩ : WebhookEventRow).kept b) = none :=
    fun received => Table.insert_eq_none.mpr recorded
  cases b with
  | sqlite =>
    simp [execOp, program, SqliteStore.applyWebhookEvent, exec, Stmt.run, Session.on, found,
      Write.perform, refused, Session.close]
  | postgres =>
    simp [execOp, program, PostgresStore.applyWebhookEvent, exec, Stmt.run, Session.on, found,
      Write.perform, refused, Session.close]

/-- Once the store has judged the one event in a run, the other is a duplicate. -/
def Replays (event event' : WebhookEvent) : Prop :=
  ∀ b app w, Reachable b app w → ∀ t ∈ w.tasks, ∀ providerId outcome,
    told (.applyWebhookEvent (Handlers.WebhookEvent.report event providerId)) (.transition outcome)
      ∈ t.history →
    ∀ d, execOp app.fingerprint b (working d) w.shared.ledger
      (.applyWebhookEvent (Handlers.WebhookEvent.report event' providerId)) =
        (w.shared.ledger, .ok .duplicate)

theorem replays_of_same (sameId : event'.eventId = event.eventId)
    (sameReference : event'.providerReference = event.providerReference) :
    Replays event event' := by
  intro b app w reachable t mem providerId outcome judged d
  obtain ⟨carried, recorded⟩ := (issued_of_reachable reachable).judged t mem _ judged
  apply duplicate_of_recorded
  · show Carried _ providerId event'.providerReference
    rw [sameReference]
    exact carried
  · show EventRecorded _ event'.eventId
    rw [sameId]
    exact recorded

end Replay

/-- When two signed callbacks are one event, and when the one replays the
other: `P` for Paymob's, `F` for Fawry's. -/
structure Identified (k : Crypto) (P : Json → Json → WebhookEvent → WebhookEvent → Prop)
    (F : Json → Json → String → String → Fawry.SignedFields → Fawry.SignedFields →
      WebhookEvent → WebhookEvent → Prop) : Prop where
  paymob : ∀ secret hmac hmac' obj obj' event event', Paymob.verify k obj hmac secret = true →
    Paymob.verify k obj' hmac' secret = true →
    Paymob.parseVerifiedTransaction k obj hmac = .ok event →
    Paymob.parseVerifiedTransaction k obj' hmac' = .ok event' → P obj obj' event event'
  fawry : ∀ config raw raw' payload payload' signature signature' fields fields' event event',
    Fawry.Signed k config raw payload signature fields →
    Fawry.Signed k config raw' payload' signature' fields' →
    Fawry.verifyAndParse k config raw = .ok event →
    Fawry.verifyAndParse k config raw' = .ok event' →
    F payload payload' signature signature' fields fields' event event'

theorem event_identified (k : Crypto) (mac : ∀ secret, Function.Injective (k.hmacSha512 secret))
    (digest : Function.Injective k.sha256) : Identified k
      (fun obj obj' event event' =>
        (event.eventId = event'.eventId ↔ event.providerReference = event'.providerReference ∧
          String.join (signedFields k obj) = String.join (signedFields k obj')) ∧
        (signedFields k obj = signedFields k obj' → Replays event event'))
      (fun payload payload' signature signature' fields fields' event event' =>
        (event.eventId = event'.eventId ↔
          SameIdentity k payload payload' signature signature' fields.parts fields'.parts) ∧
        (fields = fields' → requestId payload = requestId payload' → Replays event event')) where
  paymob := by
    intro secret hmac hmac' obj obj' event event' verified verified' parsed parsed'
    have identity := paymob_identity_iff (mac secret) digest verified verified' parsed parsed'
    refine ⟨identity, fun same => ?_⟩
    have reference : event.providerReference = event'.providerReference := by
      obtain ⟨id, amount, success, pending, errorOccured, told⟩ :=
        Paymob.parseVerifiedTransaction_ok.mp parsed
      obtain ⟨id', amount', success', pending', errorOccured', told'⟩ :=
        Paymob.parseVerifiedTransaction_ok.mp parsed'
      have part : Paymob.fieldString k obj "id" = Paymob.fieldString k obj' "id" :=
        congrArg (fun parts : List String => parts.getD 5 "") same
      rw [told.read, told'.read]
      exact congrArg toString (integer_agrees (by decide) told.named told'.named part)
    exact replays_of_same (identity.mpr ⟨reference, by rw [same]⟩).symm reference.symm
  fawry := by
    intro config raw raw' payload payload' signature signature' fields fields' event event' signed
      signed' parsed parsed'
    have identity := fawry_identity_iff digest signed signed' parsed parsed'
    refine ⟨identity, fun same own => ?_⟩
    have one : SameIdentity k payload payload' signature signature' fields.parts fields'.parts := by
      rw [SameIdentity, own, same]
      cases requestId payload' <;> rfl
    obtain ⟨amount, -, rfl⟩ := read_from_signed signed parsed
    obtain ⟨amount', -, rfl⟩ := read_from_signed signed' parsed'
    exact replays_of_same (identity.mpr one).symm
      (congrArg Fawry.SignedFields.merchantRefNumber same.symm)

section Samples

def shopFawry : FawryConfig := ⟨"MC1", "s3cr3t", "https://atfawry.fawrystaging.com", false⟩

def paidFields : Fawry.SignedFields :=
  ⟨"FR123", "MR123", "100.00", "100.00", "PAID", "PAYATFAWRY", none⟩

def paidSignature : String := encode (Fawry.webhookSignature plain paidFields shopFawry.secureKey)

/-- A paid order, under a `requestId`. -/
def notification (id : String) : Json :=
  .obj [("requestId", .str id), ("fawryRefNumber", .str "FR123"),
    ("merchantRefNumber", .str "MR123"), ("paymentAmount", .num "100.00"),
    ("orderAmount", .num "100.00"), ("orderStatus", .str "PAID"),
    ("paymentMethod", .str "PAYATFAWRY"), ("messageSignature", .str paidSignature)]

/-- The text of the notification. -/
def notificationText (id : String) : String :=
  "\x7b\"requestId\":\"" ++ id ++ ("\",\"fawryRefNumber\":\"FR123\",\"merchantRefNumber\":\"MR123\"," ++
    "\"paymentAmount\":100.00,\"orderAmount\":100.00,\"orderStatus\":\"PAID\"," ++
    "\"paymentMethod\":\"PAYATFAWRY\",\"messageSignature\":\"" ++ paidSignature ++ "\"\x7d")

def delivery (id : String) : RawWebhookRequest := ⟨(notificationText id).toUTF8.data.toList, [], []⟩

/-- A parser that knows two documents. -/
def knowing (a b : List UInt8) (first second : Json) : Crypto := { plain with
  fromSlice := fun body =>
    if body = a then .ok first
    else if body = b then .ok second
    else .error "expected value at line 1 column 1" }

theorem knowing_first (a b : List UInt8) (first second : Json) :
    (knowing a b first second).fromSlice a = .ok first := if_pos rfl

theorem knowing_second {a b : List UInt8} (apart : b ≠ a) (first second : Json) :
    (knowing a b first second).fromSlice b = .ok second := (if_neg apart).trans (if_pos rfl)

def reader : Crypto :=
  knowing (delivery "req-abc").rawBody (delivery "req-abd").rawBody (notification "req-abc")
    (notification "req-abd")

theorem delivery_apart : (delivery "req-abd").rawBody ≠ (delivery "req-abc").rawBody := by
  intro same
  have texts := (String.append_left_inj _).mp (utf8_injective same)
  have ids := (String.append_right_inj _).mp texts
  exact absurd ids (by decide)

theorem notification_signed {id : String}
    (parsed : reader.fromSlice (delivery id).rawBody = .ok (notification id)) :
    Fawry.Signed reader shopFawry (delivery id) (notification id) paidSignature paidFields :=
  ⟨parsed, by rfl, by rfl, decode_encode _⟩

theorem first_signed : Fawry.Signed reader shopFawry (delivery "req-abc") (notification "req-abc")
    paidSignature paidFields :=
  notification_signed (knowing_first (delivery "req-abc").rawBody _ _ _)

theorem second_signed : Fawry.Signed reader shopFawry (delivery "req-abd") (notification "req-abd")
    paidSignature paidFields :=
  notification_signed (knowing_second delivery_apart _ _)

theorem notification_parsed {id : String} (signed : Fawry.Signed reader shopFawry (delivery id)
    (notification id) paidSignature paidFields) :
    Fawry.verifyAndParse reader shopFawry (delivery id) =
      .ok (Fawry.eventOf reader (notification id) paidSignature paidFields 10000) :=
  Fawry.verifyAndParse_ok.mpr ⟨_, _, _, 10000, signed, rfl, by rfl, by decide, rfl⟩

/-- One signed text under two names: the `requestId` is not signed. -/
theorem one_text_two_events : ¬ ∀ k : Crypto,
    (∀ secret, Function.Injective (k.hmacSha512 secret)) → Function.Injective k.sha256 →
    Identified k
      (fun obj obj' event event' =>
        (event.eventId = event'.eventId ↔
          String.join (signedFields k obj) = String.join (signedFields k obj')) ∧
        (signedFields k obj = signedFields k obj' → Replays event event'))
      (fun _ _ _ _ fields fields' event event' =>
        (event.eventId = event'.eventId ↔
          String.join fields.parts = String.join fields'.parts) ∧
        (fields = fields' → Replays event event')) := by
  intro claimed
  have same := ((claimed reader (fun _ => utf8_injective) utf8_injective).fawry shopFawry
    (delivery "req-abc") (delivery "req-abd") _ _ paidSignature paidSignature paidFields paidFields
    _ _ first_signed second_signed (notification_parsed first_signed)
    (notification_parsed second_signed)).1.mpr rfl
  exact absurd same (by decide)

/-- A callback whose terminal was altered replays the one that was sent. -/
theorem event_identified_relabelled : Replays (reported 1000) (reported 1000) :=
  ((event_identified plain (fun _ => utf8_injective) utf8_injective).paymob "s3cr3t" chargedHmac
    chargedHmac charged relabelled (reported 1000) (reported 1000) (charged_verified rfl)
    (charged_verified (by decide)) (transaction_parsed (by decide) (by decide))
    (transaction_parsed (by decide) (by decide))).2 (by decide)

end Samples

end OpenWrapper.EventIdentity
