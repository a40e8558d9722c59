import OpenWrapper.WebhookAdapters
import Mathlib.Data.List.GetD

/-! # What a signature pins down

Paymob and Fawry sign the fields of a callback one behind the other, with
nothing between them. Two callbacks with one signature have one signed text; a
field is the same in both if it stands at the same place of that text. -/

set_option autoImplicit false

namespace OpenWrapper.SignedContent
open OpenWrapper.Ids OpenWrapper.Payments OpenWrapper.Providers OpenWrapper.JsonValue
open OpenWrapper.Hexadecimal OpenWrapper.WebhookAdapters

section Places

/-- Where the part of this number begins in the joined text. -/
def offset (parts : List String) (i : ℕ) : ℕ := (String.join (parts.take i)).toList.length

/-- The part of this number begins and ends at the same places. -/
def SamePlace (parts parts' : List String) (i : ℕ) : Prop :=
  offset parts i = offset parts' i ∧
    (parts.getD i "").toList.length = (parts'.getD i "").toList.length

instance (parts parts' : List String) (i : ℕ) : Decidable (SamePlace parts parts' i) :=
  inferInstanceAs (Decidable (_ ∧ _))

theorem join_at (parts : List String) (i : ℕ) : (String.join parts).toList =
    (String.join (parts.take i)).toList ++
      ((parts.getD i "").toList ++ (String.join (parts.drop (i + 1))).toList) := by
  have whole : parts = parts.take i ++ parts.drop i := (List.take_append_drop i parts).symm
  have rest : (String.join (parts.drop i)).toList =
      (parts.getD i "").toList ++ (String.join (parts.drop (i + 1))).toList := by
    by_cases within : i < parts.length
    · rw [List.drop_eq_getElem_cons within, String.join_cons, String.toList_append,
        List.getD_eq_getElem _ _ within]
    · have beyond : parts.length ≤ i := by omega
      rw [List.drop_eq_nil_of_le beyond, List.drop_eq_nil_of_le (by omega),
        List.getD_eq_default _ _ beyond]
      rfl
  rw [← rest]
  conv_lhs => rw [whole]
  rw [String.join_append, String.toList_append]

theorem same_part {parts parts' : List String} {i : ℕ}
    (joined : String.join parts = String.join parts') (place : SamePlace parts parts' i) :
    parts.getD i "" = parts'.getD i "" := by
  have texts : (String.join parts).toList = (String.join parts').toList := by rw [joined]
  rw [join_at parts i, join_at parts' i] at texts
  have rest := (List.append_inj texts place.1).2
  exact String.toList_inj.mp (List.append_inj rest place.2).1

theorem last_part (parts : List String) (last : String) :
    last.toList <:+ (String.join (parts ++ [last])).toList := by
  rw [String.join_append, String.toList_append]
  simp

end Places

/-- What two callbacks with one signed text agree on: the reference, the amount
and the status, each if the field it is read from stands at the same place. -/
structure Bound (signed signed' : List String) (reference amount status : ℕ)
    (event event' : WebhookEvent) : Prop where
  text : String.join signed = String.join signed'
  reference : SamePlace signed signed' reference →
    event.providerReference = event'.providerReference
  amount : SamePlace signed signed' amount →
    event.reportedAmountMinorUnits = event'.reportedAmountMinorUnits
  status : SamePlace signed signed' status → event.reportedStatus = event'.reportedStatus

section Paymob
open Paymob

variable {k : Crypto} {secret hmac hmac' : String} {obj obj' : Json} {event event' : WebhookEvent}

def signedFields (k : Crypto) (obj : Json) : List String :=
  hmacFieldOrder.map (fieldString k obj)

theorem verify_iff : verify k obj hmac secret = true ↔
    decode hmac = some (k.hmacSha512 secret (String.join (signedFields k obj))) := by
  rw [verify, beq_iff_eq]
  rfl

theorem same_text_iff (injective : Function.Injective (k.hmacSha512 secret))
    (verified : verify k obj hmac secret = true) (verified' : verify k obj' hmac' secret = true) :
    toAsciiLowercase hmac = toAsciiLowercase hmac' ↔
      String.join (signedFields k obj) = String.join (signedFields k obj') := by
  rw [lower_eq_iff (verify_iff.mp verified) (verify_iff.mp verified')]
  exact injective.eq_iff

theorem numeral_of_asI64 {v : Option Json} {n : ℤ} (read : v.bind asI64 = some n) :
    parseI64 (textOf k v) = some n := by
  cases v with
  | none => cases read
  | some v =>
    cases v with
    | num numeral => exact read
    | _ => cases read

theorem text_of_asBool {v : Option Json} {b : Bool} (read : v.bind Json.asBool = some b) :
    textOf k v = if b then "true" else "false" := by
  cases v with
  | none => cases read
  | some v =>
    cases v with
    | bool b' =>
      cases read
      rfl
    | _ => cases read

theorem integer_agrees {field : String} {n n' : ℤ} (plain : splitOnce field = none)
    (read : (obj.get field).bind asI64 = some n) (read' : (obj'.get field).bind asI64 = some n')
    (same : fieldString k obj field = fieldString k obj' field) : n = n' := by
  have first : parseI64 (fieldString k obj field) = some n := by
    rw [fieldString, fieldAt, plain]
    exact numeral_of_asI64 read
  have second : parseI64 (fieldString k obj' field) = some n' := by
    rw [fieldString, fieldAt, plain]
    exact numeral_of_asI64 read'
  rw [same, second] at first
  exact (Option.some.inj first).symm

theorem flag_text {field : String} {b : Bool} (plain : splitOnce field = none)
    (read : (obj.get field).bind Json.asBool = some b) :
    fieldString k obj field = if b then "true" else "false" := by
  rw [fieldString, fieldAt, plain]
  exact text_of_asBool read

theorem flag_agrees {b b' : Bool}
    (same : (if b then "true" else "false") = if b' then "true" else "false") : b = b' := by
  revert same
  cases b <;> cases b' <;> decide

/-- The last field needs no place: neither text of a flag ends in the other. -/
theorem success_agrees {b b' : Bool} (read : (obj.get "success").bind Json.asBool = some b)
    (read' : (obj'.get "success").bind Json.asBool = some b')
    (joined : String.join (signedFields k obj) = String.join (signedFields k obj')) : b = b' := by
  have ends : ∀ obj, (fieldString k obj "success").toList <:+
      (String.join (signedFields k obj)).toList := fun obj =>
    last_part ((hmacFieldOrder.take 19).map (fieldString k obj)) (fieldString k obj "success")
  have first := ends obj
  have second := ends obj'
  rw [flag_text (by decide) read, joined] at first
  rw [flag_text (by decide) read'] at second
  have total := List.suffix_or_suffix_of_suffix first second
  revert total
  cases b <;> cases b' <;> decide

theorem paymob_bound (injective : Function.Injective (k.hmacSha512 secret))
    (verified : verify k obj hmac secret = true) (verified' : verify k obj' hmac secret = true)
    (parsed : parseVerifiedTransaction k obj hmac = .ok event)
    (parsed' : parseVerifiedTransaction k obj' hmac = .ok event') :
    Bound (signedFields k obj) (signedFields k obj') (hmacFieldOrder.idxOf "id")
      (hmacFieldOrder.idxOf "amount_cents") (hmacFieldOrder.idxOf "pending") event event' := by
  have joined := (same_text_iff injective verified verified').mp rfl
  obtain ⟨id, amount, success, pending, errorOccured, told⟩ := parseVerifiedTransaction_ok.mp parsed
  obtain ⟨id', amount', success', pending', errorOccured', told'⟩ :=
    parseVerifiedTransaction_ok.mp parsed'
  rw [told.read, told'.read]
  constructor
  · exact joined
  · intro place
    have same := integer_agrees (by decide) told.named told'.named (same_part joined place)
    exact congrArg toString same
  · intro place
    have same := integer_agrees (by decide) told.charged told'.charged (same_part joined place)
    exact congrArg some same
  · intro place
    have part : fieldString k obj "pending" = fieldString k obj' "pending" :=
      same_part joined place
    rw [flag_text (by decide) told.pends, flag_text (by decide) told'.pends] at part
    have succeeds := success_agrees told.succeeds told'.succeeds joined
    show reportedStatus success pending = reportedStatus success' pending'
    rw [flag_agrees part, succeeds]

end Paymob

section Fawry
open Fawry

variable {k : Crypto} {config : FawryConfig} {raw raw' : RawWebhookRequest}
variable {payload payload' : Json} {signature signature' : String}
variable {fields fields' : SignedFields} {event event' : WebhookEvent}

theorem same_fields_text_iff (injective : Function.Injective k.sha256)
    (signed : Signed k config raw payload signature fields)
    (signed' : Signed k config raw' payload' signature' fields') :
    toAsciiLowercase signature = toAsciiLowercase signature' ↔
      String.join fields.parts = String.join fields'.parts := by
  rw [lower_eq_iff signed.verified signed'.verified, webhookSignature, webhookSignature,
    injective.eq_iff]
  constructor
  · intro same
    have texts := congrArg String.toList same
    rw [String.toList_append, String.toList_append] at texts
    exact String.toList_inj.mp (List.append_cancel_right texts)
  · intro same
    rw [same]

/-- The event is read from the document that was signed. -/
theorem read_from_signed (signed : Signed k config raw payload signature fields)
    (parsed : verifyAndParse k config raw = .ok event) :
    ∃ amount, decimalStrToMinorUnits fields.paymentAmount = some amount ∧
      event = eventOf k payload signature fields amount := by
  obtain ⟨payload', signature', fields', amount, signed', -, minor, -, is⟩ :=
    verifyAndParse_ok.mp parsed
  have one : payload = payload' := Except.ok.inj (signed.parsed.symm.trans signed'.parsed)
  subst one
  have two : signature = signature' := Option.some.inj (signed.received.symm.trans signed'.received)
  subst two
  have three : fields = fields' := Except.ok.inj (signed.read.symm.trans signed'.read)
  subst three
  exact ⟨amount, minor, is⟩

theorem fawry_bound (injective : Function.Injective k.sha256)
    (signed : Signed k config raw payload signature fields)
    (signed' : Signed k config raw' payload' signature fields')
    (parsed : verifyAndParse k config raw = .ok event)
    (parsed' : verifyAndParse k config raw' = .ok event') :
    Bound fields.parts fields'.parts 1 2 4 event event' := by
  have joined := (same_fields_text_iff injective signed signed').mp rfl
  obtain ⟨amount, minor, rfl⟩ := read_from_signed signed parsed
  obtain ⟨amount', minor', rfl⟩ := read_from_signed signed' parsed'
  constructor
  · exact joined
  · intro place
    exact same_part joined place
  · intro place
    have same : fields.paymentAmount = fields'.paymentAmount := same_part joined place
    rw [same, minor'] at minor
    exact minor.symm
  · intro place
    exact congrArg mapOrderStatus (same_part joined place)

end Fawry

/-- The fields that move money are the same. -/
structure SameMoney (event event' : WebhookEvent) : Prop where
  reference : event.providerReference = event'.providerReference
  amount : event.reportedAmountMinorUnits = event'.reportedAmountMinorUnits
  status : event.reportedStatus = event'.reportedStatus

/-- `R` holds of what two callbacks with one signature sign and report: of
Paymob's fields with the places of the transaction id, the amount and the
pending flag, and of Fawry's with those of the merchant's reference, the
amount and the order status. -/
structure OneSignature (k : Crypto)
    (R : List String → List String → ℕ → ℕ → ℕ → WebhookEvent → WebhookEvent → Prop) : Prop where
  paymob : ∀ secret hmac obj obj' event event', Paymob.verify k obj hmac secret = true →
    Paymob.verify k obj' hmac secret = true →
    Paymob.parseVerifiedTransaction k obj hmac = .ok event →
    Paymob.parseVerifiedTransaction k obj' hmac = .ok event' →
    R (signedFields k obj) (signedFields k obj') (Paymob.hmacFieldOrder.idxOf "id")
      (Paymob.hmacFieldOrder.idxOf "amount_cents") (Paymob.hmacFieldOrder.idxOf "pending") event event'
  fawry : ∀ config raw raw' payload payload' signature fields fields' event event',
    Fawry.Signed k config raw payload signature fields →
    Fawry.Signed k config raw' payload' signature fields' →
    Fawry.verifyAndParse k config raw = .ok event →
    Fawry.verifyAndParse k config raw' = .ok event' →
    R fields.parts fields'.parts 1 2 4 event event'

theorem one_signature_bound (k : Crypto)
    (mac : ∀ secret, Function.Injective (k.hmacSha512 secret))
    (digest : Function.Injective k.sha256) : OneSignature k Bound where
  paymob _ _ _ _ _ _ verified verified' parsed parsed' :=
    paymob_bound (mac _) verified verified' parsed parsed'
  fawry _ _ _ _ _ _ _ _ _ _ signed signed' parsed parsed' :=
    fawry_bound digest signed signed' parsed parsed'

section Samples

/-- Hash functions without collisions: the bytes themselves. -/
def plain : Crypto where
  hmacSha512 := fun _ message => message.toUTF8.data.toList
  hmacSha256 := fun _ bytes => bytes
  sha256 := fun message => message.toUTF8.data.toList
  fromSlice := fun _ => .error "expected value at line 1 column 1"
  payloadError := fun _ => "expected value at line 1 column 1"
  toText := fun _ => ""

theorem utf8_injective : Function.Injective fun s : String => s.toUTF8.data.toList := by
  intro s t same
  exact String.toByteArray_inj.mp (ByteArray.ext (Array.toList_inj.mp same))

/-- A paid transaction: the amount, the time it was created, and a field that
is not signed. -/
def transaction (amountCents createdAt terminal : String) : Json :=
  .obj [("id", .num "2556706"), ("amount_cents", .num amountCents), ("currency", .str "EGP"),
    ("created_at", .str createdAt), ("success", .bool true), ("pending", .bool false),
    ("error_occured", .bool false), ("terminal_id", .str terminal)]

def charged : Json := transaction "1000" "2020-03-25T18:39:44" "17"

/-- A zero has moved from the amount to the time. -/
def shifted : Json := transaction "100" "02020-03-25T18:39:44" "17"

def relabelled : Json := transaction "1000" "2020-03-25T18:39:44" "18"

def chargedHmac : String := encode (plain.hmacSha512 "s3cr3t" (String.join (signedFields plain charged)))

theorem charged_verified {obj : Json}
    (same : String.join (signedFields plain obj) = String.join (signedFields plain charged)) :
    Paymob.verify plain obj chargedHmac "s3cr3t" = true := by
  rw [verify_iff, same]
  exact decode_encode _

def reported (amount : ℤ) : WebhookEvent :=
  ⟨ProviderId.paymob, Paymob.eventId plain 2556706 chargedHmac, toString (2556706 : ℤ), none,
    .succeeded, some amount⟩

theorem transaction_parsed {amountCents createdAt terminal : String} {amount : ℤ}
    (charges : parseI64 amountCents = some amount) (positive : 0 < amount) :
    Paymob.parseVerifiedTransaction plain (transaction amountCents createdAt terminal) chargedHmac =
      .ok (reported amount) :=
  Paymob.parseVerifiedTransaction_ok.mpr ⟨2556706, amount, true, false, false,
    ⟨by rfl, by rfl, by rfl, by rfl, by rfl, charges, positive, by rfl⟩⟩

/-- A thousand piastres and a hundred, under one signature. -/
theorem one_signature_two_amounts : ¬ ∀ k : Crypto,
    (∀ secret, Function.Injective (k.hmacSha512 secret)) → Function.Injective k.sha256 →
    OneSignature k fun _ _ _ _ _ event event' => SameMoney event event' := by
  intro binds
  have same := (binds plain (fun _ => utf8_injective) utf8_injective).paymob "s3cr3t" chargedHmac
    charged shifted (reported 1000) (reported 100) (charged_verified rfl)
    (charged_verified (by decide)) (transaction_parsed (by decide) (by decide))
    (transaction_parsed (by decide) (by decide))
  exact absurd same.amount (by decide)

theorem one_signature_bound_relabelled :
    Bound (signedFields plain charged) (signedFields plain relabelled) 5 0 15 (reported 1000)
      (reported 1000) :=
  (one_signature_bound plain (fun _ => utf8_injective) utf8_injective).paymob "s3cr3t" chargedHmac
    charged relabelled (reported 1000) (reported 1000) (charged_verified rfl)
    (charged_verified (by decide)) (transaction_parsed (by decide) (by decide))
    (transaction_parsed (by decide) (by decide))

end Samples

end OpenWrapper.SignedContent
