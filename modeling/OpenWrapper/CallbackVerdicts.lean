import OpenWrapper.CallbackAuthentication
import OpenWrapper.Doubles
import OpenWrapper.EventIdentity

/-! # Callbacks that the web application and the gateway judge alike

Both take a text from the body and compare its digest with the signature. They
accept the same callbacks where they take the same text; what status they read
from a callback that both accept is compared afterwards. -/

set_option autoImplicit false

namespace OpenWrapper.CallbackVerdicts
open OpenWrapper.Ids OpenWrapper.Payments OpenWrapper.Providers OpenWrapper.JsonValue
open OpenWrapper.JavaScript OpenWrapper.Hexadecimal OpenWrapper.CallbackRoutes
open OpenWrapper.WebhookAdapters

section Digests

/-- What the two have in common: they compute the same digests, one in lowercase
hexadecimal, no two texts have one digest, and a number of a parsed document is
written as a numeral. -/
structure Common (host : Host) (k : Crypto) : Prop where
  hmacSha512 : ∀ key message, host.hmacSha512Hex key message = encode (k.hmacSha512 key message)
  sha256 : ∀ message, host.sha256Hex message = encode (k.sha256 message)
  hmacSha512_injective : ∀ key, Function.Injective (k.hmacSha512 key)
  sha256_injective : Function.Injective k.sha256
  sha256_some : ∀ message, k.sha256 message ≠ []
  numerals : ∀ bytes body, k.fromSlice bytes = .ok body → JsonText.Plain body

/-- A character whose lower case is hexadecimal is an ASCII character. -/
theorem lowerChar_hexadecimal {c : Char}
    (hexadecimal : ∀ d ∈ JavaScript.lowerChar c, d ∈ lowerDigits) :
    JavaScript.lowerChar c = [Hexadecimal.lowerChar c] := by
  unfold JavaScript.lowerChar Hexadecimal.lowerChar at *
  by_cases upper : 'A' ≤ c ∧ c ≤ 'Z'
  · rw [if_pos upper, if_pos upper]
  · rw [if_neg upper] at hexadecimal ⊢
    rw [if_neg upper]
    by_cases kelvin : c = '\u212A'
    · rw [if_pos kelvin] at hexadecimal
      exact absurd (hexadecimal 'k' (by simp)) (by decide)
    · rw [if_neg kelvin] at hexadecimal ⊢
      by_cases dotted : c = '\u0130'
      · rw [if_pos dotted] at hexadecimal
        exact absurd (hexadecimal 'i' (by simp)) (by decide)
      · rw [if_neg dotted]

theorem lowerChar_ascii {c : Char} (hexadecimal : Hexadecimal.lowerChar c ∈ lowerDigits) :
    JavaScript.lowerChar c = [Hexadecimal.lowerChar c] := by
  unfold JavaScript.lowerChar Hexadecimal.lowerChar at *
  by_cases upper : 'A' ≤ c ∧ c ≤ 'Z'
  · rw [if_pos upper, if_pos upper]
  · rw [if_neg upper] at hexadecimal ⊢
    rw [if_neg upper]
    by_cases kelvin : c = '\u212A'
    · rw [kelvin] at hexadecimal
      exact absurd hexadecimal (by decide)
    · rw [if_neg kelvin]
      by_cases dotted : c = '\u0130'
      · rw [dotted] at hexadecimal
        exact absurd hexadecimal (by decide)
      · rw [if_neg dotted]

theorem flatMap_singletons {f : Char → List Char} {g : Char → Char} {cs : List Char}
    (same : ∀ c ∈ cs, f c = [g c]) : cs.flatMap f = cs.map g := by
  induction cs with
  | nil => rfl
  | cons c rest ih =>
    rw [List.flatMap_cons, same c List.mem_cons_self,
      ih fun d mem => same d (List.mem_cons_of_mem c mem)]
    rfl

/-- The comparison of the web application is the one of the gateway. -/
theorem constantTimeEqHex_iff {bytes : List UInt8} {received : String} :
    constantTimeEqHex (encode bytes) received = true ↔ decode received = some bytes := by
  have printed : toLowerCase (encode bytes) = encode bytes := by
    have fixed : ∀ c ∈ lowerDigits, JavaScript.lowerChar c = [id c] :=
      List.forall_iff_forall_mem.mp (by decide)
    unfold toLowerCase encode
    rw [String.toList_ofList, flatMap_singletons fun c mem => fixed c (encodeChars_lower bytes c mem),
      List.map_id]
  have chars : toLowerCase received = encode bytes ↔
      received.toList.flatMap JavaScript.lowerChar = encodeChars bytes := by
    rw [toLowerCase, encode, String.ofList_inj]
  unfold constantTimeEqHex
  rw [printed, beq_iff_eq, eq_comm, chars]
  constructor
  · intro same
    have ascii : received.toList.flatMap JavaScript.lowerChar =
        received.toList.map Hexadecimal.lowerChar := by
      apply flatMap_singletons
      intro c mem
      apply lowerChar_hexadecimal
      intro d inner
      apply encodeChars_lower bytes
      rw [← same]
      exact List.mem_flatMap.mpr ⟨c, mem, inner⟩
    rw [decode, ← decodeChars_lowerChar, ← ascii, same]
    exact decodeChars_encodeChars bytes
  · intro read
    rw [← lower_of_decodeChars read]
    apply flatMap_singletons
    intro c mem
    apply lowerChar_ascii
    apply encodeChars_lower bytes
    rw [← lower_of_decodeChars read]
    exact List.mem_map_of_mem mem

end Digests

section Readings

variable {ρ : Type} {Signs : ρ → Prop} {r r' : Option ρ} {Twice : Prop}

/-- A reading that its signature signs. -/
def Accepted (Signs : ρ → Prop) (r : Option ρ) : Prop := ∃ p, r = some p ∧ Signs p

/-- The readings are the same, or nothing signs either of them, or each is signed
in a case where one callback has two signatures. -/
def Alike (Signs : ρ → Prop) (Twice : Prop) (r r' : Option ρ) : Prop :=
  r = r' ∨ (∀ p, r = some p ∨ r' = some p → ¬ Signs p) ∨
    (Twice ∧ Accepted Signs r ∧ Accepted Signs r')

theorem accepted_alike (unique : ∀ p q, r = some p → r' = some q → Signs p → Signs q → p = q ∨ Twice) :
    (Accepted Signs r ↔ Accepted Signs r') ↔ Alike Signs Twice r r' := by
  constructor
  · intro same
    by_cases signed : Accepted Signs r
    · have signed' := same.mp signed
      obtain ⟨p, is, signs⟩ := signed
      obtain ⟨q, is', signs'⟩ := signed'
      rcases unique p q is is' signs signs' with rfl | twice
      · exact .inl (is.trans is'.symm)
      · exact .inr (.inr ⟨twice, ⟨p, is, signs⟩, ⟨q, is', signs'⟩⟩)
    · apply Or.inr
      apply Or.inl
      rintro p (is | is) signs
      · exact signed ⟨p, is, signs⟩
      · exact signed (same.mpr ⟨p, is, signs⟩)
  · rintro (rfl | neither | ⟨-, signed, signed'⟩)
    · exact Iff.rfl
    · constructor
      · rintro ⟨p, is, signs⟩
        exact absurd signs (neither p (.inl is))
      · rintro ⟨p, is, signs⟩
        exact absurd signs (neither p (.inr is))
    · exact ⟨fun _ => signed', fun _ => signed⟩

end Readings

section Paymob

variable (host : Host) (k : Crypto) (body : Json) (hmac secret : String)

/-- `verifyPaymobHmac` with its third argument: an empty one is not given. -/
def verifyPaymobHmac : Throws Bool :=
  match nonEmpty (JavaScript.orElse (some secret) (host.env "PAYMOB_HMAC_SECRET")) with
  | none => some false
  | some key => CallbackRoutes.Paymob.verifyPaymobHmac host (some body) (some (.str hmac)) key

/-- The key and the text of the web application. -/
def paymobWebReading : Option (String × String) :=
  (nonEmpty (JavaScript.orElse (some secret) (host.env "PAYMOB_HMAC_SECRET"))).bind fun key =>
    ((CallbackRoutes.Paymob.objOf host (some body)).bind
      (CallbackRoutes.Paymob.concatenated host)).map fun text => (key, text)

/-- The key and the text of the gateway. -/
def paymobGatewayReading : Option (String × String) :=
  (body.get "obj").map fun obj => (secret, WebhookAdapters.Paymob.concatenatedHmacString k obj)

/-- The received text is the digest of the reading. -/
def PaymobSigns (p : String × String) : Prop := decode hmac = some (k.hmacSha512 p.1 p.2)

variable {host k body hmac secret}

theorem paymob_web_accepts (common : Common host k) :
    verifyPaymobHmac host body hmac secret = some true ↔
      Accepted (PaymobSigns k hmac) (paymobWebReading host body secret) := by
  unfold verifyPaymobHmac paymobWebReading Accepted PaymobSigns
  cases nonEmpty (JavaScript.orElse (some secret) (host.env "PAYMOB_HMAC_SECRET")) with
  | none => simp
  | some key =>
    simp only [CallbackRoutes.Paymob.verifyPaymobHmac, Option.bind_some]
    cases CallbackRoutes.Paymob.objOf host (some body) with
    | none => simp
    | some obj =>
      simp only [Option.bind_some]
      cases CallbackRoutes.Paymob.concatenated host obj with
      | none => simp
      | some text =>
        simp only [Option.bind_some, Option.map_some, Option.some.injEq, common.hmacSha512,
          constantTimeEqHex_iff]
        simp

theorem paymob_gateway_accepts {config : PaymobConfig} {raw : RawWebhookRequest}
    (parsed : k.fromSlice raw.rawBody = .ok body) (received : query raw "hmac" = some hmac) :
    (∃ obj hmac, WebhookAdapters.Paymob.Signed k config raw obj hmac) ↔
      Accepted (PaymobSigns k hmac) (paymobGatewayReading k body config.hmacSecret) := by
  unfold WebhookAdapters.Paymob.Signed Accepted PaymobSigns paymobGatewayReading
  rw [received, parsed]
  constructor
  · rintro ⟨obj, hmac', same, ⟨payload, is, within⟩, verified⟩
    cases same
    cases is
    refine ⟨_, by rw [within]; rfl, ?_⟩
    simpa [WebhookAdapters.Paymob.verify] using verified
  · rintro ⟨p, is, signs⟩
    obtain ⟨obj, within, rfl⟩ := Option.map_eq_some_iff.mp is
    refine ⟨obj, hmac, rfl, ⟨body, rfl, within⟩, ?_⟩
    simpa [WebhookAdapters.Paymob.verify] using signs

theorem paymob_unique (common : Common host k) (p q : String × String)
    (web : paymobWebReading host body secret = some p)
    (gateway : paymobGatewayReading k body secret = some q) (signs : PaymobSigns k hmac p)
    (signs' : PaymobSigns k hmac q) : p = q ∨ secret = "" := by
  by_cases empty : secret = ""
  · exact .inr empty
  · apply Or.inl
    have key : nonEmpty (JavaScript.orElse (some secret) (host.env "PAYMOB_HMAC_SECRET")) =
        some secret := by
      simp [nonEmpty, JavaScript.orElse, empty, Option.filter_some]
    rw [paymobWebReading, key, Option.bind_some] at web
    obtain ⟨text, -, rfl⟩ := Option.map_eq_some_iff.mp web
    obtain ⟨obj, -, rfl⟩ := Option.map_eq_some_iff.mp gateway
    have same : k.hmacSha512 secret text = k.hmacSha512 secret
        (WebhookAdapters.Paymob.concatenatedHmacString k obj) :=
      Option.some.inj (signs.symm.trans signs')
    rw [common.hmacSha512_injective secret same]

/-- A value that has a member is an object. -/
theorem object_of_get {v member : Json} {name : String} (is : v.get name = some member) :
    ∃ members, v = .obj members := by
  cases v with
  | obj members => exact ⟨members, rfl⟩
  | null => cases is
  | bool => cases is
  | num => cases is
  | str => cases is
  | arr => cases is

theorem member_object (name : String) (members : List (String × Json)) :
    member name (some (.obj members)) = some ((Json.obj members).get name) := rfl

theorem objOf_object {members : List (String × Json)}
    (within : body.get "obj" = some (.obj members)) :
    CallbackRoutes.Paymob.objOf host (some body) = some (some (.obj members)) := by
  obtain ⟨outer, rfl⟩ := object_of_get within
  rw [CallbackRoutes.Paymob.objOf, member_object, within]
  rfl

theorem paymob_statuses {config : PaymobConfig} {raw : RawWebhookRequest}
    {cb : CallbackRoutes.Paymob.Callback} {event : WebhookEvent}
    (parsed : k.fromSlice raw.rawBody = .ok body)
    (web : CallbackRoutes.Paymob.read host (some body) = .ok cb)
    (gateway : WebhookAdapters.Paymob.verifyAndParse k config raw = .ok event) :
    cb.status = event.reportedStatus := by
  obtain ⟨obj, hmac, ⟨-, ⟨payload, is, within⟩, -⟩, rest⟩ :=
    WebhookAdapters.Paymob.verifyAndParse_ok.mp gateway
  rw [parsed] at is
  cases is
  obtain ⟨id, amount, success, pending, errorOccured, told⟩ :=
    WebhookAdapters.Paymob.parseVerifiedTransaction_ok.mp rest
  obtain ⟨named, is, -⟩ := Option.bind_eq_some_iff.mp told.named
  obtain ⟨members, rfl⟩ := object_of_get is
  have flags (name : String) (b : Bool)
      (read : ((Json.obj members).get name).bind Json.asBool = some b) :
      CallbackRoutes.Paymob.flag name (some (.obj members)) = some b := by
    obtain ⟨v, found, flag⟩ := Option.bind_eq_some_iff.mp read
    cases v with
    | bool b' =>
      cases flag
      rw [CallbackRoutes.Paymob.flag, member_object, found]
      cases b <;> rfl
    | null => cases flag
    | num => cases flag
    | str => cases flag
    | arr => cases flag
    | obj => cases flag
  simp only [CallbackRoutes.Paymob.read, CallbackRoutes.bind_eq_ok, orCrash_eq_ok,
    objOf_object within, Option.some.injEq, exists_eq_left', flags "success" success told.succeeds,
    flags "pending" pending told.pends] at web
  obtain ⟨transactionId, -, specialReference, -, ok⟩ := web
  split at ok
  · cases ok
  · cases ok
    rw [told.read]
    rfl

/-- A value that both print alike: not a list, not an object, and a number only
if JavaScript prints it as it was written. -/
def Verbatim (host : Host) : Option Json → Prop
  | some (.num numeral) => host.numberText numeral = numeral
  | some (.arr _) | some (.obj _) => False
  | _ => True

def pathOf (name : String) : List String :=
  match WebhookAdapters.Paymob.splitOnce name with
  | some (outer, inner) => [outer, inner]
  | none => [name]

theorem fields_same :
    CallbackRoutes.Paymob.fields = WebhookAdapters.Paymob.hmacFieldOrder.map pathOf := by
  decide +kernel

theorem fieldValue_same (members : List (String × Json)) (name : String) :
    CallbackRoutes.Paymob.fieldValue (some (.obj members)) (pathOf name) =
      some (WebhookAdapters.Paymob.fieldAt (.obj members) name) := by
  unfold pathOf WebhookAdapters.Paymob.fieldAt
  cases WebhookAdapters.Paymob.splitOnce name with
  | none => rfl
  | some sides =>
    obtain ⟨outer, inner⟩ := sides
    show some (optionalMember inner (optionalMember outer (some (.obj members)))) = _
    simp only [optionalMember]
    cases (Json.obj members).get outer <;> rfl

theorem fieldString_same {members : List (String × Json)} {name : String}
    (verbatim : Verbatim host (WebhookAdapters.Paymob.fieldAt (.obj members) name)) :
    CallbackRoutes.Paymob.fieldString host (some (.obj members)) (pathOf name) =
      some (WebhookAdapters.Paymob.fieldString k (.obj members) name) := by
  rw [CallbackRoutes.Paymob.fieldString, fieldValue_same, Option.bind_some,
    WebhookAdapters.Paymob.fieldString]
  cases found : WebhookAdapters.Paymob.fieldAt (.obj members) name with
  | none => rfl
  | some v =>
    rw [found] at verbatim
    cases v with
    | null => rfl
    | bool => rfl
    | num numeral => exact congrArg some verbatim
    | str => rfl
    | arr => cases verbatim
    | obj => cases verbatim

theorem mapM_some {α β : Type} {f : α → Option β} {g : α → β} {l : List α}
    (same : ∀ a ∈ l, f a = some (g a)) : l.mapM f = some (l.map g) := by
  induction l with
  | nil => rfl
  | cons a rest ih =>
    rw [List.mapM_cons, same a List.mem_cons_self, ih fun b mem => same b (List.mem_cons_of_mem a mem)]
    rfl

/-- A transaction whose signed values are printed alike has one reading. -/
theorem paymob_readings_same {members : List (String × Json)} (given : secret ≠ "")
    (within : body.get "obj" = some (.obj members))
    (verbatim : ∀ name ∈ WebhookAdapters.Paymob.hmacFieldOrder,
      Verbatim host (WebhookAdapters.Paymob.fieldAt (.obj members) name)) :
    paymobWebReading host body secret = paymobGatewayReading k body secret := by
  have key : nonEmpty (JavaScript.orElse (some secret) (host.env "PAYMOB_HMAC_SECRET")) =
      some secret := by
    simp [nonEmpty, JavaScript.orElse, given, Option.filter_some]
  have texts : CallbackRoutes.Paymob.concatenated host (some (.obj members)) =
      some (WebhookAdapters.Paymob.concatenatedHmacString k (.obj members)) := by
    rw [CallbackRoutes.Paymob.concatenated, fields_same, List.mapM_map]
    rw [mapM_some (g := WebhookAdapters.Paymob.fieldString k (.obj members))]
    · rfl
    · intro name listed
      exact fieldString_same (verbatim name listed)
  rw [paymobWebReading, paymobGatewayReading, key, objOf_object within, within, Option.bind_some,
    Option.bind_some, texts]
  rfl

end Paymob

section Fawry

variable (host : Host) (k : Crypto) (body : Json) (secureKey : String)

/-- The text and the signature of the web application's route. -/
def fawryWebReading : Option (String × String) :=
  ((CallbackRoutes.Fawry.readFields host (some body)).filter fun f =>
    !(utf16Length f.fawryRefNumber > 255 || utf16Length f.merchantRefNumber > 255)).map fun f =>
      (CallbackRoutes.Fawry.signedText f secureKey, f.signature)

/-- The text and the signature of the gateway. -/
def fawryGatewayReading : Option (String × String) :=
  (WebhookAdapters.Fawry.getStr body "messageSignature").bind fun signature =>
    (WebhookAdapters.Fawry.readFields body).toOption.map fun fields =>
      (String.join fields.parts ++ secureKey, signature)

def FawrySigns (p : String × String) : Prop := decode p.2 = some (k.sha256 p.1)

/-- The signature is a number, which the two print in different ways. -/
def NumberSigned : Prop := ∃ numeral, body.get "messageSignature" = some (.num numeral)

variable {host k body secureKey}

theorem fawry_web_accepts (common : Common host k) {req : CallbackRequest}
    {configured : CallbackRoutes.Fawry.Config} (parsed : readPayload host req = .ok body)
    (given : CallbackRoutes.Fawry.getFawryConfig host = some configured) :
    (∃ f, CallbackRoutes.Fawry.inspect host req = .ok f) ↔
      Accepted (FawrySigns k) (fawryWebReading host body configured.secureKey) := by
  have signs (f : CallbackRoutes.Fawry.Fields) :
      CallbackRoutes.Fawry.verifyFawryWebhookSignature host f configured.secureKey = true ↔
        FawrySigns k (CallbackRoutes.Fawry.signedText f configured.secureKey, f.signature) := by
    rw [CallbackRoutes.Fawry.verifyFawryWebhookSignature, common.sha256, constantTimeEqHex_iff,
      FawrySigns]
  have empty (f : CallbackRoutes.Fawry.Fields) (none_ : f.signature = "") :
      ¬ FawrySigns k (CallbackRoutes.Fawry.signedText f configured.secureKey, f.signature) := by
    rw [FawrySigns, none_]
    intro is
    exact common.sha256_some _ (Option.some.inj is).symm
  simp only [CallbackRoutes.Fawry.inspect, CallbackRoutes.bind_eq_ok, orCrash_eq_ok, parsed, given,
    Except.ok.injEq, exists_eq_left']
  unfold Accepted fawryWebReading
  constructor
  · rintro ⟨f, fields, read, ok⟩
    split at ok
    · cases ok
    next short =>
      split at ok
      · cases ok
      · split at ok
        · cases ok
        next verified =>
          refine ⟨_, by rw [read, Option.filter_some, if_pos (by simpa using short)]; rfl, ?_⟩
          exact (signs fields).mp (by simpa using verified)
  · rintro ⟨p, is, signed⟩
    obtain ⟨f, kept, rfl⟩ := Option.map_eq_some_iff.mp is
    obtain ⟨read, short⟩ := Option.filter_eq_some_iff.mp kept
    refine ⟨f, f, read, ?_⟩
    have long : ¬ (utf16Length f.fawryRefNumber > 255 || utf16Length f.merchantRefNumber > 255)
        = true := by simpa using short
    rw [if_neg long, if_neg fun none_ => empty f none_ signed, (signs f).mpr signed]
    rfl

theorem fawry_gateway_accepts {config : FawryConfig} {raw : RawWebhookRequest}
    (parsed : k.fromSlice raw.rawBody = .ok body) :
    (∃ payload signature fields, WebhookAdapters.Fawry.Signed k config raw payload signature fields) ↔
      Accepted (FawrySigns k) (fawryGatewayReading body config.secureKey) := by
  constructor
  · rintro ⟨payload, signature, fields, signed⟩
    have is := signed.parsed
    rw [parsed] at is
    cases is
    refine ⟨(String.join fields.parts ++ config.secureKey, signature), ?_, signed.verified⟩
    rw [fawryGatewayReading, signed.received, signed.read]
    rfl
  · rintro ⟨p, is, signs⟩
    obtain ⟨signature, received, rest⟩ := Option.bind_eq_some_iff.mp is
    obtain ⟨fields, read, rfl⟩ := Option.map_eq_some_iff.mp rest
    refine ⟨body, signature, fields, parsed, received, ?_, signs⟩
    cases is : WebhookAdapters.Fawry.readFields body with
    | ok fields' =>
      rw [is] at read
      cases read
      rfl
    | error e =>
      rw [is] at read
      cases read

/-- The first name that has a non-empty text. -/
theorem fieldText_str {members : List (String × Json)} {name s default : String}
    {rest : List String} (found : (Json.obj members).get name = some (.str s)) (some_ : s ≠ "") :
    fieldText host (some (.obj members)) (name :: rest) default = some s := by
  have there : truthy host.numberText (some (.str s)) = true := by simpa [truthy] using some_
  rw [fieldText, firstField, member_object, found, Option.bind_some, if_pos there]
  rfl

theorem readFields_some {f : CallbackRoutes.Fawry.Fields} {payload : Value}
    (read : CallbackRoutes.Fawry.readFields host payload = some f) :
    fieldText host payload ["messageSignature", "signature"] "" = some f.signature ∧
      fieldText host payload ["orderStatus", "paymentStatus"] "" = some f.orderStatus := by
  simp only [CallbackRoutes.Fawry.readFields, Option.bind_eq_bind, Option.bind_eq_some_iff,
    Option.pure_def, Option.some.injEq] at read
  obtain ⟨_, -, _, -, _, -, _, -, orderStatus, status, _, -, _, -, signature, signed, rfl⟩ := read
  exact ⟨signed, status⟩

theorem fawry_unique (common : Common host k) (p q : String × String)
    (web : fawryWebReading host body secureKey = some p)
    (gateway : fawryGatewayReading body secureKey = some q) (signs : FawrySigns k p)
    (signs' : FawrySigns k q) : p = q ∨ NumberSigned body := by
  obtain ⟨signature, received, rest⟩ := Option.bind_eq_some_iff.mp gateway
  obtain ⟨fields, -, rfl⟩ := Option.map_eq_some_iff.mp rest
  obtain ⟨f, kept, rfl⟩ := Option.map_eq_some_iff.mp web
  obtain ⟨read, -⟩ := Option.filter_eq_some_iff.mp kept
  unfold WebhookAdapters.Fawry.getStr at received
  split at received
  next s found =>
    cases received
    obtain ⟨members, rfl⟩ := object_of_get found
    have some_ : signature ≠ "" := by
      rintro rfl
      exact common.sha256_some _ (Option.some.inj signs').symm
    have same : f.signature = signature := by
      exact (Option.some.inj ((fieldText_str found some_).symm.trans (readFields_some read).1)).symm
    apply Or.inl
    unfold FawrySigns at signs signs'
    rw [same] at signs ⊢
    have texts := common.sha256_injective (Option.some.inj (signs.symm.trans signs'))
    exact Prod.ext texts rfl
  next numeral found => exact .inr ⟨numeral, found⟩
  · cases received

/-- A value that both take, and print alike. -/
def Shown (host : Host) (v : Option Json) : Prop :=
  (∃ s, v = some (.str s) ∧ s ≠ "") ∨
    ∃ numeral, v = some (.num numeral) ∧ numeral ≠ "0" ∧ host.numberText numeral = numeral

theorem fieldText_shown {members : List (String × Json)} {name : String} (rest : List String)
    (default : String) (shown : Shown host ((Json.obj members).get name)) :
    ∃ s, fieldText host (some (.obj members)) (name :: rest) default = some s ∧
      WebhookAdapters.Fawry.getStr (.obj members) name = some s := by
  rcases shown with ⟨s, found, some_⟩ | ⟨numeral, found, nonzero, printed⟩
  · refine ⟨s, fieldText_str found some_, ?_⟩
    rw [WebhookAdapters.Fawry.getStr, found]
  · refine ⟨numeral, ?_, ?_⟩
    · have there : truthy host.numberText (some (.num numeral)) = true := by
        simpa [truthy, printed] using nonzero
      rw [fieldText, firstField, member_object, found, Option.bind_some, if_pos there]
      exact congrArg some printed
    · rw [WebhookAdapters.Fawry.getStr, found]

/-- A notification with all its fields, printed alike, has one reading. -/
theorem fawry_readings_same {members : List (String × Json)}
    (shown : ∀ name ∈ ["fawryRefNumber", "merchantRefNumber", "paymentAmount", "orderAmount",
      "orderStatus", "paymentMethod", "messageSignature"],
      Shown host ((Json.obj members).get name))
    (reference : Shown host ((Json.obj members).get "paymentRefrenceNumber") ∨
      (Json.obj members).get "paymentRefrenceNumber" = none ∧
        (Json.obj members).get "paymentReferenceNumber" = none)
    (short : ∀ name ∈ ["fawryRefNumber", "merchantRefNumber"], ∀ s,
      WebhookAdapters.Fawry.getStr (.obj members) name = some s → utf16Length s ≤ 255) :
    fawryWebReading host (.obj members) secureKey = fawryGatewayReading (.obj members) secureKey := by
  obtain ⟨fawryRef, w₁, g₁⟩ := fieldText_shown ["referenceNumber"] ""
    (shown "fawryRefNumber" (by simp))
  obtain ⟨merchantRef, w₂, g₂⟩ := fieldText_shown ["merchantRefNum"] ""
    (shown "merchantRefNumber" (by simp))
  obtain ⟨amount, w₃, g₃⟩ := fieldText_shown ["amount"] ""
    (shown "paymentAmount" (by simp))
  obtain ⟨order, w₄, g₄⟩ := fieldText_shown [] amount
    (shown "orderAmount" (by simp))
  obtain ⟨status, w₅, g₅⟩ := fieldText_shown ["paymentStatus"] ""
    (shown "orderStatus" (by simp))
  obtain ⟨method, w₆, g₆⟩ := fieldText_shown [] "PAYATFAWRY"
    (shown "paymentMethod" (by simp))
  obtain ⟨signature, w₇, g₇⟩ := fieldText_shown ["signature"] ""
    (shown "messageSignature" (by simp))
  obtain ⟨paid, w₈, g₈⟩ : ∃ s, fieldText host (some (.obj members))
      ["paymentRefrenceNumber", "paymentReferenceNumber"] "" = some s ∧
      ((WebhookAdapters.Fawry.getStr (.obj members) "paymentRefrenceNumber").orElse fun _ =>
        WebhookAdapters.Fawry.getStr (.obj members) "paymentReferenceNumber").getD "" = s := by
    rcases reference with given | ⟨absent, absent'⟩
    · obtain ⟨s, w, g⟩ := fieldText_shown ["paymentReferenceNumber"] "" given
      exact ⟨s, w, by rw [g]; rfl⟩
    · refine ⟨"", ?_, ?_⟩
      · simp only [fieldText, firstField, member_object, absent, absent', Option.bind_some, truthy]
        rfl
      · rw [WebhookAdapters.Fawry.getStr, WebhookAdapters.Fawry.getStr, absent, absent']
        rfl
  have web : CallbackRoutes.Fawry.readFields host (some (.obj members)) =
      some ⟨fawryRef, merchantRef, amount, order, status, method, paid, signature⟩ := by
    simp only [CallbackRoutes.Fawry.readFields, w₁, w₂, w₃, w₄, w₅, w₆, w₇, w₈, Option.bind_eq_bind,
      Option.bind_some, Option.pure_def]
  have gateway : WebhookAdapters.Fawry.readFields (.obj members) =
      .ok ⟨fawryRef, merchantRef, amount, order, status, method,
        (WebhookAdapters.Fawry.getStr (.obj members) "paymentRefrenceNumber").orElse fun _ =>
          WebhookAdapters.Fawry.getStr (.obj members) "paymentReferenceNumber"⟩ := by
    simp only [WebhookAdapters.Fawry.readFields, g₁, g₂, g₃, g₄, g₅, g₆]
    rfl
  have bounded : utf16Length fawryRef ≤ 255 ∧ utf16Length merchantRef ≤ 255 :=
    ⟨short _ (by simp) _ g₁, short _ (by simp) _ g₂⟩
  have kept : (!(decide (utf16Length fawryRef > 255) || decide (utf16Length merchantRef > 255))) =
      true := by
    simpa using bounded
  rw [fawryWebReading, fawryGatewayReading, web, gateway, g₇, Option.filter_some, if_pos kept]
  simp only [Option.map_some, Except.toOption, Option.bind_some, Option.some.injEq, Prod.mk.injEq,
    and_true]
  rw [CallbackRoutes.Fawry.signedText, WebhookAdapters.Fawry.SignedFields.parts]
  simp only [g₈]
  simp [String.join, String.append_assoc]

/-- The statuses that the two map alike. -/
def sharedStatuses : List String := ["NEW", "PAID", "CANCELED", "EXPIRED", "FAILED"]

theorem status_known (s : String) : CallbackRoutes.Fawry.statusOf s ≠ .unknown := by
  unfold CallbackRoutes.Fawry.statusOf
  simp only
  split
  · exact nofun
  · split <;> exact nofun

theorem status_shared (s : String) :
    CallbackRoutes.Fawry.statusOf s = WebhookAdapters.Fawry.mapOrderStatus s ↔
      s ∈ sharedStatuses := by
  by_cases shared : s ∈ sharedStatuses
  · have all : ∀ s ∈ sharedStatuses,
        CallbackRoutes.Fawry.statusOf s = WebhookAdapters.Fawry.mapOrderStatus s := by decide +kernel
    simp [shared, all s shared]
  · by_cases refunded : s ∈ ["REFUNDED", "PARTIAL_REFUNDED"]
    · have all : ∀ s ∈ ["REFUNDED", "PARTIAL_REFUNDED"],
          CallbackRoutes.Fawry.statusOf s ≠ WebhookAdapters.Fawry.mapOrderStatus s := by
        decide +kernel
      simp [shared, all s refunded]
    · have other : WebhookAdapters.Fawry.mapOrderStatus s = .unknown := by
        simp only [sharedStatuses, List.mem_cons, List.not_mem_nil, or_false, not_or] at shared refunded
        simp [WebhookAdapters.Fawry.mapOrderStatus, shared, refunded]
      rw [other]
      simp [shared, status_known]

theorem lookup_plain {members : List (String × Json)} {name : String} {v : Json}
    (plain : JsonText.Plain (.obj members)) (found : (Json.obj members).get name = some v) :
    JsonText.Plain v := by
  rw [JsonText.Plain, JsonText.plainMembers_iff] at plain
  obtain ⟨m, listed, rfl⟩ := Option.map_eq_some_iff.mp found
  exact plain m (List.mem_reverse.mp (List.mem_of_find?_eq_some listed))

/-- No status is a numeral. -/
theorem numeral_unknown {numeral : String} (plain : JsonText.Lexical numeral.toList) :
    WebhookAdapters.Fawry.mapOrderStatus numeral = .unknown := by
  have other : numeral ∉ "REFUNDED" :: "PARTIAL_REFUNDED" :: sharedStatuses := by
    intro mem
    have letters : ∀ s ∈ "REFUNDED" :: "PARTIAL_REFUNDED" :: sharedStatuses,
        s.toList.head? ≠ some '-' ∧ s.toList.head?.all (fun c => !c.isDigit) = true := by decide
    obtain ⟨c, head, starts⟩ := plain.starts
    obtain ⟨unsigned, digitless⟩ := letters numeral mem
    rcases starts with rfl | digit
    · exact unsigned head
    · rw [head] at digitless
      simp [digit] at digitless
  simp only [sharedStatuses, List.mem_cons, List.not_mem_nil, or_false, not_or] at other
  simp [WebhookAdapters.Fawry.mapOrderStatus, other]

theorem inspect_read {req : CallbackRequest} {f : CallbackRoutes.Fawry.Fields}
    (parsed : readPayload host req = .ok body)
    (ok : CallbackRoutes.Fawry.inspect host req = .ok f) :
    CallbackRoutes.Fawry.readFields host (some body) = some f := by
  simp only [CallbackRoutes.Fawry.inspect, CallbackRoutes.bind_eq_ok, orCrash_eq_ok, parsed,
    Except.ok.injEq, exists_eq_left'] at ok
  obtain ⟨fields, read, ok⟩ := ok
  split at ok
  · cases ok
  · split at ok
    · cases ok
    · split at ok
      · cases ok
      · split at ok
        · cases ok
        · cases ok
          exact read

theorem fawry_statuses (common : Common host k) {config : FawryConfig} {raw : RawWebhookRequest}
    {req : CallbackRequest} {f : CallbackRoutes.Fawry.Fields} {event : WebhookEvent}
    (parsed : k.fromSlice raw.rawBody = .ok body) (parsed' : readPayload host req = .ok body)
    (web : CallbackRoutes.Fawry.inspect host req = .ok f)
    (gateway : WebhookAdapters.Fawry.verifyAndParse k config raw = .ok event) :
    CallbackRoutes.Fawry.statusOf f.orderStatus = event.reportedStatus ↔
      ∃ s ∈ sharedStatuses, body.get "orderStatus" = some (.str s) := by
  obtain ⟨payload, signature, fields, amount, signed, -, -, -, rfl⟩ :=
    WebhookAdapters.Fawry.verifyAndParse_ok.mp gateway
  have is := signed.parsed
  rw [parsed] at is
  cases is
  have text : WebhookAdapters.Fawry.getStr body "orderStatus" = some fields.orderStatus := by
    have read := signed.read
    simp only [WebhookAdapters.Fawry.readFields, WebhookAdapters.bind_eq_ok, orMalformed_eq_ok] at read
    obtain ⟨_, -, _, -, status, is, _, -, _, -, rest⟩ := read
    cases rest
    exact is
  have webText : fieldText host (some body) ["orderStatus", "paymentStatus"] "" =
      some f.orderStatus := (readFields_some (inspect_read parsed' web)).2
  show CallbackRoutes.Fawry.statusOf f.orderStatus =
    WebhookAdapters.Fawry.mapOrderStatus fields.orderStatus ↔ _
  unfold WebhookAdapters.Fawry.getStr at text
  split at text
  next s found =>
    cases text
    obtain ⟨members, rfl⟩ := object_of_get found
    by_cases empty : fields.orderStatus = ""
    · have other : WebhookAdapters.Fawry.mapOrderStatus fields.orderStatus = .unknown := by
        rw [empty]
        rfl
      rw [other, found]
      simp [status_known, empty, sharedStatuses]
    · have same : f.orderStatus = fields.orderStatus :=
        Option.some.inj (webText.symm.trans (fieldText_str found empty))
      rw [same, status_shared, found]
      simp
  next numeral found =>
    cases text
    obtain ⟨members, rfl⟩ := object_of_get found
    have plain := lookup_plain (common.numerals _ _ parsed) found
    rw [numeral_unknown plain, found]
    simp [status_known]
  · cases text

end Fawry

section Samples

open OpenWrapper.CallbackAuthentication OpenWrapper.EventIdentity OpenWrapper.SignedContent

/-- `String(number)`: the nearest double, printed. -/
def numberText (numeral : String) : String :=
  match Doubles.readDecimal numeral with
  | some d => (Doubles.toDouble d).toText
  | none => "NaN"

def bodyText : String := "the body"

/-- The gateway, which is sent one document. -/
def gateway (body : Json) : Crypto := { plain with
  sha256 := fun message => message.toUTF8.data.toList ++ [0]
  fromSlice := fun bytes =>
    if bytes = bodyText.toUTF8.data.toList then .ok body
    else .error "expected value at line 1 column 1" }

/-- The web application, with the same digests. -/
def web (body : Json) : Host := { hostOf
    [("FAWRY_MERCHANT_CODE", "MC1"), ("FAWRY_SECURE_KEY", "s3cr3t")] [(bodyText, body)] with
  numberText := numberText
  hmacSha512Hex := fun key message => encode ((gateway body).hmacSha512 key message)
  sha256Hex := fun message => encode ((gateway body).sha256 message) }

theorem common (body : Json) (numerals : JsonText.Plain body) : Common (web body) (gateway body) where
  hmacSha512 _ _ := rfl
  sha256 _ := rfl
  hmacSha512_injective _ := utf8_injective
  sha256_injective _ _ same := utf8_injective (List.append_cancel_right same)
  sha256_some message is := by simpa [gateway] using congrArg List.length is
  numerals bytes document is := by
    unfold gateway at is
    simp only at is
    split at is
    · cases is
      exact numerals
    · cases is

def delivered (hmac : Option String) : RawWebhookRequest :=
  ⟨bodyText.toUTF8.data.toList, [], hmac.toList.map fun text => ("hmac", text)⟩

def posted : CallbackRequest := ⟨none, [], 8, bodyText⟩

theorem delivered_parsed (body : Json) (hmac : Option String) :
    (gateway body).fromSlice (delivered hmac).rawBody = .ok body := by
  simp [gateway, delivered]

theorem posted_parsed (body : Json) : readPayload (web body) posted = .ok body := by
  have known : (web body).parseJson posted.bodyText = some body := by simp [web, hostOf, posted]
  rw [readPayload, readLimitedTextBody, if_neg (by decide)]
  simp only [known]

theorem configured (body : Json) :
    CallbackRoutes.Fawry.getFawryConfig (web body) = some ⟨"MC1", "s3cr3t"⟩ := by
  rfl

/-- The text Fawry signs. -/
def orderText (amount status : String) : String :=
  "FR123MR123" ++ amount ++ amount ++ status ++ "PAYATFAWRYs3cr3t"

def orderSignature (amount status : String) : String :=
  encode ((gateway .null).sha256 (orderText amount status))

def order (amount status : String) : Json :=
  .obj [("fawryRefNumber", .str "FR123"), ("merchantRefNumber", .str "MR123"),
    ("paymentAmount", .num amount), ("orderAmount", .num amount), ("orderStatus", .str status),
    ("paymentMethod", .str "PAYATFAWRY"), ("messageSignature", .str (orderSignature amount status))]

theorem order_plain {amount : String} (numeral : JsonText.Lexical amount.toList) (status : String) :
    JsonText.Plain (order amount status) := by
  rw [order, JsonText.Plain, JsonText.plainMembers_iff]
  simp [JsonText.Plain, numeral]

theorem order_gateway_accepts (amount status : String) :
    ∃ payload signature fields, WebhookAdapters.Fawry.Signed (gateway (order amount status))
      shopFawry (delivered none) payload signature fields := by
  rw [fawry_gateway_accepts (delivered_parsed _ _)]
  refine ⟨(orderText amount status, orderSignature amount status), ?_, decode_encode _⟩
  have parts : String.join (WebhookAdapters.Fawry.SignedFields.parts
      ⟨"FR123", "MR123", amount, amount, status, "PAYATFAWRY", none⟩) ++ "s3cr3t" =
        orderText amount status := by
    simp [WebhookAdapters.Fawry.SignedFields.parts, String.join, orderText, String.append_assoc]
  rw [← parts]
  rfl

/-- JavaScript reads the amount, and prints it without its last zero. -/
theorem order_web_rejects :
    ¬ ∃ f, CallbackRoutes.Fawry.inspect (web (order "580.50" "PAID")) posted = .ok f := by
  have plain : JsonText.Plain (order "580.50" "PAID") :=
    order_plain (Doubles.readDecimal_lexical (d := ⟨false, 58050, -2⟩) (by decide +kernel)) _
  rw [fawry_web_accepts (common _ plain) (posted_parsed _) (configured _)]
  rintro ⟨p, is, signs⟩
  have read : fawryWebReading (web (order "580.50" "PAID")) (order "580.50" "PAID") "s3cr3t" =
      some (orderText "580.5" "PAID", orderSignature "580.50" "PAID") := by
    decide +kernel
  rw [read] at is
  cases is
  have digests := Option.some.inj ((decode_encode _).symm.trans signs)
  have texts := utf8_injective (List.append_cancel_right digests)
  exact absurd texts (by decide)

theorem order_shown {amount status : String} (printed : numberText amount = amount)
    (nonzero : amount ≠ "0") (given : status ≠ "") :
    fawryWebReading (web (order amount status)) (order amount status) "s3cr3t" =
      fawryGatewayReading (order amount status) "s3cr3t" := by
  have signature : orderSignature amount status ≠ "" := by
    intro empty
    have digest := decode_encode ((gateway .null).sha256 (orderText amount status))
    rw [orderSignature] at empty
    rw [empty] at digest
    exact (common .null (by trivial)).sha256_some _ (Option.some.inj digest).symm
  apply fawry_readings_same
  · intro name listed
    simp only [List.mem_cons, List.not_mem_nil, or_false] at listed
    rcases listed with rfl | rfl | rfl | rfl | rfl | rfl | rfl
    · exact .inl ⟨"FR123", rfl, by decide⟩
    · exact .inl ⟨"MR123", rfl, by decide⟩
    · exact .inr ⟨amount, rfl, nonzero, printed⟩
    · exact .inr ⟨amount, rfl, nonzero, printed⟩
    · exact .inl ⟨status, rfl, given⟩
    · exact .inl ⟨"PAYATFAWRY", rfl, by decide⟩
    · exact .inl ⟨_, rfl, signature⟩
  · exact .inr ⟨rfl, rfl⟩
  · intro name listed s read
    simp only [List.mem_cons, List.not_mem_nil, or_false] at listed
    rcases listed with rfl | rfl <;>
    · cases read
      decide

theorem order_alike {amount status : String} (printed : numberText amount = amount)
    (nonzero : amount ≠ "0") (given : status ≠ "") :
    Alike (FawrySigns (gateway (order amount status))) (NumberSigned (order amount status))
      (fawryWebReading (web (order amount status)) (order amount status) "s3cr3t")
      (fawryGatewayReading (order amount status) "s3cr3t") :=
  .inl (order_shown printed nonzero given)

/-- Both accept an order whose amount they print alike. -/
theorem order_web_accepts {amount : String} (status : String) {d : Doubles.Decimal}
    (numeral : Doubles.readDecimal amount = some d) (printed : numberText amount = amount)
    (nonzero : amount ≠ "0") (given : status ≠ "") :
    ∃ f, CallbackRoutes.Fawry.inspect (web (order amount status)) posted = .ok f := by
  have plain := order_plain (Doubles.readDecimal_lexical numeral) status
  rw [fawry_web_accepts (common _ plain) (posted_parsed _) (configured _),
    order_shown printed nonzero given]
  exact (fawry_gateway_accepts (delivered_parsed (order amount status) none)).mp
    (order_gateway_accepts amount status)

theorem order_parsed {amount : String} (status : String) {minor : ℤ}
    (read : WebhookAdapters.Fawry.decimalStrToMinorUnits amount = some minor)
    (positive : 0 < minor) :
    ∃ event, WebhookAdapters.Fawry.verifyAndParse (gateway (order amount status)) shopFawry
      (delivered none) = .ok event := by
  obtain ⟨payload, signature, fields, signed⟩ := order_gateway_accepts amount status
  have is := signed.parsed
  rw [delivered_parsed] at is
  cases is
  cases signed.read
  refine ⟨_, WebhookAdapters.Fawry.verifyAndParse_ok.mpr
    ⟨_, signature, _, minor, signed, rfl, ?_, positive, rfl⟩⟩
  exact read

theorem order_money : WebhookAdapters.Fawry.decimalStrToMinorUnits "580.25" = some 58025 := by
  decide +kernel

def shopPaymob : PaymobConfig where
  secretKey := "sk_test"
  hmacSecret := "s3cr3t"
  publicKey := "pk_test"
  baseUrl := PaymobConfig.defaultBaseUrl
  paymentMethods := []
  notificationUrl := "https://shop.example/webhooks/paymob"
  inquiryPathTemplate := PaymobConfig.defaultInquiryPathTemplate
  checkoutUrlTemplate := "https://accept.paymob.com/unifiedcheckout/"

def charge : Json := .obj [("type", .str "TRANSACTION"), ("obj", charged)]

def chargeHmac : String :=
  encode ((gateway charge).hmacSha512 "s3cr3t"
    (WebhookAdapters.Paymob.concatenatedHmacString (gateway charge) charged))

instance decidableVerbatim (host : Host) : (v : Option Json) → Decidable (Verbatim host v)
  | some (.num numeral) => inferInstanceAs (Decidable (host.numberText numeral = numeral))
  | some (.arr _) | some (.obj _) => inferInstanceAs (Decidable False)
  | none | some .null | some (.bool _) | some (.str _) => inferInstanceAs (Decidable True)

theorem charge_alike :
    Alike (PaymobSigns (gateway charge) chargeHmac) (shopPaymob.hmacSecret = "")
      (paymobWebReading (web charge) charge shopPaymob.hmacSecret)
      (paymobGatewayReading (gateway charge) charge shopPaymob.hmacSecret) :=
  .inl (paymob_readings_same (by decide) rfl (by decide +kernel))

theorem charge_plain : JsonText.Plain charge := by
  have numeral : JsonText.Lexical "1000".toList :=
    Doubles.readDecimal_lexical (d := ⟨false, 1000, 0⟩) (by decide +kernel)
  have id : JsonText.Lexical "2556706".toList :=
    Doubles.readDecimal_lexical (d := ⟨false, 2556706, 0⟩) (by decide +kernel)
  rw [charge, JsonText.Plain, JsonText.plainMembers_iff]
  simp only [List.forall_mem_cons, JsonText.Plain, charged, transaction, JsonText.plainMembers_iff,
    id, numeral, and_true, List.not_mem_nil, false_implies, implies_true]

theorem charge_gateway_accepts :
    ∃ obj hmac, WebhookAdapters.Paymob.Signed (gateway charge) shopPaymob
      (delivered (some chargeHmac)) obj hmac := by
  rw [paymob_gateway_accepts (delivered_parsed _ _) rfl]
  exact ⟨_, rfl, decode_encode _⟩

end Samples

end OpenWrapper.CallbackVerdicts
