import OpenWrapper.FawryDecimals
import OpenWrapper.Adapters

/-! # What Fawry is asked to charge

The client writes every amount with two places. The amount that is asked for is
the amount that is due just where the currency has two as well. -/

set_option autoImplicit false

namespace OpenWrapper.FawryAmounts
open OpenWrapper.Ids OpenWrapper.Amounts OpenWrapper.Payments OpenWrapper.Providers
open OpenWrapper.Hexadecimal OpenWrapper.WebhookAdapters OpenWrapper.MachineIntegers
open OpenWrapper.AmountTexts OpenWrapper.FawryDecimals

structure ChargeItem where
  itemId : String
  description : String
  price : String
  quantity : ℤ
deriving DecidableEq

structure CreateChargeRequest where
  merchantCode : String
  merchantRefNum : String
  customerMobile : String
  customerEmail : Option String
  customerName : Option String
  amount : String
  currencyCode : String
  description : Option String
  paymentMethod : String
  chargeItems : List ChargeItem
  signature : String
deriving DecidableEq

def paymentMethod : String := "PAYATFAWRY"

def chargeSignature (k : Crypto) (merchantCode merchantRefNum : String)
    (customerProfileId : Option String) (paymentMethod amount2dp secureKey : String) : String :=
  encode (k.sha256 (String.join [merchantCode, merchantRefNum, customerProfileId.getD "",
    paymentMethod, amount2dp] ++ secureKey))

/-- The body that `create_charge` posts. -/
def chargeBody (k : Crypto) (config : FawryConfig) (request : PaymentRequest)
    (merchantRefNum : String) : CreateChargeRequest :=
  let amount2dp := minorUnitsTo2dp request.amount.minorUnits
  { merchantCode := config.merchantCode
    merchantRefNum := merchantRefNum
    customerMobile := request.customer.phone
    customerEmail := request.customer.email
    customerName := request.customer.fullName
    amount := amount2dp
    currencyCode := request.amount.currency.code
    description := request.description
    paymentMethod := paymentMethod
    chargeItems := [⟨"1", request.description.getD "Payment", amount2dp, 1⟩]
    signature := chargeSignature k config.merchantCode merchantRefNum none paymentMethod amount2dp
      config.secureKey }

/-- The charge of a payment that `create_payment` was given. -/
def charge (k : Crypto) (config : FawryConfig) (id : PaymentId) (request : PaymentRequest) :
    CreateChargeRequest :=
  chargeBody k config request (Adapters.Fawry.deriveMerchantRefNum request id)

/-- The amount asked for, of the one item and under the signature as in the request. -/
structure Asks (k : Crypto) (config : FawryConfig) (body : CreateChargeRequest) (q : ℚ) :
    Prop where
  amount : Denotes body.amount q
  items : ∀ item ∈ body.chargeItems, item.price = body.amount ∧ item.quantity = 1
  signed : body.signature = chargeSignature k body.merchantCode body.merchantRefNum none
    body.paymentMethod body.amount config.secureKey

/-- A notification of a payment by reference, with the amount in at most two places. -/
structure Reports (k : Crypto) (config : FawryConfig) (raw : RawWebhookRequest) (q : ℚ) :
    Prop where
  delivered : ∃ payload signature fields, Fawry.Signed k config raw payload signature fields ∧
    fields.paymentMethod = paymentMethod ∧ ∃ major minor,
      TwoPlaces fields.paymentAmount.toList major minor ∧ q = number major minor

structure RightAmount (k : Crypto) (config : FawryConfig) (id : PaymentId)
    (request : PaymentRequest) : Prop where
  asked : ∃ q, Asks k config (charge k config id request) q ∧
    Denotes (majorUnitsDisplay request.amount) q
  readBack (q : ℚ) : Asks k config (charge k config id request) q →
    ∀ raw, Reports k config raw q → ∃ event, Fawry.verifyAndParse k config raw = .ok event ∧
      event.reportedAmountMinorUnits = some request.amount.minorUnits

section Charges

variable {k : Crypto} {config : FawryConfig} {id : PaymentId} {request : PaymentRequest}
  {raw : RawWebhookRequest} {q : ℚ}

theorem amount_fits (m : Money) : i64.Fits m.minorUnits := by
  have positive := m.positive
  have bounded := m.bounded
  unfold maxMinorUnits at bounded
  rw [i64_fits]
  omega

/-- Whatever the currency, a hundredth of the minor units is asked for. -/
theorem minorUnitsTo2dp_denotes (m : Money) :
    Denotes (minorUnitsTo2dp m.minorUnits) (m.minorUnits / 100) := by
  obtain ⟨n, is⟩ := Int.eq_ofNat_of_zero_le m.positive.le
  have denotes := pointed_denotes (by decide : 0 < 2) n
  have square : (10 : ℚ) ^ 2 = 100 := by norm_num
  rw [square] at denotes
  rw [is, minorUnitsTo2dp_eq, Int.cast_natCast]
  exact denotes

theorem charge_asks : Asks k config (charge k config id request) q ↔
    q = request.amount.minorUnits / 100 := by
  have denotes : Denotes (charge k config id request).amount (request.amount.minorUnits / 100) :=
    minorUnitsTo2dp_denotes request.amount
  constructor
  · intro asks
    exact denotes_unique asks.amount denotes
  · rintro rfl
    refine ⟨denotes, ?_, rfl⟩
    intro item mem
    rw [List.mem_singleton.mp mem]
    exact ⟨rfl, rfl⟩

theorem reads_hundredths {major minor : List Char} {s : String} {m : ℤ} (fits : i64.Fits m)
    (written : TwoPlaces s.toList major minor) (is : number major minor = m / 100) :
    Fawry.decimalStrToMinorUnits s = some m := by
  have hundredths : number major minor * 100 = m := by
    rw [is]
    exact div_mul_cancel₀ _ (by norm_num)
  rw [notification_amount, (decimalStrToMinorUnits_exact s).reads, written.writes.solid]
  exact ⟨major, minor, written, hundredths, fits⟩

/-- What was asked for is read back, in every currency. -/
theorem charged_read_back (asks : Asks k config (charge k config id request) q)
    (reports : Reports k config raw q) :
    ∃ event, Fawry.verifyAndParse k config raw = .ok event ∧
      event.reportedAmountMinorUnits = some request.amount.minorUnits := by
  obtain ⟨payload, signature, fields, signed, method, major, minor, written, is⟩ :=
    reports.delivered
  have amount := charge_asks.mp asks
  have read := reads_hundredths (amount_fits request.amount) written (is.symm.trans amount)
  exact ⟨_, Fawry.verifyAndParse_ok.mpr ⟨payload, signature, fields, _, signed, method, read,
    request.amount.positive, rfl⟩, rfl⟩

theorem exponent_of_hundredth {m : ℤ} {places : ℕ} (positive : 0 < m)
    (same : (m : ℚ) / 100 = m / 10 ^ places) : places = 2 := by
  have nonzero : (m : ℚ) ≠ 0 := Int.cast_ne_zero.mpr positive.ne'
  have powers : (10 : ℚ) ^ places = 10 ^ 2 := by
    have inverted := congrArg (fun x : ℚ => (m : ℚ) / x) same
    simp only [div_div_cancel₀ nonzero] at inverted
    rw [← inverted]
    norm_num
  exact Nat.pow_right_injective (le_refl 10 |>.trans' (by decide)) (by exact_mod_cast powers)

theorem exponent_of_right (right : RightAmount k config id request) :
    minorUnitExponent request.amount.currency = 2 := by
  obtain ⟨q, asks, shown⟩ := right.asked
  have due := majorUnitsDisplay_denotes request.amount
  have same := (charge_asks.mp asks).symm.trans (denotes_unique shown due)
  exact exponent_of_hundredth request.amount.positive same

theorem right_amount_iff (k : Crypto) (config : FawryConfig) (id : PaymentId)
    (request : PaymentRequest) :
    RightAmount k config id request ↔ minorUnitExponent request.amount.currency = 2 := by
  have due := majorUnitsDisplay_denotes request.amount
  constructor
  · exact exponent_of_right
  · intro two
    have square : (10 : ℚ) ^ 2 = 100 := by norm_num
    rw [two, square] at due
    exact ⟨⟨_, charge_asks.mpr rfl, due⟩, fun q asks raw reports => charged_read_back asks reports⟩

/-- A thousand fils. -/
def oneDinar : PaymentRequest where
  idempotencyKey := .order
  provider := ProviderId.fawry
  amount := ⟨1000, .kwd, by decide, by decide⟩
  customer := ⟨"01000000000", none, none⟩
  merchantReference := none
  description := none
  returnUrl := none
  metadata := []

/-- One dinar is due, ten are asked for. -/
theorem dinar_asked_tenfold : oneDinar.validate = .ok () ∧
    majorUnitsDisplay oneDinar.amount = "1.000" ∧ ∀ k config id,
      (charge k config id oneDinar).amount = "10.00" ∧ ¬ RightAmount k config id oneDinar := by
  refine ⟨by decide +kernel, by decide +kernel, fun k config id => ⟨?_, ?_⟩⟩
  · show minorUnitsTo2dp 1000 = "10.00"
    decide +kernel
  · intro right
    exact absurd (exponent_of_right right) (by decide)

end Charges

end OpenWrapper.FawryAmounts
