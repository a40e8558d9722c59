import OpenWrapper.InstantTexts
import OpenWrapper.SdkMoney

/-! # One amount in three SDKs

TypeScript keeps the digits of the minor units and leaves out those behind them.
PHP does so too where there are decimals. What .NET makes of a text, and PHP of
one without decimals, is the nearest integer, so they agree on a text if less
than half a minor unit is left out. -/

set_option autoImplicit false

namespace OpenWrapper.MoneyAgreement
open OpenWrapper.AmountTexts OpenWrapper.Doubles OpenWrapper.InstantTexts
open OpenWrapper.MachineIntegers OpenWrapper.NearestDoubles OpenWrapper.OutboundSignatures
open OpenWrapper.Pieces OpenWrapper.SafeIntegers OpenWrapper.ScaledDecimals
open OpenWrapper.SdkMoney OpenWrapper.SignatureVerdicts

section Texts

variable {cs major minor : List Char} {t : DecimalText}

theorem writes_text (writes : Writes cs major minor) :
    cs = major ∧ minor = [] ∨ cs = major ++ '.' :: minor := by
  cases writes with
  | whole => exact .inl ⟨rfl, rfl⟩
  | pointed => exact .inr rfl

/-- A text begins with a digit behind its sign. -/
theorem body_cons (t : DecimalText) : ∃ c rest, t.body = c :: rest ∧ c.isDigit = true := by
  obtain ⟨c, rest, is⟩ := List.exists_cons_of_ne_nil t.writes.some_
  have digit : c.isDigit = true := t.writes.digits c (by simp [is])
  rcases writes_text t.writes with ⟨whole, -⟩ | pointed
  · exact ⟨c, rest, whole.trans is, digit⟩
  · refine ⟨c, rest ++ '.' :: t.minor, ?_, digit⟩
    rw [pointed, is, List.cons_append]

theorem unsigned_digit {c : Char} (digit : c.isDigit = true) (rest : List Char) :
    unsigned (c :: rest) = (false, c :: rest) := by
  unfold unsigned
  split
  next starts =>
    cases starts
    cases digit
  next starts =>
    cases starts
    cases digit
  · rfl

theorem toList_text (t : DecimalText) : t.text.toList = t.sign ++ t.body := String.toList_ofList

theorem unsigned_text (t : DecimalText) : unsigned t.text.toList = (t.negative, t.body) := by
  obtain ⟨c, rest, is, digit⟩ := body_cons t
  rw [toList_text]
  rcases t.signs with none_ | plus | minus
  · rw [DecimalText.negative, none_, List.nil_append, is, unsigned_digit digit]
    rfl
  · rw [DecimalText.negative, plus]
    rfl
  · rw [DecimalText.negative, minus]
    rfl

theorem text_within (t : DecimalText) : ∀ c ∈ t.text.toList, 33 ≤ c.toNat ∧ c.toNat ≤ 57 := by
  have digit {c : Char} (isDigit : c.isDigit = true) : 33 ≤ c.toNat ∧ c.toNat ≤ 57 := by
    have range : 48 ≤ c.toNat ∧ c.toNat ≤ 57 := by
      simpa [Char.isDigit, UInt32.le_iff_toNat_le] using isDigit
    omega
  have point : 33 ≤ '.'.toNat ∧ '.'.toNat ≤ 57 := by decide
  intro c mem
  rw [toList_text] at mem
  rcases List.mem_append.mp mem with signed | unsigned
  · rcases t.signs with none_ | plus | minus
    · rw [none_] at signed
      cases signed
    · rw [plus, List.mem_singleton] at signed
      rw [signed]
      decide
    · rw [minus, List.mem_singleton] at signed
      rw [signed]
      decide
  · rcases writes_text t.writes with ⟨whole, -⟩ | pointed
    · rw [whole] at unsigned
      exact digit (t.writes.digits c unsigned)
    · rw [pointed] at unsigned
      rcases List.mem_append.mp unsigned with left | right
      · exact digit (t.writes.digits c left)
      · rcases List.mem_cons.mp right with rfl | behind
        · exact point
        · exact digit (t.writes.minorDigits c behind)

/-- No blank is in a text. -/
theorem text_solid (t : DecimalText) {blank : Char → Bool}
    (outside : ∀ c, blank c = true → c.toNat ≤ 32 ∨ 58 ≤ c.toNat) :
    ∀ c ∈ t.text.toList, blank c = false := by
  intro c mem
  by_contra is
  have out := outside c (by simpa using is)
  have within := text_within t c mem
  omega

theorem digits_append (cs : List Char) (more : ∀ c ∈ cs, c.isDigit = true) (n : ℕ) :
    ∀ c ∈ cs ++ List.replicate n '0', c.isDigit = true := by
  intro c mem
  rcases List.mem_append.mp mem with left | zero
  · exact more c left
  · rw [List.eq_of_mem_replicate zero]
    rfl

theorem digitsValue_padRight (cs : List Char) (n : ℕ) :
    digitsValue (cs ++ List.replicate n '0') = digitsValue cs * 10 ^ n := by
  have zeros := digitsValue_zeros n []
  rw [List.append_nil] at zeros
  rw [digitsValue_appended, zeros, List.length_replicate]
  simp [digitsValue]

end Texts

section Signs

variable {n r : ℕ}

theorem signed_injective {negative : Bool} (same : signed negative r = signed negative n) :
    r = n := by
  unfold SdkMoney.signed at same
  cases negative with
  | false => simpa using same
  | true => simpa using same

theorem signed_fits {n : ℕ} (negative : Bool) (small : n < 2 ^ 53) :
    i64.Fits (signed negative n) := by
  rw [i64_fits]
  unfold SdkMoney.signed
  cases negative with
  | false =>
    simp only [Bool.false_eq_true, if_false]
    omega
  | true =>
    simp only [if_true]
    omega

theorem checked_nat (small : n < 2 ^ 63) : i64.checked (n : ℤ) = some (n : ℤ) :=
  Kind.checked_of_fits (i64_fits.mpr (by omega))

theorem checked_power {d : ℕ} (places : d ≤ 15) :
    i64.checked (10 ^ d) = some ((10 ^ d : ℕ) : ℤ) := by
  have large : 10 ^ d ≤ 10 ^ 15 := Nat.pow_le_pow_right (by decide) places
  rw [← checked_nat (by omega)]
  push_cast
  rfl

/-- A small integer is what is returned if it is computed. -/
theorem checked_signed_iff (negative : Bool) (small : n < 2 ^ 53) :
    i64.checked (signed negative r) = some (signed negative n) ↔ r = n := by
  constructor
  · intro returned
    unfold Kind.checked at returned
    split at returned
    · exact signed_injective (Option.some.inj returned)
    · cases returned
  · rintro rfl
    exact Kind.checked_of_fits (signed_fits negative small)

end Signs

section Kept

variable {t : DecimalText} {d : ℕ}

theorem kept_eq (t : DecimalText) (d : ℕ) :
    t.kept d = t.digits / 10 ^ (t.minor.length - d) * 10 ^ (d - t.minor.length) := by
  unfold DecimalText.kept
  rcases le_total t.minor.length d with fits | surplus
  · obtain ⟨j, is⟩ := Nat.exists_eq_add_of_le fits
    have none_ : t.minor.length - d = 0 := by omega
    have zeros : d - t.minor.length = j := by omega
    rw [none_, zeros, is, Nat.pow_add, mul_left_comm, Nat.mul_div_cancel_left _ (by positivity)]
    simp
  · obtain ⟨j, is⟩ := Nat.exists_eq_add_of_le surplus
    have none_ : d - t.minor.length = 0 := by omega
    have dropped : t.minor.length - d = j := by omega
    rw [none_, dropped, is, Nat.pow_add, mul_comm t.digits,
      Nat.mul_div_mul_left _ _ (by positivity)]
    simp

theorem kept_lt (small : t.Small d) : t.kept d < 2 ^ 53 :=
  (Nat.div_lt_iff_lt_mul (by positivity)).mpr small

theorem digits_eq (t : DecimalText) :
    t.digits = digitsValue t.major * 10 ^ t.minor.length + digitsValue t.minor :=
  digitsValue_appended t.major t.minor

/-- The minor units are written by the whole part and as many digits behind the
point as there are decimals. -/
theorem kept_digits (t : DecimalText) (d : ℕ) :
    t.kept d = digitsValue t.major * 10 ^ d + digitsValue ((padRight d t.minor).take d) := by
  rw [kept_eq]
  rcases le_total t.minor.length d with fits | surplus
  · have all : (padRight d t.minor).take d = padRight d t.minor := by
      apply List.take_of_length_le
      rw [padRight, List.length_append, List.length_replicate]
      omega
    obtain ⟨j, is⟩ := Nat.exists_eq_add_of_le fits
    have none_ : t.minor.length - d = 0 := by omega
    have zeros : d - t.minor.length = j := by omega
    rw [all, padRight, digitsValue_padRight, none_, zeros, digits_eq, is, Nat.pow_add, pow_zero,
      Nat.div_one]
    ring
  · have first : (padRight d t.minor).take d = t.minor.take d := by
      rw [padRight, List.take_append_of_le_length surplus]
    have none_ : d - t.minor.length = 0 := by omega
    have behind : ∀ c ∈ t.minor.drop d, c.isDigit = true := fun c mem =>
      t.writes.minorDigits c (List.mem_of_mem_drop mem)
    have rest := digitsValue_lt behind
    have split := digitsValue_appended (t.minor.take d) (t.minor.drop d)
    rw [List.take_append_drop, List.length_drop] at split
    rw [List.length_drop] at rest
    obtain ⟨j, is⟩ := Nat.exists_eq_add_of_le surplus
    have dropped : t.minor.length - d = j := by omega
    rw [dropped] at rest split ⊢
    have sum : t.digits = digitsValue (t.minor.drop d) +
        (digitsValue t.major * 10 ^ d + digitsValue (t.minor.take d)) * 10 ^ j := by
      rw [digits_eq, split, is, Nat.pow_add]
      ring
    rw [first, none_, sum, Nat.add_mul_div_right _ _ (by positivity), Nat.div_eq_of_lt rest]
    simp

theorem major_le_kept (t : DecimalText) (d : ℕ) : digitsValue t.major ≤ t.kept d := by
  rw [kept_digits]
  have more := Nat.le_mul_of_pos_right (digitsValue t.major) (show 0 < 10 ^ d by positivity)
  omega

end Kept

section TypeScript
open OpenWrapper.SdkMoney.TypeScript

variable {t : DecimalText} {d : ℕ} {cs : List Char}

theorem radix_digits (within : ∀ c ∈ cs, c.isDigit = true) : radix cs = 10 := by
  have other {c : Char} (letter : c.isDigit = false) : cs ≠ ['0', c] := by
    rintro rfl
    have digit := within c (by simp)
    rw [letter] at digit
    cases digit
  unfold radix
  rw [if_neg (not_or.mpr ⟨other rfl, other rfl⟩), if_neg (not_or.mpr ⟨other rfl, other rfl⟩),
    if_neg (not_or.mpr ⟨other rfl, other rfl⟩)]

theorem bigInt_digits (within : ∀ c ∈ cs, c.isDigit = true) :
    bigInt (orZero cs) = some (digitsValue cs : ℤ) := by
  by_cases none_ : cs = []
  · rw [none_]
    rfl
  · have writes : (⟨false, cs, none_, within⟩ : Numeral).Writes cs := .inl ⟨rfl, rfl⟩
    have solid : trimBy JavaScript.isSpace cs = cs := trimBy_eq_self (writes.solid isSpace_outside)
    have base : radix (cs.take 2) = 10 :=
      radix_digits fun c mem => within c (List.mem_of_mem_take mem)
    have all : cs ≠ [] ∧ cs.all Char.isDigit = true := ⟨none_, List.all_eq_true.mpr within⟩
    rw [orZero, if_neg none_, bigInt, solid]
    simp only [none_, if_false, base, if_true]
    apply writes.withSign
    rw [readDigits, if_pos all]
    rfl

theorem splitOn_body (t : DecimalText) : (t.body.splitOn '.').headD [] = t.major ∧
    (t.body.splitOn '.')[1]?.getD [] = t.minor := by
  have plain : '.' ∉ t.major := fun mem => digit_plain (t.writes.digits '.' mem) rfl
  have plain' : '.' ∉ t.minor := fun mem => digit_plain (t.writes.minorDigits '.' mem) rfl
  rcases writes_text t.writes with ⟨whole, none_⟩ | pointed
  · rw [splitOn_singleton.mpr ⟨whole, plain⟩, none_]
    exact ⟨rfl, rfl⟩
  · have pair : t.body.splitOn '.' = [t.major, t.minor] := by
      rw [splitOn_pair, pointed]
      exact ⟨splitOnce_append plain, plain'⟩
    rw [pair]
    exact ⟨rfl, rfl⟩

theorem power_eq (places : d ≤ 15) : power d = 10 ^ d := by
  have large : 10 ^ d ≤ 10 ^ 15 := Nat.pow_le_pow_right (by decide) places
  exact toNumber_small (by omega)

theorem number_signed {n : ℕ} (negative : Bool) (small : n < 2 ^ 53) :
    OutboundSignatures.TypeScript.number (signed negative n) = signed negative n := by
  have whole : toNumber n = n := toNumber_small small.le
  unfold OutboundSignatures.TypeScript.number SdkMoney.signed
  cases negative with
  | false => simp [whole]
  | true =>
    rcases Nat.eq_zero_or_pos n with rfl | positive
    · simp [toNumber]
    · simp [positive, whole]

/-- The digits of the minor units are kept, whatever stands behind them. -/
theorem typeScript_kept (places : d ≤ 15) (small : t.Small d) :
    toMinorUnits t.text d = some (signed t.negative (t.kept d)) := by
  obtain ⟨whole, fraction⟩ := splitOn_body t
  have minor : ∀ c ∈ (padRight d t.minor).take d, c.isDigit = true := fun c mem =>
    digits_append t.minor t.writes.minorDigits _ c (List.mem_of_mem_take mem)
  have units : (digitsValue t.major : ℤ) * power d + digitsValue ((padRight d t.minor).take d) =
      t.kept d := by
    rw [power_eq places, kept_digits]
    push_cast
    rfl
  unfold toMinorUnits
  rw [trimBy_eq_self (text_solid t isSpace_outside)]
  simp only [unsigned_text, whole, fraction]
  rw [bigInt_digits t.writes.digits, bigInt_digits minor, Option.bind_some, Option.map_some, units,
    number_signed t.negative (kept_lt small)]

end TypeScript

section Php
open OpenWrapper.SdkMoney.Php

variable {t : DecimalText} {d : ℕ} {cs : List Char}

theorem leading_digits (some_ : cs ≠ []) (within : ∀ c ∈ cs, c.isDigit = true) :
    leading cs = ⟨⟨false, digitsValue cs, 0⟩, false⟩ := by
  have writes : (⟨false, cs, some_, within⟩ : Numeral).Writes cs := .inl ⟨rfl, rfl⟩
  have solid : cs.dropWhile OutboundSignatures.Php.isNumericBlank = cs :=
    dropWhile_eq_self (writes.solid isWhite_outside)
  have plain : unsigned cs = (false, cs) := by
    obtain ⟨c, rest, rfl⟩ := List.exists_cons_of_ne_nil some_
    exact unsigned_digit (within c List.mem_cons_self) rest
  unfold leading
  simp only [solid, plain, takeWhile_digits within, dropWhile_digits within]
  simp [exponentPrefix]

theorem intVal_digits (within : ∀ c ∈ cs, c.isDigit = true) (small : digitsValue cs < 2 ^ 53) :
    intVal (orZero cs) = digitsValue cs := by
  have kept : OutboundSignatures.Php.saturated (digitsValue cs) = digitsValue cs := by
    unfold OutboundSignatures.Php.saturated
    omega
  by_cases none_ : cs = []
  · rw [none_]
    decide
  · rw [orZero, if_neg none_, intVal, leading_digits none_ within]
    exact kept

theorem roundedInt_signed {x : Double} {n : ℕ} {negative : Bool}
    (finite : ∃ m q, x = .finite negative m q) (above : (n : ℚ) ≤ magnitude x)
    (small : n < 2 ^ 53) :
    roundedInt x = some (signed negative n) ↔ magnitude x < n + 1 / 2 := by
  obtain ⟨m, q, rfl⟩ := finite
  have fraction := scaled_div m 2 q
  push_cast at fraction
  have positive : 0 < (scaled m 2 q).2 := by
    unfold scaled
    split
    · exact Nat.one_pos
    · positivity
  rw [magnitude, ← fraction] at above
  rw [roundedInt, checked_signed_iff negative small, roundHalfUp_eq_iff positive above, magnitude,
    fraction]

/-- Behind the sign are the digits, and behind a point more of them. -/
theorem leading_text (t : DecimalText) : (leading t.text.toList).decimal =
    ⟨t.negative, t.digits, -(t.minor.length : ℤ)⟩ := by
  have solid : t.text.toList.dropWhile OutboundSignatures.Php.isNumericBlank = t.text.toList :=
    dropWhile_eq_self (text_solid t isWhite_outside)
  unfold leading
  simp only [solid, unsigned_text]
  rcases writes_text t.writes with ⟨whole, none_⟩ | pointed
  · rw [whole, takeWhile_digits t.writes.digits, dropWhile_digits t.writes.digits]
    simp [exponentPrefix, DecimalText.digits, none_]
  · have point : Char.isDigit '.' = false := rfl
    have before : t.body.takeWhile Char.isDigit = t.major := by
      rw [pointed, List.takeWhile_append_of_pos t.writes.digits]
      simp [point]
    have behind : t.body.dropWhile Char.isDigit = '.' :: t.minor := by
      rw [pointed, List.dropWhile_append_of_pos t.writes.digits]
      simp [point]
    rw [before, behind]
    simp [exponentPrefix, DecimalText.digits, takeWhile_digits t.writes.minorDigits,
      dropWhile_digits t.writes.minorDigits]

/-- Without decimals the nearest integer of the double is read. -/
theorem php_rounded (small : t.Small 0) :
    toMinorUnits t.text 0 = some (signed t.negative (t.kept 0)) ↔
      magnitude (floatVal t.text.toList) < t.kept 0 + 1 / 2 := by
  have ten : 0 < 10 ^ t.minor.length := by positivity
  have below : t.digits < 2 ^ 53 * 10 ^ t.minor.length := by
    simpa [DecimalText.Small] using small
  have floor : t.kept 0 * 10 ^ t.minor.length ≤ t.digits := by
    rw [DecimalText.kept, pow_zero, mul_one]
    exact Nat.div_mul_le_self t.digits _
  have double : floatVal t.text.toList = nearest t.negative t.digits (10 ^ t.minor.length) := by
    rw [floatVal, leading_text, toDouble_nearest]
  obtain ⟨unit, next⟩ := nearest_next t.negative ten below
  rw [toMinorUnits, if_pos rfl, double]
  exact roundedInt_signed next.finite (next.ge ten floor) (kept_lt small)

theorem dropSigns_text (t : DecimalText) :
    t.text.toList.dropWhile (fun c => c == '+' || c == '-') = t.body := by
  obtain ⟨c, rest, is, digit⟩ := body_cons t
  have plus : c ≠ '+' := by
    rintro rfl
    cases digit
  have minus : c ≠ '-' := by
    rintro rfl
    cases digit
  have other : (c == '+' || c == '-') = false := by simp [plus, minus]
  have kept : t.body.dropWhile (fun c => c == '+' || c == '-') = t.body := by
    rw [is, List.dropWhile_cons, other]
    rfl
  rw [toList_text]
  rcases t.signs with none_ | plus | minus
  · rw [none_]
    exact kept
  · rw [plus]
    exact kept
  · rw [minus]
    exact kept

theorem head_text (t : DecimalText) : (t.text.toList.head? == some '-') = t.negative := by
  obtain ⟨c, rest, is, digit⟩ := body_cons t
  rw [toList_text, DecimalText.negative]
  rcases t.signs with none_ | plus | minus
  · rw [none_, is]
    have other : c ≠ '-' := by
      rintro rfl
      cases digit
    simp [other]
  · rw [plus]
    rfl
  · rw [minus]
    rfl

theorem isBlank_outside (c : Char) (blank : OutboundSignatures.Php.isBlank c = true) :
    c.toNat ≤ 32 ∨ 58 ≤ c.toNat := by
  simp only [OutboundSignatures.Php.isBlank, Bool.or_eq_true, beq_iff_eq] at blank
  rcases blank with ((((rfl | rfl) | rfl) | rfl) | tab) | null
  · decide
  · decide
  · decide
  · decide
  · omega
  · omega

theorem padRight_take (d : ℕ) (cs : List Char) :
    padRight d (cs.take d) = (padRight d cs).take d := by
  have zeros : d - min d cs.length = d - cs.length := by omega
  rw [padRight, padRight, List.take_append, List.take_replicate, List.length_take, zeros, min_self]

/-- With decimals the digits of the minor units are kept. -/
theorem php_kept (some_ : d ≠ 0) (places : d ≤ 15) (small : t.Small d) :
    toMinorUnits t.text d = some (signed t.negative (t.kept d)) := by
  have below := kept_lt small
  have large : 10 ^ d ≤ 10 ^ 15 := Nat.pow_le_pow_right (by decide) places
  have solid : trimBy OutboundSignatures.Php.isBlank t.text.toList = t.text.toList :=
    trimBy_eq_self (text_solid t isBlank_outside)
  have major : intVal (orZero t.major) = digitsValue t.major :=
    intVal_digits t.writes.digits (lt_of_le_of_lt (major_le_kept t d) below)
  have within : ∀ c ∈ (padRight d t.minor).take d, c.isDigit = true := fun c mem =>
    digits_append t.minor t.writes.minorDigits _ c (List.mem_of_mem_take mem)
  have length : ((padRight d t.minor).take d).length = d := by
    rw [List.length_take, padRight, List.length_append, List.length_replicate]
    omega
  have minor : intVal ((padRight d t.minor).take d) =
      digitsValue ((padRight d t.minor).take d) := by
    have under := digitsValue_lt within
    rw [length] at under
    have filled : (padRight d t.minor).take d ≠ [] := by
      intro empty
      rw [empty] at length
      exact some_ length.symm
    have read := intVal_digits within (by omega)
    rw [orZero, if_neg filled] at read
    exact read
  have units := kept_digits t d
  have product : digitsValue t.major * 10 ^ d ≤ t.kept d := by omega
  have whole : i64.checked ((digitsValue t.major : ℤ) * (10 ^ d : ℕ)) =
      some ((digitsValue t.major * 10 ^ d : ℕ) : ℤ) := by
    rw [← checked_nat (by omega)]
    push_cast
    rfl
  have sum : i64.checked (((digitsValue t.major * 10 ^ d : ℕ) : ℤ) +
      digitsValue ((padRight d t.minor).take d)) = some (t.kept d : ℤ) := by
    rw [← checked_nat (by omega), units]
    push_cast
    rfl
  unfold toMinorUnits
  rw [if_neg some_, solid]
  simp only [head_text, dropSigns_text, t.writes.sides_eq, padRight_take, major, minor]
  rw [checked_power places, Option.bind_some, whole, Option.bind_some, sum, Option.bind_some,
    Kind.checked_of_fits (signed_fits t.negative below)]

end Php

section DotNet
open OpenWrapper.SdkMoney.DotNet

variable {t : DecimalText} {d : ℕ} {x : ScaledDecimals.Decimal}

/-- The digits hold less than `2 ^ 53` minor units. -/
theorem digits_lt (small : t.Small d) : t.digits < 2 ^ 53 * 10 ^ (t.minor.length - d) := by
  unfold DecimalText.Small at small
  have ten : 0 < 10 ^ d := by positivity
  apply Nat.lt_of_mul_lt_mul_right (a := 10 ^ d)
  calc t.digits * 10 ^ d < 2 ^ 53 * 10 ^ t.minor.length := small
    _ ≤ 2 ^ 53 * (10 ^ (t.minor.length - d) * 10 ^ d) := by
      rw [← Nat.pow_add]
      exact Nat.mul_le_mul_left _ (Nat.pow_le_pow_right (by decide) (by omega))
    _ = 2 ^ 53 * 10 ^ (t.minor.length - d) * 10 ^ d := by ring

theorem decimalValue_eq (t : DecimalText) :
    decimalValue t.text = fit t.negative t.digits t.minor.length := by
  unfold decimalValue
  simp only [unsigned_text, t.writes.sides_eq]
  rfl

/-- The decimal has the digits of the minor units. -/
theorem decimalValue_text (places : d ≤ 15) (small : t.Small d) :
    ∃ x, decimalValue t.text = some x ∧
      Fitted t.negative t.digits t.minor.length (min t.minor.length d) x := by
  have dropped : t.minor.length - min t.minor.length d = t.minor.length - d := by omega
  have within : min t.minor.length d ≤ min t.minor.length 28 := by omega
  have holds : coefficientAt t.digits t.minor.length (min t.minor.length d) < 2 ^ 96 := by
    have below := digits_lt small
    have far : 2 * t.digits + 10 ^ (t.minor.length - d) <
        (2 ^ 53 + 1) * (2 * 10 ^ (t.minor.length - d)) := by omega
    rw [coefficientAt, dropped]
    exact lt_of_lt_of_le (roundHalfEven_lt (by positivity) far) (by norm_num)
  rw [decimalValue_eq]
  exact fit_some t.negative within holds

theorem kept_le_decimal
    (fitted : Fitted t.negative t.digits t.minor.length (min t.minor.length d) x) :
    (t.kept d : ℚ) ≤ x.magnitude * 10 ^ d := by
  have dropped : t.minor.length - min t.minor.length d = t.minor.length - d := by omega
  have floor : t.digits / 10 ^ (t.minor.length - d) *
      10 ^ (t.minor.length - min t.minor.length d) ≤ t.digits := by
    rw [dropped]
    exact Nat.div_mul_le_self t.digits _
  have split : (10 : ℚ) ^ d = 10 ^ min t.minor.length d * 10 ^ (d - t.minor.length) := by
    rw [← pow_add]
    congr 1
    omega
  have least := fitted.ge floor
  rw [div_le_iff₀ (by positivity)] at least
  calc (t.kept d : ℚ)
      = (t.digits / 10 ^ (t.minor.length - d) : ℕ) * 10 ^ (d - t.minor.length) := by
        rw [kept_eq]
        push_cast
        rfl
    _ ≤ x.magnitude * 10 ^ min t.minor.length d * 10 ^ (d - t.minor.length) := by gcongr
    _ = x.magnitude * 10 ^ d := by rw [split, mul_assoc]

theorem power_fits (places : d ≤ 15) : ∃ factor, fit false (10 ^ d) 0 = some factor ∧
    factor.negative = false ∧ factor.coefficient = 10 ^ d ∧ factor.scale = 0 := by
  have large : 10 ^ d ≤ 10 ^ 15 := Nat.pow_le_pow_right (by decide) places
  have whole : coefficientAt (10 ^ d) 0 0 = 10 ^ d := by
    have unit := roundHalfEven_mul Nat.one_pos (10 ^ d)
    rw [mul_one] at unit
    exact unit
  have within : 0 ≤ min 0 28 := Nat.zero_le _
  have holds : coefficientAt (10 ^ d) 0 0 < 2 ^ 96 := by omega
  obtain ⟨factor, is, fitted⟩ := fit_some false within holds
  have scale : factor.scale = 0 := Nat.le_zero.mp fitted.within
  refine ⟨factor, is, fitted.sign, ?_, scale⟩
  rw [fitted.coefficient, scale, whole]

/-- What is not shifted behind the point fits. -/
theorem shifted_lt (small : t.Small d)
    (fitted : Fitted t.negative t.digits t.minor.length (min t.minor.length d) x) :
    x.coefficient * 10 ^ (d - x.scale) < 2 ^ 96 := by
  have most := fitted.most
  have within := fitted.within
  rcases le_or_gt d x.scale with all | fewer
  · have none_ : d - x.scale = 0 := by omega
    rw [none_, pow_zero, mul_one]
    exact x.small
  · have scale : x.scale = t.minor.length := by omega
    have whole : x.coefficient = t.digits := by
      have unit := roundHalfEven_mul Nat.one_pos t.digits
      rw [mul_one] at unit
      rw [fitted.coefficient, scale, coefficientAt, Nat.sub_self, pow_zero, unit]
    have none_ : t.minor.length - d = 0 := by omega
    have below := kept_lt small
    rw [kept_eq, none_, pow_zero, Nat.div_one] at below
    rw [whole, scale]
    omega

/-- The product with the power of ten keeps all places. -/
theorem mul_power (places : d ≤ 15) (small : t.Small d)
    (fitted : Fitted t.negative t.digits t.minor.length (min t.minor.length d) x) :
    ∃ factor product, fit false (10 ^ d) 0 = some factor ∧ x.mul factor = some product ∧
      product.negative = t.negative ∧ product.magnitude = x.magnitude * 10 ^ d := by
  obtain ⟨factor, is, sign, coefficient, scale⟩ := power_fits places
  have left : x.scale - (x.scale - d) = min x.scale d := by omega
  have split : x.coefficient * 10 ^ d =
      x.coefficient * 10 ^ (d - x.scale) * 10 ^ min x.scale d := by
    rw [mul_assoc, ← Nat.pow_add]
    congr 2
    omega
  have holds : coefficientAt (x.coefficient * 10 ^ d) x.scale (x.scale - d) < 2 ^ 96 := by
    rw [coefficientAt, left, split, roundHalfEven_mul (by positivity)]
    exact shifted_lt small fitted
  have within : x.scale - d ≤ min x.scale 28 := by
    have places := x.places
    omega
  obtain ⟨product, is', fitted'⟩ := fit_some (x.negative != factor.negative) within holds
  have whole : 10 ^ (x.scale - (x.scale - d)) ∣ x.coefficient * 10 ^ d := by
    rw [left, split]
    exact Nat.dvd_mul_left _ _
  refine ⟨factor, product, is, ?_, ?_, ?_⟩
  · rw [ScaledDecimals.Decimal.mul, coefficient, scale, Nat.add_zero]
    exact is'
  · rw [fitted'.sign, sign, fitted.sign]
    simp
  · rw [fitted'.exact_ whole, ScaledDecimals.Decimal.magnitude]
    push_cast
    ring

/-- The decimal is rounded to the nearest integer. -/
theorem dotNet_rounded (places : d ≤ 15) (small : t.Small d)
    (fitted : Fitted t.negative t.digits t.minor.length (min t.minor.length d) x) :
    toMinorUnits x d = some (signed t.negative (t.kept d)) ↔
      x.magnitude * 10 ^ d < t.kept d + 1 / 2 := by
  obtain ⟨factor, product, is, is', sign, value⟩ := mul_power places small fitted
  have above := kept_le_decimal fitted
  have fraction : (product.coefficient / (10 ^ product.scale : ℕ) : ℚ) = x.magnitude * 10 ^ d := by
    rw [← value, ScaledDecimals.Decimal.magnitude]
    push_cast
    rfl
  have rounded : product.rounded =
      signed t.negative (roundHalfUp product.coefficient (10 ^ product.scale)) := by
    rw [ScaledDecimals.Decimal.rounded, sign]
    rfl
  rw [← fraction] at above
  rw [toMinorUnits, is, Option.bind_some, is', Option.bind_some, rounded,
    checked_signed_iff t.negative (kept_lt small), roundHalfUp_eq_iff (by positivity) above,
    fraction]

end DotNet

section Agreement

variable {t : DecimalText} {d : ℕ}

/-- Whole minor units leave nothing out. -/
theorem settled_of_places (places : d ≤ 15) (small : t.Small d) (fits : t.minor.length ≤ d) :
    t.Settled d := by
  have dropped : t.minor.length - d = 0 := by omega
  have whole : t.kept d = t.digits * 10 ^ (d - t.minor.length) := by
    rw [kept_eq, dropped, pow_zero, Nat.div_one]
  have units : (t.digits / 10 ^ t.minor.length * 10 ^ d : ℚ) = t.kept d := by
    have split : (10 : ℚ) ^ d = 10 ^ t.minor.length * 10 ^ (d - t.minor.length) := by
      rw [← pow_add, Nat.add_sub_cancel' fits]
    rw [whole, split]
    push_cast
    field_simp
  obtain ⟨x, read, fitted⟩ := decimalValue_text places small
  constructor
  · intro x' same
    cases read.symm.trans same
    have none_ : t.minor.length - min t.minor.length d = 0 := by omega
    have value := fitted.exact_ (by simp [none_])
    rw [value, units]
    linarith
  · rintro rfl
    have ten : 0 < 10 ^ t.minor.length := by positivity
    have below : t.digits < 2 ^ 53 * 10 ^ t.minor.length := by
      simpa [DecimalText.Small] using small
    have empty : t.minor.length = 0 := by omega
    obtain ⟨unit, next⟩ := nearest_next t.negative ten below
    have value := next.exact_ ten (n := t.kept 0) (by simp [whole, empty])
    rw [Php.floatVal, leading_text, toDouble_nearest, value]
    linarith

theorem agree_iff (places : d ≤ 15) (small : t.Small d) : Agree t.text d ↔ t.Settled d := by
  obtain ⟨x, read, fitted⟩ := decimalValue_text places small
  have typeScript := typeScript_kept places small
  have dotNet := dotNet_rounded places small fitted
  constructor
  · rintro ⟨n, first, second, third⟩
    rw [typeScript] at first
    cases first
    rw [read] at third
    constructor
    · intro x' same
      cases read.symm.trans same
      exact dotNet.mp third
    · rintro rfl
      exact (php_rounded small).mp second
  · intro settled
    have php : Php.toMinorUnits t.text d = some (signed t.negative (t.kept d)) := by
      by_cases none_ : d = 0
      · subst none_
        exact (php_rounded small).mpr (settled.double rfl)
      · exact php_kept none_ places small
    refine ⟨signed t.negative (t.kept d), typeScript, php, ?_⟩
    rw [read]
    exact dotNet.mpr (settled.decimal x read)

/-- Of a text that .NET holds in full, less than half a minor unit is left out. -/
theorem settled_of_digits (some_ : d ≠ 0) (places : t.minor.length ≤ 28)
    (digits : t.digits < 2 ^ 96) :
    t.Settled d ↔ 2 * (t.digits * 10 ^ d % 10 ^ t.minor.length) < 10 ^ t.minor.length := by
  have within : t.minor.length ≤ min t.minor.length 28 := by omega
  have holds : coefficientAt t.digits t.minor.length t.minor.length < 2 ^ 96 := by
    have unit := roundHalfEven_mul Nat.one_pos t.digits
    rw [mul_one] at unit
    rw [coefficientAt, Nat.sub_self, pow_zero, unit]
    exact digits
  obtain ⟨x, is, fitted⟩ := fit_some t.negative within holds
  have read : DotNet.decimalValue t.text = some x := (decimalValue_eq t).trans is
  have value := fitted.exact_ (by simp)
  have split : (t.digits * 10 ^ d : ℚ) = 10 ^ t.minor.length * t.kept d +
      (t.digits * 10 ^ d % 10 ^ t.minor.length : ℕ) := by
    exact_mod_cast (Nat.div_add_mod (t.digits * 10 ^ d) (10 ^ t.minor.length)).symm
  have shifted : x.magnitude * 10 ^ d = t.kept d +
      (t.digits * 10 ^ d % 10 ^ t.minor.length : ℕ) / 10 ^ t.minor.length := by
    rw [value, div_mul_eq_mul_div, split]
    field_simp
  have half : x.magnitude * 10 ^ d < t.kept d + 1 / 2 ↔
      2 * (t.digits * 10 ^ d % 10 ^ t.minor.length) < 10 ^ t.minor.length := by
    rw [shifted, add_lt_add_iff_left, div_lt_div_iff₀ (by positivity) (by norm_num), mul_comm,
      one_mul]
    exact_mod_cast Iff.rfl
  rw [← half]
  constructor
  · intro settled
    exact settled.decimal x read
  · intro below
    constructor
    · intro x' same
      cases read.symm.trans same
      exact below
    · intro none_
      exact absurd none_ some_

end Agreement

section Written

variable {m : ℤ} {d : ℕ}

theorem written_writes (n d : ℕ) :
    Writes (if d = 0 then Nat.toDigits 10 (n / 10 ^ d)
      else Nat.toDigits 10 (n / 10 ^ d) ++ '.' :: zeroPadded d ((n % 10 ^ d : ℕ) : ℤ))
      (Nat.toDigits 10 (n / 10 ^ d))
      (if d = 0 then [] else zeroPadded d ((n % 10 ^ d : ℕ) : ℤ)) := by
  split
  · exact .whole Nat.toDigits_ne_nil (toDigits_within _)
  · exact .pointed Nat.toDigits_ne_nil (toDigits_within _) (zeroPadded_digits _ _)

/-- The text of an amount in minor units. -/
def written (m : ℤ) (d : ℕ) : DecimalText where
  sign := if m < 0 then ['-'] else []
  body := _
  major := _
  minor := _
  signs := by
    split
    · exact .inr (.inr rfl)
    · exact .inl rfl
  writes := written_writes m.natAbs d

theorem written_negative (m : ℤ) (d : ℕ) : (written m d).negative = decide (m < 0) := by
  unfold DecimalText.negative written
  by_cases below : m < 0
  · simp [below]
  · simp [below]

theorem written_minor (m : ℤ) (d : ℕ) : (written m d).minor =
    if d = 0 then [] else zeroPadded d ((m.natAbs % 10 ^ d : ℕ) : ℤ) := rfl

theorem written_length (m : ℤ) (d : ℕ) : (written m d).minor.length = d := by
  rw [written_minor]
  by_cases none_ : d = 0
  · simp [none_]
  · rw [if_neg none_]
    exact length_zeroPadded (Nat.pos_of_ne_zero none_) (Nat.mod_lt _ (by positivity))

theorem written_digits (m : ℤ) (d : ℕ) : (written m d).digits = m.natAbs := by
  have major : (written m d).major = Nat.toDigits 10 (m.natAbs / 10 ^ d) := rfl
  rw [digits_eq, written_length, written_minor, major, digitsValue_toDigits]
  by_cases none_ : d = 0
  · simp [none_, digitsValue]
  · rw [if_neg none_, digitsValue_zeroPadded]
    exact Nat.div_add_mod' m.natAbs (10 ^ d)

/-- Each SDK reads the text as the minor units. -/
theorem written_read (places : d ≤ 15) (safe : m.natAbs < 2 ^ 53) :
    TypeScript.toMinorUnits (written m d).text d = some m ∧
      Php.toMinorUnits (written m d).text d = some m ∧
      (DotNet.decimalValue (written m d).text).bind (DotNet.toMinorUnits · d) = some m := by
  have length := written_length m d
  have digits := written_digits m d
  have small : (written m d).Small d := by
    rw [DecimalText.Small, length, digits]
    exact Nat.mul_lt_mul_of_pos_right safe (by positivity)
  have kept : (written m d).kept d = m.natAbs := by
    rw [DecimalText.kept, length, digits, Nat.mul_div_cancel _ (by positivity)]
  have value : signed (written m d).negative ((written m d).kept d) = m := by
    rw [written_negative, kept]
    unfold SdkMoney.signed
    by_cases below : m < 0
    · rw [decide_eq_true below, if_pos rfl]
      omega
    · rw [decide_eq_false below, if_neg (by decide)]
      omega
  have typeScript := typeScript_kept places small
  obtain ⟨n, first, second, third⟩ :=
    (agree_iff places small).mpr (settled_of_places places small length.le)
  rw [first, value] at typeScript
  cases typeScript
  exact ⟨first, second, third⟩

theorem toList_nat (n : ℕ) : (toString (n : ℤ)).toList = Nat.toDigits 10 n := String.toList_ofList

theorem toList_int (m : ℤ) :
    (toString m).toList = (if m < 0 then ['-'] else []) ++ Nat.toDigits 10 m.natAbs := by
  cases m with
  | ofNat n =>
    have nonneg : ¬ Int.ofNat n < 0 := by simp
    rw [if_neg nonneg]
    exact toList_nat n
  | negSucc n =>
    rw [if_pos (Int.negSucc_lt_zero n)]
    exact toList_negSucc n

theorem padLeft_eq (width n : ℕ) : padLeft width (Nat.toDigits 10 n) = zeroPadded width n :=
  (zeroPadded_nat width n).symm

theorem written_whole (m : ℤ) : (written m 0).text = toString m := by
  have body : (written m 0).body = Nat.toDigits 10 (m.natAbs / 10 ^ 0) := rfl
  have sign : (written m 0).sign = if m < 0 then ['-'] else [] := rfl
  rw [← String.toList_inj, toList_text, body, sign, pow_zero, Nat.div_one, toList_int]

theorem written_pointed (some_ : d ≠ 0) (m : ℤ) : (written m d).text =
    String.ofList ((if m < 0 then ['-'] else []) ++ Nat.toDigits 10 (m.natAbs / 10 ^ d) ++
      '.' :: padLeft d (Nat.toDigits 10 (m.natAbs % 10 ^ d))) := by
  have body : (written m d).body = if d = 0 then Nat.toDigits 10 (m.natAbs / 10 ^ d)
      else Nat.toDigits 10 (m.natAbs / 10 ^ d) ++
        '.' :: zeroPadded d ((m.natAbs % 10 ^ d : ℕ) : ℤ) := rfl
  have sign : (written m d).sign = if m < 0 then ['-'] else [] := rfl
  rw [DecimalText.text, body, sign, if_neg some_, padLeft_eq, List.append_assoc]

theorem formatInteger_written (places : d ≤ 15) (safe : m.natAbs < 2 ^ 53) :
    formatInteger m d = some (written m d).text := by
  unfold formatInteger
  by_cases none_ : d = 0
  · rw [if_pos none_, none_, written_whole]
  · have magnitude : i64.checked |m| = some (m.natAbs : ℤ) := by
      rw [Int.abs_eq_natAbs, checked_nat (by omega)]
    have quotient : (m.natAbs : ℤ) / (10 ^ d : ℕ) = (m.natAbs / 10 ^ d : ℕ) := rfl
    have rest : (m.natAbs : ℤ) % (10 ^ d : ℕ) = (m.natAbs % 10 ^ d : ℕ) := rfl
    rw [if_neg none_, magnitude, Option.bind_some, checked_power places, Option.map_some, quotient,
      rest, toList_nat, toList_nat, written_pointed none_]

theorem floor_nearest {n f : ℕ} (safe : n < 2 ^ 53) (positive : 0 < f) (few : f < 2 ^ 64) :
    TypeScript.floor (nearest false n f) = toDouble ⟨false, n / f, 0⟩ := by
  have small : n < 2 ^ 53 * f := lt_of_lt_of_le safe (Nat.le_mul_of_pos_right _ positive)
  obtain ⟨unit, next⟩ := nearest_next false positive small
  have above := next.ge positive (Nat.div_mul_le_self n f)
  have next_ : n < (n / f + 1) * f := by
    rw [mul_comm]
    exact Nat.lt_mul_div_succ n positive
  have below := next.lt positive safe few next_
  obtain ⟨m, q, is⟩ := next.finite
  rw [is] at above below ⊢
  have quotient : (scaled m 2 q).1 / (scaled m 2 q).2 = n / f := by
    rw [scaled_floor, Nat.floor_eq_iff (by positivity)]
    exact ⟨above, by exact_mod_cast below⟩
  rw [← quotient]
  rfl

theorem numberText_safe (safe : m.natAbs < 2 ^ 53) :
    OutboundSignatures.TypeScript.numberText m = toString m := by
  by_cases zero : m = 0
  · rw [zero]
    rfl
  · exact toText_safe zero safe

theorem toText_nat {n : ℕ} (safe : n < 2 ^ 53) :
    (toDouble ⟨false, n, 0⟩).toText.toList = Nat.toDigits 10 n := by
  have nonneg : decide ((n : ℤ) < 0) = false := by simp
  have text := numberText_safe (m := n) (by simpa using safe)
  rw [OutboundSignatures.TypeScript.numberText, nonneg, Int.natAbs_natCast] at text
  rw [text, toList_nat]

theorem typeScript_written (places : d ≤ 15) (safe : m.natAbs < 2 ^ 53) :
    TypeScript.formatMajorUnits m d = some (written m d).text := by
  unfold TypeScript.formatMajorUnits
  rw [if_neg (not_le.mpr safe)]
  by_cases none_ : d = 0
  · rw [if_pos none_, none_, written_whole, numberText_safe safe]
  · have large : 10 ^ d ≤ 10 ^ 15 := Nat.pow_le_pow_right (by decide) places
    have quotient : m.natAbs / 10 ^ d ≤ m.natAbs := Nat.div_le_self _ _
    have rest : m.natAbs % 10 ^ d ≤ m.natAbs := Nat.mod_le _ _
    have whole := floor_nearest safe (show 0 < 10 ^ d by positivity) (by omega)
    have fraction : (OutboundSignatures.TypeScript.numberText
        ((m.natAbs % 10 ^ d : ℕ) : ℤ)).toList = Nat.toDigits 10 (m.natAbs % 10 ^ d) := by
      rw [numberText_safe (by rw [Int.natAbs_natCast]; omega), toList_nat]
    rw [if_neg none_]
    simp only [power_eq places, whole, fraction]
    rw [toText_nat (by omega), written_pointed none_]

theorem round_trips (places : d ≤ 15) (safe : m.natAbs < 2 ^ 53) : RoundTrips m d := by
  obtain ⟨typeScript, php, dotNet⟩ := written_read places safe
  have integer := formatInteger_written places safe
  constructor
  · rw [typeScript_written places safe, Option.bind_some, typeScript]
  · rw [Php.formatMajorUnits, integer, Option.bind_some, php]
  · rw [DotNet.formatMajorUnits, integer, Option.bind_some, dotNet]

end Written

/-- The SDKs agree on a text if less than half a minor unit is left out, and
each reads what it writes. -/
theorem sdk_money (t : DecimalText) (m : ℤ) (d : ℕ) (places : d ≤ 15) (small : t.Small d)
    (safe : m.natAbs < 2 ^ 53) :
    (Agree t.text d ∧ RoundTrips m d ↔ t.Settled d) ∧ RoundTrips m d := by
  have trips := round_trips places safe
  refine ⟨?_, trips⟩
  rw [← agree_iff places small]
  exact and_iff_left trips

def halfFull : DecimalText where
  sign := []
  body := ['1', '2'] ++ '.' :: ['5']
  major := ['1', '2']
  minor := ['5']
  signs := .inl rfl
  writes := .pointed (List.cons_ne_nil _ _) (List.all_eq_true.mp rfl) (List.all_eq_true.mp rfl)

def halfOver : DecimalText where
  sign := []
  body := ['1'] ++ '.' :: ['0', '0', '5']
  major := ['1']
  minor := ['0', '0', '5']
  signs := .inl rfl
  writes := .pointed (List.cons_ne_nil _ _) (List.all_eq_true.mp rfl) (List.all_eq_true.mp rfl)

theorem sdk_money_halfFull :
    (Agree halfFull.text 2 ∧ RoundTrips (-1250) 2 ↔ halfFull.Settled 2) ∧ RoundTrips (-1250) 2 :=
  sdk_money halfFull (-1250) 2 (by decide) (by unfold DecimalText.Small; decide) (by decide)

/-- Half a minor unit is left out by two of the SDKs and rounded up by one. -/
theorem sdk_money_halfOver : ¬ ∀ (t : DecimalText) (m : ℤ) (d : ℕ), d ≤ 15 → t.Small d →
    m.natAbs < 2 ^ 53 → Agree t.text d ∧ RoundTrips m d := by
  intro claimed
  have small : halfOver.Small 2 := by
    unfold DecimalText.Small
    decide
  obtain ⟨⟨n, typeScript, -, dotNet⟩, -⟩ := claimed halfOver 0 2 (by decide) small (by decide)
  have cut : TypeScript.toMinorUnits halfOver.text 2 = some 100 := by decide +kernel
  have rounded : (DotNet.decimalValue halfOver.text).bind (DotNet.toMinorUnits · 2) = some 101 := by
    decide +kernel
  rw [cut] at typeScript
  cases typeScript
  rw [rounded] at dotNet
  cases dotNet

end OpenWrapper.MoneyAgreement
