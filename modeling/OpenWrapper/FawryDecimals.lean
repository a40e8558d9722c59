import OpenWrapper.AmountTexts
import OpenWrapper.WebhookAdapters

/-! # Fawry's decimals

Amounts go to Fawry and come back as decimals of two places. The reader is
written by hand; it takes exactly the numerals with at most two digits behind
the point, and undoes the writer. -/

set_option autoImplicit false

namespace OpenWrapper.FawryDecimals
open OpenWrapper.Ids OpenWrapper.Doubles OpenWrapper.MachineIntegers OpenWrapper.Pieces
open OpenWrapper.SignatureVerdicts OpenWrapper.AmountTexts

def minorUnitsTo2dp (minorUnits : ℤ) : String :=
  toString (minorUnits.tdiv 100) ++ "." ++ String.ofList (zeroPadded 2 (minorUnits.tmod 100))

def minorVal (minor : List Char) : Steps (Option ℤ) :=
  match minor.length with
  | 0 => pure (some 0)
  | 1 =>
    match parseI64 (String.ofList minor) with
    | none => pure none
    | some tenths => some <$> i64.cast (tenths * 10)
  | 2 => pure (parseI64 (String.ofList minor))
  | _ => pure none

def decimalStrToMinorUnits (s : String) : Steps (Option ℤ) :=
  let (major, minor) := sides (trimChars s.toList)
  if major.isEmpty ∨ ¬ major.all Char.isDigit then pure none
  else if ¬ minor.all Char.isDigit ∨ 2 < minor.length then pure none
  else
    match parseI64 (String.ofList major) with
    | none => pure none
    | some majorVal => do
      match ← minorVal minor with
      | none => pure none
      | some minorVal =>
        pure ((i64.checked (majorVal * 100)).bind fun scaled => i64.checked (scaled + minorVal))

/-- A text in decimals with at most two digits behind the point. -/
structure TwoPlaces (text major minor : List Char) : Prop where
  writes : Writes text major minor
  places : minor.length ≤ 2

section Grammar

variable {major minor cs : List Char} {s : String} {m : ℤ}

/-- Digits alone are read without a sign. -/
theorem parseI64_digits (some_ : cs ≠ []) (digits : ∀ c ∈ cs, c.isDigit = true) :
    parseI64 (String.ofList cs) = i64.checked (digitsValue cs) := by
  have read : parseDigits 0 cs = some (digitsValue cs) := parseDigits_of_digits digits 0
  rw [parseI64, String.toList_ofList]
  split
  · exact absurd rfl some_
  · have bad := digits '-' List.mem_cons_self
    cases bad
  · have bad := digits '+' List.mem_cons_self
    cases bad
  · rw [read, Option.bind_some]
    unfold Kind.checked
    by_cases fits : i64.Fits (digitsValue cs)
    · have range := i64_fits.mp fits
      rw [if_pos fits]
      exact if_pos (by omega)
    · have range := mt i64_fits.mpr fits
      rw [if_neg fits]
      exact if_neg (by omega)

/-- What at most two digits behind the point stand for, in hundredths. -/
def cents (minor : List Char) : ℕ := digitsValue minor * 10 ^ (2 - minor.length)

theorem minorVal_digits (digits : ∀ c ∈ minor, c.isDigit = true) (places : minor.length ≤ 2) :
    minorVal minor = pure (some (cents minor : ℤ)) := by
  have below := digitsValue_lt digits
  match minor, places with
  | [], _ => rfl
  | [c], _ =>
    have fits : i64.Fits (digitsValue [c]) := by
      rw [i64_fits]
      simp at below
      omega
    have scaled : i64.Fits (digitsValue [c] * 10) := by
      rw [i64_fits]
      simp at below
      omega
    unfold minorVal
    simp only [List.length_singleton]
    rw [parseI64_digits (by simp) digits, Kind.checked_of_fits fits]
    simp only [Kind.cast_of_fits scaled, map_pure, cents, List.length_singleton]
    push_cast
    rfl
  | [c, d], _ =>
    have fits : i64.Fits (digitsValue [c, d]) := by
      rw [i64_fits]
      simp at below
      omega
    unfold minorVal
    simp only [List.length_cons, List.length_nil]
    rw [parseI64_digits (by simp) digits, Kind.checked_of_fits fits]
    simp [cents]

/-- The checked steps fail just where the whole amount is too large. -/
theorem checked_steps {a b : ℤ} (nonneg : 0 ≤ a) (nonneg' : 0 ≤ b) :
    ((i64.checked a).bind fun a => (i64.checked (a * 100)).bind fun c => i64.checked (c + b)) =
      i64.checked (a * 100 + b) := by
  by_cases fits : i64.Fits (a * 100 + b)
  · have range := i64_fits.mp fits
    rw [Kind.checked_of_fits (i64_fits.mpr (by omega)), Option.bind_some,
      Kind.checked_of_fits (i64_fits.mpr (by omega)), Option.bind_some]
  · have range := mt i64_fits.mpr fits
    rw [Kind.checked_of_not_fits fits]
    rw [Option.bind_eq_none_iff]
    intro c is
    rw [Option.bind_eq_none_iff]
    intro d is'
    have eq := (Option.ite_none_right_eq_some.mp is).2
    have eq' := (Option.ite_none_right_eq_some.mp is').2
    rw [← Option.some.inj eq', ← Option.some.inj eq]
    exact Kind.checked_of_not_fits fits

theorem decimalStrToMinorUnits_written (written : TwoPlaces (trimChars s.toList) major minor) :
    decimalStrToMinorUnits s = pure (i64.checked (digitsValue major * 100 + cents minor)) := by
  have writes := written.writes
  have major' : ¬ (major.isEmpty ∨ ¬ major.all Char.isDigit) := by
    simpa [writes.some_] using writes.digits
  have minor' : ¬ (¬ minor.all Char.isDigit ∨ 2 < minor.length) := by
    simpa [written.places] using writes.minorDigits
  have steps := checked_steps (a := digitsValue major) (b := cents minor) (by omega) (by omega)
  unfold decimalStrToMinorUnits
  simp only [writes.sides_eq]
  rw [if_neg major', if_neg minor', parseI64_digits writes.some_ writes.digits,
    minorVal_digits writes.minorDigits written.places, ← steps]
  cases i64.checked (digitsValue major) <;> rfl

theorem decimalStrToMinorUnits_other
    (other : ∀ major minor, ¬ TwoPlaces (trimChars s.toList) major minor) :
    decimalStrToMinorUnits s = pure none := by
  unfold decimalStrToMinorUnits
  rcases pair : sides (trimChars s.toList) with ⟨major, minor⟩
  simp only
  by_cases major' : major.isEmpty ∨ ¬ major.all Char.isDigit
  · rw [if_pos major']
  · rw [if_neg major']
    by_cases minor' : ¬ minor.all Char.isDigit ∨ 2 < minor.length
    · rw [if_pos minor']
    · have writes := Writes.of_sides pair (by simpa using mt Or.inl major')
        (by simpa using mt Or.inr major') (by simpa using mt Or.inl minor')
      exact absurd ⟨writes, by omega⟩ (other major minor)

theorem minorUnitsTo2dp_eq (m : ℤ) : minorUnitsTo2dp m = pointed 2 m := rfl

theorem minorUnitsTo2dp_written (n : ℕ) : TwoPlaces (minorUnitsTo2dp n).toList
    (Nat.toDigits 10 (n / 100)) (zeroPadded 2 ((n % 100 : ℕ) : ℤ)) := by
  have left : n % 100 < 10 ^ 2 := Nat.mod_lt n (by decide)
  exact ⟨pointed_writes 2 n, (length_zeroPadded (by decide) left).le⟩

theorem decimalStrToMinorUnits_minorUnitsTo2dp (nonneg : 0 ≤ m) (fits : i64.Fits m) :
    decimalStrToMinorUnits (minorUnitsTo2dp m) = pure (some m) := by
  obtain ⟨n, rfl⟩ := Int.eq_ofNat_of_zero_le nonneg
  have written := minorUnitsTo2dp_written n
  have left : n % 100 < 10 ^ 2 := Nat.mod_lt n (by decide)
  have hundredths : cents (zeroPadded 2 ((n % 100 : ℕ) : ℤ)) = n % 100 := by
    rw [cents, length_zeroPadded (by decide) left, digitsValue_zeroPadded]
    omega
  have whole : ((digitsValue (Nat.toDigits 10 (n / 100)) : ℤ) * 100 + ((n % 100 : ℕ) : ℤ)) = n := by
    rw [digitsValue_toDigits]
    omega
  rw [← written.writes.solid] at written
  rw [decimalStrToMinorUnits_written written, hundredths, whole, Kind.checked_of_fits fits]

/-- A hundred times what is denoted is a whole number of hundredths. -/
theorem number_hundredths (major : List Char) (places : minor.length ≤ 2) :
    number major minor * 100 = ((digitsValue major * 100 + cents minor : ℤ) : ℚ) := by
  have split : (10 : ℚ) ^ minor.length * 10 ^ (2 - minor.length) = 100 := by
    rw [← pow_add, Nat.add_sub_cancel' places]
    norm_num
  have nonzero : (10 : ℚ) ^ minor.length ≠ 0 := pow_ne_zero _ (by norm_num)
  unfold number cents
  push_cast
  rw [← split]
  field_simp

/-- What is read is what the text denotes, if that is in range, and nothing is lost. -/
structure Exact (s : String) : Prop where
  reads (v : ℤ) : (decimalStrToMinorUnits s).value = some v ↔
    ∃ major minor, TwoPlaces (trimChars s.toList) major minor ∧ number major minor * 100 = v ∧
      i64.Fits v
  exact : (decimalStrToMinorUnits s).exact = true

theorem decimalStrToMinorUnits_exact (s : String) : Exact s := by
  by_cases some_ : ∃ major minor, TwoPlaces (trimChars s.toList) major minor
  · obtain ⟨major, minor, written⟩ := some_
    have read := decimalStrToMinorUnits_written written
    have hundredths := number_hundredths major written.places
    refine ⟨fun v => ?_, by rw [read]; rfl⟩
    rw [read, Steps.value_pure, Kind.checked, Option.ite_none_right_eq_some, Option.some_inj]
    constructor
    · rintro ⟨fits, rfl⟩
      exact ⟨major, minor, written, hundredths, fits⟩
    · rintro ⟨major', minor', written', is, fits⟩
      obtain ⟨rfl, rfl⟩ := written.writes.unique written'.writes
      have same : digitsValue major * 100 + cents minor = v :=
        Int.cast_injective (hundredths.symm.trans is)
      rw [same]
      exact ⟨fits, rfl⟩
  · have other : ∀ major minor, ¬ TwoPlaces (trimChars s.toList) major minor :=
      fun major minor written => some_ ⟨major, minor, written⟩
    have read := decimalStrToMinorUnits_other other
    refine ⟨fun v => ?_, by rw [read]; rfl⟩
    rw [read]
    constructor
    · intro none_
      cases none_
    · rintro ⟨major, minor, written, -⟩
      exact absurd written (other major minor)

theorem fawry_decimals (nonneg : 0 ≤ m) (fits : i64.Fits m) (s : String) :
    decimalStrToMinorUnits (minorUnitsTo2dp m) = pure (some m) ∧ Exact s :=
  ⟨decimalStrToMinorUnits_minorUnitsTo2dp nonneg fits, decimalStrToMinorUnits_exact s⟩

theorem fawry_decimals_largest :
    decimalStrToMinorUnits (minorUnitsTo2dp 9223372036854775807) =
      pure (some 9223372036854775807) ∧ Exact "10.5" :=
  fawry_decimals (by decide) (by decide) "10.5"

end Grammar

section Notifications

open WebhookAdapters

theorem sides_eq (cs : List Char) :
    sides cs = (cs.takeWhile (· != '.'), (cs.dropWhile (· != '.')).drop 1) := by
  unfold sides splitOnce
  by_cases there : cs.contains '.' = true
  · rw [if_pos there]
  · have plain : ∀ c ∈ cs, (c != '.') = true := by
      intro c mem
      rw [bne_iff_ne]
      rintro rfl
      exact there (List.contains_iff_mem.mpr mem)
    rw [if_neg there, List.takeWhile_eq_self_iff.mpr plain, List.dropWhile_eq_nil_iff.mpr plain]
    rfl

theorem cents_eq {minor : List Char} (places : minor.length ≤ 2) :
    cents minor = if minor.length = 1 then digitsValue minor * 10 else digitsValue minor := by
  match minor, places with
  | [], _ => rfl
  | [c], _ => simp [cents]
  | [c, d], _ => simp [cents]

/-- The amounts of notifications are read by the same function. -/
theorem notification_amount (s : String) :
    Fawry.decimalStrToMinorUnits s = (decimalStrToMinorUnits s).value := by
  rcases pair : sides (trimChars s.toList) with ⟨major, minor⟩
  have split := (sides_eq _).symm.trans pair
  obtain ⟨before, behind⟩ := Prod.mk.inj split
  unfold Fawry.decimalStrToMinorUnits
  simp only [before, behind]
  by_cases some_ : ∃ major minor, TwoPlaces (trimChars s.toList) major minor
  · obtain ⟨major', minor', written⟩ := some_
    have writes := written.writes
    obtain ⟨rfl, rfl⟩ := Prod.mk.inj (writes.sides_eq.symm.trans pair)
    have shape : ¬ (major'.isEmpty = true ∨ minor'.length > 2) := by
      simpa [writes.some_] using written.places
    have whole : parseDigits 0 major' = some (digitsValue major') :=
      parseDigits_of_digits writes.digits 0
    have part : parseDigits 0 minor' = some (digitsValue minor') :=
      parseDigits_of_digits writes.minorDigits 0
    have sum : (digitsValue major' : ℤ) * 100 + cents minor' =
        ((digitsValue major' * 100 + cents minor' : ℕ) : ℤ) := by push_cast; rfl
    rw [decimalStrToMinorUnits_written written, if_neg shape, whole, part, Steps.value_pure]
    simp only [← cents_eq written.places]
    rw [sum, Kind.checked]
    by_cases fits : i64.Fits ((digitsValue major' * 100 + cents minor' : ℕ) : ℤ)
    · have range := i64_fits.mp fits
      rw [if_pos fits]
      exact if_pos (by omega)
    · have range := mt i64_fits.mpr fits
      rw [if_neg fits]
      exact if_neg (by omega)
  · have other : ∀ major minor, ¬ TwoPlaces (trimChars s.toList) major minor :=
      fun major minor written => some_ ⟨major, minor, written⟩
    rw [decimalStrToMinorUnits_other other, Steps.value_pure]
    by_cases shape : major.isEmpty = true ∨ minor.length > 2
    · rw [if_pos shape]
    · rw [if_neg shape]
      split
      next units fraction whole part =>
        have writes := Writes.of_sides pair (by simpa using mt Or.inl shape)
          (parseDigits_eq_some whole).1 (parseDigits_eq_some part).1
        exact absurd ⟨writes, by omega⟩ (other major minor)
      · rfl

end Notifications

end OpenWrapper.FawryDecimals
