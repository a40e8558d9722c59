import OpenWrapper.Amounts
import OpenWrapper.Pieces
import OpenWrapper.SignatureVerdicts
import Mathlib.Tactic.FieldSimp
import Mathlib.Tactic.Ring

/-! # Amounts as decimals

An amount is shown in the major unit of its currency, with as many digits
behind the point as the currency has. A text in decimals denotes one number. -/

set_option autoImplicit false

namespace OpenWrapper.AmountTexts
open OpenWrapper.Ids OpenWrapper.Amounts OpenWrapper.Doubles OpenWrapper.Pieces
open OpenWrapper.SignatureVerdicts

/-- `{:0width$}`: zeros behind the sign. -/
def zeroPadded (width : ℕ) (n : ℤ) : List Char :=
  let sign := if n < 0 then ['-'] else []
  let digits := Nat.toDigits 10 n.natAbs
  sign ++ List.replicate (width - sign.length - digits.length) '0' ++ digits

def minorUnitExponent : Currency → ℕ
  | .egp | .usd | .eur | .gbp | .sar | .aed => 2
  | .kwd | .bhd | .omr => 3
  | .jpy => 0

/-- `{major}.{minor:0places$}`, of an amount in units of so many places. -/
def pointed (places : ℕ) (minorUnits : ℤ) : String :=
  toString (minorUnits.tdiv (10 ^ places)) ++ "." ++
    String.ofList (zeroPadded places (minorUnits.tmod (10 ^ places)))

def majorUnitsDisplay (m : Money) : String :=
  if minorUnitExponent m.currency = 0 then toString m.minorUnits
  else pointed (minorUnitExponent m.currency) m.minorUnits

/-- Digits, and behind a point more of them. -/
inductive Writes : List Char → List Char → List Char → Prop where
  | whole {major : List Char} (some_ : major ≠ []) (digits : ∀ c ∈ major, c.isDigit = true) :
      Writes major major []
  | pointed {major minor : List Char} (some_ : major ≠ [])
      (digits : ∀ c ∈ major, c.isDigit = true) (minorDigits : ∀ c ∈ minor, c.isDigit = true) :
      Writes (major ++ '.' :: minor) major minor

def number (major minor : List Char) : ℚ :=
  digitsValue major + digitsValue minor / 10 ^ minor.length

/-- The number a text in decimals stands for. -/
def Denotes (text : String) (q : ℚ) : Prop :=
  ∃ major minor, Writes text.toList major minor ∧ q = number major minor

/-- What stands before the first point and after it. -/
def sides (s : List Char) : List Char × List Char :=
  match splitOnce '.' s with
  | some (m, f) => (m, f)
  | none => (s, [])

section Grammar

variable {text major minor cs : List Char}

theorem digit_plain {c : Char} (digit : c.isDigit = true) : c ≠ '.' := by
  rintro rfl
  cases digit

theorem digit_solid {c : Char} (digit : c.isDigit = true) : isWhitespace c = false := by
  simp only [Char.isDigit, Bool.and_eq_true, decide_eq_true_eq] at digit
  have low : 48 ≤ c.toNat := digit.1
  have high : c.toNat ≤ 57 := digit.2
  simp [isWhitespace]
  omega

namespace Writes

theorem some_ (writes : Writes text major minor) : major ≠ [] := by
  cases writes <;> assumption

theorem digits (writes : Writes text major minor) : ∀ c ∈ major, c.isDigit = true := by
  cases writes <;> assumption

theorem minorDigits (writes : Writes text major minor) : ∀ c ∈ minor, c.isDigit = true := by
  cases writes with
  | whole => simp
  | pointed _ _ minorDigits => exact minorDigits

theorem sides_eq (writes : Writes text major minor) : sides text = (major, minor) := by
  have plain : '.' ∉ major := fun mem => digit_plain (writes.digits '.' mem) rfl
  unfold sides
  cases writes with
  | whole => rw [splitOnce_eq_none.mpr plain]
  | pointed => rw [splitOnce_append plain]

theorem of_sides (is : sides text = (major, minor)) (some_ : major ≠ [])
    (digits : ∀ c ∈ major, c.isDigit = true) (minorDigits : ∀ c ∈ minor, c.isDigit = true) :
    Writes text major minor := by
  unfold sides at is
  split at is
  next split =>
    cases is
    obtain ⟨rfl, -⟩ := splitOnce_eq_some.mp split
    exact .pointed some_ digits minorDigits
  · cases is
    exact .whole some_ digits

theorem unique {major' minor' : List Char} (writes : Writes text major minor)
    (writes' : Writes text major' minor') : major = major' ∧ minor = minor' := by
  have same : (major, minor) = (major', minor') := writes.sides_eq.symm.trans writes'.sides_eq
  exact Prod.mk.inj same

theorem solid (writes : Writes text major minor) : trimChars text = text := by
  apply trimBy_eq_self
  intro c mem
  cases writes with
  | whole _ digits => exact digit_solid (digits c mem)
  | pointed _ digits minorDigits =>
    rcases List.mem_append.mp mem with left | right
    · exact digit_solid (digits c left)
    · rcases List.mem_cons.mp right with rfl | behind
      · decide
      · exact digit_solid (minorDigits c behind)

end Writes

theorem denotes_iff {s : String} (writes : Writes s.toList major minor) {q : ℚ} :
    Denotes s q ↔ q = number major minor := by
  constructor
  · rintro ⟨major', minor', writes', rfl⟩
    obtain ⟨rfl, rfl⟩ := writes.unique writes'
    rfl
  · intro is
    exact ⟨major, minor, writes, is⟩

/-- A text denotes at most one number. -/
theorem denotes_unique {s : String} {q q' : ℚ} (denotes : Denotes s q) (denotes' : Denotes s q') :
    q = q' := by
  obtain ⟨major, minor, writes, rfl⟩ := denotes
  exact ((denotes_iff writes).mp denotes').symm

end Grammar

section Values

variable {cs : List Char}

theorem digitsValue_cons (c : Char) (cs : List Char) :
    digitsValue (c :: cs) = (c.toNat - 48) * 10 ^ cs.length + digitsValue cs := by
  induction cs using List.reverseRecOn with
  | nil => simp [digitsValue]
  | append_singleton cs d ih =>
    rw [← List.cons_append, digitsValue_append, ih, digitsValue_append, List.length_append,
      List.length_singleton]
    ring

theorem digitsValue_zeros (k : ℕ) (cs : List Char) :
    digitsValue (List.replicate k '0' ++ cs) = digitsValue cs := by
  induction k with
  | zero => rfl
  | succ k ih =>
    rw [List.replicate_succ, List.cons_append, digitsValue_cons, ih]
    simp

theorem digitsValue_lt (digits : ∀ c ∈ cs, c.isDigit = true) :
    digitsValue cs < 10 ^ cs.length := by
  induction cs with
  | nil => decide
  | cons c cs ih =>
    have rest := ih fun d mem => digits d (List.mem_cons_of_mem c mem)
    have digit := digits c List.mem_cons_self
    have small : c.toNat - 48 ≤ 9 := by
      simp only [Char.isDigit, Bool.and_eq_true, decide_eq_true_eq] at digit
      have high : c.toNat ≤ 57 := digit.2
      omega
    rw [digitsValue_cons, List.length_cons, Nat.pow_succ]
    have scaled := Nat.mul_le_mul_right (10 ^ cs.length) small
    omega

variable {places n : ℕ}

theorem zeroPadded_nat (places n : ℕ) : zeroPadded places n =
    List.replicate (places - (Nat.toDigits 10 n).length) '0' ++ Nat.toDigits 10 n := by
  have sign : ¬ ((n : ℤ) < 0) := by omega
  simp [zeroPadded, sign]

theorem zeroPadded_digits (places n : ℕ) : ∀ c ∈ zeroPadded places n, c.isDigit = true := by
  intro c mem
  rw [zeroPadded_nat] at mem
  rcases List.mem_append.mp mem with zero | digit
  · rw [(List.mem_replicate.mp zero).2]
    rfl
  · exact toDigits_within n c digit

theorem digitsValue_zeroPadded (places n : ℕ) : digitsValue (zeroPadded places n) = n := by
  rw [zeroPadded_nat, digitsValue_zeros, digitsValue_toDigits]

/-- The places hold what is left of the division. -/
theorem length_zeroPadded (some_ : 0 < places) (small : n < 10 ^ places) :
    (zeroPadded places n).length = places := by
  have fits := (Nat.length_toDigits_le_iff (b := 10) (by decide) some_).mpr small
  rw [zeroPadded_nat, List.length_append, List.length_replicate]
  omega

theorem pointed_writes (places n : ℕ) : Writes (pointed places n).toList
    (Nat.toDigits 10 (n / 10 ^ places)) (zeroPadded places ((n % 10 ^ places : ℕ) : ℤ)) := by
  have major : ((n : ℤ).tdiv (10 ^ places)) = ((n / 10 ^ places : ℕ) : ℤ) := by
    rw [Int.tdiv_eq_ediv_of_nonneg (by omega)]
    push_cast
    rfl
  have minor : ((n : ℤ).tmod (10 ^ places)) = ((n % 10 ^ places : ℕ) : ℤ) := by
    rw [Int.tmod_eq_emod_of_nonneg (by omega)]
    push_cast
    rfl
  have whole : (toString ((n / 10 ^ places : ℕ) : ℤ)).toList =
      Nat.toDigits 10 (n / 10 ^ places) := String.toList_ofList
  have text : (pointed places n).toList = Nat.toDigits 10 (n / 10 ^ places) ++
      '.' :: zeroPadded places ((n % 10 ^ places : ℕ) : ℤ) := by
    rw [pointed, major, minor, String.toList_append, String.toList_append, whole,
      String.toList_ofList]
    simp
  rw [text]
  exact .pointed Nat.toDigits_ne_nil (toDigits_within _) (zeroPadded_digits _ _)

theorem pointed_denotes {places : ℕ} (some_ : 0 < places) (n : ℕ) :
    Denotes (pointed places n) (n / 10 ^ places) := by
  have left : n % 10 ^ places < 10 ^ places := Nat.mod_lt n (Nat.pow_pos (by decide))
  have nonzero : (10 : ℚ) ^ places ≠ 0 := pow_ne_zero _ (by norm_num)
  have parts : ((10 ^ places * (n / 10 ^ places) + n % 10 ^ places : ℕ) : ℚ) = n :=
    congrArg Nat.cast (Nat.div_add_mod n (10 ^ places))
  refine ⟨_, _, pointed_writes places n, ?_⟩
  rw [number, digitsValue_toDigits, digitsValue_zeroPadded, length_zeroPadded some_ left, ← parts]
  push_cast
  field_simp

theorem whole_denotes (n : ℕ) : Denotes (toString (n : ℤ)) n := by
  have text : (toString (n : ℤ)).toList = Nat.toDigits 10 n := String.toList_ofList
  refine ⟨Nat.toDigits 10 n, [], ?_, ?_⟩
  · rw [text]
    exact .whole Nat.toDigits_ne_nil (toDigits_within n)
  · have none_ : digitsValue [] = 0 := rfl
    rw [number, digitsValue_toDigits, none_]
    simp

/-- The display is of the amount in the major unit. -/
theorem majorUnitsDisplay_denotes (m : Money) :
    Denotes (majorUnitsDisplay m) (m.minorUnits / 10 ^ minorUnitExponent m.currency) := by
  obtain ⟨n, is⟩ := Int.eq_ofNat_of_zero_le m.positive.le
  unfold majorUnitsDisplay
  rw [is, Int.cast_natCast]
  split
  next zero =>
    rw [zero, pow_zero, div_one]
    exact whole_denotes n
  next places => exact pointed_denotes (Nat.pos_of_ne_zero places) n

end Values

end OpenWrapper.AmountTexts
