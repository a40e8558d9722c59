import OpenWrapper.JsonText
import Mathlib.Data.Int.Notation
import Mathlib.Data.List.TakeWhile
import Mathlib.Tactic.IntervalCases

/-! # Doubles and their decimal texts

A JSON numeral, the double next to it, and the shortest numeral that is next to
this double and to no other. -/

set_option autoImplicit false

namespace OpenWrapper.Doubles
open OpenWrapper.JsonText

section Numerals

/-- `digits * 10 ^ exponent`. -/
structure Decimal where
  negative : Bool
  digits : ℕ
  exponent : ℤ
deriving DecidableEq, Repr

def digitsValue (cs : List Char) : ℕ := cs.foldl (fun n c => 10 * n + (c.toNat - 48)) 0

def readDigits (cs : List Char) : Option ℕ :=
  if cs ≠ [] ∧ cs.all Char.isDigit then some (digitsValue cs) else none

def readExponent : List Char → Option ℤ
  | [] => some 0
  | c :: rest =>
    if c = 'e' ∨ c = 'E' then
      match rest with
      | '+' :: ds => (readDigits ds).map Int.ofNat
      | '-' :: ds => (readDigits ds).map fun n => -Int.ofNat n
      | ds => (readDigits ds).map Int.ofNat
    else none

def readFraction : List Char → Option (List Char × ℤ)
  | '.' :: rest =>
    if rest.takeWhile Char.isDigit = [] then none
    else (readExponent (rest.dropWhile Char.isDigit)).map fun e => (rest.takeWhile Char.isDigit, e)
  | cs => (readExponent cs).map fun e => ([], e)

def readUnsigned (negative : Bool) (cs : List Char) : Option Decimal :=
  let whole := cs.takeWhile Char.isDigit
  if whole = [] ∨ (whole.head? = some '0' ∧ whole ≠ ['0']) then none
  else (readFraction (cs.dropWhile Char.isDigit)).map fun (fraction, e) =>
    ⟨negative, digitsValue (whole ++ fraction), e - fraction.length⟩

/-- A numeral by the grammar of JSON. -/
def readDecimal (numeral : String) : Option Decimal :=
  match numeral.toList with
  | '-' :: cs => readUnsigned true cs
  | cs => readUnsigned false cs

end Numerals

section Rounding

/-- `n * base ^ e`, as a fraction. -/
def scaled (n base : ℕ) (e : ℤ) : ℕ × ℕ :=
  if 0 ≤ e then (n * base ^ e.toNat, 1) else (n, base ^ (-e).toNat)

/-- `num / den / base ^ e`, as a fraction. -/
def unscaled (num den base : ℕ) (e : ℤ) : ℕ × ℕ :=
  if 0 ≤ e then (num, den * base ^ e.toNat) else (num * base ^ (-e).toNat, den)

def roundHalfEven (num den : ℕ) : ℕ :=
  let quotient := num / den
  let rest := num % den
  if 2 * rest < den then quotient
  else if den < 2 * rest then quotient + 1
  else if quotient % 2 = 0 then quotient else quotient + 1

/-- `mantissa * 2 ^ exponent`, the mantissa of 53 bits or the exponent the least. -/
inductive Double where
  | finite (negative : Bool) (mantissa : ℕ) (exponent : ℤ)
  | infinite (negative : Bool)
deriving DecidableEq, Repr

/-- The exponent of the greatest power of two up to the fraction. -/
def binaryExponent (num den : ℕ) : ℤ :=
  let e : ℤ := (Nat.log2 num : ℤ) - Nat.log2 den
  let (n, d) := unscaled num den 2 e
  if d ≤ n then e else e - 1

/-- The mantissa may have come to `2 ^ 53`, and the exponent to more than a
double has. -/
def normalized (negative : Bool) (mantissa : ℕ) (exponent : ℤ) : Double :=
  let (m, q) := if mantissa = 2 ^ 53 then (2 ^ 52, exponent + 1) else (mantissa, exponent)
  if m = 0 then .finite negative 0 0
  else if 971 < q then .infinite negative
  else .finite negative m q

/-- The nearest double; of two that are as near the even one. -/
def toDouble (x : Decimal) : Double :=
  if x.digits = 0 then .finite x.negative 0 0
  else
    let (num, den) := scaled x.digits 10 x.exponent
    let q := max (binaryExponent num den - 52) (-1074)
    let (n, d) := unscaled num den 2 q
    normalized x.negative (roundHalfEven n d) q

end Rounding

section Printing

/-- The exponent of the least power of ten above the fraction. -/
def decimalExponent (num den : ℕ) : ℤ :=
  if den ≤ num then (Nat.toDigits 10 (num / den)).length
  else 1 - (Nat.toDigits 10 ((den - 1) / num)).length

/-- The decimal of this last place that is next to the double, if there is one. -/
def decimalAt (m : ℕ) (q p : ℤ) : Option (ℕ × ℤ) :=
  let (num, den) := scaled m 2 q
  let (n, d) := unscaled num den 10 p
  let good := fun s => toDouble ⟨false, s, p⟩ = .finite false m q
  if good (n / d) then
    if good (n / d + 1) then some (roundHalfEven n d, p) else some (n / d, p)
  else if good (n / d + 1) then some (n / d + 1, p) else none

/-- The shortest decimal that is next to the double; seventeen digits do. -/
def shortest (m : ℕ) (q : ℤ) : ℕ × ℤ :=
  let (num, den) := scaled m 2 q
  let top := decimalExponent num den
  ((List.range 17).findSome? fun (k : ℕ) => decimalAt m q (top - (k + 1))).getD (m, q)

/-- The layout of `digits * 10 ^ (n - digits.length)`. -/
def layout (digits : List Char) (n : ℤ) : List Char :=
  if (digits.length : ℤ) ≤ n ∧ n ≤ 21 then
    digits ++ List.replicate (n.toNat - digits.length) '0'
  else if 0 < n ∧ n ≤ 21 then digits.take n.toNat ++ '.' :: digits.drop n.toNat
  else if -6 < n ∧ n ≤ 0 then '0' :: '.' :: (List.replicate (-n).toNat '0' ++ digits)
  else
    let fraction := if digits.tail = [] then [] else '.' :: digits.tail
    digits.take 1 ++ fraction ++ 'e' :: (if n - 1 < 0 then '-' else '+') ::
      Nat.toDigits 10 (n - 1).natAbs

def stripZeros (digits : List Char) : List Char :=
  (digits.reverse.dropWhile (· == '0')).reverse

def positiveText (m : ℕ) (q : ℤ) : List Char :=
  let (s, p) := shortest m q
  let digits := Nat.toDigits 10 s
  layout (stripZeros digits) (digits.length + p)

/-- `Number::toString`. -/
def Double.toText : Double → String
  | .infinite negative => if negative then "-Infinity" else "Infinity"
  | .finite negative m q =>
    if m = 0 then "0"
    else String.ofList ((if negative then ['-'] else []) ++ positiveText m q)

end Printing

section Lexical

theorem numeralChar_digit {c : Char} (isDigit : c.isDigit = true) : numeralChar c = true := by
  simp [numeralChar, isDigit]

theorem readDigits_within {cs : List Char} {n : ℕ} (read : readDigits cs = some n) :
    ∀ c ∈ cs, numeralChar c = true := by
  unfold readDigits at read
  split at read
  next digits => exact fun c mem => numeralChar_digit (List.all_eq_true.mp digits.2 c mem)
  · cases read

theorem readExponent_within {cs : List Char} {e : ℤ} (read : readExponent cs = some e) :
    ∀ c ∈ cs, numeralChar c = true := by
  unfold readExponent at read
  split at read
  · exact nofun
  next c rest =>
    split at read
    next letter =>
      have first : numeralChar c = true := by
        rcases letter with rfl | rfl
        · rfl
        · rfl
      split at read
      · obtain ⟨n, digits, -⟩ := Option.map_eq_some_iff.mp read
        simpa [first, show numeralChar '+' = true from rfl] using readDigits_within digits
      · obtain ⟨n, digits, -⟩ := Option.map_eq_some_iff.mp read
        simpa [first, show numeralChar '-' = true from rfl] using readDigits_within digits
      · obtain ⟨n, digits, -⟩ := Option.map_eq_some_iff.mp read
        simpa [first] using readDigits_within digits
    · cases read

theorem span_within {cs : List Char}
    (after : ∀ c ∈ cs.dropWhile Char.isDigit, numeralChar c = true) :
    ∀ c ∈ cs, numeralChar c = true := by
  intro c mem
  rw [← List.takeWhile_append_dropWhile (p := Char.isDigit) (l := cs)] at mem
  rcases List.mem_append.mp mem with inside | outside
  · exact numeralChar_digit (List.mem_takeWhile_imp inside)
  · exact after c outside

theorem readFraction_within {cs : List Char} {read : List Char × ℤ}
    (is : readFraction cs = some read) : ∀ c ∈ cs, numeralChar c = true := by
  unfold readFraction at is
  split at is
  · split at is
    · cases is
    · obtain ⟨e, exponent, -⟩ := Option.map_eq_some_iff.mp is
      have after := span_within (readExponent_within exponent)
      simpa [show numeralChar '.' = true from rfl] using after
  · obtain ⟨e, exponent, -⟩ := Option.map_eq_some_iff.mp is
    exact readExponent_within exponent

theorem readUnsigned_lexical {negative : Bool} {cs : List Char} {d : Decimal}
    (read : readUnsigned negative cs = some d) :
    (∃ c, cs.head? = some c ∧ c.isDigit = true) ∧ ∀ c ∈ cs, numeralChar c = true := by
  unfold readUnsigned at read
  simp only at read
  split at read
  · cases read
  next whole =>
    obtain ⟨fraction, is, -⟩ := Option.map_eq_some_iff.mp read
    constructor
    · cases cs with
      | nil => exact absurd (.inl rfl) whole
      | cons c cs =>
        refine ⟨c, rfl, ?_⟩
        by_contra not_
        exact whole (.inl (List.takeWhile_cons_of_neg not_))
    · exact span_within (readFraction_within is)

/-- A numeral by the grammar looks like one. -/
theorem readDecimal_lexical {numeral : String} {d : Decimal}
    (read : readDecimal numeral = some d) : Lexical numeral.toList := by
  unfold readDecimal at read
  split at read
  next cs is =>
    rw [is]
    obtain ⟨-, within⟩ := readUnsigned_lexical read
    constructor
    · exact ⟨'-', rfl, .inl rfl⟩
    · simpa [show numeralChar '-' = true from rfl] using within
  · obtain ⟨⟨c, head, isDigit⟩, within⟩ := readUnsigned_lexical read
    exact ⟨⟨c, head, .inr isDigit⟩, within⟩

theorem toDigits_within (n : ℕ) : ∀ c ∈ Nat.toDigits 10 n, c.isDigit = true :=
  fun _ mem => Nat.isDigit_of_mem_toDigits (by decide) (by decide) mem

/-- The digits of a positive number are not all zero. -/
theorem toDigits_nonzero {n : ℕ} (positive : 0 < n) : ∃ c ∈ Nat.toDigits 10 n, c ≠ '0' := by
  induction n using Nat.strong_induction_on with
  | _ n ih =>
    by_cases small : n < 10
    · rw [Nat.toDigits_of_lt_base small]
      refine ⟨_, List.mem_singleton_self _, ?_⟩
      interval_cases n <;> decide
    · obtain ⟨c, mem, nonzero⟩ := ih (n / 10) (by omega) (by omega)
      rw [Nat.toDigits_of_base_le (by decide) (by omega)]
      exact ⟨c, List.mem_append_left _ mem, nonzero⟩

theorem stripZeros_sub (digits : List Char) : ∀ c ∈ stripZeros digits, c ∈ digits := by
  intro c mem
  have mem' := List.mem_reverse.mp mem
  exact List.mem_reverse.mp ((List.dropWhile_sublist _).mem mem')

theorem stripZeros_ne_nil {digits : List Char} (nonzero : ∃ c ∈ digits, c ≠ '0') :
    stripZeros digits ≠ [] := by
  intro nil
  obtain ⟨c, mem, other⟩ := nonzero
  have all := List.dropWhile_eq_nil_iff.mp (List.reverse_eq_nil_iff.mp nil)
  exact other (by simpa using all c (List.mem_reverse.mpr mem))

theorem layout_lexical {digits : List Char} (some_ : digits ≠ [])
    (isDigit : ∀ c ∈ digits, c.isDigit = true) (n : ℤ) :
    (∃ c, (layout digits n).head? = some c ∧ c.isDigit = true) ∧
      ∀ c ∈ layout digits n, numeralChar c = true := by
  obtain ⟨d, ds, rfl⟩ := List.exists_cons_of_ne_nil some_
  have first : d.isDigit = true := isDigit d List.mem_cons_self
  have within : ∀ c ∈ d :: ds, numeralChar c = true := fun c mem => numeralChar_digit (isDigit c mem)
  have zero : numeralChar '0' = true := rfl
  unfold layout
  split
  · constructor
    · exact ⟨d, rfl, first⟩
    · intro c mem
      rcases List.mem_append.mp mem with inside | zeros
      · exact within c inside
      · rw [List.eq_of_mem_replicate zeros]
        rfl
  · split
    next some_ =>
      constructor
      · obtain ⟨k, is⟩ : ∃ k, n.toNat = k + 1 := ⟨n.toNat - 1, by omega⟩
        rw [is]
        exact ⟨d, rfl, first⟩
      · intro c mem
        rcases List.mem_append.mp mem with inside | rest
        · exact within c (List.mem_of_mem_take inside)
        · rcases List.mem_cons.mp rest with rfl | inside
          · rfl
          · exact within c (List.mem_of_mem_drop inside)
    · split
      · constructor
        · exact ⟨'0', rfl, rfl⟩
        · intro c mem
          rcases List.mem_cons.mp mem with rfl | rest
          · rfl
          · rcases List.mem_cons.mp rest with rfl | rest
            · rfl
            · rcases List.mem_append.mp rest with zeros | inside
              · rw [List.eq_of_mem_replicate zeros]
                rfl
              · exact within c inside
      · constructor
        · exact ⟨d, rfl, first⟩
        · intro c mem
          have exponent : ∀ c ∈ 'e' :: (if n - 1 < 0 then '-' else '+') ::
              Nat.toDigits 10 (n - 1).natAbs, numeralChar c = true := by
            intro c mem
            rcases List.mem_cons.mp mem with rfl | rest
            · rfl
            · rcases List.mem_cons.mp rest with rfl | inside
              · split
                · rfl
                · rfl
              · exact numeralChar_digit (toDigits_within _ c inside)
          rcases List.mem_append.mp mem with front | back
          · rcases List.mem_append.mp front with lead | fraction
            · exact within c (List.mem_of_mem_take lead)
            · split at fraction
              · cases fraction
              · rcases List.mem_cons.mp fraction with rfl | inside
                · rfl
                · exact within c (List.mem_of_mem_tail inside)
          · exact exponent c back

theorem decimalAt_pos {m : ℕ} {q p : ℤ} {found : ℕ × ℤ} (some_ : m ≠ 0)
    (is : decimalAt m q p = some found) : 0 < found.1 := by
  have zero : toDouble ⟨false, 0, p⟩ ≠ .finite false m q := by
    intro same
    rw [toDouble, if_pos rfl] at same
    injection same with _ none_ _
    exact some_ none_.symm
  have good_pos {s : ℕ} (good : toDouble ⟨false, s, p⟩ = .finite false m q) : 0 < s := by
    rcases Nat.eq_zero_or_pos s with rfl | positive
    · exact absurd good zero
    · exact positive
  unfold decimalAt at is
  simp only at is
  split at is
  next good =>
    have positive := good_pos good
    split at is
    · cases Option.some.inj is
      unfold roundHalfEven
      simp only
      split
      · exact positive
      · split
        · omega
        · split
          · exact positive
          · omega
    · cases Option.some.inj is
      exact positive
  · split at is
    · cases Option.some.inj is
      exact Nat.succ_pos _
    · cases is

theorem shortest_pos {m : ℕ} {q : ℤ} (some_ : m ≠ 0) : 0 < (shortest m q).1 := by
  unfold shortest
  simp only
  generalize found : (List.range 17).findSome? _ = answer
  cases answer with
  | none => exact Nat.pos_of_ne_zero some_
  | some answer =>
    obtain ⟨k, -, is⟩ := List.exists_of_findSome?_eq_some found
    exact decimalAt_pos some_ is

/-- A finite double is printed as a numeral. -/
theorem toText_lexical (negative : Bool) (m : ℕ) (q : ℤ) :
    Lexical (Double.finite negative m q).toText.toList := by
  rw [Double.toText]
  by_cases some_ : m = 0
  · rw [if_pos some_]
    exact ⟨⟨'0', rfl, .inr rfl⟩, List.forall_iff_forall_mem.mp (by decide)⟩
  · rw [if_neg some_, String.toList_ofList]
    have digits : ∀ c ∈ stripZeros (Nat.toDigits 10 (shortest m q).1), c.isDigit = true :=
      fun c mem => toDigits_within _ c (stripZeros_sub _ c mem)
    obtain ⟨⟨c, head, isDigit⟩, within⟩ := layout_lexical
      (stripZeros_ne_nil (toDigits_nonzero (shortest_pos (q := q) some_))) digits
      ((Nat.toDigits 10 (shortest m q).1).length + (shortest m q).2)
    cases negative with
    | true =>
      constructor
      · exact ⟨'-', rfl, .inl rfl⟩
      · intro c mem
        rcases List.mem_cons.mp mem with rfl | inside
        · rfl
        · exact within c inside
    | false => exact ⟨⟨c, head, .inr isDigit⟩, within⟩

end Lexical

end OpenWrapper.Doubles
