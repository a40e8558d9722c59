import OpenWrapper.AmountTexts
import OpenWrapper.ReconcilerStore

/-! # The order of timestamps as texts

The fraction of a second is written without its last zeros, so a text ends in
its zone letter where a later one may go on with digits. The letter is greater
than the point and every digit: of two texts of one second, the one whose
fraction begins the other's comes last though its instant is the earlier. -/

set_option autoImplicit false

namespace OpenWrapper.InstantTexts
open OpenWrapper.Ids OpenWrapper.Doubles OpenWrapper.AmountTexts OpenWrapper.SignatureVerdicts
open OpenWrapper.ReconcilerStore

/-- The nine digits of a count of nanoseconds. -/
def nineDigits (n : ℕ) : List Char :=
  [100000000, 10000000, 1000000, 100000, 10000, 1000, 100, 10, 1].map
    fun place => Char.ofNat (n / place % 10 + 48)

/-- The digits of the fraction that are written. -/
def fraction (t : Instant) : List Char :=
  ((nineDigits t.subsecond).reverse.dropWhile (· == '0')).reverse

/-- The fraction of the first is the beginning of that of the second. -/
structure Misordered (s t : Instant) : Prop where
  seconds : s.seconds = t.seconds
  begins : fraction s <+: fraction t
  apart : fraction s ≠ fraction t

section Digits

variable {n m : ℕ}

theorem digitChar_value : ∀ d < 10, (Char.ofNat (d + 48)).toNat - 48 = d := by decide

theorem digitChar_digit : ∀ d < 10, (Char.ofNat (d + 48)).isDigit = true := by decide

theorem nineDigits_length (n : ℕ) : (nineDigits n).length = 9 := rfl

theorem nineDigits_digits (n : ℕ) : ∀ c ∈ nineDigits n, c.isDigit = true := by
  intro c mem
  obtain ⟨place, -, rfl⟩ := List.mem_map.mp mem
  exact digitChar_digit _ (Nat.mod_lt _ (by decide))

theorem digitsValue_nineDigits (small : n < 1000000000) : digitsValue (nineDigits n) = n := by
  have value (place : ℕ) : (Char.ofNat (n / place % 10 + 48)).toNat - 48 = n / place % 10 :=
    digitChar_value _ (Nat.mod_lt _ (by decide))
  simp only [digitsValue, nineDigits, List.map_cons, List.map_nil, List.foldl_cons, List.foldl_nil,
    value]
  omega

theorem digitsValue_appended (as bs : List Char) :
    digitsValue (as ++ bs) = digitsValue as * 10 ^ bs.length + digitsValue bs := by
  induction as with
  | nil => simp [digitsValue]
  | cons a as ih =>
    rw [List.cons_append, digitsValue_cons, ih, digitsValue_cons, List.length_append, Nat.pow_add,
      Nat.add_mul, Nat.mul_assoc, Nat.add_assoc]

/-- Of two texts of digits of one length, the first digit apart decides. -/
theorem digitsValue_split (cs : List Char) {as bs : List Char} {x y : Char}
    (lengths : as.length = bs.length)
    (digits : ∀ c ∈ as, c.isDigit = true) (x_ : x.isDigit = true) (less : x < y) :
    digitsValue (cs ++ x :: as) < digitsValue (cs ++ y :: bs) := by
  have below := digitsValue_lt digits
  have step : x.toNat - 48 + 1 ≤ y.toNat - 48 := by
    simp only [Char.isDigit, Bool.and_eq_true, decide_eq_true_eq] at x_
    have low : 48 ≤ x.toNat := x_.1
    have high : x.toNat < y.toNat := less
    omega
  have scaled := Nat.mul_le_mul_right (10 ^ bs.length) step
  rw [digitsValue_appended, digitsValue_appended, digitsValue_cons, digitsValue_cons,
    List.length_cons, List.length_cons, lengths]
  rw [lengths] at below
  rw [Nat.add_mul, Nat.one_mul] at scaled
  omega

end Digits

section Fractions

variable {s t : Instant}

theorem subsecond_lt (t : Instant) : t.subsecond < 1000000000 := by
  unfold Instant.subsecond
  omega

theorem lt_iff (s t : Instant) : s.nanoseconds < t.nanoseconds ↔
    s.seconds < t.seconds ∨ (s.seconds = t.seconds ∧ s.subsecond < t.subsecond) := by
  unfold Instant.seconds Instant.subsecond
  omega

theorem rfc3339Tail_eq (t : Instant) :
    t.rfc3339Tail = (if (fraction t).isEmpty then [] else '.' :: fraction t) ++ ['Z'] := rfl

/-- The zeros that are not written. -/
theorem nineDigits_eq (t : Instant) : ∃ k, nineDigits t.subsecond =
    fraction t ++ List.replicate k '0' := by
  have split := List.rdropWhile_append_rtakeWhile (p := (· == '0')) (l := nineDigits t.subsecond)
  refine ⟨((nineDigits t.subsecond).rtakeWhile (· == '0')).length, ?_⟩
  have zeros : (nineDigits t.subsecond).rtakeWhile (· == '0') =
      List.replicate ((nineDigits t.subsecond).rtakeWhile (· == '0')).length '0' := by
    rw [List.eq_replicate_iff]
    exact ⟨rfl, fun c mem => by simpa using List.mem_rtakeWhile_imp mem⟩
  rw [← zeros]
  exact split.symm

theorem fraction_digits (t : Instant) : ∀ c ∈ fraction t, c.isDigit = true := by
  obtain ⟨k, is⟩ := nineDigits_eq t
  intro c mem
  apply nineDigits_digits t.subsecond c
  rw [is]
  exact List.mem_append_left _ mem

theorem fraction_injective (same : fraction s = fraction t) : s.subsecond = t.subsecond := by
  obtain ⟨j, first⟩ := nineDigits_eq s
  obtain ⟨k, second⟩ := nineDigits_eq t
  have lengths := (nineDigits_length s.subsecond).trans (nineDigits_length t.subsecond).symm
  rw [first, second, List.length_append, List.length_append, List.length_replicate,
    List.length_replicate, same] at lengths
  have zeros : j = k := by omega
  rw [← digitsValue_nineDigits (subsecond_lt s), ← digitsValue_nineDigits (subsecond_lt t), first,
    second, same, zeros]

theorem digit_before_zone {c : Char} (digit : c.isDigit = true) : c < 'Z' := by
  simp only [Char.isDigit, Bool.and_eq_true, decide_eq_true_eq] at digit
  have high : c.toNat ≤ 57 := digit.2
  have zone : ('Z' : Char).toNat = 90 := rfl
  exact Char.lt_def.mpr (UInt32.lt_iff_toNat_lt.mpr (show c.toNat < 'Z'.toNat by omega))

/-- The misordered instant is the earlier. -/
theorem Misordered.lt (misordered : Misordered s t) : s.nanoseconds < t.nanoseconds := by
  obtain ⟨rest, more⟩ := misordered.begins
  obtain ⟨j, first⟩ := nineDigits_eq s
  obtain ⟨k, second⟩ := nineDigits_eq t
  have lengths := (nineDigits_length s.subsecond).trans (nineDigits_length t.subsecond).symm
  rw [first, second, ← more] at lengths
  simp only [List.length_append, List.length_replicate] at lengths
  have value := digitsValue_nineDigits (subsecond_lt s)
  have value' := digitsValue_nineDigits (subsecond_lt t)
  have zeros : digitsValue (List.replicate j '0') = 0 := by
    simpa [digitsValue] using digitsValue_zeros j []
  rw [first, digitsValue_appended, zeros, List.length_replicate] at value
  rw [second, ← more, List.append_assoc, digitsValue_appended, List.length_append,
    List.length_replicate] at value'
  have exponents : j = rest.length + k := by omega
  rw [exponents] at value
  have apart : s.subsecond ≠ t.subsecond := by
    intro same
    apply misordered.apart
    unfold fraction
    rw [same]
  rw [lt_iff]
  exact .inr ⟨misordered.seconds, by omega⟩

/-- Its text comes last. -/
theorem Misordered.text (misordered : Misordered s t) : t.rfc3339Before s = true := by
  obtain ⟨rest, more⟩ := misordered.begins
  have beyond : rest ≠ [] := by
    rintro rfl
    rw [List.append_nil] at more
    exact misordered.apart more
  obtain ⟨y, rest', rfl⟩ := List.exists_cons_of_ne_nil beyond
  have digit : y.isDigit = true := by
    apply fraction_digits t
    rw [← more]
    exact List.mem_append_right _ List.mem_cons_self
  rw [before_iff]
  apply Prod.Lex.toLex_lt_toLex.mpr
  refine .inr ⟨misordered.seconds.symm, ?_⟩
  show t.rfc3339Tail < s.rfc3339Tail
  rw [rfc3339Tail_eq, rfc3339Tail_eq, ← more]
  by_cases whole : fraction s = []
  · rw [whole]
    exact List.cons_lt_cons_iff.mpr (.inl (by decide))
  · have empty : (fraction s).isEmpty = false := by simpa using whole
    have empty' : (fraction s ++ y :: rest').isEmpty = false := by simp
    rw [empty, empty']
    simp only [Bool.false_eq_true, if_false, List.cons_append, List.append_assoc]
    apply List.cons_lt_cons_iff.mpr
    refine .inr ⟨rfl, List.append_left_lt ?_⟩
    exact List.cons_lt_cons_iff.mpr (.inl (digit_before_zone digit))

/-- Neither of two lists begins the other: they part at an item. -/
theorem parting : ∀ {as bs : List Char}, ¬ as <+: bs → ¬ bs <+: as →
    ∃ cs x as' y bs', as = cs ++ x :: as' ∧ bs = cs ++ y :: bs' ∧ x ≠ y
  | [], bs, first, _ => absurd (List.nil_prefix) first
  | a :: as, [], _, second => absurd (List.nil_prefix) second
  | a :: as, b :: bs, first, second => by
    by_cases same : a = b
    · subst same
      obtain ⟨cs, x, as', y, bs', rfl, rfl, apart⟩ :=
        parting (fun pre => first (List.cons_prefix_cons.mpr ⟨rfl, pre⟩))
          (fun pre => second (List.cons_prefix_cons.mpr ⟨rfl, pre⟩))
      exact ⟨a :: cs, x, as', y, bs', rfl, rfl, apart⟩
    · exact ⟨[], a, as, b, bs, rfl, rfl, same⟩

/-- Where the fractions part, text and time go the same way. -/
theorem parted {cs as bs : List Char} {x y : Char} (seconds : s.seconds = t.seconds)
    (first : fraction s = cs ++ x :: as) (second : fraction t = cs ++ y :: bs) (less : x < y) :
    s.rfc3339Before t = true ∧ s.nanoseconds < t.nanoseconds := by
  constructor
  · rw [before_iff]
    apply Prod.Lex.toLex_lt_toLex.mpr
    refine .inr ⟨seconds, ?_⟩
    show s.rfc3339Tail < t.rfc3339Tail
    rw [rfc3339Tail_eq, rfc3339Tail_eq, first, second]
    have empty (z : Char) (rest : List Char) : (cs ++ z :: rest).isEmpty = false := by simp
    rw [empty, empty]
    simp only [Bool.false_eq_true, if_false, List.cons_append, List.append_assoc]
    apply List.cons_lt_cons_iff.mpr
    exact .inr ⟨rfl, List.append_left_lt (List.cons_lt_cons_iff.mpr (.inl less))⟩
  · obtain ⟨j, whole⟩ := nineDigits_eq s
    obtain ⟨k, whole'⟩ := nineDigits_eq t
    have digits := nineDigits_digits s.subsecond
    have lengths := (nineDigits_length s.subsecond).trans (nineDigits_length t.subsecond).symm
    rw [whole, first] at digits
    rw [whole, whole', first, second] at lengths
    simp only [List.length_append, List.length_cons, List.length_replicate] at lengths
    have padded : (as ++ List.replicate j '0').length = (bs ++ List.replicate k '0').length := by
      simp only [List.length_append, List.length_replicate]
      omega
    have values := digitsValue_split cs padded
      (fun c mem => digits c (by
        rw [List.append_assoc]
        exact List.mem_append_right _ (List.mem_cons_of_mem _ mem)))
      (digits x (List.mem_append_left _ (List.mem_append_right _ List.mem_cons_self))) less
    rw [← List.cons_append, ← List.append_assoc, ← first, ← whole, ← List.cons_append,
      ← List.append_assoc, ← second, ← whole', digitsValue_nineDigits (subsecond_lt s),
      digitsValue_nineDigits (subsecond_lt t)] at values
    rw [lt_iff]
    exact .inr ⟨seconds, values⟩

theorem before_asymm (before : s.rfc3339Before t = true) : t.rfc3339Before s = false := by
  rw [not_before_iff]
  exact ((before_iff s t).mp before).le

/-- The order of the texts is that of time, but for the misordered. -/
theorem before_iff_lt (apart : ¬ Misordered s t) (apart' : ¬ Misordered t s) :
    s.rfc3339Before t = true ↔ s.nanoseconds < t.nanoseconds := by
  by_cases seconds : s.seconds = t.seconds
  · by_cases same : fraction s = fraction t
    · have tail : s.rfc3339Tail = t.rfc3339Tail := by rw [rfc3339Tail_eq, rfc3339Tail_eq, same]
      have sub := fraction_injective same
      rw [before_iff, lt_iff, rank, rank, seconds, tail]
      apply iff_of_false (lt_irrefl _)
      omega
    · have first : ¬ fraction s <+: fraction t := fun pre => apart ⟨seconds, pre, same⟩
      have second : ¬ fraction t <+: fraction s :=
        fun pre => apart' ⟨seconds.symm, pre, Ne.symm same⟩
      obtain ⟨cs, x, as, y, bs, is, is', parts⟩ := parting first second
      rcases lt_or_gt_of_ne parts with less | more
      · exact iff_of_true (parted seconds is is' less).1 (parted seconds is is' less).2
      · have after := parted seconds.symm is' is more
        refine iff_of_false ?_ (by have := after.2; omega)
        rw [before_asymm after.1]
        decide
  · rw [before_iff, lt_iff, rank, rank, Prod.Lex.toLex_lt_toLex]
    simp only [seconds, false_and, or_false]

theorem misordered_iff : (s.rfc3339Before t = true ↔ s.nanoseconds < t.nanoseconds) ↔
    ¬ Misordered s t ∧ ¬ Misordered t s := by
  constructor
  · intro agree
    constructor
    · intro misordered
      have late := before_asymm misordered.text
      rw [agree.mpr misordered.lt] at late
      cases late
    · intro misordered
      have early := agree.mp misordered.text
      have late := misordered.lt
      omega
  · rintro ⟨apart, apart'⟩
    exact before_iff_lt apart apart'

end Fractions

end OpenWrapper.InstantTexts
