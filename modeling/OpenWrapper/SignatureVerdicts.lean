import OpenWrapper.OutboundSignatures

/-! # One verdict on a signature

The four verifiers read one timestamp and accept the same signatures where the
header is plain: nothing in it is a blank to some of them only, its last
timestamp is a safe integer and not zero, and a signature is in lowercase. -/

set_option autoImplicit false

namespace OpenWrapper.SignatureVerdicts
open OpenWrapper.Doubles OpenWrapper.Hexadecimal OpenWrapper.Ids OpenWrapper.MachineIntegers
open OpenWrapper.OutboundSignatures OpenWrapper.Pieces OpenWrapper.SafeIntegers

section Scanning

variable {τ : Type} {fields fields' : List Char → Option (List Char × List Char)}
  {parse : List Char → Option τ} {items : List (List Char)}

/-- The values a key has, in order. -/
def values (fields : List Char → Option (List Char × List Char)) (key : List Char)
    (items : List (List Char)) : List (List Char) :=
  ((items.filterMap fields).filter fun sides => sides.1 == key).map Prod.snd

theorem values_cons_none {item : List Char} (key : List Char) (skipped : fields item = none) :
    values fields key (item :: items) = values fields key items := by
  simp [values, skipped]

theorem values_cons_some {item key' value : List Char} (key : List Char)
    (read : fields item = some (key', value)) : values fields key (item :: items) =
      if key' = key then value :: values fields key items else values fields key items := by
  by_cases same : key' = key <;> simp [values, read, same]

theorem foldl_step (found : Found τ) : items.foldl (step fields parse) found =
    ⟨(((values fields ['t'] items).filterMap parse).getLast?).or found.timestamp,
      found.signatures ++ values fields ['v', '1'] items⟩ := by
  induction items generalizing found with
  | nil => simp [values]
  | cons item rest ih =>
    rw [List.foldl_cons, ih]
    unfold step
    cases read : fields item with
    | none => simp [values_cons_none _ read]
    | some sides =>
      obtain ⟨key, value⟩ := sides
      simp only [values_cons_some _ read]
      by_cases time : key = ['t']
      · rw [if_pos time, if_pos time, if_neg (by simp [time])]
        cases parsed : parse value with
        | none => simp [parsed]
        | some n =>
          simp only [List.filterMap_cons, parsed, List.getLast?_cons]
          cases ((values fields ['t'] rest).filterMap parse).getLast? <;> rfl
      · rw [if_neg time, if_neg time]
        by_cases signature : key = ['v', '1'] <;> simp [signature]

/-- The last timestamp that can be read, and every signature. -/
theorem scan_eq : scan fields parse items =
    ⟨((values fields ['t'] items).filterMap parse).getLast?, values fields ['v', '1'] items⟩ := by
  rw [scan, foldl_step]
  simp

theorem values_congr {key : List Char} (same : ∀ item ∈ items, fields item = fields' item) :
    values fields key items = values fields' key items := by
  unfold values
  rw [List.filterMap_congr same]

end Scanning

section Blanks

/-- The characters that some of the four trim and others do not. -/
def disputed (c : Char) : Bool :=
  !(isWhitespace c == JavaScript.isSpace c && isWhitespace c == Php.isBlank c)

variable {item : List Char}

def Undisputed (s : List Char) : Prop := ∀ c ∈ s, disputed c = false

theorem undisputed_spaces {s : List Char} (plain : Undisputed s) :
    ∀ c ∈ s, isWhitespace c = JavaScript.isSpace c ∧ isWhitespace c = Php.isBlank c := by
  intro c mem
  have is := plain c mem
  simpa [disputed] using is

theorem splitOnce_sub {s a b : List Char} {sep : Char} (split : splitOnce sep s = some (a, b)) :
    (∀ c ∈ a, c ∈ s) ∧ ∀ c ∈ b, c ∈ s := by
  obtain ⟨rfl, -⟩ := splitOnce_eq_some.mp split
  constructor
  · intro c mem
    simp [mem]
  · intro c mem
    simp [mem]

theorem trimmedSides_congr {p q : Char → Bool} (same : ∀ c ∈ item, p c = q c) :
    trimmedSides p item = trimmedSides q item := by
  unfold trimmedSides
  cases split : splitOnce '=' item with
  | none => rfl
  | some sides =>
    obtain ⟨inKey, inValue⟩ := splitOnce_sub split
    simp only [Option.map_some]
    rw [trimBy_congr fun c mem => same c (inKey c mem),
      trimBy_congr fun c mem => same c (inValue c mem)]

/-- The item may have been trimmed before. -/
theorem trimmedSides_trimBy {p : Char → Bool} (kept : p '=' = false) :
    trimmedSides p (trimBy p item) = trimmedSides p item := by
  unfold trimmedSides
  cases split : splitOnce '=' item with
  | none =>
    have absent : '=' ∉ trimBy p item :=
      fun mem => splitOnce_eq_none.mp split (mem_of_mem_trimBy mem)
    rw [splitOnce_eq_none.mpr absent]
  | some sides =>
    obtain ⟨key, value⟩ := sides
    obtain ⟨rfl, first⟩ := splitOnce_eq_some.mp split
    have first' : '=' ∉ key.dropWhile p := fun mem => first (mem_of_mem_dropWhile mem)
    rw [trimBy_append_cons kept, splitOnce_append first']
    simp only [Option.map_some, trimBy_dropWhile, trimBy_rdropWhile]

theorem php_fields (plain : Undisputed item) : Php.fields item = Gateway.fields item := by
  rw [Php.fields, trimmedSides_trimBy (by decide), Gateway.fields]
  exact trimmedSides_congr fun c mem => (undisputed_spaces plain c mem).2.symm

theorem typeScript_fields (plain : Undisputed item) : TypeScript.fields item =
    (Gateway.fields item).filter fun sides => !sides.2.contains '=' := by
  have same : Gateway.fields item = trimmedSides JavaScript.isSpace item :=
    trimmedSides_congr fun c mem => (undisputed_spaces plain c mem).1
  rw [same, trimmedSides]
  cases split : splitOnce '=' item with
  | none =>
    have none_ : ∀ key value, item.splitOn '=' ≠ [key, value] := by
      intro key value pair
      rw [(splitOn_pair.mp pair).1] at split
      cases split
    unfold TypeScript.fields
    split
    next key value pair => exact absurd pair (none_ key value)
    · rfl
  | some sides =>
    obtain ⟨key, value⟩ := sides
    by_cases again : '=' ∈ value
    · have none_ : ∀ key' value', item.splitOn '=' ≠ [key', value'] := by
        intro key' value' pair
        obtain ⟨split', absent⟩ := splitOn_pair.mp pair
        rw [split] at split'
        cases split'
        exact absent again
      have inside : '=' ∈ trimBy JavaScript.isSpace value := by
        obtain ⟨x, y, rfl⟩ := List.append_of_mem again
        rw [trimBy_append_cons (by decide)]
        simp
      unfold TypeScript.fields
      split
      next key' value' pair => exact absurd pair (none_ key' value')
      · simp [Option.filter_some, inside]
    · have outside : '=' ∉ trimBy JavaScript.isSpace value :=
        fun mem => again (mem_of_mem_trimBy mem)
      rw [TypeScript.fields, splitOn_pair.mpr ⟨split, again⟩]
      simp [Option.filter_some, outside]

end Blanks

section Timestamps

/-- A sign and digits. -/
structure Numeral where
  negative : Bool
  digits : List Char
  some_ : digits ≠ []
  within : ∀ c ∈ digits, c.isDigit = true

namespace Numeral

def value (i : Numeral) : ℤ := if i.negative then -(digitsValue i.digits : ℤ) else digitsValue i.digits

/-- A plus may be left out. -/
def Writes (i : Numeral) (text : List Char) : Prop :=
  text = i.digits ∧ i.negative = false ∨ text = '+' :: i.digits ∧ i.negative = false ∨
    text = '-' :: i.digits ∧ i.negative = true

variable {i : Numeral} {text : List Char}

theorem Writes.chars (writes : i.Writes text) :
    ∀ c ∈ text, c.isDigit = true ∨ c = '+' ∨ c = '-' := by
  intro c mem
  rcases writes with ⟨is, -⟩ | ⟨is, -⟩ | ⟨is, -⟩
  · rw [is] at mem
    exact .inl (i.within c mem)
  · rw [is] at mem
    rcases List.mem_cons.mp mem with rfl | inner
    · simp
    · exact .inl (i.within c inner)
  · rw [is] at mem
    rcases List.mem_cons.mp mem with rfl | inner
    · simp
    · exact .inl (i.within c inner)

/-- No blank has the code of a digit or a sign. -/
theorem Writes.solid (writes : i.Writes text) {blank : Char → Bool}
    (low : ∀ c, blank c = true → c.toNat ≤ 32 ∨ 58 ≤ c.toNat) : ∀ c ∈ text, blank c = false := by
  intro c mem
  by_contra is
  have outside := low c (by simpa using is)
  rcases writes.chars c mem with digit | rfl | rfl
  · have range : 48 ≤ c.toNat ∧ c.toNat ≤ 57 := by
      simpa [Char.isDigit, UInt32.le_iff_toNat_le] using digit
    omega
  · revert outside
    decide
  · revert outside
    decide

theorem Writes.withSign (writes : i.Writes text) {read : Bool → List Char → Option ℤ} {n : ℤ}
    (digits : read i.negative i.digits = some n) : withSign read text = some n := by
  rcases writes with ⟨is, unsigned⟩ | ⟨is, unsigned⟩ | ⟨is, signed⟩
  · rw [unsigned] at digits
    rw [is]
    unfold OutboundSignatures.withSign
    split
    next rest starts =>
      have bad := i.within '-' (by simp [starts])
      cases bad
    next rest starts =>
      have bad := i.within '+' (by simp [starts])
      cases bad
    · exact digits
  · rw [unsigned] at digits
    rw [is]
    exact digits
  · rw [signed] at digits
    rw [is]
    exact digits

end Numeral

variable {text cs : List Char} {n : ℤ} {i : Numeral}

theorem isDigit_iff (c : Char) : ('0' ≤ c ∧ c ≤ '9') ↔ c.isDigit = true := by
  simp [Char.isDigit, Char.le_def]

theorem parseDigits_eq_some {n m : ℕ} (read : parseDigits n cs = some m) :
    (∀ c ∈ cs, c.isDigit = true) ∧ m = cs.foldl (fun n c => 10 * n + (c.toNat - 48)) n := by
  induction cs generalizing n with
  | nil =>
    cases read
    simp
  | cons c rest ih =>
    rw [parseDigits] at read
    by_cases digit : '0' ≤ c ∧ c ≤ '9'
    · rw [if_pos digit] at read
      obtain ⟨within, is⟩ := ih read
      constructor
      · intro d mem
        rcases List.mem_cons.mp mem with rfl | inner
        · exact (isDigit_iff _).mp digit
        · exact within d inner
      · rw [is, List.foldl_cons, mul_comm]
    · rw [if_neg digit] at read
      cases read

/-- What the gateway reads as a timestamp is a numeral in range. -/
theorem gateway_numeral (read : Gateway.parse text = some n) :
    ∃ i : Numeral, i.Writes text ∧ i.value = n ∧ i64.Fits n := by
  have range {m : ℤ} (is : (if -9223372036854775808 ≤ m ∧ m ≤ 9223372036854775807 then some m
      else none) = some n) : m = n ∧ i64.Fits n := by
    split at is
    next inside =>
      cases is
      exact ⟨rfl, inside.1, by simp only [i64]; omega⟩
    · cases is
  unfold Gateway.parse parseI64 at read
  rw [String.toList_ofList] at read
  split at read
  · cases read
  next rest =>
    split at read
    · cases read
    next some_ =>
      obtain ⟨m, digits, is⟩ := Option.bind_eq_some_iff.mp read
      obtain ⟨within, value⟩ := parseDigits_eq_some digits
      obtain ⟨rfl, fits⟩ := range is
      refine ⟨⟨true, rest, by simpa using some_, within⟩, .inr (.inr ⟨rfl, rfl⟩), ?_, fits⟩
      rw [value]
      rfl
  next rest =>
    split at read
    · cases read
    next some_ =>
      obtain ⟨m, digits, is⟩ := Option.bind_eq_some_iff.mp read
      obtain ⟨within, value⟩ := parseDigits_eq_some digits
      obtain ⟨rfl, fits⟩ := range is
      refine ⟨⟨false, rest, by simpa using some_, within⟩, .inr (.inl ⟨rfl, rfl⟩), ?_, fits⟩
      rw [value]
      rfl
  next some_ _ _ =>
    obtain ⟨m, digits, is⟩ := Option.bind_eq_some_iff.mp read
    obtain ⟨within, value⟩ := parseDigits_eq_some digits
    obtain ⟨rfl, fits⟩ := range is
    refine ⟨⟨false, _, some_, within⟩, .inl ⟨rfl, rfl⟩, ?_, fits⟩
    rw [value]
    rfl

theorem takeWhile_digits (within : ∀ c ∈ cs, c.isDigit = true) : cs.takeWhile Char.isDigit = cs :=
  List.takeWhile_eq_self_iff.mpr within

theorem dropWhile_digits (within : ∀ c ∈ cs, c.isDigit = true) : cs.dropWhile Char.isDigit = [] :=
  List.dropWhile_eq_nil_iff.mpr within

theorem isSpace_outside (c : Char) (space : JavaScript.isSpace c = true) :
    c.toNat ≤ 32 ∨ 58 ≤ c.toNat := by
  simp only [JavaScript.isSpace, Bool.or_eq_true, Bool.and_eq_true, decide_eq_true_eq,
    beq_iff_eq] at space
  omega

theorem isWhite_outside (c : Char) (white : DotNet.isWhite c = true) :
    c.toNat ≤ 32 ∨ 58 ≤ c.toNat := by
  simp only [DotNet.isWhite, Bool.or_eq_true, Bool.and_eq_true, decide_eq_true_eq,
    beq_iff_eq] at white
  rcases white with rfl | range
  · decide
  · omega

theorem typeScript_numeral (writes : i.Writes text) : TypeScript.parseInt text = some i.value := by
  rw [TypeScript.parseInt, dropWhile_eq_self (writes.solid isSpace_outside)]
  apply writes.withSign
  rw [TypeScript.digitsPrefix, takeWhile_digits i.within, if_neg i.some_]
  rfl

theorem php_numeral (writes : i.Writes text) (fits : i64.Fits i.value) :
    Php.parse text = some i.value := by
  have kept : Php.saturated i.value = i.value := by
    obtain ⟨low, high⟩ := fits
    simp only [i64] at low high
    unfold Php.saturated
    omega
  have solid : ∀ c ∈ text, Php.isNumericBlank c = false := writes.solid isWhite_outside
  rw [Php.parse, trimBy_eq_self solid]
  apply writes.withSign
  rw [Php.readNumber, dropWhile_digits i.within, takeWhile_digits i.within]
  simp only [i.some_, if_false]
  exact congrArg some kept

theorem dotNet_numeral (writes : i.Writes text) (fits : i64.Fits i.value) :
    DotNet.parse text = some i.value := by
  rw [DotNet.parse, dropWhile_eq_self (writes.solid isWhite_outside)]
  apply writes.withSign
  unfold DotNet.readInteger
  rw [dropWhile_digits i.within, takeWhile_digits i.within]
  have whole : i.digits ≠ [] ∧ (List.dropWhile DotNet.isWhite []).all (·.toNat == 0) = true ∧
      i64.Fits i.value := ⟨i.some_, rfl, fits⟩
  exact if_pos whole

theorem withSign_none {read : Bool → List Char → Option ℤ} (mem : '=' ∈ cs)
    (none_ : ∀ negative rest, '=' ∈ rest → read negative rest = none) : withSign read cs = none := by
  unfold withSign
  split
  next rest =>
    apply none_
    simpa using mem
  next rest =>
    apply none_
    simpa using mem
  · exact none_ _ _ mem

theorem mem_dropWhile {p : Char → Bool} {c : Char} (mem : c ∈ cs) (kept : p c = false) :
    c ∈ cs.dropWhile p := by
  rw [← List.takeWhile_append_dropWhile (p := p) (l := cs)] at mem
  rcases List.mem_append.mp mem with inside | outside
  · rw [List.mem_takeWhile_imp inside] at kept
    cases kept
  · exact outside

theorem mem_trimBy {p : Char → Bool} {c : Char} (mem : c ∈ cs) (kept : p c = false) :
    c ∈ trimBy p cs := by
  have front := mem_dropWhile mem kept
  have back := mem_dropWhile (List.mem_reverse.mpr front) kept
  exact List.mem_reverse.mpr back

theorem gateway_equals (mem : '=' ∈ text) : Gateway.parse text = none := by
  by_contra some_
  obtain ⟨n, read⟩ := Option.ne_none_iff_exists'.mp some_
  obtain ⟨i, writes, -⟩ := gateway_numeral read
  rcases writes.chars _ mem with digit | plus | minus
  · cases digit
  · cases plus
  · cases minus

theorem readExponent_equals (mem : '=' ∈ cs) : readExponent cs = none := by
  by_contra some_
  obtain ⟨e, read⟩ := Option.ne_none_iff_exists'.mp some_
  have numeral := readExponent_within read _ mem
  cases numeral

theorem php_equals (mem : '=' ∈ text) : Php.parse text = none := by
  apply withSign_none (mem_trimBy mem (by decide))
  intro negative rest mem
  have after := mem_dropWhile mem (p := Char.isDigit) (by decide)
  unfold Php.readNumber
  split
  next ends =>
    rw [ends] at after
    cases after
  next fraction starts =>
    rw [starts] at after
    have inner : '=' ∈ fraction := by simpa using after
    simp only [readExponent_equals (mem_dropWhile inner (p := Char.isDigit) (by decide))]
    split <;> rfl
  · simp only [readExponent_equals after]
    split <;> rfl

theorem dotNet_equals (mem : '=' ∈ text) : DotNet.parse text = none := by
  apply withSign_none (mem_dropWhile mem (by decide))
  intro negative rest mem
  have after := mem_dropWhile (mem_dropWhile mem (p := Char.isDigit) (by decide))
    (p := DotNet.isWhite) (by decide)
  unfold DotNet.readInteger
  apply if_neg
  rintro ⟨-, all, -⟩
  have zero := List.all_eq_true.mp all _ after
  cases zero

end Timestamps

section Signatures

variable {cs : List Char} {bytes : List UInt8}

theorem fromHex_of_decodeChars : ∀ {cs : List Char} {bytes : List UInt8},
    decodeChars cs = some bytes → TypeScript.fromHex cs = bytes
  | [], bytes, read => by
    cases read
    rfl
  | [_], _, read => by cases read
  | high :: low :: rest, bytes, read => by
    rw [decodeChars] at read
    split at read
    next h l highValue lowValue =>
      obtain ⟨tail, inner, rfl⟩ := Option.map_eq_some_iff.mp read
      simp only [TypeScript.fromHex, highValue, lowValue, fromHex_of_decodeChars inner]
    · cases read

theorem decodeChars_equals : ∀ {cs : List Char} {bytes : List UInt8},
    decodeChars cs = some bytes → '=' ∉ cs
  | [], _, _ => by simp
  | [_], _, read => by cases read
  | high :: low :: rest, bytes, read => by
    rw [decodeChars] at read
    split at read
    next h l highValue lowValue =>
      obtain ⟨tail, inner, rfl⟩ := Option.map_eq_some_iff.mp read
      intro mem
      rcases List.mem_cons.mp mem with rfl | later
      · cases highValue
      · rcases List.mem_cons.mp later with rfl | last
        · cases lowValue
        · exact decodeChars_equals inner last
    · cases read

end Signatures

section Headers

/-- The values of a key that have no `=` in them; the others are of no use. -/
def plainValues (header : String) (key : List Char) : List (List Char) :=
  (values Gateway.fields key (header.toList.splitOn ',')).filter fun value => !value.contains '='

/-- A header that the four read alike. -/
structure Plain (header : String) : Prop where
  blanks : Undisputed header.toList
  timestamp : ∀ value, (plainValues header ['t']).getLast? = some value →
    ∃ n, Gateway.parse value = some n ∧ n ≠ 0 ∧ n.natAbs < 2 ^ 53
  signatures : ∀ value ∈ plainValues header ['v', '1'],
    (TypeScript.fromHex value).length = 32 → value = encodeChars (TypeScript.fromHex value)

variable {header : String} {τ : Type}

theorem undisputed_items (blanks : Undisputed header.toList) :
    ∀ item ∈ header.toList.splitOn ',', Undisputed item :=
  fun _ listed c mem => blanks c (mem_of_mem_splitOn listed mem)

theorem values_filter {fields : List Char → Option (List Char × List Char)}
    (keep : List Char → Bool) (key : List Char) (items : List (List Char)) :
    values (fun item => (fields item).filter fun sides => keep sides.2) key items =
      (values fields key items).filter keep := by
  induction items with
  | nil => rfl
  | cons item rest ih =>
    cases read : fields item with
    | none =>
      rw [values_cons_none key (by simp [read]), values_cons_none key read, ih]
    | some sides =>
      obtain ⟨key', value⟩ := sides
      rw [values_cons_some key read]
      cases kept : keep value with
      | true =>
        have read' : (fields item).filter (fun sides => keep sides.2) = some (key', value) := by
          simp [read, Option.filter_some, kept]
        rw [values_cons_some key read', ih]
        split
        · simp [kept]
        · rfl
      | false =>
        rw [values_cons_none key (by simp [read, Option.filter_some, kept]), ih]
        split
        · simp [kept]
        · rfl

theorem typeScript_values (blanks : Undisputed header.toList) (key : List Char) :
    values TypeScript.fields key (header.toList.splitOn ',') = plainValues header key := by
  rw [values_congr fun item listed => typeScript_fields (undisputed_items blanks item listed)]
  exact values_filter (fun value => !value.contains '=') key _

theorem php_values (blanks : Undisputed header.toList) (key : List Char) :
    values Php.fields key (header.toList.splitOn ',') =
      values Gateway.fields key (header.toList.splitOn ',') :=
  values_congr fun item listed => php_fields (undisputed_items blanks item listed)

theorem dotNet_values (key : List Char) : values DotNet.fields key (DotNet.items header.toList) =
    values Gateway.fields key (header.toList.splitOn ',') := by
  unfold DotNet.items
  generalize header.toList.splitOn ',' = items
  induction items with
  | nil => rfl
  | cons item rest ih =>
    have same : DotNet.fields (trimBy isWhitespace item) = Gateway.fields item :=
      trimmedSides_trimBy (by decide)
    rw [List.map_cons, List.filter_cons]
    split
    · cases read : Gateway.fields item with
      | none => rw [values_cons_none key read, values_cons_none key (same.trans read), ih]
      | some sides =>
        obtain ⟨key', value⟩ := sides
        rw [values_cons_some key read, values_cons_some key (same.trans read), ih]
    next removed =>
      have empty : trimBy isWhitespace item = [] := by simpa using removed
      have read : Gateway.fields item = none := by
        rw [← same, empty]
        rfl
      rw [values_cons_none key read, ih]

/-- A reader that fails at `=` finds the last of the plain values, if it can
read it. -/
theorem last_read {parse : List Char → Option τ} (equals : ∀ value, '=' ∈ value → parse value = none)
    {key value : List Char} (last : (plainValues header key).getLast? = some value) {n : τ}
    (read : parse value = some n) :
    ((values Gateway.fields key (header.toList.splitOn ',')).filterMap parse).getLast? = some n := by
  have skipped : (values Gateway.fields key (header.toList.splitOn ',')).filterMap parse =
      (plainValues header key).filterMap parse := by
    unfold plainValues
    generalize values Gateway.fields key _ = all
    induction all with
    | nil => rfl
    | cons first rest ih =>
      by_cases mem : '=' ∈ first
      · simp [mem, equals first mem, ih]
      · simp [mem, List.filterMap_cons, ih]
  obtain ⟨before, is⟩ := List.getLast?_eq_some_iff.mp last
  rw [skipped, is, List.filterMap_append]
  simp [read]

theorem none_read {parse : List Char → Option τ} (equals : ∀ value, '=' ∈ value → parse value = none)
    {key : List Char} (none_ : plainValues header key = []) :
    (values Gateway.fields key (header.toList.splitOn ',')).filterMap parse = [] := by
  rw [List.filterMap_eq_nil_iff]
  intro value listed
  apply equals
  by_contra absent
  have kept : value ∈ plainValues header key := List.mem_filter.mpr ⟨listed, by simpa using absent⟩
  rw [none_] at kept
  cases kept

end Headers

section Verdicts

variable {h : Hmac} {clock : Clock} {secret header payload : String} {tolerance : Tolerance}
  {n : ℤ} {signatures : List (List Char)}

/-- The tolerance is kept, if there is one. -/
def Fresh (clock : Clock) (tolerance : Tolerance) (timestamp : ℤ) : Prop :=
  ¬ (0 < tolerance.seconds ∧ tolerance.seconds < |clock.now - timestamp|)

theorem difference_fits (clock : Clock) (small : n.natAbs < 2 ^ 53) :
    i64.wrap (clock.now - n) = clock.now - n ∧ i64.wrap |clock.now - n| = |clock.now - n| ∧
      clock.now - n ≠ i64.least := by
  have told := clock.told
  rw [Int.abs_eq_natAbs]
  refine ⟨MachineIntegers.Kind.wrap_of_fits ?_, MachineIntegers.Kind.wrap_of_fits ?_, ?_⟩
  · simp only [MachineIntegers.Kind.Fits, i64]
    omega
  · simp only [MachineIntegers.Kind.Fits, i64]
    omega
  · simp only [i64]
    omega

theorem typeScript_distance (clock : Clock) (tolerance : Tolerance) (small : n.natAbs < 2 ^ 53) :
    tolerance.seconds < TypeScript.distance clock.now n ↔
      tolerance.seconds < |clock.now - n| := by
  have given := tolerance.given
  have same : TypeScript.number n = n := by
    unfold TypeScript.number
    rw [toNumber_small small.le]
    split <;> omega
  rw [TypeScript.distance, same, Int.abs_eq_natAbs]
  generalize (clock.now - n).natAbs = d
  by_cases inside : d ≤ 2 ^ 53
  · rw [toNumber_small inside]
  · have beyond : 2 ^ 53 ≤ toNumber d := by
      by_cases next : d = 2 ^ 53 + 1
      · rw [next, toNumber_gap]
      · exact (toNumber_large (by omega)).le
    omega

theorem gateway_accepts (found : scan Gateway.fields Gateway.parse (header.toList.splitOn ',') =
      ⟨some n, signatures⟩) (small : n.natAbs < 2 ^ 53) :
    (Gateway.verifySignature h clock secret header payload tolerance).isOk = true ↔
      Fresh clock tolerance n ∧ ∃ candidate ∈ signatures,
        decodeChars candidate = some (h.sha256 secret (toString n ++ "." ++ payload)) := by
  obtain ⟨kept, absolute, -⟩ := difference_fits clock small
  have expected : decode (Gateway.computeSignature h secret n payload) =
      some (h.sha256 secret (toString n ++ "." ++ payload)) := decode_encode _
  unfold Gateway.verifySignature Fresh
  simp only [found, Gateway.distance, kept, absolute, expected]
  by_cases none_ : signatures = []
  · simp [none_, Except.isOk, Except.toBool]
  · have some_ : signatures.isEmpty = false := by simpa using none_
    rw [some_, if_neg (by decide)]
    split
    next late => simp [late, Except.isOk, Except.toBool]
    next fresh =>
      simp only [fresh, not_false_eq_true, true_and]
      split
      next valid => simpa [Except.isOk, Except.toBool] using valid
      next invalid => simpa [Except.isOk, Except.toBool] using invalid

theorem typeScript_accepts
    (found : scan TypeScript.fields (fun value => some (TypeScript.parseInt value))
      (header.toList.splitOn ',') = ⟨some (some n), signatures⟩)
    (some_ : n ≠ 0) (small : n.natAbs < 2 ^ 53) :
    TypeScript.verifySignature h clock payload header secret tolerance = true ↔
      Fresh clock tolerance n ∧ ∃ sig ∈ signatures,
        TypeScript.fromHex sig = h.sha256 secret (toString n ++ "." ++ payload) := by
  have printed : TypeScript.numberText n = toString n := toText_safe some_ small
  have expected : TypeScript.fromHex (signed h secret (toString n) payload) =
      h.sha256 secret (toString n ++ "." ++ payload) :=
    fromHex_of_decodeChars (decodeChars_encodeChars _)
  have nonzero : TypeScript.number n ≠ 0 := by
    unfold TypeScript.number
    rw [toNumber_small small.le]
    split <;> omega
  unfold TypeScript.verifySignature Fresh
  simp only [found, Option.join_some, nonzero, false_or, typeScript_distance clock tolerance small,
    printed, expected]
  by_cases none_ : signatures = []
  · simp [none_]
  · have some_ : signatures.isEmpty = false := by simpa using none_
    simp only [some_, Bool.false_eq_true, if_false]
    split
    next late => simp [late]
    next fresh => simp [fresh]

theorem php_accepts (filled : payload ≠ "" ∧ header ≠ "" ∧ secret ≠ "")
    (found : scan Php.fields Php.parse (header.toList.splitOn ',') = ⟨some n, signatures⟩) :
    Php.verifySignature h clock payload header secret tolerance = true ↔
      Fresh clock tolerance n ∧ ∃ sig ∈ signatures,
        sig = encodeChars (h.sha256 secret (toString n ++ "." ++ payload)) := by
  obtain ⟨payload', header', secret'⟩ := filled
  unfold Php.verifySignature Fresh
  simp only [payload', header', secret', or_self, if_false, found]
  by_cases none_ : signatures = []
  · simp [none_]
  · have some_ : signatures.isEmpty = false := by simpa using none_
    simp only [some_, Bool.false_eq_true, if_false]
    split
    next late => simp [late]
    next fresh => simp [fresh, signed]

theorem dotNet_accepts (filled : payload ≠ "" ∧ header ≠ "" ∧ secret ≠ "")
    (found : scan DotNet.fields DotNet.parse (DotNet.items header.toList) = ⟨some n, signatures⟩)
    (small : n.natAbs < 2 ^ 53) :
    ∃ verdict, DotNet.verifySignature h clock payload header secret tolerance = some verdict ∧
      (verdict = true ↔ Fresh clock tolerance n ∧ ∃ sig ∈ signatures,
        decodeChars sig = some (h.sha256 secret (toString n ++ "." ++ payload))) := by
  obtain ⟨payload', header', secret'⟩ := filled
  obtain ⟨kept, -, possible⟩ := difference_fits clock small
  have expected : decodeChars (signed h secret (toString n) payload) =
      some (h.sha256 secret (toString n ++ "." ++ payload)) := decodeChars_encodeChars _
  unfold DotNet.verifySignature Fresh
  simp only [payload', header', secret', or_self, if_false, found, DotNet.distance, kept, possible,
    expected, Option.map_some]
  by_cases none_ : signatures = []
  · simp [none_]
  · have some_ : signatures.isEmpty = false := by simpa using none_
    simp only [some_, Bool.false_eq_true, if_false]
    by_cases checked : 0 < tolerance.seconds
    · rw [if_pos checked]
      refine ⟨_, rfl, ?_⟩
      by_cases late : tolerance.seconds < |clock.now - n|
      · simp [late, checked]
      · simp [late]
    · rw [if_neg checked]
      refine ⟨_, rfl, ?_⟩
      simp [checked]

/-- A signature in lowercase is the same one to all. -/
theorem candidates_agree {mac : List UInt8} (plain : Plain header) (size : mac.length = 32) :
    ((∃ c ∈ values Gateway.fields ['v', '1'] (header.toList.splitOn ','),
        decodeChars c = some mac) ↔
      ∃ c ∈ plainValues header ['v', '1'], TypeScript.fromHex c = mac) ∧
    ((∃ c ∈ values Gateway.fields ['v', '1'] (header.toList.splitOn ','),
        decodeChars c = some mac) ↔
      ∃ c ∈ values Gateway.fields ['v', '1'] (header.toList.splitOn ','), c = encodeChars mac) := by
  have first : (∃ c ∈ values Gateway.fields ['v', '1'] (header.toList.splitOn ','),
      decodeChars c = some mac) → ∃ c ∈ plainValues header ['v', '1'], TypeScript.fromHex c = mac := by
    rintro ⟨c, listed, read⟩
    have absent := decodeChars_equals read
    exact ⟨c, List.mem_filter.mpr ⟨listed, by simpa using absent⟩, fromHex_of_decodeChars read⟩
  have second : (∃ c ∈ plainValues header ['v', '1'], TypeScript.fromHex c = mac) →
      ∃ c ∈ values Gateway.fields ['v', '1'] (header.toList.splitOn ','), c = encodeChars mac := by
    rintro ⟨c, listed, rfl⟩
    exact ⟨c, (List.mem_filter.mp listed).1, plain.signatures c listed size⟩
  have third : (∃ c ∈ values Gateway.fields ['v', '1'] (header.toList.splitOn ','),
      c = encodeChars mac) → ∃ c ∈ values Gateway.fields ['v', '1'] (header.toList.splitOn ','),
        decodeChars c = some mac := by
    rintro ⟨c, listed, rfl⟩
    exact ⟨_, listed, decodeChars_encodeChars mac⟩
  constructor
  · exact ⟨first, fun found => third (second found)⟩
  · exact ⟨fun found => second (first found), third⟩

/-- What the four find in a header. -/
structure FoundAlike (header : String) (n : ℤ) : Prop where
  gateway : scan Gateway.fields Gateway.parse (header.toList.splitOn ',') =
    ⟨some n, values Gateway.fields ['v', '1'] (header.toList.splitOn ',')⟩
  typeScript : scan TypeScript.fields (fun value => some (TypeScript.parseInt value))
    (header.toList.splitOn ',') = ⟨some (some n), plainValues header ['v', '1']⟩
  php : scan Php.fields Php.parse (header.toList.splitOn ',') =
    ⟨some n, values Gateway.fields ['v', '1'] (header.toList.splitOn ',')⟩
  dotNet : scan DotNet.fields DotNet.parse (DotNet.items header.toList) =
    ⟨some n, values Gateway.fields ['v', '1'] (header.toList.splitOn ',')⟩

theorem found_alike (plain : Plain header) (some_ : plainValues header ['t'] ≠ []) :
    ∃ n, FoundAlike header n ∧ n ≠ 0 ∧ n.natAbs < 2 ^ 53 := by
  obtain ⟨value, last⟩ := Option.ne_none_iff_exists'.mp (mt List.getLast?_eq_none_iff.mp some_)
  obtain ⟨n, read, nonzero, small⟩ := plain.timestamp value last
  obtain ⟨i, writes, rfl, fits⟩ := gateway_numeral read
  refine ⟨i.value, ⟨?_, ?_, ?_, ?_⟩, nonzero, small⟩
  · rw [scan_eq, last_read (fun _ => gateway_equals) last read]
  · obtain ⟨before, is⟩ := List.getLast?_eq_some_iff.mp last
    rw [scan_eq, typeScript_values plain.blanks, typeScript_values plain.blanks, is,
      List.filterMap_append, List.filterMap_cons, typeScript_numeral writes]
    simp
  · rw [scan_eq, php_values plain.blanks, php_values plain.blanks,
      last_read (fun _ => php_equals) last (php_numeral writes fits)]
  · rw [scan_eq, dotNet_values, dotNet_values,
      last_read (fun _ => dotNet_equals) last (dotNet_numeral writes fits)]

theorem gateway_refuses (none_ : plainValues header ['t'] = []) :
    (Gateway.verifySignature h clock secret header payload tolerance).isOk = false := by
  have found : (scan Gateway.fields Gateway.parse (header.toList.splitOn ',')).timestamp = none := by
    rw [scan_eq, none_read (fun _ => gateway_equals) none_]
    rfl
  unfold Gateway.verifySignature
  simp [found, Except.isOk, Except.toBool]

theorem typeScript_agrees (plain : Plain header) :
    TypeScript.verifySignature h clock payload header secret tolerance =
      (Gateway.verifySignature h clock secret header payload tolerance).isOk := by
  by_cases none_ : plainValues header ['t'] = []
  · have found : (scan TypeScript.fields (fun value => some (TypeScript.parseInt value))
        (header.toList.splitOn ',')).timestamp = none := by
      rw [scan_eq, typeScript_values plain.blanks, none_]
      rfl
    rw [gateway_refuses none_]
    unfold TypeScript.verifySignature
    simp [found]
  · obtain ⟨n, found, nonzero, small⟩ := found_alike plain none_
    have alike := candidates_agree plain (h.size secret (toString n ++ "." ++ payload))
    rw [Bool.eq_iff_iff, typeScript_accepts found.typeScript nonzero small,
      gateway_accepts found.gateway small, alike.1]

theorem plainValues_empty (key : List Char) : plainValues "" key = [] := rfl

theorem php_agrees (secret' : secret ≠ "") (payload' : payload ≠ "") (plain : Plain header) :
    Php.verifySignature h clock payload header secret tolerance =
      (Gateway.verifySignature h clock secret header payload tolerance).isOk := by
  by_cases none_ : plainValues header ['t'] = []
  · have found : (scan Php.fields Php.parse (header.toList.splitOn ',')).timestamp = none := by
      rw [scan_eq, php_values plain.blanks, none_read (fun _ => php_equals) none_]
      rfl
    rw [gateway_refuses none_]
    unfold Php.verifySignature
    simp [found]
  · have header' : header ≠ "" := by
      rintro rfl
      exact none_ (plainValues_empty _)
    obtain ⟨n, found, -, small⟩ := found_alike plain none_
    have alike := candidates_agree plain (h.size secret (toString n ++ "." ++ payload))
    rw [Bool.eq_iff_iff, php_accepts ⟨payload', header', secret'⟩ found.php,
      gateway_accepts found.gateway small, alike.2]

theorem dotNet_agrees (secret' : secret ≠ "") (payload' : payload ≠ "") (plain : Plain header) :
    DotNet.verifySignature h clock payload header secret tolerance =
      some (Gateway.verifySignature h clock secret header payload tolerance).isOk := by
  by_cases none_ : plainValues header ['t'] = []
  · have found : (scan DotNet.fields DotNet.parse (DotNet.items header.toList)).timestamp = none := by
      rw [scan_eq, dotNet_values, none_read (fun _ => dotNet_equals) none_]
      rfl
    rw [gateway_refuses none_]
    unfold DotNet.verifySignature
    simp [found]
  · have header' : header ≠ "" := by
      rintro rfl
      exact none_ (plainValues_empty _)
    obtain ⟨n, found, -, small⟩ := found_alike plain none_
    have accepts : ∃ verdict,
        DotNet.verifySignature h clock payload header secret tolerance = some verdict ∧ _ :=
      dotNet_accepts ⟨payload', header', secret'⟩ found.dotNet small
    obtain ⟨verdict, is, dotNet⟩ := accepts
    rw [is, Option.some.injEq, Bool.eq_iff_iff, dotNet, gateway_accepts found.gateway small]

end Verdicts

section Created

variable {h : Hmac} {clock : Clock} {secret payload : String} {tolerance : Tolerance} {n : ℤ}

theorem digitsValue_append (cs : List Char) (c : Char) :
    digitsValue (cs ++ [c]) = 10 * digitsValue cs + (c.toNat - 48) := by
  simp [digitsValue]

theorem digitsValue_toDigits (n : ℕ) : digitsValue (Nat.toDigits 10 n) = n := by
  have digit : ∀ d < 10, (Nat.digitChar d).toNat - 48 = d := by decide
  induction n using Nat.strong_induction_on with
  | _ n ih =>
    by_cases small : n < 10
    · rw [Nat.toDigits_of_lt_base small]
      simpa [digitsValue] using digit n small
    · rw [Nat.toDigits_of_base_le (by decide) (by omega), digitsValue_append, ih _ (by omega),
        digit _ (by omega)]
      omega

/-- An integer is written as the numeral it is. -/
theorem toString_numeral (n : ℤ) :
    ∃ i : Numeral, i.Writes (toString n).toList ∧ i.value = n := by
  cases n with
  | ofNat n =>
    refine ⟨⟨false, Nat.toDigits 10 n, Nat.toDigits_ne_nil, toDigits_within n⟩, .inl ⟨?_, rfl⟩, ?_⟩
    · exact String.toList_ofList
    · simp [Numeral.value, digitsValue_toDigits]
  | negSucc n =>
    refine ⟨⟨true, Nat.toDigits 10 (n + 1), Nat.toDigits_ne_nil, toDigits_within _⟩,
      .inr (.inr ⟨?_, rfl⟩), ?_⟩
    · exact toList_negSucc n
    · rw [Numeral.value, if_pos rfl, digitsValue_toDigits]
      rfl

theorem parseDigits_of_digits {cs : List Char} (within : ∀ c ∈ cs, c.isDigit = true) (n : ℕ) :
    parseDigits n cs = some (cs.foldl (fun n c => 10 * n + (c.toNat - 48)) n) := by
  induction cs generalizing n with
  | nil => rfl
  | cons c rest ih =>
    have digit : '0' ≤ c ∧ c ≤ '9' := (isDigit_iff c).mpr (within c List.mem_cons_self)
    rw [parseDigits, if_pos digit, ih fun d mem => within d (List.mem_cons_of_mem c mem),
      List.foldl_cons, mul_comm]

theorem gateway_reads {i : Numeral} {text : List Char} (writes : i.Writes text)
    (fits : i64.Fits i.value) : Gateway.parse text = some i.value := by
  have range : -9223372036854775808 ≤ i.value ∧ i.value ≤ 9223372036854775807 := by
    obtain ⟨low, high⟩ := fits
    simp only [i64] at low high
    omega
  have some_ : i.digits.isEmpty = false := by simpa using i.some_
  have digits := parseDigits_of_digits i.within 0
  rw [Gateway.parse, parseI64, String.toList_ofList]
  rcases writes with ⟨rfl, unsigned⟩ | ⟨rfl, unsigned⟩ | ⟨rfl, signed⟩
  · have is : i.value = digitsValue i.digits := by simp [Numeral.value, unsigned]
    rw [is] at range ⊢
    split
    next none_ => exact absurd none_ i.some_
    next rest starts =>
      have bad := i.within '-' (by simp [starts])
      cases bad
    next rest starts =>
      have bad := i.within '+' (by simp [starts])
      cases bad
    · rw [digits]
      exact if_pos range
  · have is : i.value = digitsValue i.digits := by simp [Numeral.value, unsigned]
    rw [is] at range ⊢
    simp only [some_, Bool.false_eq_true, if_false, digits]
    exact if_pos range
  · have is : i.value = -(digitsValue i.digits : ℤ) := by simp [Numeral.value, signed]
    rw [is] at range ⊢
    simp only [some_, Bool.false_eq_true, if_false, digits]
    exact if_pos range

theorem created_toList (h : Hmac) (secret : String) (n : ℤ) (payload : String) :
    (Gateway.createSignatureHeader h secret n payload).toList =
      't' :: '=' :: ((toString n).toList ++
        ',' :: 'v' :: '1' :: '=' :: signed h secret (toString n) payload) := by
  simp [Gateway.createSignatureHeader, Gateway.computeSignature]

/-- The characters of a timestamp and a signature. -/
def written : List Char := "0123456789+-abcdef".toList

theorem digit_written {c : Char} (digit : c.isDigit = true) : c ∈ written := by
  have range : 48 ≤ c.toNat ∧ c.toNat ≤ 57 := by
    simpa [Char.isDigit, UInt32.le_iff_toNat_le] using digit
  obtain ⟨low, high⟩ := range
  rw [← Char.ofNat_toNat c]
  generalize c.toNat = n at low high ⊢
  interval_cases n <;> decide

theorem timestamp_written (n : ℤ) : ∀ c ∈ (toString n).toList, c ∈ written := by
  obtain ⟨i, writes, -⟩ := toString_numeral n
  intro c mem
  rcases writes.chars c mem with digit | rfl | rfl
  · exact digit_written digit
  · decide
  · decide

theorem signed_written (secret timestamp payload : String) :
    ∀ c ∈ signed h secret timestamp payload, c ∈ written := by
  intro c mem
  have hexadecimal : lowerDigits ⊆ written := by decide
  exact hexadecimal (encodeChars_lower _ c mem)

theorem written_clean : ∀ c ∈ written,
    disputed c = false ∧ isWhitespace c = false ∧ c ≠ ',' ∧ c ≠ '=' := by
  rw [← List.forall_iff_forall_mem]
  decide

theorem created_items (h : Hmac) (secret : String) (n : ℤ) (payload : String) :
    (Gateway.createSignatureHeader h secret n payload).toList.splitOn ',' =
      ['t' :: '=' :: (toString n).toList,
        'v' :: '1' :: '=' :: signed h secret (toString n) payload] := by
  have first : ',' ∉ 't' :: '=' :: (toString n).toList := by
    intro mem
    have inner : ',' ∈ (toString n).toList := by simpa using mem
    exact (written_clean _ (timestamp_written n _ inner)).2.2.1 rfl
  have second : ',' ∉ 'v' :: '1' :: '=' :: signed h secret (toString n) payload := by
    intro mem
    have inner : ',' ∈ signed h secret (toString n) payload := by simpa using mem
    exact (written_clean _ (signed_written _ _ _ _ inner)).2.2.1 rfl
  rw [created_toList]
  have split := List.splitOn_append_cons_self_of_not_mem first
    ('v' :: '1' :: '=' :: signed h secret (toString n) payload)
  rw [List.splitOn_eq_singleton second] at split
  exact split

theorem created_fields (key : List Char) {value : List Char} (first : '=' ∉ key)
    (clean : ∀ c ∈ key ++ value, isWhitespace c = false) :
    Gateway.fields (key ++ '=' :: value) = some (key, value) := by
  unfold Gateway.fields trimmedSides
  rw [splitOnce_append first, Option.map_some,
    trimBy_eq_self fun c mem => clean c (List.mem_append_left _ mem),
    trimBy_eq_self fun c mem => clean c (List.mem_append_right _ mem)]

theorem created_values (h : Hmac) (secret : String) (n : ℤ) (payload : String) :
    values Gateway.fields ['t'] ((Gateway.createSignatureHeader h secret n payload).toList.splitOn ',') =
        [(toString n).toList] ∧
      values Gateway.fields ['v', '1']
        ((Gateway.createSignatureHeader h secret n payload).toList.splitOn ',') =
        [signed h secret (toString n) payload] := by
  have time : Gateway.fields ('t' :: '=' :: (toString n).toList) =
      some (['t'], (toString n).toList) := by
    apply created_fields ['t'] (by decide)
    intro c mem
    rcases List.mem_cons.mp mem with rfl | inner
    · decide
    · exact (written_clean c (timestamp_written n c inner)).2.1
  have signature : Gateway.fields ('v' :: '1' :: '=' :: signed h secret (toString n) payload) =
      some (['v', '1'], signed h secret (toString n) payload) := by
    apply created_fields ['v', '1'] (by decide)
    intro c mem
    rcases List.mem_append.mp mem with lead | inner
    · have keys : ∀ c ∈ ['v', '1'], isWhitespace c = false :=
        List.forall_iff_forall_mem.mp (by decide)
      exact keys c lead
    · exact (written_clean c (signed_written _ _ _ c inner)).2.1
  rw [created_items, values_cons_some _ time, values_cons_some _ time, values_cons_some _ signature,
    values_cons_some _ signature]
  exact ⟨rfl, rfl⟩

theorem created_plain (some_ : n ≠ 0) (small : n.natAbs < 2 ^ 53) :
    Plain (Gateway.createSignatureHeader h secret n payload) := by
  obtain ⟨times, signatures⟩ := created_values h secret n payload
  obtain ⟨i, writes, rfl⟩ := toString_numeral n
  have time : '=' ∉ (toString i.value).toList :=
    fun mem => (written_clean _ (timestamp_written _ _ mem)).2.2.2 rfl
  have signature : '=' ∉ signed h secret (toString i.value) payload :=
    fun mem => (written_clean _ (signed_written _ _ _ _ mem)).2.2.2 rfl
  constructor
  · intro c mem
    rw [created_toList] at mem
    simp only [List.mem_cons, List.mem_append] at mem
    rcases mem with rfl | rfl | inner | rfl | rfl | rfl | rfl | inner
    · decide
    · decide
    · exact (written_clean c (timestamp_written _ c inner)).1
    · decide
    · decide
    · decide
    · decide
    · exact (written_clean c (signed_written _ _ _ c inner)).1
  · intro value last
    rw [plainValues, times] at last
    simp only [List.filter_cons, List.contains_eq_mem, time, decide_false, Bool.not_false, if_true,
      List.filter_nil, List.getLast?_singleton, Option.some.injEq] at last
    rw [← last]
    refine ⟨i.value, gateway_reads writes ?_, some_, small⟩
    simp only [MachineIntegers.Kind.Fits, i64]
    omega
  · intro value listed _
    have is : value = signed h secret (toString i.value) payload := by
      have within := (List.mem_filter.mp listed).1
      rw [signatures] at within
      exact List.mem_singleton.mp within
    rw [is, signed, fromHex_of_decodeChars (decodeChars_encodeChars _)]

/-- The gateway accepts what it has created. -/
theorem created_accepted (small : n.natAbs < 2 ^ 53)
    (fresh : Fresh clock tolerance n) :
    (Gateway.verifySignature h clock secret (Gateway.createSignatureHeader h secret n payload)
      payload tolerance).isOk = true := by
  obtain ⟨times, signatures⟩ := created_values h secret n payload
  obtain ⟨i, writes, rfl⟩ := toString_numeral n
  have read : Gateway.parse (toString i.value).toList = some i.value := by
    apply gateway_reads writes
    simp only [MachineIntegers.Kind.Fits, i64]
    omega
  have found : scan Gateway.fields Gateway.parse
      ((Gateway.createSignatureHeader h secret i.value payload).toList.splitOn ',') =
      ⟨some i.value, [signed h secret (toString i.value) payload]⟩ := by
    rw [scan_eq, times, signatures, List.filterMap_cons, read]
    rfl
  rw [gateway_accepts found small]
  exact ⟨fresh, _, List.mem_singleton_self _, decodeChars_encodeChars _⟩

end Created

section Claim

/-- The four verdicts are one, and no verifier throws. -/
structure SameVerdict (h : Hmac) (clock : Clock) (secret header payload : String)
    (tolerance : Tolerance) : Prop where
  typeScript : TypeScript.verifySignature h clock payload header secret tolerance =
    (Gateway.verifySignature h clock secret header payload tolerance).isOk
  php : Php.verifySignature h clock payload header secret tolerance =
    (Gateway.verifySignature h clock secret header payload tolerance).isOk
  dotNet : DotNet.verifySignature h clock payload header secret tolerance =
    some (Gateway.verifySignature h clock secret header payload tolerance).isOk

structure AllAccept (h : Hmac) (clock : Clock) (secret header payload : String)
    (tolerance : Tolerance) : Prop where
  gateway : (Gateway.verifySignature h clock secret header payload tolerance).isOk = true
  typeScript : TypeScript.verifySignature h clock payload header secret tolerance = true
  php : Php.verifySignature h clock payload header secret tolerance = true
  dotNet : DotNet.verifySignature h clock payload header secret tolerance = some true

variable {h : Hmac} {clock : Clock} {secret header payload : String} {tolerance : Tolerance}

instance : Decidable (SameVerdict h clock secret header payload tolerance) :=
  decidable_of_iff
    (TypeScript.verifySignature h clock payload header secret tolerance =
        (Gateway.verifySignature h clock secret header payload tolerance).isOk ∧
      Php.verifySignature h clock payload header secret tolerance =
        (Gateway.verifySignature h clock secret header payload tolerance).isOk ∧
      DotNet.verifySignature h clock payload header secret tolerance =
        some (Gateway.verifySignature h clock secret header payload tolerance).isOk)
    ⟨fun ⟨a, b, c⟩ => ⟨a, b, c⟩, fun ⟨a, b, c⟩ => ⟨a, b, c⟩⟩

theorem same_verdict (secret' : secret ≠ "") (payload' : payload ≠ "") (plain : Plain header) :
    SameVerdict h clock secret header payload tolerance := by
  constructor
  · exact typeScript_agrees plain
  · exact php_agrees secret' payload' plain
  · exact dotNet_agrees secret' payload' plain

theorem all_accept (secret' : secret ≠ "") (payload' : payload ≠ "") {n : ℤ} (some_ : n ≠ 0)
    (small : n.natAbs < 2 ^ 53) (fresh : Fresh clock tolerance n) :
    AllAccept h clock secret (Gateway.createSignatureHeader h secret n payload) payload tolerance := by
  have accepted : (Gateway.verifySignature h clock secret
      (Gateway.createSignatureHeader h secret n payload) payload tolerance).isOk = true :=
    created_accepted small fresh
  have verdicts : SameVerdict h clock secret (Gateway.createSignatureHeader h secret n payload)
      payload tolerance :=
    same_verdict secret' payload' (created_plain some_ small)
  obtain ⟨typeScript, php, dotNet⟩ := verdicts
  constructor
  · exact accepted
  · rw [typeScript, accepted]
  · rw [php, accepted]
  · rw [dotNet, accepted]

/-- A tolerance leaves only timestamps that are safe integers. -/
theorem fresh_small {n : ℤ} (checked : 0 < tolerance.seconds) (fresh : Fresh clock tolerance n) :
    n.natAbs < 2 ^ 53 := by
  have told := clock.told
  have given := tolerance.given
  have near : |clock.now - n| ≤ tolerance.seconds := by
    unfold Fresh at fresh
    omega
  rw [Int.abs_eq_natAbs] at near
  omega

/-- Plain headers are judged alike, and what the gateway signs is accepted: by
PHP and .NET if neither the secret nor the payload is empty. -/
theorem outbound_signatures_agree (h : Hmac) (clock : Clock) (secret payload : String)
    (tolerance : Tolerance) :
    (∀ header, Plain header → secret ≠ "" → payload ≠ "" →
      SameVerdict h clock secret header payload tolerance) ∧
    (∀ header, Plain header → secret = "" ∨ payload = "" →
      TypeScript.verifySignature h clock payload header secret tolerance =
        (Gateway.verifySignature h clock secret header payload tolerance).isOk ∧
      Php.verifySignature h clock payload header secret tolerance = false ∧
      DotNet.verifySignature h clock payload header secret tolerance = some false) ∧
    (∀ timestamp, secret ≠ "" → payload ≠ "" → timestamp ≠ 0 →
      0 < tolerance.seconds ∨ timestamp.natAbs < 2 ^ 53 → Fresh clock tolerance timestamp →
      AllAccept h clock secret (Gateway.createSignatureHeader h secret timestamp payload) payload
        tolerance) := by
  constructor
  · intro header plain secret' payload'
    exact same_verdict secret' payload' plain
  constructor
  · intro header plain empty
    have guarded : payload = "" ∨ header = "" ∨ secret = "" := by tauto
    refine ⟨typeScript_agrees plain, ?_, ?_⟩
    · exact if_pos guarded
    · exact if_pos guarded
  · intro timestamp secret' payload' nonzero small fresh
    have safe : timestamp.natAbs < 2 ^ 53 := by
      rcases small with checked | safe
      · exact fresh_small checked fresh
      · exact safe
    exact all_accept secret' payload' nonzero safe fresh

section Samples

/-- The first bytes of the message. -/
def messageMac : Hmac where
  sha256 _ message :=
    ((message.toList.map fun (c : Char) => UInt8.ofNat c.toNat) ++ List.replicate 32 0).take 32
  size _ _ := by simp

def morning : Clock := ⟨1725610000, by decide⟩

def noTolerance : Tolerance := ⟨0, by decide⟩

def signedAt (n : ℤ) : String := Gateway.createSignatureHeader messageMac "whsec_1" n "event"

theorem outbound_signatures_agree_in_the_morning :
    AllAccept messageMac morning "whsec_1" (signedAt 1725610000) "event" ⟨300, by decide⟩ ∧
      SameVerdict messageMac morning "whsec_1" (signedAt 1725610000) "tampered" ⟨300, by decide⟩ := by
  constructor
  · exact (outbound_signatures_agree messageMac morning "whsec_1" "event" ⟨300, by decide⟩).2.2
      1725610000 (by decide) (by decide) (by decide) (.inl (by decide)) (by unfold Fresh; decide)
  · exact (outbound_signatures_agree messageMac morning "whsec_1" "tampered" ⟨300, by decide⟩).1
      (signedAt 1725610000) (created_plain (by decide) (by decide)) (by decide) (by decide)

/-- An empty payload; then the timestamps and signatures that are not plain. -/
theorem outbound_signatures_differ :
    ¬ SameVerdict messageMac morning "whsec_1"
      (Gateway.createSignatureHeader messageMac "whsec_1" 1 "") "" noTolerance ∧
    ∀ header ∈ [signedAt 0, signedAt 9007199254740993, signedAt 1 ++ ",t=soon", signedAt 1 ++ "zz",
        signedAt 1 ++ "\u0000",
        "t=1,v1=" ++ JavaScript.toUpperCase (Gateway.computeSignature messageMac "whsec_1" 1 "event")],
      ¬ SameVerdict messageMac morning "whsec_1" header "event" noTolerance := by
  constructor
  · decide +kernel
  · intro header mem
    simp only [List.mem_cons, List.not_mem_nil, or_false] at mem
    -- one computation for each header, each small
    rcases mem with rfl | rfl | rfl | rfl | rfl | rfl
    · decide +kernel
    · decide +kernel
    · decide +kernel
    · decide +kernel
    · decide +kernel
    · decide +kernel

end Samples

end Claim

end OpenWrapper.SignatureVerdicts
