import OpenWrapper.Doubles
import OpenWrapper.KeyedLists
import Mathlib.Data.List.Lex

/-! # Request fingerprints in two languages

The web application and the gateway both put a JSON document into a canonical
form, print it and hash the text. The form sorts the properties of an object;
but a JavaScript object enumerates them in an order of its own, its numbers are
doubles, and one of its properties is not a property. -/

set_option autoImplicit false

namespace OpenWrapper.Fingerprints
open OpenWrapper.JsonValue OpenWrapper.JsonText OpenWrapper.Doubles OpenWrapper.KeyedLists

section Orders

/-- The code units of UTF-16. -/
def utf16Char (c : Char) : List ℕ :=
  if c.toNat < 0x10000 then [c.toNat]
  else [0xD800 + (c.toNat - 0x10000) / 0x400, 0xDC00 + (c.toNat - 0x10000) % 0x400]

def utf16 (s : String) : List ℕ := s.toList.flatMap utf16Char

/-- The bytes of UTF-8. -/
def utf8 (s : String) : List ℕ := s.toUTF8.data.toList.map UInt8.toNat

/-- The name is the canonical numeral of a number below `2 ^ 32 - 1`. -/
def arrayIndex (name : String) : Option ℕ :=
  let n := digitsValue name.toList
  if Nat.toDigits 10 n = name.toList ∧ n ≤ 4294967294 then some n else none

end Orders

namespace Web

section Values

/-- A value of a parsed document; an object has its properties in the order of
their creation. -/
inductive Value where
  | null
  | bool (b : Bool)
  | number (x : Double)
  | string (s : String)
  | array (items : List Value)
  | object (properties : List (String × Value))

mutual

/-- `JSON.parse`. -/
def parse : Json → Option Value
  | .null => some .null
  | .bool b => some (.bool b)
  | .num numeral => (readDecimal numeral).map fun x => .number (toDouble x)
  | .str s => some (.string s)
  | .arr items => (parseItems items).map .array
  | .obj members => (parseMembers members).map fun properties => .object (setAll properties)

def parseItems : List Json → Option (List Value)
  | [] => some []
  | item :: rest =>
    match parse item, parseItems rest with
    | some v, some vs => some (v :: vs)
    | _, _ => none

def parseMembers : List (String × Json) → Option (List (String × Value))
  | [] => some []
  | (name, value) :: rest =>
    match parse value, parseMembers rest with
    | some v, some vs => some ((name, v) :: vs)
    | _, _ => none

end

variable {α : Type}

/-- The order of `Object.keys` and `JSON.stringify`: array indices first. -/
def ownProperties (o : List (String × α)) : List (String × α) :=
  sortBy (fun name => (arrayIndex name).getD 0) (o.filter fun m => (arrayIndex m.1).isSome) ++
    o.filter fun m => (arrayIndex m.1).isNone

/-- `result[name] = v` for an object that began as an object literal, where
`__proto__` sets the prototype. -/
def assign (name : String) (v : α) (o : List (String × α)) : List (String × α) :=
  if name = "__proto__" then o else setAt name v o

/-- The loop over `Object.keys(val).sort()`. -/
def assignSorted (o : List (String × α)) : List (String × α) :=
  (sortBy utf16 (ownProperties o)).foldl (fun result m => assign m.1 m.2 result) []

mutual

def canonicalizeJson : Value → Value
  | .array items => .array (canonicalizeItems items)
  | .object properties => .object (assignSorted (canonicalizeProperties properties))
  | .null => .null
  | .bool b => .bool b
  | .number x => .number x
  | .string s => .string s

def canonicalizeItems : List Value → List Value
  | [] => []
  | item :: rest => canonicalizeJson item :: canonicalizeItems rest

def canonicalizeProperties : List (String × Value) → List (String × Value)
  | [] => []
  | (name, value) :: rest => (name, canonicalizeJson value) :: canonicalizeProperties rest

end

def member (m : String × List Char) : List Char := quoted m.1 ++ ':' :: m.2

mutual

/-- `JSON.stringify`. -/
def stringify : Value → List Char
  | .null => ['n', 'u', 'l', 'l']
  | .bool b => if b then ['t', 'r', 'u', 'e'] else ['f', 'a', 'l', 's', 'e']
  | .number (.infinite _) => ['n', 'u', 'l', 'l']
  | .number (.finite negative m e) => (Double.finite negative m e).toText.toList
  | .string s => quoted s
  | .array items => bracketed '[' ']' (stringifyItems items)
  | .object properties =>
    bracketed '\x7b' '\x7d' ((ownProperties (stringifyProperties properties)).map member)

def stringifyItems : List Value → List (List Char)
  | [] => []
  | item :: rest => stringify item :: stringifyItems rest

def stringifyProperties : List (String × Value) → List (String × List Char)
  | [] => []
  | (name, value) :: rest => (name, stringify value) :: stringifyProperties rest

end

/-- What `computeCanonicalFingerprint` hashes. -/
def hashed (v : Value) : ByteArray := (String.ofList (stringify (canonicalizeJson v))).toUTF8

end Values

end Web

namespace Core

section Values

/-- The order of the keys of a `BTreeMap`. -/
def byUtf8 (a b : String) : Bool := decide (utf8 a < utf8 b)

/-- With `arbitrary_precision`, `serde_json` hands a number on as a map of this
one key, and reads a map that begins with it as the number. -/
def numberToken : String := "$serde_json::private::Number"

def markedNumber : List (String × Json) → Option (Option Json)
  | [] => none
  | (name, value) :: rest =>
    if name = numberToken then
      match value, rest with
      | .str numeral, [] => some ((readDecimal numeral).map fun _ => .num numeral)
      | _, _ => some none
    else none

mutual

/-- `serde_json::from_slice`: a number keeps its numeral, and a map its keys in
their order. -/
def fromSlice : Json → Option Json
  | .null => some .null
  | .bool b => some (.bool b)
  | .num numeral => (readDecimal numeral).map fun _ => .num numeral
  | .str s => some (.str s)
  | .arr items => (sliceItems items).map .arr
  | .obj members =>
    match markedNumber members with
    | some number => number
    | none => (sliceMembers members).map fun ms => .obj (insertAll byUtf8 ms)

def sliceItems : List Json → Option (List Json)
  | [] => some []
  | item :: rest =>
    match fromSlice item, sliceItems rest with
    | some v, some vs => some (v :: vs)
    | _, _ => none

def sliceMembers : List (String × Json) → Option (List (String × Json))
  | [] => some []
  | (name, value) :: rest =>
    match fromSlice value, sliceMembers rest with
    | some v, some vs => some ((name, v) :: vs)
    | _, _ => none

end

mutual

def canonicalizeJson : Json → Json
  | .obj members => .obj (insertAll byUtf8 (canonicalizeMembers members))
  | .arr items => .arr (canonicalizeItems items)
  | .null => .null
  | .bool b => .bool b
  | .num numeral => .num numeral
  | .str s => .str s

def canonicalizeItems : List Json → List Json
  | [] => []
  | item :: rest => canonicalizeJson item :: canonicalizeItems rest

def canonicalizeMembers : List (String × Json) → List (String × Json)
  | [] => []
  | (name, value) :: rest => (name, canonicalizeJson value) :: canonicalizeMembers rest

end

/-- What `RequestFingerprint::of` hashes. -/
def hashed (v : Json) : ByteArray := (String.ofList (render (canonicalizeJson v))).toUTF8

end Values

end Core

section Condition

/-- The order in which the web prints the properties of a canonical object. -/
def webOrder (a b : String) : Bool :=
  match arrayIndex a, arrayIndex b with
  | some i, some j => decide (i < j)
  | some _, none => true
  | none, some _ => false
  | none, none => decide (utf16 a < utf16 b)

def sameOrder (names : List String) : Bool :=
  names.all fun a => names.all fun b => !Core.byUtf8 a b || webOrder a b

/-- The double of the numeral is printed as the numeral. -/
def printedAsWritten (numeral : String) : Bool :=
  match (readDecimal numeral).map toDouble with
  | some (.finite negative m e) => (Double.finite negative m e).toText == numeral
  | _ => false

mutual

/-- Every numeral is printed as it is written, no object has a property that one
of the readers takes for something else, and the names of each object come in
one order. Of members of one name only the last counts. -/
def alike : Json → Bool
  | .null => true
  | .bool _ => true
  | .num numeral => printedAsWritten numeral
  | .str _ => true
  | .arr items => alikeItems items
  | .obj members =>
    (Core.markedNumber members).isNone && decide ("__proto__" ∉ keys members) &&
      sameOrder (keys members) && alikeMembers members

def alikeItems : List Json → Bool
  | [] => true
  | item :: rest => alike item && alikeItems rest

def alikeMembers : List (String × Json) → Bool
  | [] => true
  | (name, value) :: rest => (decide (name ∈ keys rest) || alike value) && alikeMembers rest

end

end Condition

section Injective

theorem utf16Char_unique {c c' : Char} {rest rest' : List ℕ}
    (same : utf16Char c ++ rest = utf16Char c' ++ rest') : c = c' ∧ rest = rest' := by
  have valid : c.toNat < 0xD800 ∨ (0xDFFF < c.toNat ∧ c.toNat < 0x110000) := c.valid
  have valid' : c'.toNat < 0xD800 ∨ (0xDFFF < c'.toNat ∧ c'.toNat < 0x110000) := c'.valid
  unfold utf16Char at same
  split at same
  · split at same
    · simp only [List.cons_append, List.nil_append, List.cons.injEq] at same
      exact ⟨Char.toNat_inj.mp same.1, same.2⟩
    · simp only [List.cons_append, List.nil_append, List.cons.injEq] at same
      omega
  · split at same
    · simp only [List.cons_append, List.nil_append, List.cons.injEq] at same
      omega
    · simp only [List.cons_append, List.nil_append, List.cons.injEq] at same
      have value : c.toNat = c'.toNat := by omega
      exact ⟨Char.toNat_inj.mp value, same.2.2⟩

theorem utf16_chars {cs cs' : List Char} (same : cs.flatMap utf16Char = cs'.flatMap utf16Char) :
    cs = cs' := by
  have some_ (c : Char) (rest : List ℕ) : utf16Char c ++ rest ≠ [] := by
    unfold utf16Char
    split
    · simp
    · simp
  induction cs generalizing cs' with
  | nil =>
    cases cs' with
    | nil => rfl
    | cons c' cs' => exact absurd same.symm (some_ c' _)
  | cons c cs ih =>
    cases cs' with
    | nil => exact absurd same (some_ c _)
    | cons c' cs' =>
      rw [List.flatMap_cons, List.flatMap_cons] at same
      obtain ⟨rfl, rest⟩ := utf16Char_unique same
      rw [ih rest]

theorem utf16_injective : Function.Injective utf16 := by
  intro s t same
  exact String.toList_inj.mp (utf16_chars same)

theorem utf8_injective : Function.Injective utf8 := by
  intro s t same
  have bytes := List.map_injective_iff.mpr (fun a b => UInt8.toNat_inj.mp) same
  exact String.toByteArray_inj.mp (ByteArray.ext (Array.toList_inj.mp bytes))

theorem arrayIndex_eq {a b : String} {n : ℕ} (is : arrayIndex a = some n)
    (is' : arrayIndex b = some n) : a = b := by
  have text {s : String} (is : arrayIndex s = some n) : Nat.toDigits 10 n = s.toList := by
    unfold arrayIndex at is
    simp only at is
    split at is
    next canonical =>
      rw [← Option.some.inj is]
      exact canonical.1
    · cases is
  exact String.toList_inj.mp ((text is).symm.trans (text is'))

theorem byUtf8_orders : Orders Core.byUtf8 := by
  constructor
  · intro a b is
    simp only [Core.byUtf8, decide_eq_true_eq, decide_eq_false_iff_not] at is ⊢
    exact lt_asymm is
  · intro a b c one two
    simp only [Core.byUtf8, decide_eq_true_eq] at one two ⊢
    exact lt_trans one two
  · intro a b apart is
    simp only [Core.byUtf8, decide_eq_true_eq, decide_eq_false_iff_not] at is ⊢
    exact lt_of_le_of_ne (not_lt.mp is) fun same => apart (utf8_injective same).symm

theorem webOrder_asymm {a b : String} (is : webOrder a b = true) : ¬ webOrder b a = true := by
  unfold webOrder at is ⊢
  cases i : arrayIndex a with
  | some n =>
    cases j : arrayIndex b with
    | some m =>
      simp only [i, j, decide_eq_true_eq] at is ⊢
      omega
    | none => simp
  | none =>
    cases j : arrayIndex b with
    | some m => simp [i, j] at is
    | none =>
      simp only [i, j, decide_eq_true_eq] at is ⊢
      exact lt_asymm is

end Injective

section Enumerating

variable {α β : Type} {o : List (String × α)} {f : String → Option α}

theorem ownProperties_perm (o : List (String × α)) : (Web.ownProperties o).Perm o := by
  have indices := sortBy_perm (fun name => (arrayIndex name).getD 0)
    (o.filter fun m => (arrayIndex m.1).isSome)
  have split := List.filter_append_perm (fun m : String × α => (arrayIndex m.1).isSome) o
  simp only [Option.not_isSome] at split
  exact (indices.append_right _).trans split

theorem ownProperties_mapValues (g : α → β) (o : List (String × α)) :
    Web.ownProperties (mapValues g o) = mapValues g (Web.ownProperties o) := by
  have chosen (p : String → Bool) : (mapValues g o).filter (fun m => p m.1) =
      mapValues g (o.filter fun m => p m.1) := by
    unfold mapValues
    rw [List.filter_map]
    rfl
  unfold Web.ownProperties
  rw [chosen fun name => (arrayIndex name).isSome, chosen fun name => (arrayIndex name).isNone,
    sortBy_mapValues]
  exact (List.map_append ..).symm

theorem setAt_new {k : String} {v : α} {l : List (String × α)} (absent : k ∉ keys l) :
    setAt k v l = l ++ [(k, v)] := by
  induction l with
  | nil => rfl
  | cons m l ih =>
    rw [keys_cons, List.mem_cons, not_or] at absent
    rw [setAt, if_neg (Ne.symm absent.1), ih absent.2]
    rfl

theorem foldl_assign {l acc : List (String × α)} (nodup : (keys l).Nodup)
    (apart : ∀ k ∈ keys l, k ∉ keys acc) :
    l.foldl (fun result m => Web.assign m.1 m.2 result) acc =
      acc ++ l.filter fun m => m.1 != "__proto__" := by
  induction l generalizing acc with
  | nil => simp
  | cons m rest ih =>
    obtain ⟨new, nodup'⟩ := List.nodup_cons.mp nodup
    rw [List.foldl_cons]
    by_cases setter : m.1 = "__proto__"
    · have step : Web.assign m.1 m.2 acc = acc := if_pos setter
      rw [step, ih nodup' fun k mem => apart k (List.mem_cons_of_mem _ mem)]
      simp [setter]
    · have step : Web.assign m.1 m.2 acc = acc ++ [m] := by
        rw [Web.assign, if_neg setter, setAt_new (apart m.1 List.mem_cons_self)]
      have others : ∀ k ∈ keys rest, k ∉ keys (acc ++ [m]) := by
        intro k mem
        rw [keys, List.map_append, List.mem_append, not_or]
        refine ⟨apart k (List.mem_cons_of_mem _ mem), fun is => new ?_⟩
        rwa [← List.mem_singleton.mp is]
      rw [step, ih nodup' others]
      simp [setter]

theorem sorted_perm (o : List (String × α)) : (sortBy utf16 (Web.ownProperties o)).Perm o :=
  (sortBy_perm utf16 _).trans (ownProperties_perm o)

theorem assignSorted_eq (nodup : (keys o).Nodup) : Web.assignSorted o =
    (sortBy utf16 (Web.ownProperties o)).filter fun m => m.1 != "__proto__" := by
  have distinct := ((sorted_perm o).map Prod.fst).nodup_iff.mpr nodup
  rw [Web.assignSorted, foldl_assign distinct fun _ _ => List.not_mem_nil, List.nil_append]

theorem assign_mapValues (g : α → β) (k : String) (v : α) (o : List (String × α)) :
    Web.assign k (g v) (mapValues g o) = mapValues g (Web.assign k v o) := by
  unfold Web.assign
  split
  · rfl
  · exact setAt_mapValues k v o

theorem assignSorted_mapValues (g : α → β) (o : List (String × α)) :
    Web.assignSorted (mapValues g o) = mapValues g (Web.assignSorted o) := by
  unfold Web.assignSorted
  rw [ownProperties_mapValues, sortBy_mapValues]
  exact foldl_mapValues (g := g) Web.assign (assign_mapValues g) _ []

theorem holds_assignSorted (h : Holds o f) :
    Holds (Web.assignSorted o) fun k => if k != "__proto__" then f k else none := by
  rw [assignSorted_eq h.nodup]
  exact (h.perm (sorted_perm o)).filter fun name => name != "__proto__"

/-- A canonical object has its properties in the order of their names. -/
theorem assignSorted_sorted (nodup : (keys o).Nodup) :
    (keys (Web.assignSorted o)).Pairwise fun a b => utf16 a < utf16 b := by
  rw [assignSorted_eq nodup]
  have distinct : (keys (Web.ownProperties o)).Nodup :=
    ((ownProperties_perm o).map Prod.fst).nodup_iff.mpr nodup
  exact (sortBy_sorted utf16 distinct fun a _ b _ same => utf16_injective same).sublist
    (List.filter_sublist.map Prod.fst)

/-- How an object whose properties were created in the order of their names
enumerates them. -/
theorem ownProperties_sorted (sorted : (keys o).Pairwise fun a b => utf16 a < utf16 b) :
    (keys (Web.ownProperties o)).Pairwise fun a b => webOrder a b = true := by
  have nodup : (keys o).Nodup := sorted.imp fun is same => absurd (same ▸ is) (lt_irrefl _)
  unfold Web.ownProperties
  rw [keys, List.map_append, List.pairwise_append]
  have index {l : List (String × α)} {k : String}
      (mem : k ∈ keys (l.filter fun m => (arrayIndex m.1).isSome)) :
      ∃ n, arrayIndex k = some n := by
    obtain ⟨m, inside, rfl⟩ := List.mem_map.mp mem
    exact Option.isSome_iff_exists.mp (List.mem_filter.mp inside).2
  have name {k : String} (mem : k ∈ keys (o.filter fun m => (arrayIndex m.1).isNone)) :
      arrayIndex k = none := by
    obtain ⟨m, inside, rfl⟩ := List.mem_map.mp mem
    exact Option.isNone_iff_eq_none.mp (List.mem_filter.mp inside).2
  have perm := (sortBy_perm (fun name => (arrayIndex name).getD 0)
    (o.filter fun m => (arrayIndex m.1).isSome)).map Prod.fst
  refine ⟨?_, ?_, ?_⟩
  · have distinct : (keys (o.filter fun m => (arrayIndex m.1).isSome)).Nodup :=
      (List.filter_sublist.map Prod.fst).nodup nodup
    have ordered := sortBy_sorted (fun name => (arrayIndex name).getD 0) distinct
      fun a mem b mem' same => by
        obtain ⟨i, is⟩ := index mem
        obtain ⟨j, is'⟩ := index mem'
        simp only [is, is', Option.getD_some] at same
        exact arrayIndex_eq is (same ▸ is')
    apply ordered.imp_of_mem
    intro a b mem mem' up
    obtain ⟨i, is⟩ := index (perm.mem_iff.mp mem)
    obtain ⟨j, is'⟩ := index (perm.mem_iff.mp mem')
    simpa [webOrder, is, is'] using up
  · have kept := sorted.sublist ((List.filter_sublist (p := fun m : String × α =>
      (arrayIndex m.1).isNone) (l := o)).map Prod.fst)
    apply kept.imp_of_mem
    intro a b mem mem' up
    simpa [webOrder, name mem, name mem'] using up
  · intro a mem b mem'
    obtain ⟨i, is⟩ := index (perm.mem_iff.mp mem)
    simp [webOrder, is, name mem']

end Enumerating

section Trees

/-- The value whose text `JSON.stringify` makes. -/
def numberJson : Double → Json
  | .infinite _ => .null
  | .finite negative m e => .num (Double.finite negative m e).toText

mutual

def printed : Web.Value → Json
  | .null => .null
  | .bool b => .bool b
  | .number x => numberJson x
  | .string s => .str s
  | .array items => .arr (printedItems items)
  | .object properties => .obj (Web.ownProperties (printedProperties properties))

def printedItems : List Web.Value → List Json
  | [] => []
  | item :: rest => printed item :: printedItems rest

def printedProperties : List (String × Web.Value) → List (String × Json)
  | [] => []
  | (name, value) :: rest => (name, printed value) :: printedProperties rest

end

theorem renderMembers_eq (members : List (String × Json)) :
    renderMembers members = (mapValues render members).map Web.member := by
  induction members with
  | nil => rfl
  | cons m rest ih =>
    rw [renderMembers, ih]
    rfl

mutual

theorem stringify_eq : (v : Web.Value) → Web.stringify v = render (printed v)
  | .null => rfl
  | .bool _ => rfl
  | .number (.infinite _) => rfl
  | .number (.finite _ _ _) => rfl
  | .string _ => rfl
  | .array items => by rw [Web.stringify, printed, render, stringifyItems_eq items]
  | .object properties => by
    rw [Web.stringify, printed, render, stringifyProperties_eq properties,
      ownProperties_mapValues, renderMembers_eq]

theorem stringifyItems_eq : (items : List Web.Value) →
    Web.stringifyItems items = renderItems (printedItems items)
  | [] => rfl
  | item :: rest => by
    rw [Web.stringifyItems, stringify_eq item, stringifyItems_eq rest]
    rfl

theorem stringifyProperties_eq : (properties : List (String × Web.Value)) →
    Web.stringifyProperties properties = mapValues render (printedProperties properties)
  | [] => rfl
  | (name, value) :: rest => by
    rw [Web.stringifyProperties, stringify_eq value, stringifyProperties_eq rest]
    rfl

end

mutual

theorem printed_plain : (v : Web.Value) → Plain (printed v)
  | .null => trivial
  | .bool _ => trivial
  | .number (.infinite _) => trivial
  | .number (.finite negative m e) => toText_lexical negative m e
  | .string _ => trivial
  | .array items => printedItems_plain items
  | .object properties => by
    rw [printed, Plain, plainMembers_iff]
    intro m mem
    exact (plainMembers_iff _).mp (printedProperties_plain properties) m
      ((ownProperties_perm _).mem_iff.mp mem)

theorem printedItems_plain : (items : List Web.Value) → PlainItems (printedItems items)
  | [] => trivial
  | item :: rest => ⟨printed_plain item, printedItems_plain rest⟩

theorem printedProperties_plain : (properties : List (String × Web.Value)) →
    PlainMembers (printedProperties properties)
  | [] => trivial
  | (_, value) :: rest => ⟨printed_plain value, printedProperties_plain rest⟩

end

end Trees

section Agreement

open Web Core

theorem parseMembers_keys {members : List (String × Json)} {vs : List (String × Value)}
    (parsed : parseMembers members = some vs) : keys vs = keys members := by
  induction members generalizing vs with
  | nil =>
    cases parsed
    rfl
  | cons m rest ih =>
    obtain ⟨name, value⟩ := m
    rw [parseMembers] at parsed
    split at parsed
    next one others =>
      cases parsed
      exact congrArg (List.cons name) (ih others)
    · cases parsed

theorem sliceMembers_keys {members js : List (String × Json)}
    (read : sliceMembers members = some js) : keys js = keys members := by
  induction members generalizing js with
  | nil =>
    cases read
    rfl
  | cons m rest ih =>
    obtain ⟨name, value⟩ := m
    rw [sliceMembers] at read
    split at read
    next one others =>
      cases read
      exact congrArg (List.cons name) (ih others)
    · cases read

theorem canonicalizeProperties_eq (properties : List (String × Value)) :
    canonicalizeProperties properties = mapValues Web.canonicalizeJson properties := by
  induction properties with
  | nil => rfl
  | cons m rest ih =>
    rw [canonicalizeProperties, ih]
    rfl

theorem printedProperties_eq (properties : List (String × Value)) :
    printedProperties properties = mapValues printed properties := by
  induction properties with
  | nil => rfl
  | cons m rest ih =>
    rw [printedProperties, ih]
    rfl

theorem canonicalizeMembers_eq (members : List (String × Json)) :
    canonicalizeMembers members = mapValues Core.canonicalizeJson members := by
  induction members with
  | nil => rfl
  | cons m rest ih =>
    rw [canonicalizeMembers, ih]
    rfl

def webTree (v : Value) : Json := printed (Web.canonicalizeJson v)

/-- The properties of a canonical object, printed. -/
theorem webTree_object (vs : List (String × Value)) : webTree (.object (setAll vs)) =
    .obj (ownProperties (assignSorted (setAll (mapValues webTree vs)))) := by
  rw [webTree, Web.canonicalizeJson, printed, canonicalizeProperties_eq, printedProperties_eq,
    ← assignSorted_mapValues, ← setAll_mapValues, ← setAll_mapValues]
  congr 4
  exact List.map_map

theorem coreTree_object (js : List (String × Json)) :
    Core.canonicalizeJson (.obj (insertAll byUtf8 js)) =
      .obj (insertAll byUtf8 (insertAll byUtf8 (mapValues Core.canonicalizeJson js))) := by
  rw [Core.canonicalizeJson, canonicalizeMembers_eq, ← insertAll_mapValues]

/-- When the two forms of one object are the same. -/
theorem object_agree_iff {xs ys : List (String × Json)} (same : keys xs = keys ys) :
    ownProperties (assignSorted (setAll xs)) = insertAll byUtf8 (insertAll byUtf8 ys) ↔
      "__proto__" ∉ keys ys ∧ sameOrder (keys ys) = true ∧ ∀ k, lastOf k xs = lastOf k ys := by
  have web := (holds_assignSorted (holds_setAll xs)).perm (ownProperties_perm _)
  have first := holds_insertAll byUtf8_orders ys
  have core := holds_insertAll byUtf8_orders (insertAll byUtf8 ys)
  simp only [first.lastOf] at core
  have ordered := ownProperties_sorted (assignSorted_sorted (holds_setAll xs).nodup)
  have ordered' := sorted_insertAll byUtf8_orders (insertAll byUtf8 ys)
  have asymm : ∀ a b, byUtf8 a b = true → ¬ byUtf8 b a = true := by
    intro a b is
    rw [byUtf8_orders.asymm a b is]
    decide
  have key (k : String) :
      k ∈ keys (insertAll byUtf8 (insertAll byUtf8 ys)) ↔ k ∈ keys ys := by
    rw [core.key]
    cases found : lastOf k ys with
    | none => simpa using lastOf_eq_none.mp found
    | some v =>
      have present : k ∈ keys ys := by
        by_contra absent
        rw [lastOf_eq_none.mpr absent] at found
        cases found
      simpa using present
  rw [holds_eq_iff (fun a b => webOrder_asymm) asymm web core ordered ordered']
  simp only [key]
  have orders : (∀ a ∈ keys ys, ∀ b ∈ keys ys, byUtf8 a b = true → webOrder a b = true) ↔
      sameOrder (keys ys) = true := by
    simp only [sameOrder, List.all_eq_true, Bool.or_eq_true, Bool.not_eq_true', ← Bool.not_eq_true,
      imp_iff_not_or]
  rw [orders]
  constructor
  · rintro ⟨held, order⟩
    have absent : "__proto__" ∉ keys ys := by
      rw [← lastOf_eq_none]
      exact (congrFun held "__proto__").symm
    refine ⟨absent, order, fun k => ?_⟩
    by_cases setter : k = "__proto__"
    · rw [setter, lastOf_eq_none.mpr absent, lastOf_eq_none.mpr (same ▸ absent)]
    · have here := congrFun held k
      rwa [if_pos (by simpa using setter)] at here
  · rintro ⟨absent, order, agree⟩
    refine ⟨?_, order⟩
    ext1 k
    by_cases setter : k = "__proto__"
    · rw [setter, lastOf_eq_none.mpr absent]
      rfl
    · rw [if_pos (by simpa using setter), agree]

theorem number_agree_iff {numeral : String} {x : Decimal} (read : readDecimal numeral = some x) :
    numberJson (toDouble x) = .num numeral ↔ printedAsWritten numeral = true := by
  rw [printedAsWritten, read, Option.map_some]
  cases toDouble x with
  | infinite negative => simp [numberJson]
  | finite negative m e => simp [numberJson]

theorem marked_number {members : List (String × Json)} {j : Json}
    (marked : markedNumber members = some (some j)) :
    ∃ numeral x, j = .num numeral ∧ readDecimal numeral = some x := by
  unfold markedNumber at marked
  split at marked
  · cases marked
  · split at marked
    · split at marked
      · obtain ⟨x, is, rfl⟩ := Option.map_eq_some_iff.mp (Option.some.inj marked)
        exact ⟨_, x, rfl, is⟩
      · cases marked
    · cases marked

mutual

/-- The canonical forms of a document are the same just when it is alike. -/
theorem trees_agree_iff : (d : Json) → ∀ v j, parse d = some v → fromSlice d = some j →
    (webTree v = Core.canonicalizeJson j ↔ alike d = true)
  | .null, v, j, parsed, read => by
    cases parsed
    cases read
    simp [webTree, Web.canonicalizeJson, printed, Core.canonicalizeJson, alike]
  | .bool b, v, j, parsed, read => by
    cases parsed
    cases read
    simp [webTree, Web.canonicalizeJson, printed, Core.canonicalizeJson, alike]
  | .num numeral, v, j, parsed, read => by
    rw [parse] at parsed
    rw [fromSlice] at read
    obtain ⟨x, is, rfl⟩ := Option.map_eq_some_iff.mp parsed
    rw [is] at read
    cases read
    rw [webTree, Web.canonicalizeJson, printed, Core.canonicalizeJson, alike, number_agree_iff is]
  | .str s, v, j, parsed, read => by
    cases parsed
    cases read
    simp [webTree, Web.canonicalizeJson, printed, Core.canonicalizeJson, alike]
  | .arr items, v, j, parsed, read => by
    rw [parse] at parsed
    rw [fromSlice] at read
    obtain ⟨vs, parsed', rfl⟩ := Option.map_eq_some_iff.mp parsed
    obtain ⟨js, read', rfl⟩ := Option.map_eq_some_iff.mp read
    rw [webTree, Web.canonicalizeJson, printed, Core.canonicalizeJson, alike, Json.arr.injEq]
    exact items_agree_iff items vs js parsed' read'
  | .obj members, v, j, parsed, read => by
    rw [parse] at parsed
    rw [fromSlice] at read
    obtain ⟨vs, parsed', rfl⟩ := Option.map_eq_some_iff.mp parsed
    rw [webTree_object, alike]
    cases marked : markedNumber members with
    | some number =>
      rw [marked] at read
      obtain ⟨numeral, -, rfl, -⟩ := marked_number (marked.trans (congrArg some read))
      simp [Core.canonicalizeJson]
    | none =>
      rw [marked] at read
      obtain ⟨js, read', rfl⟩ := Option.map_eq_some_iff.mp read
      have same : keys (mapValues webTree vs) = keys (mapValues Core.canonicalizeJson js) := by
        rw [keys_mapValues, keys_mapValues, parseMembers_keys parsed', sliceMembers_keys read']
      rw [coreTree_object, Json.obj.injEq, object_agree_iff same,
        members_agree_iff members vs js parsed' read', keys_mapValues, sliceMembers_keys read']
      simp [and_assoc]

theorem items_agree_iff : (items : List Json) → ∀ vs js, parseItems items = some vs →
    sliceItems items = some js →
    (printedItems (Web.canonicalizeItems vs) = Core.canonicalizeItems js ↔ alikeItems items = true)
  | [], vs, js, parsed, read => by
    cases parsed
    cases read
    simp [Web.canonicalizeItems, printedItems, Core.canonicalizeItems, alikeItems]
  | item :: rest, vs, js, parsed, read => by
    rw [parseItems] at parsed
    rw [sliceItems] at read
    split at parsed
    next v vs' one others =>
      cases parsed
      split at read
      next j js' one' others' =>
        cases read
        rw [Web.canonicalizeItems, printedItems, Core.canonicalizeItems, alikeItems, List.cons.injEq,
          Bool.and_eq_true, items_agree_iff rest vs' js' others others',
          ← trees_agree_iff item v j one one']
        rfl
      · cases read
    · cases parsed

theorem members_agree_iff : (members : List (String × Json)) → ∀ vs js,
    parseMembers members = some vs → sliceMembers members = some js →
    ((∀ k, lastOf k (mapValues webTree vs) = lastOf k (mapValues Core.canonicalizeJson js)) ↔
      alikeMembers members = true)
  | [], vs, js, parsed, read => by
    cases parsed
    cases read
    simp [mapValues, alikeMembers]
  | (name, value) :: rest, vs, js, parsed, read => by
    rw [parseMembers] at parsed
    rw [sliceMembers] at read
    split at parsed
    next v vs' one others =>
      cases parsed
      split at read
      next j js' one' others' =>
        cases read
        have same : keys (mapValues webTree vs') = keys (mapValues Core.canonicalizeJson js') := by
          rw [keys_mapValues, keys_mapValues, parseMembers_keys others, sliceMembers_keys others']
        show (∀ k, lastOf k ((name, webTree v) :: mapValues webTree vs') =
          lastOf k ((name, Core.canonicalizeJson j) :: mapValues Core.canonicalizeJson js')) ↔ _
        rw [lastOf_cons_agree same, members_agree_iff rest vs' js' others others',
          trees_agree_iff value v j one one', keys_mapValues, parseMembers_keys others,
          alikeMembers]
        simp
      · cases read
    · cases parsed

end

theorem mem_insertAll {ys : List (String × Json)} {m : String × Json}
    (mem : m ∈ insertAll byUtf8 ys) : m ∈ ys :=
  mem_of_lastOf (((holds_insertAll byUtf8_orders ys).mem m.1 m.2).mp mem)

mutual

theorem fromSlice_plain : (d : Json) → ∀ j, fromSlice d = some j → Plain (Core.canonicalizeJson j)
  | .null, j, read => by
    cases read
    trivial
  | .bool b, j, read => by
    cases read
    trivial
  | .num numeral, j, read => by
    rw [fromSlice] at read
    obtain ⟨x, is, rfl⟩ := Option.map_eq_some_iff.mp read
    exact readDecimal_lexical is
  | .str s, j, read => by
    cases read
    trivial
  | .arr items, j, read => by
    rw [fromSlice] at read
    obtain ⟨js, read', rfl⟩ := Option.map_eq_some_iff.mp read
    exact sliceItems_plain items js read'
  | .obj members, j, read => by
    rw [fromSlice] at read
    cases marked : markedNumber members with
    | some number =>
      rw [marked] at read
      obtain ⟨numeral, x, rfl, is⟩ := marked_number (marked.trans (congrArg some read))
      exact readDecimal_lexical is
    | none =>
      rw [marked] at read
      obtain ⟨js, read', rfl⟩ := Option.map_eq_some_iff.mp read
      rw [coreTree_object, Plain, plainMembers_iff]
      intro m mem
      obtain ⟨m', mem', rfl⟩ := List.mem_map.mp (mem_insertAll (mem_insertAll mem))
      exact sliceMembers_plain members js read' m' mem'

theorem sliceItems_plain : (items : List Json) → ∀ js, sliceItems items = some js →
    PlainItems (Core.canonicalizeItems js)
  | [], js, read => by
    cases read
    trivial
  | item :: rest, js, read => by
    rw [sliceItems] at read
    split at read
    next j js' one others =>
      cases read
      exact ⟨fromSlice_plain item j one, sliceItems_plain rest js' others⟩
    · cases read

theorem sliceMembers_plain : (members : List (String × Json)) → ∀ js,
    sliceMembers members = some js → ∀ m ∈ js, Plain (Core.canonicalizeJson m.2)
  | [], js, read => by
    cases read
    exact fun m mem => absurd mem List.not_mem_nil
  | (name, value) :: rest, js, read => by
    rw [sliceMembers] at read
    split at read
    next j js' one others =>
      cases read
      intro m mem
      rcases List.mem_cons.mp mem with rfl | mem'
      · exact fromSlice_plain value j one
      · exact sliceMembers_plain rest js' others m mem'
    · cases read

end

/-- The bytes are the same just when the forms are: a text has one reading. -/
theorem hashed_eq_iff {d j : Json} (v : Value) (read : fromSlice d = some j) :
    Web.hashed v = Core.hashed j ↔ webTree v = Core.canonicalizeJson j := by
  rw [Web.hashed, Core.hashed, stringify_eq]
  constructor
  · intro bytes
    have texts := String.ofList_injective (String.toByteArray_inj.mp bytes)
    exact render_injective (printed_plain _) (fromSlice_plain d j read) texts
  · intro same
    rw [← same]
    rfl

/-- Of a document that both accept, both hash the same bytes just when the
document is alike for them. -/
theorem fingerprints_agree_iff (d : Json) (v : Value) (j : Json) (parsed : parse d = some v)
    (read : fromSlice d = some j) : Web.hashed v = Core.hashed j ↔ alike d = true :=
  (hashed_eq_iff v read).trans (trees_agree_iff d v j parsed read)

end Agreement

section Samples

/-- A creation request as a client sends it. -/
def order : Json :=
  .obj [("provider", .str "stripe"), ("amount_minor_units", .num "1050"), ("currency", .str "USD"),
    ("customer", .obj [("phone", .str "+201000000000"), ("email", .null)])]

theorem fingerprints_agree_order : ∃ v j, Web.parse order = some v ∧
    Core.fromSlice order = some j ∧ Web.hashed v = Core.hashed j := by
  obtain ⟨v, parsed⟩ : ∃ v, Web.parse order = some v := ⟨_, rfl⟩
  obtain ⟨j, read⟩ : ∃ j, Core.fromSlice order = some j := ⟨_, rfl⟩
  exact ⟨v, j, parsed, read, (fingerprints_agree_iff order v j parsed read).mpr (by decide +kernel)⟩

/-- A number with a fraction of zero. -/
def priced : Json := .obj [("amount", .num "10.0")]

theorem fingerprints_differ : ¬ ∀ (d : Json) (v : Web.Value) (j : Json),
    Web.parse d = some v → Core.fromSlice d = some j → Web.hashed v = Core.hashed j := by
  intro claimed
  obtain ⟨v, parsed⟩ : ∃ v, Web.parse priced = some v := ⟨_, rfl⟩
  obtain ⟨j, read⟩ : ∃ j, Core.fromSlice priced = some j := ⟨_, rfl⟩
  have forms := (hashed_eq_iff v read).mp (claimed priced v j parsed read)
  exact absurd ((trees_agree_iff priced v j parsed read).mp forms) (by decide +kernel)

end Samples

end OpenWrapper.Fingerprints
