import OpenWrapper.Fingerprints
import OpenWrapper.Hexadecimal
import OpenWrapper.Errors

/-! # Fingerprints up to the order of keys

The canonical form of a value is one of its reorderings, and the same one for
all of them. Requests have one fingerprint just where their values are
reorderings of each other. -/

set_option autoImplicit false

namespace OpenWrapper.CanonicalJson
open OpenWrapper.JsonValue OpenWrapper.JsonText OpenWrapper.KeyedLists OpenWrapper.Errors
open OpenWrapper.Hexadecimal OpenWrapper.Fingerprints OpenWrapper.Fingerprints.Core

section Lists

variable {κ α : Type} [DecidableEq κ] {l l' : List (κ × α)} {before : κ → κ → Bool}

theorem lastOf_of_mem (nodup : (keys l).Nodup) {k : κ} {v : α} (mem : (k, v) ∈ l) :
    lastOf k l = some v := by
  induction l with
  | nil => cases mem
  | cons m rest ih =>
    obtain ⟨k', w⟩ := m
    obtain ⟨fresh, nodup'⟩ := List.nodup_cons.mp nodup
    rw [lastOf]
    rcases List.mem_cons.mp mem with here | later
    · cases here
      rw [lastOf_eq_none.mpr fresh]
      exact if_pos rfl
    · rw [ih nodup' later]

theorem holds_of_nodup (nodup : (keys l).Nodup) : Holds l fun k => lastOf k l := by
  refine ⟨nodup, fun k v => ⟨lastOf_of_mem nodup, mem_of_lastOf⟩⟩

theorem insertAll_perm (order : Orders before) (nodup : (keys l).Nodup) :
    (insertAll before l).Perm l := by
  have whole := holds_of_nodup nodup
  have sorted := holds_insertAll order l
  rw [List.perm_ext_iff_of_nodup (List.Nodup.of_map Prod.fst sorted.nodup)
    (List.Nodup.of_map Prod.fst nodup)]
  rintro ⟨k, v⟩
  rw [whole.mem, sorted.mem]

/-- Whatever order the members are put in, they come out in the same one. -/
theorem insertAll_congr (order : Orders before) (nodup : (keys l).Nodup) (same : l.Perm l') :
    insertAll before l = insertAll before l' := by
  have nodup' : (keys l').Nodup := (same.map Prod.fst).nodup_iff.mp nodup
  have asymm (a b : κ) (is : before a b = true) : ¬ before b a = true := by
    rw [order.asymm a b is]
    decide
  have held := (holds_of_nodup nodup').perm same
  have first := held.perm (insertAll_perm order nodup)
  have second := (holds_of_nodup nodup').perm (insertAll_perm order nodup')
  exact eq_of_holds asymm first second (sorted_insertAll order l) (sorted_insertAll order l')

end Lists

section Reorderings

/-- Equal up to the order of the keys of objects, at every depth. -/
inductive Reordered : Json → Json → Prop where
  | refl (v : Json) : Reordered v v
  | symm {v w : Json} (same : Reordered v w) : Reordered w v
  | trans {u v w : Json} (first : Reordered u v) (second : Reordered v w) : Reordered u w
  | keys {ms ns : List (String × Json)} (perm : ms.Perm ns) : Reordered (.obj ms) (.obj ns)
  | item (before after : List Json) {v w : Json} (same : Reordered v w) :
      Reordered (.arr (before ++ v :: after)) (.arr (before ++ w :: after))
  | member (before after : List (String × Json)) (k : String) {v w : Json}
      (same : Reordered v w) :
      Reordered (.obj (before ++ (k, v) :: after)) (.obj (before ++ (k, w) :: after))

mutual

/-- No object has one key twice. -/
def Distinct : Json → Prop
  | .arr items => DistinctItems items
  | .obj members => (keys members).Nodup ∧ DistinctMembers members
  | _ => True

def DistinctItems : List Json → Prop
  | [] => True
  | item :: rest => Distinct item ∧ DistinctItems rest

def DistinctMembers : List (String × Json) → Prop
  | [] => True
  | (_, value) :: rest => Distinct value ∧ DistinctMembers rest

end

/-- `serde_json::Value`: numbers are numerals, and a map has each key once. -/
structure Value where
  json : Json
  plain : Plain json
  distinct : Distinct json

variable {v w : Json} {items : List Json} {members : List (String × Json)}

theorem distinctItems_iff : DistinctItems items ↔ ∀ v ∈ items, Distinct v := by
  induction items with
  | nil => simp [DistinctItems]
  | cons item rest ih => simp [DistinctItems, ih]

theorem distinctMembers_iff : DistinctMembers members ↔ ∀ m ∈ members, Distinct m.2 := by
  induction members with
  | nil => simp [DistinctMembers]
  | cons m rest ih => simp [DistinctMembers, ih]

theorem canonicalizeItems_eq (items : List Json) :
    canonicalizeItems items = items.map canonicalizeJson := by
  induction items with
  | nil => rfl
  | cons item rest ih =>
    rw [canonicalizeItems, ih]
    rfl

theorem canonicalizeJson_arr (items : List Json) :
    canonicalizeJson (.arr items) = .arr (items.map canonicalizeJson) := by
  rw [canonicalizeJson, canonicalizeItems_eq]

theorem canonicalizeJson_obj (members : List (String × Json)) : canonicalizeJson (.obj members) =
    .obj (insertAll byUtf8 (mapValues canonicalizeJson members)) := by
  rw [canonicalizeJson, canonicalizeMembers_eq]

theorem reordered_distinct (same : Reordered v w) : Distinct v ↔ Distinct w := by
  induction same with
  | refl v => rfl
  | symm _ ih => exact ih.symm
  | trans _ _ first second => exact first.trans second
  | keys perm =>
    rw [Distinct, Distinct, distinctMembers_iff, distinctMembers_iff,
      (perm.map Prod.fst).nodup_iff]
    simp only [perm.mem_iff]
  | item before after _ ih =>
    rw [Distinct, Distinct, distinctItems_iff, distinctItems_iff]
    simp only [List.forall_mem_append, List.forall_mem_cons, ih]
  | member before after k _ ih =>
    rw [Distinct, Distinct, distinctMembers_iff, distinctMembers_iff]
    simp only [keys, List.map_append, List.map_cons, List.forall_mem_append, List.forall_mem_cons,
      ih]

/-- Reorderings have one canonical form. -/
theorem canonicalizeJson_congr (same : Reordered v w) (distinct : Distinct v) :
    canonicalizeJson v = canonicalizeJson w := by
  induction same with
  | refl v => rfl
  | symm same ih => exact (ih ((reordered_distinct same).mpr distinct)).symm
  | trans first _ ih ih' =>
    exact (ih distinct).trans (ih' ((reordered_distinct first).mp distinct))
  | keys perm =>
    rw [Distinct] at distinct
    have nodup := distinct.1
    rw [← keys_mapValues (g := canonicalizeJson)] at nodup
    rw [canonicalizeJson_obj, canonicalizeJson_obj,
      insertAll_congr byUtf8_orders nodup (perm.map _)]
    rfl
  | item before after _ ih =>
    rw [Distinct, distinctItems_iff] at distinct
    have same := ih (distinct _ (List.mem_append_right before List.mem_cons_self))
    rw [canonicalizeJson_arr, canonicalizeJson_arr, List.map_append, List.map_cons, same,
      List.map_append, List.map_cons]
  | member before after k _ ih =>
    rw [Distinct, distinctMembers_iff] at distinct
    have same := ih (distinct.2 _ (List.mem_append_right before List.mem_cons_self))
    rw [canonicalizeJson_obj, canonicalizeJson_obj]
    simp only [mapValues, List.map_append, List.map_cons, same]

/-- An array is rearranged by rearranging each of its items. -/
theorem reordered_items {after : List Json} {f : Json → Json}
    (each : ∀ v ∈ after, Reordered v (f v)) (before : List Json) :
    Reordered (.arr (before ++ after)) (.arr (before ++ after.map f)) := by
  induction after generalizing before with
  | nil => exact .refl _
  | cons v rest ih =>
    have first := Reordered.item before rest (each v List.mem_cons_self)
    have others := ih (fun w mem => each w (List.mem_cons_of_mem v mem)) (before ++ [f v])
    simp only [List.append_assoc, List.singleton_append] at others
    exact .trans first others

theorem reordered_members {after : List (String × Json)} {f : Json → Json}
    (each : ∀ m ∈ after, Reordered m.2 (f m.2)) (before : List (String × Json)) :
    Reordered (.obj (before ++ after)) (.obj (before ++ mapValues f after)) := by
  induction after generalizing before with
  | nil => exact .refl _
  | cons m rest ih =>
    have first := Reordered.member before rest m.1 (each m List.mem_cons_self)
    have others := ih (fun n mem => each n (List.mem_cons_of_mem m mem)) (before ++ [(m.1, f m.2)])
    simp only [List.append_assoc, List.singleton_append] at others
    exact .trans first others

mutual

/-- The canonical form is a reordering. -/
theorem reordered_canonical : (v : Json) → Distinct v → Reordered v (canonicalizeJson v)
  | .null, _ => .refl _
  | .bool b, _ => .refl _
  | .num numeral, _ => .refl _
  | .str s, _ => .refl _
  | .arr items, distinct => by
    rw [canonicalizeJson_arr]
    exact reordered_items (canonical_items items distinct) []
  | .obj members, distinct => by
    rw [Distinct] at distinct
    have inner := reordered_members (canonical_members members distinct.2) []
    have nodup := distinct.1
    rw [← keys_mapValues (g := canonicalizeJson)] at nodup
    rw [canonicalizeJson_obj]
    exact .trans inner (.keys (insertAll_perm byUtf8_orders nodup).symm)

theorem canonical_items : (items : List Json) → DistinctItems items →
    ∀ v ∈ items, Reordered v (canonicalizeJson v)
  | [], _ => fun v mem => absurd mem List.not_mem_nil
  | item :: rest, distinct => by
    intro v mem
    rcases List.mem_cons.mp mem with here | later
    · rw [here]
      exact reordered_canonical item distinct.1
    · exact canonical_items rest distinct.2 v later

theorem canonical_members : (members : List (String × Json)) → DistinctMembers members →
    ∀ m ∈ members, Reordered m.2 (canonicalizeJson m.2)
  | [], _ => fun m mem => absurd mem List.not_mem_nil
  | (k, value) :: rest, distinct => by
    intro m mem
    rcases List.mem_cons.mp mem with here | later
    · rw [here]
      exact reordered_canonical value distinct.1
    · exact canonical_members rest distinct.2 m later

end

end Reorderings

section Printing

variable {v w : Json}

mutual

theorem canonicalizeJson_plain : (v : Json) → Plain v → Plain (canonicalizeJson v)
  | .null, _ => trivial
  | .bool b, _ => trivial
  | .num numeral, plain => plain
  | .str s, _ => trivial
  | .arr items, plain => canonicalizeItems_plain items plain
  | .obj members, plain => by
    rw [canonicalizeJson_obj, Plain, plainMembers_iff]
    intro m mem
    obtain ⟨m', mem', rfl⟩ := List.mem_map.mp (mem_insertAll mem)
    exact canonicalizeMembers_plain members plain m' mem'

theorem canonicalizeItems_plain : (items : List Json) → PlainItems items →
    PlainItems (canonicalizeItems items)
  | [], _ => trivial
  | item :: rest, plain =>
    ⟨canonicalizeJson_plain item plain.1, canonicalizeItems_plain rest plain.2⟩

theorem canonicalizeMembers_plain : (members : List (String × Json)) → PlainMembers members →
    ∀ m ∈ members, Plain (canonicalizeJson m.2)
  | [], _ => fun m mem => absurd mem List.not_mem_nil
  | (k, value) :: rest, plain => by
    intro m mem
    rcases List.mem_cons.mp mem with here | later
    · rw [here]
      exact canonicalizeJson_plain value plain.1
    · exact canonicalizeMembers_plain rest plain.2 m later

end

theorem hashed_eq (plain : Plain v) (plain' : Plain w) :
    hashed v = hashed w ↔ canonicalizeJson v = canonicalizeJson w := by
  constructor
  · intro bytes
    have texts := String.ofList_injective (String.toByteArray_inj.mp bytes)
    exact render_injective (canonicalizeJson_plain v plain) (canonicalizeJson_plain w plain') texts
  · intro same
    rw [hashed, hashed, same]

theorem canonicalizeJson_eq (distinct : Distinct v) (distinct' : Distinct w) :
    canonicalizeJson v = canonicalizeJson w ↔ Reordered v w := by
  constructor
  · intro same
    have first := reordered_canonical v distinct
    rw [same] at first
    exact .trans first (.symm (reordered_canonical w distinct'))
  · intro same
    exact canonicalizeJson_congr same distinct

end Printing

section Requests

variable {ρ : Type} {sha256 : ByteArray → List UInt8} {toValue : ρ → Option Value} {r r' : ρ}
  {v v' : Value}

/-- `RequestFingerprint::of`: the value of a request, or none that can be serialized. -/
def RequestFingerprint.of (sha256 : ByteArray → List UInt8) (toValue : ρ → Option Value)
    (request : ρ) : Except OpenWrapperError String :=
  match toValue request with
  | none => .error .internal
  | some value => .ok (encode (sha256 (hashed value.json)))

/-- The canonical form keeps items in their order and every member. -/
structure Keeps (v : Value) : Prop where
  idempotent : canonicalizeJson (canonicalizeJson v.json) = canonicalizeJson v.json
  items (items : List Json) : canonicalizeJson (.arr items) = .arr (items.map canonicalizeJson)
  members (ms : List (String × Json)) : (keys ms).Nodup → ∃ ns,
    canonicalizeJson (.obj ms) = .obj ns ∧ ns.Perm (mapValues canonicalizeJson ms)

theorem canonicalizeJson_keeps (v : Value) : Keeps v := by
  constructor
  · exact (canonicalizeJson_congr (reordered_canonical v.json v.distinct) v.distinct).symm
  · exact canonicalizeJson_arr
  · intro ms nodup
    rw [← keys_mapValues (g := canonicalizeJson)] at nodup
    exact ⟨_, canonicalizeJson_obj ms, insertAll_perm byUtf8_orders nodup⟩

theorem of_serialized (serialized : toValue r = some v) :
    RequestFingerprint.of sha256 toValue r = .ok (encode (sha256 (hashed v.json))) := by
  rw [RequestFingerprint.of, serialized]

theorem fingerprint_iff (injective : Function.Injective sha256) (serialized : toValue r = some v)
    (serialized' : toValue r' = some v') :
    (RequestFingerprint.of sha256 toValue r = RequestFingerprint.of sha256 toValue r' ↔
      Reordered v.json v'.json) ∧ Keeps v := by
  constructor
  · rw [of_serialized serialized, of_serialized serialized',
      ← canonicalizeJson_eq v.distinct v'.distinct, ← hashed_eq v.plain v'.plain]
    constructor
    · intro same
      exact injective (encode_injective (Except.ok.inj same))
    · intro same
      rw [same]
  · exact canonicalizeJson_keeps v

/-- Two keys in either order. -/
def twoKeys (swapped : Bool) : Value :=
  have one : Lexical "1".toList :=
    ⟨⟨'1', rfl, .inr rfl⟩, List.forall_iff_forall_mem.mp (by decide)⟩
  have two : Lexical "2".toList :=
    ⟨⟨'2', rfl, .inr rfl⟩, List.forall_iff_forall_mem.mp (by decide)⟩
  if swapped then ⟨.obj [("b", .num "2"), ("a", .num "1")], ⟨two, one, trivial⟩, by decide,
    trivial, trivial, trivial⟩
  else ⟨.obj [("a", .num "1"), ("b", .num "2")], ⟨one, two, trivial⟩, by decide,
    trivial, trivial, trivial⟩

/-- The text of the two keys, and its SHA-256. -/
def twoKeysText : List UInt8 := [123, 34, 97, 34, 58, 49, 44, 34, 98, 34, 58, 50, 125]

def twoKeysDigest : List UInt8 :=
  [0x43, 0x25, 0x8c, 0xff, 0x78, 0x3f, 0xe7, 0x03, 0x6d, 0x8a, 0x43, 0x03, 0x3f, 0x83, 0x0a, 0xdf,
    0xc6, 0x0e, 0xc0, 0x37, 0x38, 0x24, 0x73, 0x54, 0x8a, 0xc7, 0x42, 0xb8, 0x88, 0x29, 0x27, 0x77]

/-- The digest of that text; another text stands for its own. -/
def sampleDigest (text : ByteArray) : List UInt8 :=
  if text.data.toList = twoKeysText then twoKeysDigest
  else List.replicate 33 0 ++ text.data.toList

theorem sampleDigest_injective : Function.Injective sampleDigest := by
  have bytes {a b : ByteArray} (same : a.data.toList = b.data.toList) : a = b :=
    ByteArray.ext (Array.toList_inj.mp same)
  have short : twoKeysDigest.length = 32 := rfl
  intro a b same
  unfold sampleDigest at same
  by_cases first : a.data.toList = twoKeysText
  · by_cases second : b.data.toList = twoKeysText
    · exact bytes (first.trans second.symm)
    · rw [if_pos first, if_neg second] at same
      have lengths := congrArg List.length same
      rw [List.length_append, List.length_replicate] at lengths
      omega
  · by_cases second : b.data.toList = twoKeysText
    · rw [if_neg first, if_pos second] at same
      have lengths := congrArg List.length same
      rw [List.length_append, List.length_replicate] at lengths
      omega
    · rw [if_neg first, if_neg second] at same
      exact bytes (List.append_cancel_left same)

theorem fingerprint_iff_two_keys :
    sampleDigest (hashed (twoKeys true).json) = twoKeysDigest ∧
    (RequestFingerprint.of sampleDigest (fun swapped => some (twoKeys swapped)) true =
      RequestFingerprint.of sampleDigest (fun swapped => some (twoKeys swapped)) false ↔
      Reordered (twoKeys true).json (twoKeys false).json) ∧ Keeps (twoKeys true) :=
  ⟨by decide +kernel, fingerprint_iff sampleDigest_injective rfl rfl⟩

end Requests

end OpenWrapper.CanonicalJson
