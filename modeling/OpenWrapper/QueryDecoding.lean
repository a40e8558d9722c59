import OpenWrapper.Adapters
import OpenWrapper.CanonicalJson
import OpenWrapper.Pieces
import OpenWrapper.Utf8Texts

/-! # The query string of a callback

How the gateway reads a query, and what the form encoding of a map is. An index
out of range would end the decoder: it is the absent result. -/

set_option autoImplicit false

namespace OpenWrapper.QueryDecoding
open OpenWrapper.KeyedLists OpenWrapper.Fingerprints OpenWrapper.Fingerprints.Core
open OpenWrapper.CanonicalJson OpenWrapper.Pieces OpenWrapper.Utf8Texts OpenWrapper.Adapters

/-- `BTreeMap<String, String>`. -/
structure StringMap where
  entries : List (String × String)
  sorted : Sorted byUtf8 entries

@[ext] theorem StringMap.ext {m n : StringMap} (same : m.entries = n.entries) : m = n := by
  cases m
  cases n
  cases same
  rfl

/-- `collect`: of two pairs with one key the later stays. -/
def StringMap.collect (pairs : List (String × String)) : StringMap where
  entries := insertAll byUtf8 pairs
  sorted := sorted_insertAll byUtf8_orders pairs

section Decoding

def hexDigit (b : UInt8) : Option UInt8 :=
  if 0x30 ≤ b ∧ b ≤ 0x39 then some (b - 0x30)
  else if 0x61 ≤ b ∧ b ≤ 0x66 then some (b - 0x61 + 10)
  else if 0x41 ≤ b ∧ b ≤ 0x46 then some (b - 0x41 + 10)
  else none

/-- The loop from an index, with what has been put out before it. -/
def decodeFrom (bytes : List UInt8) (i : ℕ) (out : List UInt8) : Option (List UInt8) :=
  if i < bytes.length then
    match bytes[i]? with
    | none => none
    | some b =>
      if b = 0x25 ∧ i + 2 < bytes.length then
        match bytes[i + 1]?, bytes[i + 2]? with
        | some high, some low =>
          match hexDigit high, hexDigit low with
          | some h, some l => decodeFrom bytes (i + 3) (out ++ [(h <<< 4) ||| l])
          | _, _ => decodeFrom bytes (i + 1) (out ++ [b])
        | _, _ => none
      else if b = 0x2B then decodeFrom bytes (i + 1) (out ++ [0x20])
      else decodeFrom bytes (i + 1) (out ++ [b])
  else some out
termination_by bytes.length - i

def urlencodingDecode (s : String) : Option String :=
  (decodeFrom (bytes s) 0 []).map fromUtf8Lossy

def decodePair (pair : List Char) : Option (String × String) := do
  let (k, v) := (splitOnce '=' pair).getD (pair, [])
  let key ← urlencodingDecode (String.ofList k)
  let value ← urlencodingDecode (String.ofList v)
  return (key, value)

def parseQuery (raw : String) : Option StringMap :=
  (((raw.toList.splitOn '&').filter fun pair => !pair.isEmpty).mapM decodePair).map
    StringMap.collect

end Decoding

section Encoding

/-- Either digit of this value. -/
def HexDigit (n : ℕ) (c : Char) : Prop :=
  c = Hexadecimal.digit n ∨ c = upperHex n

/-- How a byte may be written: as itself, if it is of a character of ASCII with no
meaning of its own, as the plus that stands for a blank, or by two digits. -/
inductive WritesByte : UInt8 → List Char → Prop where
  | plain {c : Char} (ascii : c.toNat < 0x80) (free : c ∉ ['%', '+', '&', '=']) :
      WritesByte (UInt8.ofNat c.toNat) [c]
  | plus : WritesByte 0x20 ['+']
  | escaped {b : UInt8} {high low : Char} (first : HexDigit (b.toNat / 16) high)
      (second : HexDigit (b.toNat % 16) low) : WritesByte b ['%', high, low]

inductive WritesBytes : List UInt8 → List Char → Prop where
  | nil : WritesBytes [] []
  | cons {b : UInt8} {bs : List UInt8} {text rest : List Char} (first : WritesByte b text)
      (more : WritesBytes bs rest) : WritesBytes (b :: bs) (text ++ rest)

/-- A key and its value, both written byte by byte. -/
def WritesEntry (entry : String × String) (text : List Char) : Prop :=
  ∃ key value, WritesBytes (bytes entry.1) key ∧ WritesBytes (bytes entry.2) value ∧
    text = key ++ '=' :: value

/-- The text is a form encoding of the map, its entries in any order. -/
def FormEncodes (m : StringMap) (raw : String) : Prop :=
  ∃ entries texts, entries.Perm m.entries ∧ List.Forall₂ WritesEntry entries texts ∧
    raw = String.ofList (['&'].intercalate texts)

/-- The encoding the adapters' own encoder gives. -/
def formEncoding (m : StringMap) : String :=
  String.ofList (['&'].intercalate (m.entries.map fun entry =>
    (encodeUrlComponent entry.1).toList ++ '=' :: (encodeUrlComponent entry.2).toList))

end Encoding

section Loop

variable {b : UInt8} {rest out : List UInt8} {i : ℕ}

/-- What the loop puts out for what is left of the bytes. -/
def decoded : List UInt8 → List UInt8
  | [] => []
  | b :: rest =>
    if b = 0x25 then
      match rest with
      | high :: low :: rest' =>
        match hexDigit high, hexDigit low with
        | some h, some l => ((h <<< 4) ||| l) :: decoded rest'
        | _, _ => b :: decoded (high :: low :: rest')
      | rest => b :: decoded rest
    else if b = 0x2B then 0x20 :: decoded rest
    else b :: decoded rest

theorem decoded_plain (notPercent : b ≠ 0x25) (notPlus : b ≠ 0x2B) :
    decoded (b :: rest) = b :: decoded rest := by
  rcases rest with _ | ⟨high, _ | ⟨low, rest⟩⟩
  · simp [decoded, notPercent, notPlus]
  · simp [decoded, notPercent, notPlus]
  · simp [decoded, notPercent, notPlus]

theorem decoded_plus : decoded (0x2B :: rest) = 0x20 :: decoded rest := by
  rcases rest with _ | ⟨high, _ | ⟨low, rest⟩⟩
  · rfl
  · rfl
  · rfl

theorem decoded_escape {high low h l : UInt8} (first : hexDigit high = some h)
    (second : hexDigit low = some l) :
    decoded (0x25 :: high :: low :: rest) = ((h <<< 4) ||| l) :: decoded rest := by
  rw [decoded, if_pos rfl, first, second]

theorem decoded_percent {high low : UInt8}
    (not_ : ∀ h l, hexDigit high = some h → hexDigit low ≠ some l) :
    decoded (0x25 :: high :: low :: rest) = 0x25 :: decoded (high :: low :: rest) := by
  rw [decoded, if_pos rfl]
  split
  next h l first second => exact absurd second (not_ h l first)
  · rfl

theorem decoded_short (short : rest.length < 2) :
    decoded (0x25 :: rest) = 0x25 :: decoded rest := by
  rcases rest with _ | ⟨high, _ | ⟨low, rest⟩⟩
  · rfl
  · rfl
  · simp only [List.length_cons] at short
    omega

theorem decoded_eq_self {bs : List UInt8} (noPercent : 0x25 ∉ bs) (noPlus : 0x2B ∉ bs) :
    decoded bs = bs := by
  induction bs with
  | nil => rfl
  | cons b rest ih =>
    simp only [List.mem_cons, not_or] at noPercent noPlus
    rw [decoded_plain (Ne.symm noPercent.1) (Ne.symm noPlus.1), ih noPercent.2 noPlus.2]

/-- The loop never leaves the bytes, and it comes to their end. -/
theorem decodeFrom_eq (bytes : List UInt8) (i : ℕ) (out : List UInt8) :
    decodeFrom bytes i out = some (out ++ decoded (bytes.drop i)) := by
  generalize left : bytes.length - i = n
  induction n using Nat.strong_induction_on generalizing i out with
  | _ n ih =>
    rw [decodeFrom]
    split
    next inside =>
      have here : bytes.drop i = bytes[i] :: bytes.drop (i + 1) := List.drop_eq_getElem_cons inside
      have next (out : List UInt8) := ih (bytes.length - (i + 1)) (by omega) (i + 1) out rfl
      rw [List.getElem?_eq_getElem inside, here]
      dsimp only
      generalize bytes[i] = b
      split
      next percent =>
        obtain ⟨rfl, room⟩ := percent
        have second : bytes.drop (i + 1) = bytes[i + 1] :: bytes.drop (i + 2) :=
          List.drop_eq_getElem_cons (by omega)
        have third : bytes.drop (i + 2) = bytes[i + 2] :: bytes.drop (i + 3) :=
          List.drop_eq_getElem_cons room
        rw [List.getElem?_eq_getElem (by omega), List.getElem?_eq_getElem room]
        dsimp only
        split
        next h l high low =>
          rw [ih (bytes.length - (i + 3)) (by omega) (i + 3) _ rfl, second, third,
            decoded_escape high low, List.append_assoc, List.singleton_append]
        next neither =>
          rw [next, second, third, decoded_percent neither, List.append_assoc,
            List.singleton_append]
      next notEscape =>
        split
        next plus => rw [next, plus, decoded_plus, List.append_assoc, List.singleton_append]
        next notPlus =>
          rw [next, List.append_assoc, List.singleton_append]
          by_cases percent : b = 0x25
          · have short : (bytes.drop (i + 1)).length < 2 := by
              rw [List.length_drop]
              have room : ¬ i + 2 < bytes.length := fun room => notEscape ⟨percent, room⟩
              omega
            rw [percent, decoded_short short]
          · rw [decoded_plain percent notPlus]
    next outside =>
      rw [List.drop_eq_nil_of_le (by omega), decoded, List.append_nil]

theorem urlencodingDecode_eq (s : String) :
    urlencodingDecode s = some (fromUtf8Lossy (decoded (bytes s))) := by
  rw [urlencodingDecode, decodeFrom_eq]
  rfl

end Loop

section Components

variable {b : UInt8} {bs : List UInt8} {text : List Char} {s : String}

theorem encode_ascii {c : Char} (ascii : c.toNat < 0x80) :
    String.utf8EncodeChar c = [UInt8.ofNat c.toNat] := by
  have first : c.val.toNat ≤ 0x7F := Nat.le_of_lt_succ ascii
  exact if_pos first

theorem encode_digit {n : ℕ} {c : Char} (small : n < 16) (digit : HexDigit n c) :
    ∃ d, String.utf8EncodeChar c = [d] ∧ hexDigit d = some (UInt8.ofNat n) := by
  have lower : ∀ n < 16, hexDigit (UInt8.ofNat (Hexadecimal.digit n).toNat) =
      some (UInt8.ofNat n) ∧ (Hexadecimal.digit n).toNat < 0x80 := by decide
  have upper : ∀ n < 16, hexDigit (UInt8.ofNat (upperHex n).toNat) = some (UInt8.ofNat n) ∧
      (upperHex n).toNat < 0x80 := by decide
  rcases digit with rfl | rfl
  · exact ⟨_, encode_ascii (lower n small).2, (lower n small).1⟩
  · exact ⟨_, encode_ascii (upper n small).2, (upper n small).1⟩

theorem nibbles (b : UInt8) :
    (UInt8.ofNat (b.toNat / 16) <<< 4) ||| UInt8.ofNat (b.toNat % 16) = b := by
  have small := b.toNat_lt
  have high : (UInt8.ofNat (b.toNat / 16)).toNat = b.toNat / 16 := byte_toNat (by omega)
  have low : (UInt8.ofNat (b.toNat % 16)).toNat = b.toNat % 16 := byte_toNat (by omega)
  have four : (4 : UInt8).toNat % 8 = 4 := rfl
  have joined := Nat.shiftLeft_add_eq_or_of_lt (b := b.toNat % 16) (i := 4) (by omega)
    (b.toNat / 16)
  rw [Nat.shiftLeft_eq] at joined
  apply UInt8.toNat_inj.mp
  rw [UInt8.toNat_or, UInt8.toNat_shiftLeft, high, low, four, Nat.shiftLeft_eq,
    Nat.mod_eq_of_lt (by omega), ← joined]
  omega

/-- A byte is read back, whatever follows it. -/
theorem decoded_byte (writes : WritesByte b text) (rest : List UInt8) :
    decoded (text.flatMap String.utf8EncodeChar ++ rest) = b :: decoded rest := by
  cases writes with
  | @plain c ascii free =>
    have apart (d : Char) (reserved : d ∈ ['%', '+', '&', '=']) (small : d.toNat < 0x80) :
        UInt8.ofNat c.toNat ≠ UInt8.ofNat d.toNat := by
      intro same
      have code := congrArg UInt8.toNat same
      rw [byte_toNat (by omega), byte_toNat (by omega)] at code
      have is : c = d := by rw [← Char.ofNat_toNat c, code, Char.ofNat_toNat]
      exact free (is ▸ reserved)
    rw [List.flatMap_singleton, encode_ascii ascii, List.singleton_append]
    exact decoded_plain (apart '%' (by simp) (by decide)) (apart '+' (by simp) (by decide))
  | plus => exact decoded_plus
  | @escaped _ high low first second =>
    have small := b.toNat_lt
    obtain ⟨h, is, value⟩ := encode_digit (by omega) first
    obtain ⟨l, is', value'⟩ := encode_digit (by omega) second
    rw [List.flatMap_cons, List.flatMap_cons, List.flatMap_singleton, is, is']
    refine (decoded_escape value value').trans ?_
    rw [nibbles]
    rfl

theorem decoded_bytes (writes : WritesBytes bs text) :
    decoded (text.flatMap String.utf8EncodeChar) = bs := by
  induction writes with
  | nil => rfl
  | cons first more ih => rw [List.flatMap_append, decoded_byte first, ih]

/-- A component is read as what was written. -/
theorem urlencodingDecode_written (writes : WritesBytes (bytes s) text) :
    urlencodingDecode (String.ofList text) = some s := by
  rw [urlencodingDecode_eq, bytes_eq (String.ofList text), String.toList_ofList,
    decoded_bytes writes, fromUtf8Lossy_bytes]

theorem byte_free (writes : WritesByte b text) : '&' ∉ text ∧ '=' ∉ text := by
  cases writes with
  | plain ascii free =>
    simp only [List.mem_cons, List.not_mem_nil, or_false, not_or] at free ⊢
    exact ⟨Ne.symm free.2.2.1, Ne.symm free.2.2.2⟩
  | plus => decide
  | @escaped _ high low first second =>
    have small := b.toNat_lt
    have digit {n : ℕ} {c : Char} (under : n < 16) (is : HexDigit n c) : '&' ≠ c ∧ '=' ≠ c := by
      have lower : ∀ n < 16, '&' ≠ Hexadecimal.digit n ∧ '=' ≠ Hexadecimal.digit n := by decide
      have upper : ∀ n < 16, '&' ≠ upperHex n ∧ '=' ≠ upperHex n := by decide
      rcases is with rfl | rfl
      · exact lower n under
      · exact upper n under
    have one := digit (by omega) first
    have two := digit (by omega) second
    simp [one.1, one.2, two.1, two.2]

theorem bytes_free (writes : WritesBytes bs text) : '&' ∉ text ∧ '=' ∉ text := by
  induction writes with
  | nil => decide
  | cons first more ih =>
    have head := byte_free first
    simp [head.1, head.2, ih.1, ih.2]

end Components

section Maps

variable {m : StringMap} {entries : List (String × String)} {texts : List (List Char)}

theorem decodePair_written {entry : String × String} {text : List Char}
    (writes : WritesEntry entry text) : decodePair text = some entry := by
  obtain ⟨key, value, writesKey, writesValue, rfl⟩ := writes
  simp [decodePair, splitOnce_append (bytes_free writesKey).2, urlencodingDecode_written writesKey,
    urlencodingDecode_written writesValue]

theorem mapM_written (written : List.Forall₂ WritesEntry entries texts) :
    texts.mapM decodePair = some entries := by
  induction written with
  | nil => rfl
  | cons first more ih =>
    rw [List.mapM_cons, decodePair_written first, ih]
    rfl

theorem entry_apart {entry : String × String} {text : List Char} (writes : WritesEntry entry text) :
    '&' ∉ text ∧ text ≠ [] := by
  obtain ⟨key, value, writesKey, writesValue, rfl⟩ := writes
  simp [(bytes_free writesKey).1, (bytes_free writesValue).1]

theorem pairs_written (written : List.Forall₂ WritesEntry entries texts) :
    ((['&'].intercalate texts).splitOn '&').filter (fun pair => !pair.isEmpty) = texts := by
  have apart : ∀ text ∈ texts, '&' ∉ text ∧ text ≠ [] := by
    induction written with
    | nil => simp
    | cons first more ih => exact List.forall_mem_cons.mpr ⟨entry_apart first, ih⟩
  by_cases none_ : texts = []
  · rw [none_]
    rfl
  · rw [List.splitOn_intercalate '&' (fun text mem => (apart text mem).1) none_]
    apply List.filter_eq_self.mpr
    intro text mem
    simpa using (apart text mem).2

/-- A map is collected from its entries in any order. -/
theorem collect_perm (same : entries.Perm m.entries) : StringMap.collect entries = m := by
  have nodup := m.sorted.nodup byUtf8_orders
  have nodup' : (keys entries).Nodup := (same.map Prod.fst).nodup_iff.mpr nodup
  have asymm (a b : String) (is : byUtf8 a b = true) : ¬ byUtf8 b a = true := by
    rw [byUtf8_orders.asymm a b is]
    decide
  have held := holds_of_nodup nodup
  apply StringMap.ext
  exact eq_of_holds asymm (held.perm ((insertAll_perm byUtf8_orders nodup').trans same)) held
    (sorted_insertAll byUtf8_orders entries) m.sorted

theorem parseQuery_encoded {raw : String} (encodes : FormEncodes m raw) :
    parseQuery raw = some m := by
  obtain ⟨entries, texts, same, written, rfl⟩ := encodes
  rw [parseQuery, String.toList_ofList, pairs_written written, mapM_written written,
    Option.map_some, collect_perm same]

end Maps

section Encoder

theorem encodeByte_written (b : UInt8) : WritesByte b (encodeByte b) := by
  have small := b.toNat_lt
  unfold encodeByte
  simp only
  split
  next blank =>
    have is : b = 0x20 := UInt8.toNat_inj.mp (by simpa using blank)
    rw [is]
    exact .plus
  · split
    next literal =>
      simp only [Bool.or_eq_true, Bool.and_eq_true, decide_eq_true_eq, beq_iff_eq] at literal
      have valid : b.toNat.isValidChar := .inl (by omega)
      have code : (Char.ofNat b.toNat).toNat = b.toNat := by
        rw [Char.ofNat, dif_pos valid]
        rfl
      have free : Char.ofNat b.toNat ∉ ['%', '+', '&', '='] := by
        intro reserved
        have codes : (Char.ofNat b.toNat).toNat ∈ [0x25, 0x2B, 0x26, 0x3D] :=
          List.mem_map_of_mem (f := Char.toNat) reserved
        rw [code] at codes
        simp only [List.mem_cons, List.not_mem_nil, or_false] at codes
        omega
      have plain := WritesByte.plain (c := Char.ofNat b.toNat) (by omega) free
      rwa [code, UInt8.ofNat_toNat] at plain
    · exact .escaped (.inr rfl) (.inr rfl)

theorem encodeUrlComponent_written (s : String) :
    WritesBytes (bytes s) (encodeUrlComponent s).toList := by
  rw [encodeUrlComponent, String.toList_ofList]
  show WritesBytes (bytes s) ((bytes s).flatMap encodeByte)
  induction bytes s with
  | nil => exact .nil
  | cons b rest ih =>
    rw [List.flatMap_cons]
    exact .cons (encodeByte_written b) ih

theorem formEncoding_encodes (m : StringMap) : FormEncodes m (formEncoding m) := by
  refine ⟨m.entries, _, List.Perm.refl _, ?_, rfl⟩
  induction m.entries with
  | nil => exact .nil
  | cons entry rest ih =>
    have written : WritesEntry entry _ :=
      ⟨_, _, encodeUrlComponent_written entry.1, encodeUrlComponent_written entry.2, rfl⟩
    exact .cons written ih

end Encoder

section Plain

/-- A text with nothing to decode is left as it is. -/
theorem urlencodingDecode_plain {s : String} (noPercent : '%' ∉ s.toList)
    (noPlus : '+' ∉ s.toList) : urlencodingDecode s = some s := by
  have absent (c : Char) (ascii : c.toNat < 0x80) (no : c ∉ s.toList) :
      UInt8.ofNat c.toNat ∉ bytes s := by
    intro mem
    rw [bytes_eq] at mem
    obtain ⟨d, listed, within⟩ := List.mem_flatMap.mp mem
    have code := toNat_of_mem within (by rw [byte_toNat (by omega)]; exact ascii)
    rw [byte_toNat (by omega)] at code
    have is : d = c := by rw [← Char.ofNat_toNat d, code, Char.ofNat_toNat]
    exact no (is ▸ listed)
  have kept : decoded (bytes s) = bytes s :=
    decoded_eq_self (absent '%' (by decide) noPercent) (absent '+' (by decide) noPlus)
  rw [urlencodingDecode_eq, kept, fromUtf8Lossy_bytes]

end Plain

/-- A query is read as the map it encodes, whichever encoding of it that is, and
no text is beyond the decoder. -/
theorem query_decoding :
    (∀ (m : StringMap) (raw : String), FormEncodes m raw → parseQuery raw = some m) ∧
      (∀ m : StringMap, parseQuery (formEncoding m) = some m) ∧
      (∀ s, ∃ text, urlencodingDecode s = some text) ∧
      ∀ s : String, '%' ∉ s.toList → '+' ∉ s.toList → urlencodingDecode s = some s := by
  refine ⟨?_, ?_, ?_, ?_⟩
  · intro m raw encodes
    exact parseQuery_encoded encodes
  · intro m
    exact parseQuery_encoded (formEncoding_encodes m)
  · intro s
    exact ⟨_, urlencodingDecode_eq s⟩
  · intro s noPercent noPlus
    exact urlencodingDecode_plain noPercent noPlus

/-- A query of one entry, written with more escapes than it needs. -/
def signed : StringMap := .collect [("id", "7 8")]

theorem signed_encoded : FormEncodes signed "id=%37%208" := by
  have key : WritesBytes (bytes "id") (['i'] ++ (['d'] ++ [])) :=
    .cons (.plain (c := 'i') (by decide) (by decide))
      (.cons (.plain (c := 'd') (by decide) (by decide)) .nil)
  have value : WritesBytes (bytes "7 8")
      (['%', '3', '7'] ++ (['%', '2', '0'] ++ (['8'] ++ []))) :=
    .cons (.escaped (b := 0x37) (.inl (by decide)) (.inl (by decide)))
      (.cons (.escaped (b := 0x20) (.inl (by decide)) (.inl (by decide)))
        (.cons (.plain (c := '8') (by decide) (by decide)) .nil))
  refine ⟨[("id", "7 8")], [_], List.Perm.refl _, .cons ⟨_, _, key, value, rfl⟩ .nil, ?_⟩
  decide

theorem signed_decoded : parseQuery "id=%37%208" = some signed ∧
    urlencodingDecode "100" = some "100" :=
  ⟨query_decoding.1 signed _ signed_encoded, query_decoding.2.2.2 "100" (by decide) (by decide)⟩

end OpenWrapper.QueryDecoding
