import Mathlib.Data.List.DropRight
import Mathlib.Data.Int.Notation

/-! # Text and identifiers

Identifiers are validated strings: a value of `IdempotencyKey` or
`ProviderId` carries the fact that its own parser accepts it. -/

set_option autoImplicit false

namespace OpenWrapper.Ids

section Text

/-- The code points with the Unicode property White_Space. -/
def isWhitespace (c : Char) : Bool :=
  let n := c.toNat
  (9 ≤ n && n ≤ 13) || n == 0x20 || n == 0x85 || n == 0xA0 || n == 0x1680 ||
    (0x2000 ≤ n && n ≤ 0x200A) || n == 0x2028 || n == 0x2029 || n == 0x202F ||
    n == 0x205F || n == 0x3000

def trimStart (s : List Char) : List Char := s.dropWhile isWhitespace

def trimChars (s : List Char) : List Char := (trimStart (trimStart s).reverse).reverse

def trim (s : String) : String := String.ofList (trimChars s.toList)

theorem trimChars_trimChars (s : List Char) : trimChars (trimChars s) = trimChars s := by
  have leading : trimStart (trimChars s) = trimChars s := by
    apply List.dropWhile_eq_self_iff.mpr
    intro nonempty
    have within : trimChars s <+: trimStart s := List.rdropWhile_prefix isWhitespace _
    rw [within.getElem nonempty]
    exact List.dropWhile_get_zero_not isWhitespace s _
  calc trimChars (trimChars s) = (trimStart (trimChars s).reverse).reverse := by
        rw [trimChars, leading]
    _ = trimChars s := List.rdropWhile_idempotent isWhitespace (trimStart s)

@[simp] theorem trim_trim (s : String) : trim (trim s) = trim s := by
  simp only [trim, String.toList_ofList, trimChars_trimChars]

def isBlank (s : String) : Bool := s.toList.all isWhitespace

def stripPrefix (lead s : String) : Option String :=
  if lead.toList.isPrefixOf s.toList then
    some (String.ofList (s.toList.drop lead.toList.length))
  else none

@[simp] theorem stripPrefix_append (lead s : String) : stripPrefix lead (lead ++ s) = some s := by
  simp [stripPrefix]

def startsWith (s lead : String) : Bool := lead.toList.isPrefixOf s.toList

def trimEndMatches (c : Char) (s : String) : String :=
  String.ofList ((s.toList.reverse.dropWhile (· == c)).reverse)

/-- The first of the pieces between separators. -/
def splitFirst (sep : Char) (s : String) : String :=
  String.ofList (s.toList.takeWhile (· != sep))

def parseDigits : ℕ → List Char → Option ℕ
  | n, [] => some n
  | n, c :: rest =>
    if '0' ≤ c ∧ c ≤ '9' then parseDigits (n * 10 + (c.toNat - 48)) rest else none

/-- `str::parse::<i64>`: an optional sign and at least one digit, in range. -/
def parseI64 (s : String) : Option ℤ :=
  let inRange (n : ℤ) : Option ℤ :=
    if -9223372036854775808 ≤ n ∧ n ≤ 9223372036854775807 then some n else none
  match s.toList with
  | [] => none
  | '-' :: rest => if rest.isEmpty then none else (parseDigits 0 rest).bind fun n => inRange (-(n : ℤ))
  | '+' :: rest => if rest.isEmpty then none else (parseDigits 0 rest).bind fun n => inRange n
  | digits => (parseDigits 0 digits).bind fun n => inRange n

def asciiUpper (c : Char) : Char :=
  if 'a' ≤ c ∧ c ≤ 'z' then Char.ofNat (c.toNat - 32) else c

def toAsciiUppercase (s : String) : String := String.ofList (s.toList.map asciiUpper)

end Text

/-- A ULID. -/
structure PaymentId where
  value : ℕ
deriving DecidableEq, Repr

namespace PaymentId

def crockford : List Char := "0123456789ABCDEFGHJKMNPQRSTVWXYZ".toList

def lowerHex : List Char := "0123456789abcdef".toList

def digits (alphabet : List Char) : ℕ → ℕ → List Char
  | 0, _ => []
  | places + 1, n =>
    digits alphabet places (n / alphabet.length) ++
      [alphabet.getD (n % alphabet.length) '0']

/-- The 26 characters of the base 32 text. -/
def display (id : PaymentId) : String := String.ofList (digits crockford 26 id.value)

/-- The sixteen bytes in hexadecimal. -/
def hex (id : PaymentId) : String := String.ofList (digits lowerHex 32 id.value)

end PaymentId

inductive IdParseError where
  | invalidPaymentId
  | invalidIdempotencyKey (why : String)
  | invalidProviderId (why : String)
deriving DecidableEq, Repr

def IdParseError.display : IdParseError → String
  | .invalidPaymentId => "invalid payment id"
  | .invalidIdempotencyKey why => "invalid idempotency key: " ++ why
  | .invalidProviderId why => "invalid provider id: " ++ why

namespace IdempotencyKey

def maxLen : ℕ := 200

def isAsciiGraphic (c : Char) : Bool := 0x21 ≤ c.toNat && c.toNat ≤ 0x7E

def check (raw : String) : Except IdParseError Unit :=
  if raw.toList.isEmpty then .error (.invalidIdempotencyKey "must not be empty")
  else if raw.utf8ByteSize > maxLen then
    .error (.invalidIdempotencyKey "exceeds max length")
  else if !raw.toList.all (fun c => isAsciiGraphic c && c != '"') then
    .error (.invalidIdempotencyKey "must be printable ASCII, no quotes or whitespace")
  else .ok ()

end IdempotencyKey

structure IdempotencyKey where
  asStr : String
  valid : IdempotencyKey.check asStr = .ok ()
deriving DecidableEq

def IdempotencyKey.parse (raw : String) : Except IdParseError IdempotencyKey :=
  match h : IdempotencyKey.check raw with
  | .ok () => .ok ⟨raw, h⟩
  | .error e => .error e

def IdempotencyKey.order : IdempotencyKey := ⟨"order-1", by decide⟩

def IdempotencyKey.secondOrder : IdempotencyKey := ⟨"order-2", by decide⟩

theorem IdempotencyKey.parse_asStr (k : IdempotencyKey) :
    IdempotencyKey.parse k.asStr = .ok k := by
  unfold IdempotencyKey.parse
  split
  · rfl
  next e h => simp [k.valid] at h

theorem IdempotencyKey.asStr_of_parse {raw : String} {k : IdempotencyKey}
    (parsed : IdempotencyKey.parse raw = .ok k) : k.asStr = raw := by
  unfold IdempotencyKey.parse at parsed
  split at parsed
  · cases parsed
    rfl
  · cases parsed

namespace ProviderId

def isLabelChar (c : Char) : Bool := ('a' ≤ c && c ≤ 'z') || ('0' ≤ c && c ≤ '9') || c == '_'

def check (raw : String) : Except IdParseError Unit :=
  if raw.toList.isEmpty || raw.utf8ByteSize > 64 then
    .error (.invalidProviderId "must be 1..=64 bytes")
  else if !raw.toList.all isLabelChar then
    .error (.invalidProviderId "must be lowercase ascii, digits, or underscore")
  else .ok ()

end ProviderId

structure ProviderId where
  asStr : String
  valid : ProviderId.check asStr = .ok ()
deriving DecidableEq

def ProviderId.parse (raw : String) : Except IdParseError ProviderId :=
  match h : ProviderId.check raw with
  | .ok () => .ok ⟨raw, h⟩
  | .error e => .error e

theorem ProviderId.parse_asStr (p : ProviderId) : ProviderId.parse p.asStr = .ok p := by
  unfold ProviderId.parse
  split
  · rfl
  next e h => simp [p.valid] at h

theorem ProviderId.asStr_of_parse {raw : String} {p : ProviderId}
    (parsed : ProviderId.parse raw = .ok p) : p.asStr = raw := by
  unfold ProviderId.parse at parsed
  split at parsed
  · cases parsed
    rfl
  · cases parsed

/-- A text column or argument: the canonical text of a value, or a text its
parser rejects. -/
inductive Text (α : Type) where
  | stored (value : α)
  | corrupt (raw : String)
deriving DecidableEq, Repr

def Text.parse {α : Type} : Text α → Option α
  | .stored a => some a
  | .corrupt _ => none

@[simp] theorem Text.parse_stored {α : Type} (a : α) : (Text.stored a).parse = some a := rfl

@[simp] theorem Text.parse_corrupt {α : Type} (raw : String) :
    (Text.corrupt raw : Text α).parse = none := rfl

theorem Text.parse_eq_some {α : Type} {t : Text α} {a : α} :
    t.parse = some a ↔ t = .stored a := by
  cases t <;> simp

/-- What the service's clock returns: nanoseconds since the Unix epoch. -/
structure Instant where
  nanoseconds : ℤ
deriving DecidableEq, Repr

namespace Instant

def seconds (t : Instant) : ℤ := t.nanoseconds / 1000000000

def subsecond (t : Instant) : ℕ := (t.nanoseconds % 1000000000).toNat

def minus (t : Instant) (duration : ℤ) : Instant := ⟨t.nanoseconds - duration⟩

/-- A `TIMESTAMPTZ` keeps microseconds. -/
def toMicros (t : Instant) : Instant := ⟨t.nanoseconds / 1000 * 1000⟩

/-- The RFC 3339 text of an instant after its seconds field: the nonzero part
of the nine fraction digits behind a point, and the zone letter. -/
def rfc3339Tail (t : Instant) : List Char :=
  let n := t.subsecond
  let digits := [100000000, 10000000, 1000000, 100000, 10000, 1000, 100, 10, 1].map
    fun place => Char.ofNat (n / place % 10 + 48)
  let kept := (digits.reverse.dropWhile (· == '0')).reverse
  (if kept.isEmpty then [] else '.' :: kept) ++ ['Z']

def textBefore : List Char → List Char → Bool
  | _, [] => false
  | [], _ :: _ => true
  | a :: as, b :: bs => a.toNat < b.toNat || (a == b && textBefore as bs)

/-- The order of the RFC 3339 texts, compared as strings. -/
def rfc3339Before (s t : Instant) : Bool :=
  s.seconds < t.seconds ||
    (s.seconds == t.seconds && textBefore s.rfc3339Tail t.rfc3339Tail)

end Instant

end OpenWrapper.Ids
