import OpenWrapper.Hexadecimal
import OpenWrapper.Ids
import OpenWrapper.JavaScript
import OpenWrapper.MachineIntegers
import OpenWrapper.Pieces
import OpenWrapper.SafeIntegers

/-! # The signature of an outbound webhook

`X-OpenWrapper-Signature` as the gateway writes it, and the four functions that
verify it. Each splits the header at its commas and every item at `=`, and keeps
the last timestamp and all signatures; what they trim, how they read a timestamp
and how they compare a signature is each platform's own. -/

set_option autoImplicit false

namespace OpenWrapper.OutboundSignatures
open OpenWrapper.Doubles OpenWrapper.Hexadecimal OpenWrapper.Ids OpenWrapper.MachineIntegers
open OpenWrapper.Pieces OpenWrapper.SafeIntegers

section Data

/-- HMAC-SHA256 of a message under a secret. -/
structure Hmac where
  sha256 : String → String → List UInt8
  size : ∀ secret message, (sha256 secret message).length = 32

/-- The seconds that every clock can tell: those of `DateTimeOffset`. -/
structure Clock where
  now : ℤ
  told : -62135596800 ≤ now ∧ now ≤ 253402300799

/-- The tolerances that every verifier can be given: those of `int`. -/
structure Tolerance where
  seconds : ℤ
  given : -2147483648 ≤ seconds ∧ seconds ≤ 2147483647

/-- The timestamp and the signatures of a header. -/
structure Found (τ : Type) where
  timestamp : Option τ
  signatures : List (List Char)

variable {τ : Type}

def step (fields : List Char → Option (List Char × List Char)) (parse : List Char → Option τ)
    (found : Found τ) (item : List Char) : Found τ :=
  match fields item with
  | none => found
  | some (key, value) =>
    if key = ['t'] then { found with timestamp := (parse value).or found.timestamp }
    else if key = ['v', '1'] then { found with signatures := found.signatures ++ [value] }
    else found

def scan (fields : List Char → Option (List Char × List Char)) (parse : List Char → Option τ)
    (items : List (List Char)) : Found τ :=
  items.foldl (step fields parse) ⟨none, []⟩

/-- Both sides of the first `=`, trimmed. -/
def trimmedSides (blank : Char → Bool) (item : List Char) : Option (List Char × List Char) :=
  (splitOnce '=' item).map fun sides => (trimBy blank sides.1, trimBy blank sides.2)

/-- An integer may have a sign before it. -/
def withSign (read : Bool → List Char → Option ℤ) : List Char → Option ℤ
  | '-' :: rest => read true rest
  | '+' :: rest => read false rest
  | cs => read false cs

def signed (h : Hmac) (secret timestamp payload : String) : List Char :=
  encodeChars (h.sha256 secret (timestamp ++ "." ++ payload))

end Data

namespace Gateway

def computeSignature (h : Hmac) (secret : String) (timestamp : ℤ) (payload : String) : String :=
  String.ofList (signed h secret (toString timestamp) payload)

def createSignatureHeader (h : Hmac) (secret : String) (timestamp : ℤ) (payload : String) : String :=
  "t=" ++ toString timestamp ++ ",v1=" ++ computeSignature h secret timestamp payload

def fields : List Char → Option (List Char × List Char) := trimmedSides isWhitespace

/-- `parse::<i64>`. -/
def parse (value : List Char) : Option ℤ := parseI64 (String.ofList value)

/-- The difference and its absolute value wrap around. -/
def distance (now timestamp : ℤ) : ℤ := i64.wrap |i64.wrap (now - timestamp)|

def verifySignature (h : Hmac) (clock : Clock) (secret header payload : String)
    (tolerance : Tolerance) : Except String Unit :=
  let found := scan fields parse (header.toList.splitOn ',')
  match found.timestamp with
  | none => .error "missing timestamp in signature header"
  | some timestamp =>
    if found.signatures.isEmpty then .error "missing v1 signature in header"
    else if 0 < tolerance.seconds ∧ tolerance.seconds < distance clock.now timestamp then
      .error "timestamp outside tolerance window"
    else
      match decode (computeSignature h secret timestamp payload) with
      | none => .error "invalid expected hex"
      | some expected =>
        if found.signatures.any fun candidate => decodeChars candidate == some expected then .ok ()
        else .error "signature mismatch"

end Gateway

namespace TypeScript

/-- `split("=")` of an item with one `=`. -/
def fields (item : List Char) : Option (List Char × List Char) :=
  match item.splitOn '=' with
  | [key, value] => some (trimBy JavaScript.isSpace key, trimBy JavaScript.isSpace value)
  | _ => none

def digitsPrefix (negative : Bool) (cs : List Char) : Option ℤ :=
  if cs.takeWhile Char.isDigit = [] then none
  else
    let n : ℤ := digitsValue (cs.takeWhile Char.isDigit)
    some (if negative then -n else n)

/-- The integer that `parseInt(value, 10)` reads; none is `NaN`. -/
def parseInt (value : List Char) : Option ℤ :=
  withSign digitsPrefix (value.dropWhile JavaScript.isSpace)

/-- How the number that is read for an integer is printed. -/
def numberText (n : ℤ) : String := (toDouble ⟨decide (n < 0), n.natAbs, 0⟩).toText

/-- The number that is read for an integer. -/
def number (n : ℤ) : ℤ := if n < 0 then -(toNumber n.natAbs : ℤ) else toNumber n.natAbs

/-- `Math.abs(now - timestamp)`. -/
def distance (now timestamp : ℤ) : ℤ := toNumber (now - number timestamp).natAbs

/-- `Buffer.from(s, "hex")` ends before the first pair that is not hexadecimal. -/
def fromHex : List Char → List UInt8
  | high :: low :: rest =>
    match digitValue high, digitValue low with
    | some h, some l => UInt8.ofNat (16 * h + l) :: fromHex rest
    | _, _ => []
  | _ => []

/-- Zero of either sign counts as no timestamp. -/
def verifySignature (h : Hmac) (clock : Clock) (payload header secret : String)
    (tolerance : Tolerance) : Bool :=
  let found := scan fields (fun value => some (parseInt value)) (header.toList.splitOn ',')
  match found.timestamp.join with
  | none => false
  | some timestamp =>
    if number timestamp = 0 ∨ found.signatures.isEmpty = true then false
    else if 0 < tolerance.seconds ∧ tolerance.seconds < distance clock.now timestamp then false
    else
      let expected := fromHex (signed h secret (numberText timestamp) payload)
      found.signatures.any fun sig => fromHex sig == expected

end TypeScript

namespace Php

/-- What `trim` removes. -/
def isBlank (c : Char) : Bool :=
  c == ' ' || c == '\n' || c == '\r' || c == '\t' || c.toNat == 11 || c.toNat == 0

def fields (item : List Char) : Option (List Char × List Char) :=
  trimmedSides isBlank (trimBy isBlank item)

/-- What may stand around a numeric string. -/
def isNumericBlank (c : Char) : Bool := c == ' ' || (9 ≤ c.toNat && c.toNat ≤ 13)

/-- An integer that is out of range becomes the nearest one. -/
def saturated (n : ℤ) : ℤ := max (-9223372036854775808) (min n 9223372036854775807)

/-- A double becomes an integer towards zero. -/
def truncated : Double → ℤ
  | .infinite negative => if negative then -9223372036854775808 else 9223372036854775807
  | .finite negative m q =>
    let n : ℤ := ((scaled m 2 q).1 / (scaled m 2 q).2 : ℕ)
    saturated (if negative then -n else n)

/-- Digits, a point with digits on one of its sides, an exponent: all but the
digits make the number a float. -/
def readNumber (negative : Bool) (cs : List Char) : Option ℤ :=
  let whole := cs.takeWhile Char.isDigit
  match cs.dropWhile Char.isDigit with
  | [] =>
    if whole = [] then none
    else some (saturated (if negative then -(digitsValue whole : ℤ) else digitsValue whole))
  | '.' :: rest =>
    let fraction := rest.takeWhile Char.isDigit
    if whole = [] ∧ fraction = [] then none
    else (readExponent (rest.dropWhile Char.isDigit)).map fun e =>
      truncated (toDouble ⟨negative, digitsValue (whole ++ fraction), e - fraction.length⟩)
  | tail =>
    if whole = [] then none
    else (readExponent tail).map fun e => truncated (toDouble ⟨negative, digitsValue whole, e⟩)

/-- `(int)` of a string that `is_numeric`. -/
def parse (value : List Char) : Option ℤ := withSign readNumber (trimBy isNumericBlank value)

/-- A difference that is no integer is a float far beyond the tolerances. -/
def verifySignature (h : Hmac) (clock : Clock) (payload header secret : String)
    (tolerance : Tolerance) : Bool :=
  if payload = "" ∨ header = "" ∨ secret = "" then false
  else
    let found := scan fields parse (header.toList.splitOn ',')
    match found.timestamp with
    | none => false
    | some timestamp =>
      if found.signatures.isEmpty then false
      else if 0 < tolerance.seconds ∧ tolerance.seconds < |clock.now - timestamp| then false
      else
        let expected := signed h secret (toString timestamp) payload
        found.signatures.any fun sig => sig == expected

end Php

namespace DotNet

def items (header : List Char) : List (List Char) :=
  ((header.splitOn ',').map (trimBy isWhitespace)).filter (· ≠ [])

def fields : List Char → Option (List Char × List Char) := trimmedSides isWhitespace

def isWhite (c : Char) : Bool := c == ' ' || (9 ≤ c.toNat && c.toNat ≤ 13)

def readInteger (negative : Bool) (cs : List Char) : Option ℤ :=
  let digits := cs.takeWhile Char.isDigit
  let rest := (cs.dropWhile Char.isDigit).dropWhile isWhite
  let n : ℤ := if negative then -(digitsValue digits : ℤ) else digitsValue digits
  if digits ≠ [] ∧ rest.all (·.toNat == 0) = true ∧ i64.Fits n then some n else none

/-- `long.TryParse` under the invariant culture; blanks and then zero characters
may end the text. -/
def parse (value : List Char) : Option ℤ := withSign readInteger (value.dropWhile isWhite)

/-- The difference wraps around, and the least integer has no absolute value. -/
def distance (now timestamp : ℤ) : Option ℤ :=
  let difference := i64.wrap (now - timestamp)
  if difference = i64.least then none else some |difference|

/-- `none` is an `OverflowException`. -/
def verifySignature (h : Hmac) (clock : Clock) (payload header secret : String)
    (tolerance : Tolerance) : Option Bool :=
  if payload = "" ∨ header = "" ∨ secret = "" then some false
  else
    let found := scan fields parse (items header.toList)
    match found.timestamp with
    | none => some false
    | some timestamp =>
      if found.signatures.isEmpty then some false
      else
        let compared : Bool :=
          match decodeChars (signed h secret (toString timestamp) payload) with
          | none => false
          | some expected => found.signatures.any fun sig => decodeChars sig == some expected
        if 0 < tolerance.seconds then
          (distance clock.now timestamp).map fun distance =>
            if tolerance.seconds < distance then false else compared
        else some compared

end DotNet

end OpenWrapper.OutboundSignatures
