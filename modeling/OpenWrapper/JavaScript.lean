import OpenWrapper.JsonValue
import Mathlib.Algebra.Ring.Nat

/-! # JavaScript's reading of JSON

Truth values, `||`, `String(…)`, member access and the changes of case, on the
values a parsed document can hold. `undefined` is the absent value; an access
or a conversion that throws is `none`. How a number is printed is left open:
it is a function of its numeral. -/

set_option autoImplicit false

namespace OpenWrapper.JavaScript
open OpenWrapper.JsonValue

abbrev Value := Option Json

/-- What an expression ends in: a value, or an exception. -/
abbrev Throws (α : Type) := Option α

section Strings

/-- `ToLowerCase` of the code points whose image has ASCII letters; a word of
ASCII letters comes from no other. -/
def lowerChar (c : Char) : List Char :=
  if 'A' ≤ c ∧ c ≤ 'Z' then [Char.ofNat (c.toNat + 32)]
  else if c = '\u212A' then ['k']
  else if c = '\u0130' then ['i', '\u0307']
  else [c]

def toLowerCase (s : String) : String := String.ofList (s.toList.flatMap lowerChar)

/-- `ToUpperCase` of the code points whose image has ASCII letters. -/
def upperChar (c : Char) : List Char :=
  if 'a' ≤ c ∧ c ≤ 'z' then [Char.ofNat (c.toNat - 32)]
  else match c with
    | '\u0131' => ['I']
    | '\u017F' => ['S']
    | '\u00DF' => ['S', 'S']
    | '\u0149' => ['\u02BC', 'N']
    | '\u01F0' => ['J', '\u030C']
    | '\u1E96' => ['H', '\u0331']
    | '\u1E97' => ['T', '\u0308']
    | '\u1E98' => ['W', '\u030A']
    | '\u1E99' => ['Y', '\u030A']
    | '\u1E9A' => ['A', '\u02BE']
    | '\uFB00' => ['F', 'F']
    | '\uFB01' => ['F', 'I']
    | '\uFB02' => ['F', 'L']
    | '\uFB03' => ['F', 'F', 'I']
    | '\uFB04' => ['F', 'F', 'L']
    | '\uFB05' => ['S', 'T']
    | '\uFB06' => ['S', 'T']
    | _ => [c]

def toUpperCase (s : String) : String := String.ofList (s.toList.flatMap upperChar)

/-- `length`: the number of UTF-16 code units. -/
def utf16Length (s : String) : ℕ :=
  (s.toList.map fun c => if c.toNat < 0x10000 then 1 else 2).sum

def endsWith (s tail : String) : Bool := tail.toList.reverse.isPrefixOf s.toList.reverse

/-- `s.slice(n)` of a string of which the first `n` characters are ASCII. -/
def sliceFrom (s : String) (n : ℕ) : String := String.ofList (s.toList.drop n)

/-- `WhiteSpace` and `LineTerminator`. -/
def isSpace (c : Char) : Bool :=
  let n := c.toNat
  (9 ≤ n && n ≤ 13) || n == 0x20 || n == 0xA0 || n == 0x1680 || (0x2000 ≤ n && n ≤ 0x200A) ||
    n == 0x2028 || n == 0x2029 || n == 0x202F || n == 0x205F || n == 0x3000 || n == 0xFEFF

/-- `s.trim()`. -/
def trimmed (s : String) : String :=
  String.ofList ((s.toList.dropWhile isSpace).reverse.dropWhile isSpace).reverse

/-- `s.includes(part)`. -/
def includes (s part : String) : Bool :=
  s.toList.tails.any fun rest => part.toList.isPrefixOf rest

/-- `s.split(separator)` for a separator of one character. -/
def splitOn (separator : Char) (s : String) : List String :=
  (s.toList.splitOn separator).map String.ofList

def asciiLower (c : Char) : Char :=
  if 'A' ≤ c ∧ c ≤ 'Z' then Char.ofNat (c.toNat + 32) else c

/-- A match of a word of ASCII letters under the flag `i`. -/
def includesIgnoreCase (s word : String) : Bool :=
  includes (String.ofList (s.toList.map asciiLower)) word

end Strings

/-- `a || b` on strings, `undefined` and `null` being the absent string. -/
def orElse (a : Option String) (b : Option String) : Option String :=
  match a with
  | some s => if s = "" then b else some s
  | none => b

/-- The string that is there and not empty. -/
def nonEmpty (a : Option String) : Option String := a.filter (· != "")

section Values

variable (numberText : String → String)

mutual

/-- `String(v)`. An object converts unless a member shadows its method. -/
def text : Json → Throws String
  | .null => some "null"
  | .bool b => some (if b then "true" else "false")
  | .num numeral => some (numberText numeral)
  | .str s => some s
  | .arr items => (elements items).map (String.intercalate ",")
  | .obj members =>
    if members.any fun member => member.1 == "toString" then none else some "[object Object]"

/-- The elements as `join` prints them. -/
def elements : List Json → Throws (List String)
  | [] => some []
  | .null :: rest => (elements rest).map ("" :: ·)
  | item :: rest => (text item).bind fun first => (elements rest).map (first :: ·)

end

def string : Value → Throws String
  | none => some "undefined"
  | some v => text numberText v

def truthy : Value → Bool
  | none => false
  | some .null => false
  | some (.bool b) => b
  | some (.num numeral) => numberText numeral != "0"
  | some (.str s) => s != ""
  | some (.arr _) => true
  | some (.obj _) => true

/-- `a || b`. -/
def either (a b : Value) : Value := if truthy numberText a then a else b

end Values

/-- `v.name`; nothing can be read from `undefined` and `null`. -/
def member (name : String) : Value → Throws Value
  | none => none
  | some .null => none
  | some v => some (v.get name)

/-- `v?.name`. -/
def optionalMember (name : String) : Value → Value
  | none => none
  | some v => v.get name

/-- `v === "text"`. -/
def isString (s : String) : Value → Bool
  | some (.str s') => s' == s
  | _ => false

def isTrue : Value → Bool
  | some (.bool b) => b
  | _ => false

end OpenWrapper.JavaScript
