import OpenWrapper.AmountTexts
import OpenWrapper.NearestDoubles
import OpenWrapper.OutboundSignatures

/-! # Money in the SDKs

Each SDK turns an amount in the major unit into minor units, and minor units
into the text of an amount. TypeScript and PHP take the text apart, but PHP
reads it as a double where there are no decimals; .NET takes a decimal. -/

set_option autoImplicit false

namespace OpenWrapper.SdkMoney
open OpenWrapper.AmountTexts OpenWrapper.Doubles OpenWrapper.Hexadecimal
open OpenWrapper.MachineIntegers OpenWrapper.NearestDoubles OpenWrapper.OutboundSignatures
open OpenWrapper.Pieces OpenWrapper.SafeIntegers OpenWrapper.ScaledDecimals

section Texts

/-- Whether a minus stands first, and what stands behind a sign. -/
def unsigned : List Char → Bool × List Char
  | '-' :: rest => (true, rest)
  | '+' :: rest => (false, rest)
  | cs => (false, cs)

def signed (negative : Bool) (n : ℤ) : ℤ := if negative then -n else n

def orZero (cs : List Char) : List Char := if cs = [] then ['0'] else cs

def padRight (width : ℕ) (cs : List Char) : List Char :=
  cs ++ List.replicate (width - cs.length) '0'

def padLeft (width : ℕ) (cs : List Char) : List Char :=
  List.replicate (width - cs.length) '0' ++ cs

end Texts

namespace TypeScript
open OpenWrapper.OutboundSignatures.TypeScript

/-- The base that a literal is in. -/
def radix (lead : List Char) : ℕ :=
  if lead = ['0', 'x'] ∨ lead = ['0', 'X'] then 16
  else if lead = ['0', 'o'] ∨ lead = ['0', 'O'] then 8
  else if lead = ['0', 'b'] ∨ lead = ['0', 'B'] then 2
  else 10

def digitsIn (base : ℕ) (cs : List Char) : Option ℤ :=
  if cs ≠ [] ∧ cs.all (fun c => (digitValue c).any (· < base)) = true then
    some (cs.foldl (fun (n : ℕ) c => base * n + (digitValue c).getD 0) 0 : ℕ)
  else none

/-- `BigInt(text)`; none is a `SyntaxError`. -/
def bigInt (text : List Char) : Option ℤ :=
  let cs := trimBy JavaScript.isSpace text
  if cs = [] then some 0
  else if radix (cs.take 2) = 10 then
    withSign (fun negative digits => (readDigits digits).map fun n => signed negative n) cs
  else digitsIn (radix (cs.take 2)) (cs.drop 2)

/-- `10 ** decimals`, while it is finite. -/
def power (decimals : ℕ) : ℕ := toNumber (10 ^ decimals)

/-- For an amount that is a string. -/
def toMinorUnits (amount : String) (decimals : ℕ) : Option ℤ :=
  let raw := trimBy JavaScript.isSpace amount.toList
  let (isNegative, str) := unsigned raw
  let parts := str.splitOn '.'
  let frac := (padRight decimals (parts[1]?.getD [])).take decimals
  (bigInt (orZero (parts.headD []))).bind fun whole =>
    (bigInt (orZero frac)).map fun fraction =>
      number (signed isNegative (whole * power decimals + fraction))

/-- `Math.floor`. -/
def floor : Double → Double
  | .infinite negative => .infinite negative
  | .finite negative m q =>
    let (num, den) := scaled m 2 q
    toDouble ⟨negative, if negative then (num + den - 1) / den else num / den, 0⟩

/-- For a number that is an integer; none is a `TypeError`. -/
def formatMajorUnits (minorUnits : ℤ) (decimals : ℕ) : Option String :=
  if 2 ^ 53 ≤ minorUnits.natAbs then none
  else if decimals = 0 then some (numberText minorUnits)
  else
    let abs := minorUnits.natAbs
    let whole := floor (nearest false abs (power decimals))
    let fraction := padLeft decimals (numberText (abs % power decimals : ℕ)).toList
    some (String.ofList ((if minorUnits < 0 then ['-'] else []) ++ whole.toText.toList ++
      '.' :: fraction))

end TypeScript

section Integers

/-- None is a factor or a magnitude that is no integer of 64 bits. -/
def formatInteger (minorUnits : ℤ) (decimals : ℕ) : Option String :=
  if decimals = 0 then some (toString minorUnits)
  else
    (i64.checked |minorUnits|).bind fun abs =>
      (i64.checked (10 ^ decimals)).map fun factor =>
        String.ofList ((if minorUnits < 0 then ['-'] else []) ++ (toString (abs / factor)).toList ++
          '.' :: padLeft decimals (toString (abs % factor)).toList)

end Integers

namespace Php
open OpenWrapper.OutboundSignatures.Php

def exponentPrefix : List Char → Option ℤ
  | [] => none
  | c :: rest =>
    let (negative, digits) := unsigned rest
    let digits := digits.takeWhile Char.isDigit
    if (c = 'e' ∨ c = 'E') ∧ digits ≠ [] then some (signed negative (digitsValue digits)) else none

/-- The number a string begins with; a point and an exponent make it a float. -/
structure Leading where
  decimal : Doubles.Decimal
  float : Bool

def leading (text : List Char) : Leading :=
  let (negative, cs) := unsigned (text.dropWhile isNumericBlank)
  let whole := cs.takeWhile Char.isDigit
  let rest := cs.dropWhile Char.isDigit
  let point := rest.head? == some '.'
  let fraction := if point then rest.tail.takeWhile Char.isDigit else []
  let exponent := exponentPrefix (if point then rest.tail.dropWhile Char.isDigit else rest)
  ⟨⟨negative, digitsValue (whole ++ fraction), exponent.getD 0 - fraction.length⟩,
    point || exponent.isSome⟩

/-- `(float) $text`. -/
def floatVal (text : List Char) : Double := toDouble (leading text).decimal

/-- `(int) $text`. -/
def intVal (text : List Char) : ℤ :=
  let number := leading text
  if number.float then truncated (toDouble number.decimal)
  else saturated (signed number.decimal.negative number.decimal.digits)

/-- `(int) round($x)`; none is what the language leaves undefined. -/
def roundedInt : Double → Option ℤ
  | .infinite _ => some 0
  | .finite negative m q =>
    i64.checked (signed negative (roundHalfUp (scaled m 2 q).1 (scaled m 2 q).2))

/-- For an amount that is a string; none is a `TypeError`, of a result that is
no `int`. -/
def toMinorUnits (amount : String) (decimals : ℕ) : Option ℤ :=
  if decimals = 0 then roundedInt (floatVal amount.toList)
  else
    let str := trimBy isBlank amount.toList
    let isNegative := str.head? == some '-'
    let clean := str.dropWhile fun c => c == '+' || c == '-'
    let parts := sides clean
    let whole := intVal (orZero parts.1)
    let frac := intVal (padRight decimals (parts.2.take decimals))
    (i64.checked (10 ^ decimals)).bind fun factor =>
      (i64.checked (whole * factor)).bind fun product =>
        (i64.checked (product + frac)).bind fun minor => i64.checked (signed isNegative minor)

def formatMajorUnits : ℤ → ℕ → Option String := formatInteger

end Php

namespace DotNet

/-- The decimal a text stands for. -/
def decimalValue (text : String) : Option ScaledDecimals.Decimal :=
  let (negative, cs) := unsigned text.toList
  let (major, minor) := sides cs
  fit negative (digitsValue (major ++ minor)) minor.length

/-- None is an `OverflowException`. -/
def toMinorUnits (amount : ScaledDecimals.Decimal) (decimals : ℕ) : Option ℤ :=
  (fit false (10 ^ decimals) 0).bind fun factor =>
    (amount.mul factor).bind fun product => i64.checked product.rounded

def formatMajorUnits : ℤ → ℕ → Option String := formatInteger

end DotNet

/-- A sign that may be left out, digits, and behind a point more of them. -/
structure DecimalText where
  sign : List Char
  body : List Char
  major : List Char
  minor : List Char
  signs : sign = [] ∨ sign = ['+'] ∨ sign = ['-']
  writes : Writes body major minor

namespace DecimalText

def text (t : DecimalText) : String := String.ofList (t.sign ++ t.body)

def negative (t : DecimalText) : Bool := t.sign == ['-']

def digits (t : DecimalText) : ℕ := digitsValue (t.major ++ t.minor)

/-- The text stands for less than `2 ^ 53` minor units, of either sign. -/
def Small (t : DecimalText) (decimals : ℕ) : Prop :=
  t.digits * 10 ^ decimals < 2 ^ 53 * 10 ^ t.minor.length

/-- The minor units of the text; what is less than one is left out. -/
def kept (t : DecimalText) (decimals : ℕ) : ℕ := t.digits * 10 ^ decimals / 10 ^ t.minor.length

/-- The decimal that .NET has for the text, and without decimals the double that
PHP has for it, are less than half a minor unit above those kept. -/
structure Settled (t : DecimalText) (decimals : ℕ) : Prop where
  decimal : ∀ x, DotNet.decimalValue t.text = some x →
    x.magnitude * 10 ^ decimals < t.kept decimals + 1 / 2
  double : decimals = 0 → magnitude (Php.floatVal t.text.toList) < t.kept decimals + 1 / 2

end DecimalText

/-- The three SDKs make the same of a text. -/
def Agree (text : String) (decimals : ℕ) : Prop :=
  ∃ n, TypeScript.toMinorUnits text decimals = some n ∧ Php.toMinorUnits text decimals = some n ∧
    (DotNet.decimalValue text).bind (DotNet.toMinorUnits · decimals) = some n

/-- Each SDK reads what it writes. -/
structure RoundTrips (minorUnits : ℤ) (decimals : ℕ) : Prop where
  typeScript : (TypeScript.formatMajorUnits minorUnits decimals).bind
    (TypeScript.toMinorUnits · decimals) = some minorUnits
  php : (Php.formatMajorUnits minorUnits decimals).bind
    (Php.toMinorUnits · decimals) = some minorUnits
  dotNet : ((DotNet.formatMajorUnits minorUnits decimals).bind DotNet.decimalValue).bind
    (DotNet.toMinorUnits · decimals) = some minorUnits

end OpenWrapper.SdkMoney
