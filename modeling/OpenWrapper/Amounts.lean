import OpenWrapper.Ids

/-! # Money

An amount is an integer count of minor units, between one and
`maxMinorUnits`, of one of ten currencies. -/

set_option autoImplicit false

namespace OpenWrapper.Amounts
open OpenWrapper.Ids

inductive Currency where
  | egp | usd | eur | gbp | sar | aed | kwd | bhd | omr | jpy
deriving DecidableEq, Repr

inductive CurrencyError where
  | unsupported (code : String)
deriving DecidableEq, Repr

def CurrencyError.display : CurrencyError → String
  | .unsupported code => "unsupported currency: " ++ code

namespace Currency

def code : Currency → String
  | egp => "EGP" | usd => "USD" | eur => "EUR" | gbp => "GBP" | sar => "SAR"
  | aed => "AED" | kwd => "KWD" | bhd => "BHD" | omr => "OMR" | jpy => "JPY"

def parse (code : String) : Except CurrencyError Currency :=
  match toAsciiUppercase (trim code) with
  | "EGP" => .ok egp | "USD" => .ok usd | "EUR" => .ok eur | "GBP" => .ok gbp
  | "SAR" => .ok sar | "AED" => .ok aed | "KWD" => .ok kwd | "BHD" => .ok bhd
  | "OMR" => .ok omr | "JPY" => .ok jpy
  | other => .error (.unsupported other)

theorem parse_code (c : Currency) : parse c.code = .ok c := by
  cases c <;> rfl

end Currency

inductive MoneyError where
  | notPositive (amount : ℤ)
  | tooLarge (amount limit : ℤ)
deriving DecidableEq, Repr

def MoneyError.display : MoneyError → String
  | .notPositive n => "amount must be greater than zero, got " ++ toString n
  | .tooLarge n limit => "amount " ++ toString n ++
      " exceeds the maximum OpenWrapper will process (" ++ toString limit ++ ")"

def maxMinorUnits : ℤ := 1000000000

structure Money where
  minorUnits : ℤ
  currency : Currency
  positive : 0 < minorUnits
  bounded : minorUnits ≤ maxMinorUnits
deriving DecidableEq

def Money.fromMinorUnits (n : ℤ) (currency : Currency) : Except MoneyError Money :=
  if positive : 0 < n then
    if bounded : n ≤ maxMinorUnits then .ok ⟨n, currency, positive, bounded⟩
    else .error (.tooLarge n maxMinorUnits)
  else .error (.notPositive n)

def Money.hundred (currency : Currency) : Money := ⟨100, currency, by decide, by decide⟩

@[simp] theorem Money.fromMinorUnits_minorUnits (m : Money) :
    Money.fromMinorUnits m.minorUnits m.currency = .ok m := by
  simp [Money.fromMinorUnits, m.positive, m.bounded]

theorem Money.fromMinorUnits_eq_ok {n : ℤ} {c : Currency} {m : Money}
    (ok : Money.fromMinorUnits n c = .ok m) : m.minorUnits = n ∧ m.currency = c := by
  unfold Money.fromMinorUnits at ok
  split at ok
  · split at ok
    · cases ok
      exact ⟨rfl, rfl⟩
    · cases ok
  · cases ok

end OpenWrapper.Amounts
