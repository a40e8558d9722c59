import Mathlib.Data.List.Basic

/-! # JSON values

A parsed document. A number is kept as the numeral it was written with, and an
object as its members in the order written; a member that is written again
replaces the earlier one. -/

set_option autoImplicit false

namespace OpenWrapper.JsonValue

inductive Json where
  | null
  | bool (b : Bool)
  | num (numeral : String)
  | str (s : String)
  | arr (items : List Json)
  | obj (members : List (String × Json))

namespace Json

/-- The last member of this name. -/
def lookup (name : String) (members : List (String × Json)) : Option Json :=
  (members.reverse.find? fun member => member.1 == name).map Prod.snd

def get (name : String) : Json → Option Json
  | obj members => lookup name members
  | _ => none

def asStr : Json → Option String
  | str s => some s
  | _ => none

def asBool : Json → Option Bool
  | bool b => some b
  | _ => none

end Json

end OpenWrapper.JsonValue
