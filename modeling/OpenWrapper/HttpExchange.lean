import OpenWrapper.Payments

/-! # What comes back from a provider's HTTP interface

An exchange ends in a transport error or in a status line and a body. The
adapters read a body as a record of named fields: an object in any order with
no field twice, or an array of exactly the fields in order. -/

set_option autoImplicit false

namespace OpenWrapper.HttpExchange
open OpenWrapper.Ids

/-- How `reqwest` classifies a request that got no response. -/
structure TransportError where
  isTimeout : Bool
  isConnect : Bool
deriving DecidableEq, Repr

structure HttpStatus where
  code : ℕ
  reason : String
deriving DecidableEq, Repr

namespace HttpStatus

def isSuccess (s : HttpStatus) : Bool := 200 ≤ s.code && s.code < 300

def isClientError (s : HttpStatus) : Bool := 400 ≤ s.code && s.code < 500

def display (s : HttpStatus) : String := toString s.code ++ " " ++ s.reason

end HttpStatus

/-- A JSON text; the fields of an object as they stand in it. -/
inductive Json where
  | null
  | bool (value : Bool)
  | integer (value : ℤ)
  | real (text : String)
  | string (value : String)
  | array (items : List Json)
  | object (fields : List (String × Json))

inductive Body where
  | unreadable (why : String)
  | json (value : Json)

inductive Exchange where
  | failed (e : TransportError)
  | answered (status : HttpStatus) (body : Body)

section Decoding

variable {α : Type}

def lookupField (fields : List (String × Json)) (name : String) : Option (Option Json) :=
  match fields.filter fun field => field.1 == name with
  | [] => some none
  | [field] => some (some field.2)
  | _ => none

def lookupAll (fields : List (String × Json)) : List String → Option (List (Option Json))
  | [] => some []
  | name :: rest =>
    match lookupField fields name, lookupAll fields rest with
    | some value, some values => some (value :: values)
    | _, _ => none

def decodeFields (names : List String) : Json → Option (List (Option Json))
  | .object fields => lookupAll fields names
  | .array items => if items.length = names.length then some (items.map some) else none
  | _ => none

def required (read : Json → Option α) : Option Json → Option α
  | none => none
  | some j => read j

def optional (read : Json → Option α) : Option Json → Option (Option α)
  | none => some none
  | some .null => some none
  | some j => (read j).map some

def Json.asString : Json → Option String
  | .string s => some s
  | _ => none

/-- An integer literal in the range of `i64`. -/
def Json.asI64 : Json → Option ℤ
  | .integer n =>
    if -9223372036854775808 ≤ n ∧ n ≤ 9223372036854775807 then some n else none
  | _ => none

def Body.decode (read : Json → Option α) : Body → Except String α
  | .unreadable why => .error why
  | .json value =>
    match read value with
    | some a => .ok a
    | none => .error "error decoding response body"

end Decoding

end OpenWrapper.HttpExchange
