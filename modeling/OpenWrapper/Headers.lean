import OpenWrapper.Ids

/-! # Request headers -/

set_option autoImplicit false

namespace OpenWrapper.Headers
open OpenWrapper.Ids

/-- A header value: visible text, or bytes that `to_str` refuses. -/
inductive HeaderValue where
  | text (value : String)
  | bytes (raw : List UInt8)
deriving DecidableEq

def HeaderValue.toStr : HeaderValue → Option String
  | text value => some value
  | bytes _ => none

/-- Names are lowercase; a name may occur more than once. -/
structure HeaderMap where
  entries : List (String × HeaderValue)
deriving DecidableEq

namespace HeaderMap

def get (h : HeaderMap) (name : String) : Option HeaderValue :=
  (h.entries.find? fun entry => entry.1 == name).map Prod.snd

def getStr (h : HeaderMap) (name : String) : Option String :=
  (h.get name).bind HeaderValue.toStr

def remove (h : HeaderMap) (name : String) : HeaderMap :=
  ⟨h.entries.filter fun entry => entry.1 != name⟩

def insert (h : HeaderMap) (name : String) (value : HeaderValue) : HeaderMap :=
  ⟨(name, value) :: (h.remove name).entries⟩

theorem get_remove_of_ne (h : HeaderMap) {name other : String} (ne : other ≠ name) :
    (h.remove name).get other = h.get other := by
  unfold get remove
  rw [List.find?_filter]
  congr 2
  funext entry
  by_cases same : entry.1 = other
  · simp [same, ne]
  · simp [same]

@[simp] theorem get_insert (h : HeaderMap) (name : String) (value : HeaderValue) :
    (h.insert name value).get name = some value := by
  simp [get, insert]

theorem get_insert_of_ne (h : HeaderMap) {name other : String} (value : HeaderValue)
    (ne : other ≠ name) : (h.insert name value).get other = h.get other := by
  rw [← get_remove_of_ne h ne]
  simp [get, insert, Ne.symm ne]

end HeaderMap

/-- `HeaderValue::from_str`: visible ASCII, spaces and tabs. -/
def HeaderValue.fromStr (s : String) : Option HeaderValue :=
  if s.toList.all fun c => (0x20 ≤ c.toNat && c.toNat ≤ 0x7E) || c == '\t' then some (.text s)
  else none

end OpenWrapper.Headers
