import Gatehouse.Binary64

/-!
JSON values with integers and floating numbers kept apart: `1` and `1.0` are different values. A value
in canonical form has its object keys in increasing order and each key once.
-/
namespace Gatehouse

inductive Json where
  | null
  | bool (b : Bool)
  | int (i : Int)
  | float (f : Binary64)
  | text (s : String)
  | array (items : List Json)
  | object (entries : List (String × Json))
  deriving Repr, Inhabited

namespace Json

mutual

/-- Equality of canonical values; the two floating zeros are equal. -/
def equal : Json → Json → Bool
  | .null, .null => true
  | .bool a, .bool b => a == b
  | .int a, .int b => a == b
  | .float a, .float b => a.same b
  | .text a, .text b => a == b
  | .array a, .array b => equalItems a b
  | .object a, .object b => equalEntries a b
  | _, _ => false

def equalItems : List Json → List Json → Bool
  | [], [] => true
  | a :: as, b :: bs => equal a b && equalItems as bs
  | _, _ => false

def equalEntries : List (String × Json) → List (String × Json) → Bool
  | [], [] => true
  | (k, a) :: as, (l, b) :: bs => k == l && equal a b && equalEntries as bs
  | _, _ => false

end

/-- Sets a key in entries that are in increasing order. -/
def setEntry {α : Type} (key : String) (value : α) : List (String × α) → List (String × α)
  | [] => [(key, value)]
  | (k, v) :: rest =>
    if key = k then (key, value) :: rest
    else if key < k then (key, value) :: (k, v) :: rest
    else (k, v) :: setEntry key value rest

/-- Entries in increasing order of keys; of two with one key the later counts. -/
def sortEntries {α : Type} (entries : List (String × α)) : List (String × α) :=
  entries.foldl (fun sorted e => setEntry e.1 e.2 sorted) []

mutual

def canonical : Json → Json
  | .array items => .array (canonicalItems items)
  | .object entries => .object (sortEntries (canonicalEntries entries))
  | other => other

def canonicalItems : List Json → List Json
  | [] => []
  | item :: items => canonical item :: canonicalItems items

def canonicalEntries : List (String × Json) → List (String × Json)
  | [] => []
  | (k, v) :: rest => (k, canonical v) :: canonicalEntries rest

end

def ofEntries (entries : List (String × Json)) : Json := .object (sortEntries entries)

def text? : Json → Option String
  | .text s => some s
  | _ => none

def field? (key : String) : Json → Option Json
  | .object entries => entries.lookup key
  | _ => none

end Json
end Gatehouse
