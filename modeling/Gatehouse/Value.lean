import Gatehouse.Json
import Gatehouse.Binary64.Shortest

/-!
Values of a document before they are given a type. They are richer than JSON: any value may be a key, a
value may carry a tag, and floating numbers need not be finite.
-/
namespace Gatehouse

inductive Value where
  | null
  | bool (b : Bool)
  | int (i : Int)
  | float (f : Binary64)
  | text (s : String)
  | list (items : List Value)
  | map (entries : List (Value × Value))
  | tagged (tag : String) (value : Value)
  deriving Repr, Inhabited

namespace Value

mutual

/-- Whether two values are the same key: not-a-number is the same as itself. -/
def same : Value → Value → Bool
  | .null, .null => true
  | .bool a, .bool b => a == b
  | .int a, .int b => a == b
  | .float a, .float b => a.same b || (a = .nan && b = .nan)
  | .text a, .text b => a == b
  | .list a, .list b => sameItems a b
  | .map a, .map b => a.length == b.length && sameEntries a b
  | .tagged s a, .tagged t b => s == t && same a b
  | _, _ => false

def sameItems : List Value → List Value → Bool
  | [], [] => true
  | a :: as, b :: bs => same a b && sameItems as bs
  | _, _ => false

/-- Every entry of the first list is found in the second, in any order. -/
def sameEntries : List (Value × Value) → List (Value × Value) → Bool
  | [], _ => true
  | (k, v) :: rest, es => hasEntry k v es && sameEntries rest es

def hasEntry (k v : Value) : List (Value × Value) → Bool
  | [] => false
  | (l, w) :: rest => (same k l && same v w) || hasEntry k v rest

end

mutual

def ofJson : Json → Value
  | .null => .null
  | .bool b => .bool b
  | .int i => .int i
  | .float f => .float f
  | .text s => .text s
  | .array items => .list (ofItems items)
  | .object entries => .map (ofEntries entries)

def ofItems : List Json → List Value
  | [] => []
  | item :: items => ofJson item :: ofItems items

def ofEntries : List (String × Json) → List (Value × Value)
  | [] => []
  | (k, v) :: rest => (.text k, ofJson v) :: ofEntries rest

end

/-- A floating number as JSON, which has finite ones only. -/
def jsonFloat (f : Binary64) : Json := if f.isFinite then .float f else .null

/-- The text of a key in JSON. -/
def keyText : Value → String
  | .bool b => if b then "true" else "false"
  | .int i => Text.Decimal.intText i
  | .float f => f.text
  | .text s => s
  | _ => ""

mutual

/-- Shows a value as JSON: keys become texts, and a tagged value an object of one entry. -/
def toJson : Value → Json
  | .null => .null
  | .bool b => .bool b
  | .int i => .int i
  | .float f => jsonFloat f
  | .text s => .text s
  | .list items => .array (toItems items)
  | .map entries => .object (Json.sortEntries (toEntries entries))
  | .tagged t v => .object [("!" ++ t, toJson v)]

def toItems : List Value → List Json
  | [] => []
  | item :: items => toJson item :: toItems items

def toEntries : List (Value × Value) → List (String × Json)
  | [] => []
  | (k, v) :: rest => (keyText k, toJson v) :: toEntries rest

end

mutual

/-- The JSON value of an attribute: text keys only, no tags, and null for a number that is not finite. -/
def json? : Value → Option Json
  | .null => some .null
  | .bool b => some (.bool b)
  | .int i => some (.int i)
  | .float f => some (jsonFloat f)
  | .text s => some (.text s)
  | .list items => (jsonItems? items).map .array
  | .map entries => (jsonEntries? entries).map Json.ofEntries
  | .tagged _ _ => none

def jsonItems? : List Value → Option (List Json)
  | [] => some []
  | item :: items => do
    let item ← json? item
    let items ← jsonItems? items
    some (item :: items)

def jsonEntries? : List (Value × Value) → Option (List (String × Json))
  | [] => some []
  | (.text k, v) :: rest => do
    let v ← json? v
    let rest ← jsonEntries? rest
    some ((k, v) :: rest)
  | _ :: _ => none

end

mutual

/-- True if no map in the value has a key twice. -/
def isDistinct : Value → Bool
  | .list items => areDistinct items
  | .map entries => hasDistinctEntries entries
  | .tagged _ v => isDistinct v
  | _ => true

def areDistinct : List Value → Bool
  | [] => true
  | item :: items => isDistinct item && areDistinct items

def hasDistinctEntries : List (Value × Value) → Bool
  | [] => true
  | (k, v) :: rest =>
    isDistinct k && isDistinct v && !rest.any (fun e => e.1.same k) && hasDistinctEntries rest

end

mutual

def isTagged : Value → Bool
  | .tagged _ _ => true
  | .list items => anyTagged items
  | .map entries => anyTaggedEntry entries
  | _ => false

def anyTagged : List Value → Bool
  | [] => false
  | item :: items => isTagged item || anyTagged items

def anyTaggedEntry : List (Value × Value) → Bool
  | [] => false
  | (k, v) :: rest => isTagged k || isTagged v || anyTaggedEntry rest

end

end Value
end Gatehouse
