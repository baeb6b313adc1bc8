import Gatehouse.Value

/-!
Giving types to values. How forgiving a reader is depends on where the value comes from: a configuration
document is read loosely (nothing stands for an empty list or map, tags on values are ignored), JSON
strictly (a record may also be a list of its fields in order), and a value that was set aside until its
kind was known is read as strictly, and may name fields and variants by their position.
-/
namespace Gatehouse

inductive Reading where
  | loose | strict | aside
  deriving DecidableEq, Repr

namespace Value

/-- The value under its tags. -/
def untag : Value → Value
  | .tagged _ v => untag v
  | v => v

/-- What a loose reader sees of a value. -/
def seen (r : Reading) (v : Value) : Value := if r = .loose then v.untag else v

def text? (r : Reading) (v : Value) : Option String :=
  match v.seen r with
  | .text s => some s
  | _ => none

def int? (r : Reading) (low high : Int) (v : Value) : Option Int :=
  match v.seen r with
  | .int i => if low ≤ i ∧ i ≤ high then some i else none
  | _ => none

def items? (r : Reading) (v : Value) : Option (List Value) :=
  match v.seen r with
  | .list items => some items
  | .null => if r = .loose then some [] else none
  | _ => none

def entries? (r : Reading) (v : Value) : Option (List (Value × Value)) :=
  match v.seen r with
  | .map entries => some entries
  | .null => if r = .loose then some [] else none
  | _ => none

/-- A value that may be absent or null. -/
def optional {α : Type} (read : Value → Option α) : Option Value → Option (Option α)
  | none => some none
  | some .null => some none
  | some v => (read v).map some

/-- A list of texts. -/
def texts? (r : Reading) (v : Value) : Option (List String) := do
  (← v.items? r).mapM (text? r)

/-- Entries with text keys, each value read. -/
def textMap? {α : Type} (r : Reading) (read : Value → Option α) (v : Value) :
    Option (List (String × α)) := do
  let entries ← v.entries? r
  let read ← entries.mapM fun (k, v) => do some (← k.text? r, ← read v)
  some (Json.sortEntries read)

/-- The fields of a record in the order of its declaration, and whether it was written as a list. -/
structure Fields where
  isList : Bool
  values : List (Option Value)

namespace Fields

def get (f : Fields) (n : Nat) : Option Value := (f.values[n]?).join

def required {α : Type} (f : Fields) (n : Nat) (read : Value → Option α) : Option α :=
  (f.get n).bind read

def defaulted {α : Type} (f : Fields) (n : Nat) (read : Value → Option α) (default : α) : Option α :=
  match f.get n with
  | none => some default
  | some v => read v

/-- A field that may be null, or left out of a record that is not written as a list. -/
def nullable {α : Type} (f : Fields) (n : Nat) (read : Value → Option α) : Option (Option α) :=
  match f.get n with
  | none => if f.isList then none else some none
  | some v => optional read (some v)

end Fields

/-- The position of the field that a key names: `none` for an unknown field. -/
def fieldAt? (r : Reading) (names : List String) (key : Value) : Option (Option Nat) :=
  match key.seen r with
  | .text s => some (names.idxOf? s)
  | .int i =>
    if r = .aside ∧ 0 ≤ i then some (if i.toNat < names.length then some i.toNat else none) else none
  | _ => none

/-- Puts entries under the fields they name. Unknown fields are ignored, a field given twice is refused. -/
def collect (r : Reading) (names : List String) :
    List (Value × Value) → List (Option Value) → Option (List (Option Value))
  | [], values => some values
  | (k, v) :: rest, values =>
    match fieldAt? r names k with
    | none => none
    | some none => collect r names rest values
    | some (some n) =>
      match (values[n]?).join with
      | some _ => none
      | none => collect r names rest (values.set n (some v))

def fieldsOfEntries? (r : Reading) (names : List String) (entries : List (Value × Value)) :
    Option Fields :=
  (collect r names entries (names.map fun _ => none)).map fun values => ⟨false, values⟩

def fields? (r : Reading) (names : List String) (v : Value) : Option Fields :=
  match v.seen r, r with
  | .list _, .loose => none
  | .list items, _ => if names.length < items.length then none else some ⟨true, items.map some⟩
  | v, r => (v.entries? r).bind (fieldsOfEntries? r names)

/-- The choice among named variants that carry nothing: a name, a tag on nothing, or a map from the name
to nothing. -/
def variant? {α : Type} (r : Reading) (names : List (String × α)) (v : Value) : Option α :=
  match r, v with
  | _, .text s => names.lookup s
  | .loose, .tagged t .null => names.lookup t
  | .strict, .map [(.text s, .null)] => names.lookup s
  | .aside, .map [(.text s, .null)] => names.lookup s
  | _, _ => none

/-- A variant with fields, told by the value under `key`, or by the first item of a list. Returns the
variant's position and the rest, which is read aside. -/
def kind? (r : Reading) (key : String) (names : List String) (v : Value) : Option (Nat × Value) :=
  let position (v : Value) : Option Nat :=
    match v.seen r with
    | .text s => names.idxOf? s
    | .int i => if r = .aside ∧ 0 ≤ i ∧ i.toNat < names.length then some i.toNat else none
    | _ => none
  match v with
  | .map entries =>
    let isKey (e : Value × Value) : Bool := (e.1.text? .strict).any (· = key)
    match entries.filter isKey with
    | [e] => do
      let rest := entries.filter fun e => !isKey e
      let n ← position e.2
      if anyTaggedEntry rest then none else some (n, .map rest)
    | _ => none
  | .list (first :: rest) => do
    let n ← position first
    if anyTagged rest then none else some (n, .list rest)
  | _ => none

end Value
end Gatehouse
