import Gatehouse.Yaml.Node
import Gatehouse.Yaml.Scalar
import Gatehouse.Value.Reading

/-!
What the nodes of a document hold, read as untyped values or as fields of a known type. An alias stands
for its target; a document may follow aliases a hundred times for each of its events, so that no
text unfolds without bound. Collections nest at most 128 deep, which also ends a node inside itself.
-/
namespace Gatehouse.Yaml

/-- A reader of nodes. It carries the number of aliases followed so far. -/
abbrev Visit (α : Type) := Nat → Option (α × Nat)

namespace Visit

def pure {α : Type} (a : α) : Visit α := fun n => some (a, n)

def fail {α : Type} : Visit α := fun _ => none

def bind {α β : Type} (v : Visit α) (f : α → Visit β) : Visit β := fun n =>
  match v n with
  | none => none
  | some (a, n) => f a n

instance : Monad Visit where
  pure := Visit.pure
  bind := Visit.bind

def ofOption {α : Type} : Option α → Visit α
  | none => fail
  | some a => pure a

end Visit

def maxDepth : Nat := 128

namespace Document

def target? (d : Document) (anchor : Nat) : Option Node :=
  let found := d.targets.filter (·.anchor = anchor)
  (found.foldl
    (fun best t =>
      match best with
      | none => some t
      | some b => if b.start < t.start then some t else some b)
    (none : Option Target)).map (·.node)

/-- Follows an alias; any other node is itself. -/
def resolve (d : Document) : Node → Visit Node
  | .alias anchor => fun n =>
    if d.events * 100 < n + 1 then none else (d.target? anchor).map fun node => (node, n + 1)
  | node => Visit.pure node

/-- The local tag of a node, which names a variant. -/
def localTag? (tag : Option String) : Option String :=
  match tag.map String.toList with
  | some ('!' :: rest) => some (String.ofList (if rest.isEmpty then ['!'] else rest))
  | _ => none

/-- The untyped value of a node, at most `depth` collections deep; keys may still repeat. -/
def value (d : Document) (depth : Nat) (n : Node) : Visit Value := do
  match ← d.resolve n with
  | .scalar tag style text =>
    match localTag? tag with
    | some t =>
      let v ← Visit.ofOption (Scalar.value? none style text)
      pure (.tagged t v)
    | none => Visit.ofOption (Scalar.value? tag style text)
  | .sequence tag items =>
    match depth with
    | 0 => Visit.fail
    | depth + 1 =>
      let vs ← items.mapM (value d depth)
      pure (wrap (localTag? tag) (.list vs))
  | .mapping tag entries =>
    match depth with
    | 0 => Visit.fail
    | depth + 1 =>
      let es ← entries.mapM fun (k, v) => do
        let k ← value d depth k
        let v ← value d depth v
        pure (k, v)
      pure (wrap (localTag? tag) (.map es))
  | .alias _ => Visit.fail
where
  wrap (tag : Option String) (v : Value) : Value :=
    match tag with
    | none => v
    | some t => .tagged t v

/-- The untyped value of a node in which no map repeats a key. -/
def distinctValue (d : Document) (depth : Nat) (n : Node) : Visit Value := do
  let v ← d.value depth n
  if v.isDistinct then pure v else Visit.fail

/-- A node without any text, which stands for an empty collection where one is wanted. -/
def isEmptyPlain : Node → Bool
  | .scalar _ .plain text => text.isEmpty
  | _ => false

/-- The text of a scalar, whatever its tag or style. -/
def text (d : Document) (n : Node) : Visit String := do
  match ← d.resolve n with
  | .scalar _ _ s => pure s
  | _ => Visit.fail

/-- True if a node stands for nothing at all. -/
def isNothing (d : Document) (n : Node) : Visit Bool := do
  match ← d.resolve n with
  | .scalar tag style s =>
    if style ≠ .plain then pure false
    else if tag = some (Scalar.coreTag "null") then
      if Scalar.isNull s then pure true else Visit.fail
    else if tag.isSome then pure false
    else pure (s.isEmpty || Scalar.isNull s)
  | _ => pure false

def optional {α : Type} (d : Document) (read : Node → Visit α) (n : Node) : Visit (Option α) := do
  let n ← d.resolve n
  if ← d.isNothing n then pure none
  else do
    let a ← read n
    pure (some a)

/-- The text of a scalar that may be a number: a plain one, or a literal one tagged as that kind. -/
def numberText (d : Document) (kind : String) (n : Node) : Visit String := do
  match ← d.resolve n with
  | .scalar tag style s =>
    if style = .plain || (style = .literal && tag = some (Scalar.coreTag kind)) then pure s
    else Visit.fail
  | _ => Visit.fail

/-- A natural number below `limit`, written without a minus. -/
def natBelow (d : Document) (limit : Nat) (n : Node) : Visit Nat := do
  let s ← d.numberText "int" n
  match Scalar.int? s with
  | some i =>
    if s.toList.head? ≠ some '-' ∧ i.toNat < limit then pure i.toNat else Visit.fail
  | none => Visit.fail

def float (d : Document) (n : Node) : Visit Binary64 := do
  let s ← d.numberText "float" n
  Visit.ofOption (Scalar.float? s)

/-- One of several names: a scalar, or a local tag on nothing. -/
def choice {α : Type} (d : Document) (names : List (String × α)) (n : Node) : Visit α := do
  match ← d.resolve n with
  | .scalar tag style s =>
    match localTag? tag with
    | none => Visit.ofOption (names.lookup s)
    | some t =>
      if style = .plain && (s.isEmpty || Scalar.isNull s) then Visit.ofOption (names.lookup t)
      else Visit.fail
  | _ => Visit.fail

def items {α : Type} (d : Document) (depth : Nat) (read : Nat → Node → Visit α) (n : Node) :
    Visit (List α) := do
  match ← d.resolve n, depth with
  | .sequence _ ns, depth + 1 => ns.mapM (read depth)
  | n, _ => if isEmptyPlain n then pure [] else Visit.fail

/-- The value nodes of a record's fields, in the order of `names`. Unknown keys are passed over, with
their values; a key has to be a scalar, and a known one may be given once. -/
def collect (d : Document) (names : List String) :
    List (Node × Node) → List (Option Node) → Visit (List (Option Node))
  | [], values => pure values
  | (k, v) :: rest, values => do
    let key ← d.text k
    match names.idxOf? key with
    | none => collect d names rest values
    | some n =>
      match (values[n]?).join with
      | some _ => Visit.fail
      | none => collect d names rest (values.set n (some v))

/-- The fields of a record, with the depth that is left for them. -/
structure Fields where
  depth : Nat
  values : List (Option Node)

def fields (d : Document) (depth : Nat) (names : List String) (n : Node) : Visit Fields := do
  match ← d.resolve n, depth with
  | .mapping _ entries, depth + 1 =>
    let values ← d.collect names entries (names.map fun _ => none)
    pure ⟨depth, values⟩
  | n, depth => if isEmptyPlain n then pure ⟨depth, names.map fun _ => none⟩ else Visit.fail

/-- A field that has a default. -/
def Fields.get {α : Type} (f : Fields) (n : Nat) (default : α) (read : Node → Visit α) : Visit α :=
  match (f.values[n]?).join with
  | none => pure default
  | some node => read node

end Document

def Document.empty : Document := ⟨.scalar none .plain "", [], 1⟩

/-- Reads the one document of a text; a text without any counts as an empty scalar. -/
def parseWith {α : Type} (text : String) (read : Document → Nat → Node → Visit α) : Option α := do
  let d := (← document? text).getD Document.empty
  let (a, _) ← read d maxDepth d.root 0
  some a

def parse (text : String) : Option Value := parseWith text Document.distinctValue

end Gatehouse.Yaml
