import Gatehouse.Yaml.Token.Lexer

/-!
The node graph of a document. Aliases stay aliases: each refers to an anchor by number, and the number
of an anchor is the count of different names given before it, so that a name given again takes a
new number. A text holds one document at most.
-/
namespace Gatehouse.Yaml

inductive Node where
  | scalar (tag : Option String) (style : Style) (text : String)
  | sequence (tag : Option String) (items : List Node)
  | mapping (tag : Option String) (entries : List (Node × Node))
  | alias (anchor : Nat)
  deriving Repr, Inhabited

/-- A node that an anchor names. Of two with one number, the one that starts later counts. -/
structure Target where
  anchor : Nat
  start : Nat
  node : Node

structure Document where
  root : Node
  targets : List Target
  /-- The size of the document: one for a scalar or an alias, two for a collection. -/
  events : Nat

/-- What is built so far, and the tokens that are left. -/
structure Builder where
  tokens : List Token
  handles : List (String × String)
  numbers : List (String × Nat)
  started : Nat
  targets : List Target
  events : Nat

namespace Builder

def peek? (b : Builder) : Option Token := b.tokens.head?

def skip (b : Builder) : Builder := { b with tokens := b.tokens.tail }

def count (b : Builder) (n : Nat) : Builder := { b with events := b.events + n }

def emptyScalar (b : Builder) : Node × Builder := (.scalar none .plain "", b.count 1)

/-- True if the next token is one of those. -/
def sees (b : Builder) (ts : List Token) : Bool := b.peek?.any ts.contains

/-- The properties in front of a node: an anchor and a tag, in either order. -/
structure Properties where
  anchor : Option String
  tag : Option String

def resolveTag (b : Builder) (handle suffix : String) : Option String :=
  if handle.isEmpty then some suffix
  else (b.handles.lookup handle).map (· ++ suffix)

def properties (b : Builder) : Option (Properties × Builder) :=
  match b.tokens with
  | .anchor a :: .tag h s :: rest =>
    (b.resolveTag h s).map fun t => (⟨some a, some t⟩, { b with tokens := rest })
  | .tag h s :: .anchor a :: rest =>
    (b.resolveTag h s).map fun t => (⟨some a, some t⟩, { b with tokens := rest })
  | .anchor a :: rest => some (⟨some a, none⟩, { b with tokens := rest })
  | .tag h s :: rest => (b.resolveTag h s).map fun t => (⟨none, some t⟩, { b with tokens := rest })
  | _ => some (⟨none, none⟩, b)

/-- Numbers an anchor where its node starts. -/
def startAnchor (b : Builder) : Option String → Option (Nat × Nat) × Builder
  | none => (none, b)
  | some name =>
    let number := b.numbers.length
    let numbers := (name, number) :: b.numbers.filter (·.1 ≠ name)
    (some (number, b.started), { b with numbers, started := b.started + 1 })

def finishAnchor (b : Builder) (number : Option (Nat × Nat)) (n : Node) : Builder :=
  match number with
  | none => b
  | some (anchor, start) => { b with targets := ⟨anchor, start, n⟩ :: b.targets }

/-- The tag that counts: an empty one and a lone exclamation mark on a scalar are none. -/
def tagOf (tag : Option String) : Option String := tag.filter fun t => !t.isEmpty

mutual

/-- A node; `block` allows block collections and `indentless` a sequence at its parent's column. -/
def node (fuel : Nat) (block indentless : Bool) (b : Builder) : Option (Node × Builder) :=
  match fuel with
  | 0 => none
  | fuel + 1 =>
    match b.peek? with
    | some (.alias name) => (b.numbers.lookup name).map fun n => (.alias n, b.skip.count 1)
    | _ =>
      match b.properties with
      | none => none
      | some (p, b) =>
        let (number, b) := b.startAnchor p.anchor
        let tag := tagOf p.tag
        let collection (r : Option (Node × Builder)) : Option (Node × Builder) :=
          r.map fun (n, b) => (n, (b.finishAnchor number n).count 2)
        match b.peek? with
        | some (.scalar style text) =>
          let n := Node.scalar (tag.filter (· ≠ "!")) style text
          some (n, (b.skip.finishAnchor number n).count 1)
        | some .flowSequenceStart =>
          collection ((flowItems fuel true b.skip).map fun (ns, b) => (.sequence tag ns, b))
        | some .flowMappingStart =>
          collection ((flowEntries fuel true b.skip).map fun (es, b) => (.mapping tag es, b))
        | other =>
          if indentless && other = some .blockEntry then
            collection ((indentlessItems fuel b).map fun (ns, b) => (.sequence tag ns, b))
          else if block && other = some .blockSequenceStart then
            collection ((blockItems fuel b.skip).map fun (ns, b) => (.sequence tag ns, b))
          else if block && other = some .blockMappingStart then
            collection ((blockEntries fuel b.skip).map fun (es, b) => (.mapping tag es, b))
          else if p.anchor.isSome || p.tag.isSome then
            let n := Node.scalar tag .plain ""
            some (n, (b.finishAnchor number n).count 1)
          else none

def blockItems (fuel : Nat) (b : Builder) : Option (List Node × Builder) :=
  match fuel with
  | 0 => none
  | fuel + 1 =>
    match b.peek? with
    | some .blockEnd => some ([], b.skip)
    | some .blockEntry =>
      let b := b.skip
      let item := if b.sees [.blockEntry, .blockEnd] then some b.emptyScalar else node fuel true false b
      match item with
      | none => none
      | some (n, b) => (blockItems fuel b).map fun (ns, b) => (n :: ns, b)
    | _ => none

def indentlessItems (fuel : Nat) (b : Builder) : Option (List Node × Builder) :=
  match fuel with
  | 0 => none
  | fuel + 1 =>
    match b.peek? with
    | some .blockEntry =>
      let b := b.skip
      let item :=
        if b.sees [.blockEntry, .key, .value, .blockEnd] then some b.emptyScalar
        else node fuel true false b
      match item with
      | none => none
      | some (n, b) => (indentlessItems fuel b).map fun (ns, b) => (n :: ns, b)
    | _ => some ([], b)

def blockEntries (fuel : Nat) (b : Builder) : Option (List (Node × Node) × Builder) :=
  match fuel with
  | 0 => none
  | fuel + 1 =>
    match b.peek? with
    | some .blockEnd => some ([], b.skip)
    | some .key =>
      let b := b.skip
      let ends := [.key, .value, .blockEnd]
      let key := if b.sees ends then some b.emptyScalar else node fuel true true b
      match key with
      | none => none
      | some (k, b) =>
        let value :=
          if b.sees [.value] then
            let b := b.skip
            if b.sees ends then some b.emptyScalar else node fuel true true b
          else some b.emptyScalar
        match value with
        | none => none
        | some (v, b) => (blockEntries fuel b).map fun (es, b) => ((k, v) :: es, b)
    | _ => none

/-- The items of a flow sequence. A key mark makes an item a mapping of one entry; where that key is
missing, the token in its place is passed over. -/
def flowItems (fuel : Nat) (first : Bool) (b : Builder) : Option (List Node × Builder) :=
  match fuel with
  | 0 => none
  | fuel + 1 =>
    if b.sees [.flowSequenceEnd] then some ([], b.skip)
    else if !first && !b.sees [.flowEntry] then none
    else
      let b := if first then b else b.skip
      if b.sees [.flowSequenceEnd] then some ([], b.skip)
      else
        let item :=
          if b.sees [.key] then
            let b := b.skip
            let key :=
              if b.sees [.value, .flowEntry, .flowSequenceEnd] then some b.skip.emptyScalar
              else node fuel false false b
            match key with
            | none => none
            | some (k, b) =>
              let value :=
                if b.sees [.value] then
                  let b := b.skip
                  if b.sees [.flowEntry, .flowSequenceEnd] then some b.emptyScalar
                  else node fuel false false b
                else some b.emptyScalar
              value.map fun (v, b) => (Node.mapping none [(k, v)], b.count 2)
          else node fuel false false b
        match item with
        | none => none
        | some (n, b) => (flowItems fuel false b).map fun (ns, b) => (n :: ns, b)

def flowEntries (fuel : Nat) (first : Bool) (b : Builder) : Option (List (Node × Node) × Builder) :=
  match fuel with
  | 0 => none
  | fuel + 1 =>
    if b.sees [.flowMappingEnd] then some ([], b.skip)
    else if !first && !b.sees [.flowEntry] then none
    else
      let b := if first then b else b.skip
      if b.sees [.flowMappingEnd] then some ([], b.skip)
      else
        let entry :=
          if b.sees [.key] then
            let b := b.skip
            let key :=
              if b.sees [.value, .flowEntry, .flowMappingEnd] then some b.emptyScalar
              else node fuel false false b
            match key with
            | none => none
            | some (k, b) =>
              let value :=
                if b.sees [.value] then
                  let b := b.skip
                  if b.sees [.flowEntry, .flowMappingEnd] then some b.emptyScalar
                  else node fuel false false b
                else some b.emptyScalar
              value.map fun (v, b) => ((k, v), b)
          else
            (node fuel false false b).map fun (k, b) =>
              let (v, b) := b.emptyScalar
              ((k, v), b)
        match entry with
        | none => none
        | some (e, b) => (flowEntries fuel false b).map fun (es, b) => (e :: es, b)

end

/-- The directives in front of a document: at most one version, which has to be 1.1 or 1.2, and tag
handles, each once. -/
def directives : Nat → Bool → Builder → Option Builder
  | 0, _, _ => none
  | fuel + 1, versioned, b =>
    match b.peek? with
    | some (.versionDirective major minor) =>
      if versioned || major ≠ 1 || !(minor = 1 || minor = 2) then none
      else directives fuel true b.skip
    | some (.tagDirective handle lead) =>
      if (b.handles.map (·.1)).contains handle then none
      else directives fuel versioned { b.skip with handles := (handle, lead) :: b.handles }
    | _ => some b

/-- The handles that every document has unless it gives them another meaning. -/
def standardHandles : List (String × String) := [("!", "!"), ("!!", "tag:yaml.org,2002:")]

def withStandardHandles (b : Builder) : Builder :=
  { b with handles := b.handles ++ standardHandles }

/-- The root node: marked by a document start, or bare. -/
def root (fuel : Nat) (b : Builder) : Option (Node × Builder) :=
  match b.peek? with
  | some (.versionDirective ..) | some (.tagDirective ..) | some .documentStart => do
    let b ← directives fuel false b
    if !b.sees [.documentStart] then none
    else
      let b := b.skip.withStandardHandles
      match b.peek? with
      | some (.versionDirective ..) | some (.tagDirective ..) | some .documentStart
      | some .documentEnd | some .streamEnd => some b.emptyScalar
      | _ => node fuel true false b
  | _ => node fuel true false b.withStandardHandles

end Builder

/-- The document in a text: `some none` if the text holds none, and nothing if it is malformed or holds
more than one. -/
def document? (text : String) : Option (Option Document) := do
  let tokens ← tokens? text
  if tokens = [.streamEnd] then some none
  else
    let b : Builder := ⟨tokens, [], [], 0, [], 0⟩
    let (root, b) ← b.root (2 * tokens.length + 2)
    if b.tokens.dropWhile (· = .documentEnd) = [.streamEnd] then
      some (some ⟨root, b.targets, b.events⟩)
    else none

end Gatehouse.Yaml
