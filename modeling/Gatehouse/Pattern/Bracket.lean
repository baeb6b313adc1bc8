import Gatehouse.Pattern.Escape

/-!
Classes in brackets: characters, ranges, classes inside classes, and three operations between everything
on their left and everything on their right: intersection, difference and symmetric difference.
-/
namespace Gatehouse.Pattern
open Unicode (CharSet)

namespace Bracket

inductive Operation where
  | intersection | difference | symmetricDifference
  deriving DecidableEq, Repr

def Operation.apply (op : Operation) (a b : CharSet) : CharSet :=
  match op with
  | .intersection => a.intersection b
  | .difference => a.difference b
  | .symmetricDifference => a.symmetricDifference b

/-- A set and how deeply its brackets and operations are nested. -/
structure Nested where
  set : CharSet
  depth : Nat

/-- Items side by side. -/
structure Union where
  ranges : List (Nat × Nat) := []
  count : Nat := 0
  depth : Nat := 0

def Union.add (u : Union) (item : Nested) : Union :=
  ⟨item.set.ranges.toList ++ u.ranges, u.count + 1, Nat.max u.depth item.depth⟩

def Union.addChar (u : Union) (c : Char) : Union := u.add ⟨.ofChar c, 0⟩

def Union.nested (u : Union) : Nested :=
  ⟨.ofRanges u.ranges, if u.count < 2 then u.depth else u.depth + 1⟩

/-- The left operand of an operation whose right one is still read. -/
structure Pending where
  op : Operation
  left : Nested

/-- A bracket that is open, with the items read before it in the bracket around it. -/
structure Frame where
  outside : Union
  /-- The operation that the outside was the right operand of. -/
  outsidePending : Option Pending
  outsideNegated : Bool

/-- Where a reader of brackets stands. -/
structure State where
  frames : List Frame := []
  negated : Bool
  pending : Option Pending := none
  union : Union

def asciiClass? (name : String) : Option CharSet :=
  (match name with
    | "alnum" => some [(0x30, 0x39), (0x41, 0x5A), (0x61, 0x7A)]
    | "alpha" => some [(0x41, 0x5A), (0x61, 0x7A)]
    | "ascii" => some [(0, 0x7F)]
    | "blank" => some [(0x09, 0x09), (0x20, 0x20)]
    | "cntrl" => some [(0, 0x1F), (0x7F, 0x7F)]
    | "digit" => some [(0x30, 0x39)]
    | "graph" => some [(0x21, 0x7E)]
    | "lower" => some [(0x61, 0x7A)]
    | "print" => some [(0x20, 0x7E)]
    | "punct" => some [(0x21, 0x2F), (0x3A, 0x40), (0x5B, 0x60), (0x7B, 0x7E)]
    | "space" => some [(0x09, 0x0D), (0x20, 0x20)]
    | "upper" => some [(0x41, 0x5A)]
    | "word" => some [(0x30, 0x39), (0x41, 0x5A), (0x5F, 0x5F), (0x61, 0x7A)]
    | "xdigit" => some [(0x30, 0x39), (0x41, 0x46), (0x61, 0x66)]
    | _ => none).map CharSet.ofRanges

/-- A class such as `[:alpha:]` or `[:^alpha:]`, behind its first bracket; whatever is not exactly that is
left for other readers. -/
def namedAscii? (cs : List Char) : Option ((CharSet × Bool) × List Char) :=
  match cs with
  | ':' :: cs =>
    let (negated, cs) :=
      match cs with
      | '^' :: cs => (true, cs)
      | cs => (false, cs)
    match cs.dropWhile (· ≠ ':') with
    | ':' :: ']' :: rest =>
      (asciiClass? (String.ofList (cs.takeWhile (· ≠ ':')))).map fun s => ((s, negated), rest)
    | _ => none
  | _ => none

/-- One end of a range or one item: a character or an escape. -/
def item? (f : Flags) : List Char → Option (Primitive × List Char)
  | [] => none
  | '\\' :: cs => escape? f cs
  | c :: cs => some (.char c false, cs)

/-- The character of a primitive that is one. Without the classes of all scripts it has to be ASCII. -/
def charOf? (f : Flags) : Primitive → Option Char
  | .char c _ => if f.everyScript || c.toNat < 0x80 then some c else none
  | _ => none

def setOf? (f : Flags) (p : Primitive) : Option CharSet :=
  match p with
  | .set s => some s
  | p => (charOf? f p).map CharSet.ofChar

/-- An item or a range. A hyphen before the closing bracket or before another hyphen makes no range. -/
def range? (f : Flags) (cs : List Char) : Option (CharSet × List Char) := do
  let (first, cs) ← item? f cs
  let cs := f.skip cs
  let alone : Option (CharSet × List Char) := (setOf? f first).map fun s => (s, cs)
  match cs with
  | [] => none
  | '-' :: rest =>
    match f.skip rest with
    | [] => none
    | ']' :: _ => alone
    | '-' :: _ => alone
    | rest =>
      let (last, rest) ← item? f rest
      let a ← charOf? f first
      let b ← charOf? f last
      if b.toNat < a.toNat then none else some (CharSet.ofRanges [(a.toNat, b.toNat)], rest)
  | _ => alone

/-- Hyphens at the beginning of a bracket stand for themselves. -/
def leadingHyphens (f : Flags) (u : Union) : Nat → List Char → Union × List Char
  | 0, cs => (u, cs)
  | fuel + 1, cs =>
    match f.skip cs with
    | '-' :: rest => leadingHyphens f (u.addChar '-') fuel rest
    | cs => (u, cs)

/-- The beginning of a bracket: whether it is negated, and what stands for itself there. -/
def start? (f : Flags) (cs : List Char) : Option ((Bool × Union) × List Char) :=
  let (negated, cs) :=
    match f.skip cs with
    | '^' :: rest => (true, f.skip rest)
    | cs => (false, cs)
  let (u, cs) := leadingHyphens f {} cs.length cs
  let (u, cs) :=
    match u.count, cs with
    | 0, ']' :: rest => (u.addChar ']', f.skip rest)
    | _, cs => (u, cs)
  if cs.isEmpty then none else some ((negated, u), cs)

/-- Ends the right operand of an operation. -/
def finish (f : Flags) (pending : Option Pending) (u : Union) : Nested :=
  let right := u.nested
  match pending with
  | none => right
  | some p =>
    ⟨p.op.apply (f.fold p.left.set) (f.fold right.set), Nat.max p.left.depth right.depth + 1⟩

def run (f : Flags) : Nat → State → List Char → Option (Nested × List Char)
  | 0, _, _ => none
  | fuel + 1, st, cs =>
    let operation (op : Operation) (rest : List Char) : Option (Nested × List Char) :=
      let pending := some ⟨op, finish f st.pending st.union⟩
      run f fuel { st with pending := pending, union := {} } rest
    let open? (rest : List Char) : Option (Nested × List Char) := do
      let ((negated, u), rest) ← start? f rest
      let frame : Frame := ⟨st.union, st.pending, st.negated⟩
      run f fuel ⟨frame :: st.frames, negated, none, u⟩ rest
    match f.skip cs with
    | [] => none
    | '[' :: rest =>
      match namedAscii? rest with
      | some ((s, negated), rest) => do
        let s ← f.foldAndNegate? negated s
        run f fuel { st with union := st.union.add ⟨s, 0⟩ } rest
      | none => open? rest
    | ']' :: rest => do
      let inner := finish f st.pending st.union
      let closed : Nested := ⟨← f.foldAndNegate? st.negated inner.set, inner.depth + 1⟩
      match st.frames with
      | [] => some (closed, rest)
      | frame :: frames =>
        run f fuel ⟨frames, frame.outsideNegated, frame.outsidePending, frame.outside.add closed⟩ rest
    | '&' :: '&' :: rest => operation .intersection rest
    | '-' :: '-' :: rest => operation .difference rest
    | '~' :: '~' :: rest => operation .symmetricDifference rest
    | cs => do
      let (s, rest) ← range? f cs
      run f fuel { st with union := st.union.add ⟨s, 0⟩ } rest

end Bracket

def bracket? (f : Flags) (cs : List Char) : Option (Bracket.Nested × List Char) := do
  let ((negated, u), rest) ← Bracket.start? f cs
  Bracket.run f (rest.length + 1) { negated := negated, union := u } rest

end Gatehouse.Pattern
