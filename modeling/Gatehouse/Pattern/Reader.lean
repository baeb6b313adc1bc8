import Gatehouse.Pattern.Bracket

/-!
Reading the text of a pattern in one pass. Open groups are kept with what was read before them; flags set
in a group hold to its end. There is no looking around and no reference back to a group.
-/
namespace Gatehouse.Pattern
open Unicode (CharSet)

/-- A part of a sequence and how deeply it is nested. Only what is no setting of flags may be repeated. -/
structure Piece where
  expr : Expr
  depth : Nat := 0
  isSetting : Bool := false

structure Group where
  flags : Flags
  branches : List Piece
  items : List Piece

/-- Where a reader stands: the open groups from the inside out, the names given so far, and in the
innermost group the flags, the alternatives that are finished and the parts of the last one, both
backwards. -/
structure State where
  groups : List Group := []
  names : List String := []
  flags : Flags := {}
  branches : List Piece := []
  items : List Piece := []

/-- How deeply a pattern may be nested. -/
def depthLimit : Nat := 250

def sequence (items : List Piece) : Piece :=
  match items with
  | [] => ⟨.nothing, 0, false⟩
  | [p] => ⟨p.expr, p.depth, false⟩
  | p :: ps =>
    ps.foldl (fun (all : Piece) (q : Piece) => ⟨.both q.expr all.expr, Nat.max q.depth all.depth, false⟩) p
      |> fun all => { all with depth := all.depth + 1 }

def State.content (st : State) : Piece :=
  let last := sequence st.items
  match st.branches with
  | [] => last
  | _ =>
    let all := st.branches.foldl
      (fun (all : Piece) (q : Piece) => ⟨.either q.expr all.expr, Nat.max q.depth all.depth, false⟩) last
    { all with depth := all.depth + 1 }

def State.add (st : State) (p : Piece) : State := { st with items := p :: st.items }

/-- Reads the flags before a colon or a closing parenthesis. -/
def readFlags : List Char → List Char → Bool → Flags → Option (Flags × List Char)
  | [], _, _, _ => none
  | c :: cs, given, on, f =>
    if c = ':' ∨ c = ')' then
      if given.head? = some '-' then none else some (f, c :: cs)
    else if given.contains c then none
    else
      match c with
      | '-' => readFlags cs (c :: given) false f
      | 'i' => readFlags cs (c :: given) on { f with anyCase := on }
      | 'm' => readFlags cs (c :: given) on { f with multiLine := on }
      | 's' => readFlags cs (c :: given) on { f with dotAll := on }
      | 'u' => readFlags cs (c :: given) on { f with everyScript := on }
      | 'R' => readFlags cs (c :: given) on { f with pairs := on }
      | 'x' => readFlags cs (c :: given) on { f with verbose := on }
      | 'U' => readFlags cs (c :: given) on f
      | _ => none

def isNameStart (c : Char) : Bool :=
  c = '_' || ((Unicode.property? "alphabetic").getD .empty).contains c

def isNameChar (c : Char) : Bool :=
  isNameStart c || c = '.' || c = '[' || c = ']' ||
    (Unicode.unionOfCategories ["nd", "nl", "no"]).contains c

/-- The name of a group, up to a closing angle bracket. -/
def groupName? (cs : List Char) : Option (String × List Char) :=
  let name := cs.takeWhile (· ≠ '>')
  match name, cs.dropWhile (· ≠ '>') with
  | c :: rest, '>' :: behind =>
    if isNameStart c && rest.all isNameChar then some (String.ofList name, behind) else none
  | _, _ => none

/-- Opens a group, or sets flags, behind a parenthesis. -/
def openGroup (st : State) (cs : List Char) : Option (State × List Char) :=
  let enter (flags : Flags) (names : List String) : State :=
    { groups := ⟨st.flags, st.branches, st.items⟩ :: st.groups, names := names, flags := flags }
  let named (cs : List Char) : Option (State × List Char) := do
    let (name, rest) ← groupName? cs
    if st.names.contains name then none else some (enter st.flags (name :: st.names), rest)
  match st.flags.skip cs with
  | '?' :: '=' :: _ => none
  | '?' :: '!' :: _ => none
  | '?' :: '<' :: '=' :: _ => none
  | '?' :: '<' :: '!' :: _ => none
  | '?' :: 'P' :: '<' :: rest => named rest
  | '?' :: '<' :: rest => named rest
  | '?' :: rest => do
    let (flags, behind) ← readFlags rest [] true st.flags
    match behind with
    | ':' :: behind => some (enter flags st.names, behind)
    | ')' :: behind =>
      if rest.head? = some ')' then none
      else some ({ st with flags := flags }.add ⟨.nothing, 0, true⟩, behind)
    | _ => none
  | cs => some (enter st.flags st.names, cs)

def closeGroup (st : State) : Option State :=
  match st.groups with
  | [] => none
  | g :: groups =>
    let inner := st.content
    some { groups := groups, names := st.names, flags := g.flags, branches := g.branches
           items := ⟨inner.expr, inner.depth + 1, false⟩ :: g.items }

def repeated (st : State) (low : Nat) (high : Option Nat) : Option State :=
  match st.items with
  | [] => none
  | p :: items =>
    if p.isSetting then none
    else some { st with items := ⟨.repeated p.expr low high, p.depth + 1, false⟩ :: items }

/-- A question mark behind a repetition asks for a short match, which is all the same here. -/
def dropLazy : List Char → List Char
  | '?' :: cs => cs
  | cs => cs

/-- A number with blanks around it; in verbose patterns they may also be inside. -/
def number? (f : Flags) (cs : List Char) : Option (Nat × List Char) :=
  let digits (cs : List Char) : List Char × List Char :=
    (cs.takeWhile Text.Decimal.isDigit, cs.dropWhile Text.Decimal.isDigit)
  let rec go (fuel : Nat) (read : List Char) (cs : List Char) : List Char × List Char :=
    match fuel with
    | 0 => (read, cs)
    | fuel + 1 =>
      let (ds, rest) := digits cs
      let rest := f.skip rest
      if ds.isEmpty then (read, rest) else go fuel (read ++ ds) rest
  let (ds, rest) := go (cs.length + 1) [] (cs.dropWhile Text.isBlank)
  let n := Text.Decimal.value ds
  if ds.isEmpty ∨ Nat.pow 2 32 ≤ n then none else some (n, f.skip (rest.dropWhile Text.isBlank))

/-- A repetition behind an opening brace. -/
def counted (st : State) (cs : List Char) : Option (State × List Char) := do
  let f := st.flags
  let close (low : Nat) (high : Option Nat) (cs : List Char) : Option (State × List Char) := do
    match cs with
    | '\x7d' :: rest =>
      if high.any (· < low) then none
      else some (← repeated st low high, dropLazy (f.skip rest))
    | _ => none
  let (low, cs) ← number? f (f.skip cs)
  match cs with
  | ',' :: rest =>
    match f.skip rest with
    | '\x7d' :: rest => close low none ('\x7d' :: rest)
    | rest => do
      let (high, rest) ← number? f rest
      close low (some high) rest
  | cs => close low (some low) cs

/-- A character by itself, in any case if the flags say so. -/
def literal? (f : Flags) (c : Char) (isByte : Bool) : Option Expr :=
  if isByte ∧ !f.everyScript ∧ 0x80 ≤ c.toNat then none else some (.one (f.fold (.ofChar c)))

def dot? (f : Flags) : Option Expr :=
  if !f.everyScript then none
  else if f.dotAll then some (.one .everything)
  else
    let ends := if f.pairs then [(10, 10), (13, 13)] else [(10, 10)]
    some (.one (CharSet.ofRanges ends).complement)

def lineStart (f : Flags) : Expr := .check (if f.multiLine then .lineStart f.pairs else .textStart)
def lineEnd (f : Flags) : Expr := .check (if f.multiLine then .lineEnd f.pairs else .textEnd)

def primitive? (f : Flags) : Primitive → Option Expr
  | .char c isByte => literal? f c isByte
  | .set s => some (.one s)
  | .check a => some (.check a)

def step (st : State) (c : Char) (cs : List Char) : Option (State × List Char) := do
  let f := st.flags
  match c with
  | '(' => openGroup st cs
  | ')' => some (← closeGroup st, cs)
  | '|' => some ({ st with branches := sequence st.items :: st.branches, items := [] }, cs)
  | '[' =>
    let (nested, cs) ← bracket? f cs
    some (st.add ⟨.one nested.set, nested.depth, false⟩, cs)
  | '?' => some (← repeated st 0 (some 1), dropLazy cs)
  | '*' => some (← repeated st 0 none, dropLazy cs)
  | '+' => some (← repeated st 1 none, dropLazy cs)
  | '\x7b' => counted st cs
  | '\\' =>
    let (p, cs) ← escape? f cs
    some (st.add ⟨← primitive? f p, 0, false⟩, cs)
  | '.' => some (st.add ⟨← dot? f, 0, false⟩, cs)
  | '^' => some (st.add ⟨lineStart f, 0, false⟩, cs)
  | '$' => some (st.add ⟨lineEnd f, 0, false⟩, cs)
  | c => some (st.add ⟨← literal? f c false, 0, false⟩, cs)

/-- Reads part after part. Each takes a character at least. -/
def readAll : Nat → State → List Char → Option State
  | 0, _, _ => none
  | fuel + 1, st, cs =>
    match st.flags.skip cs with
    | [] => some st
    | c :: cs =>
      match step st c cs with
      | none => none
      | some (st, cs) => readAll fuel st cs

/-- The expression of a text, unless it is malformed, too deeply nested or too large. -/
def expr? (s : String) : Option Expr := do
  let cs := s.toList
  let st ← readAll (cs.length + 1) {} cs
  let all := st.content
  if !st.groups.isEmpty || depthLimit < all.depth || Expr.costLimit < all.expr.cost then none
  else some all.expr

end Gatehouse.Pattern
