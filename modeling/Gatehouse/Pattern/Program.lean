import Gatehouse.Pattern.Expr

/-!
Programs that decide whether a text fits a pattern, in time linear in the text: at each position the set
of all instructions that can be reached is kept, so no way through the pattern is tried twice.
-/
namespace Gatehouse.Pattern

inductive Instr where
  | accept
  | fork (first second : Nat)
  | read (set : Unicode.CharSet) (next : Nat)
  | check (a : Assertion) (next : Nat)
  deriving Repr, Inhabited

/-- Instructions, and the one to begin with. -/
structure Program where
  code : Array Instr
  start : Nat
  deriving Repr, Inhabited

namespace Program

/-- Adds instructions for an expression that go on at `start`. -/
def prepend (e : Expr) (p : Program) : Program :=
  match e with
  | .nothing => p
  | .one s => ⟨p.code.push (.read s p.start), p.code.size⟩
  | .check a => ⟨p.code.push (.check a p.start), p.code.size⟩
  | .both a b => prepend a (prepend b p)
  | .either a b =>
    let first := prepend a p
    let second := prepend b ⟨first.code, p.start⟩
    ⟨second.code.push (.fork first.start second.start), second.code.size⟩
  | .times e low high =>
    let rest :=
      match high with
      | none =>
        let loop := p.code.size
        let body := prepend e ⟨p.code.push .accept, loop⟩
        ⟨body.code.setIfInBounds loop (.fork body.start p.start), loop⟩
      | some high =>
        let optional (q : Program) : Program :=
          let body := prepend e q
          ⟨body.code.push (.fork body.start p.start), body.code.size⟩
        Nat.repeat optional (high - low) p
    Nat.repeat (prepend e) low rest

def ofExpr (e : Expr) : Program := prepend e ⟨#[.accept], 0⟩

/-- Follows instructions that read nothing. Returns what may be read next, or nothing if the end was
reached. Each instruction is followed once, so there are at most twice as many steps as instructions
and starting points. -/
def follow (code : Array Instr) (before after : Option Char) :
    Nat → List Nat → Array Bool → List (Unicode.CharSet × Nat) → Option (List (Unicode.CharSet × Nat))
  | 0, _, _, reads => some reads
  | _, [], _, reads => some reads
  | fuel + 1, i :: todo, done, reads =>
    if done.getD i true then follow code before after fuel todo done reads
    else
      let done := done.setIfInBounds i true
      match code[i]? with
      | none => follow code before after fuel todo done reads
      | some .accept => none
      | some (.fork a b) => follow code before after fuel (a :: b :: todo) done reads
      | some (.read s next) => follow code before after fuel todo done ((s, next) :: reads)
      | some (.check a next) =>
        let todo := if a.holds before after then next :: todo else todo
        follow code before after fuel todo done reads

/-- Reads on from a position: `todo` are the instructions reached so far, and a new try starts at each
position. -/
def search (p : Program) (before : Option Char) (todo : List Nat) : List Char → Bool
  | [] => (reads p before none todo).isNone
  | c :: cs =>
    match reads p before (some c) todo with
    | none => true
    | some reads =>
      search p (some c) (reads.filterMap fun r => if r.1.contains c then some r.2 else none) cs
where
  reads (p : Program) (before after : Option Char) (todo : List Nat) :
      Option (List (Unicode.CharSet × Nat)) :=
    follow p.code before after (2 * p.code.size + todo.length + 2) (p.start :: todo)
      (Array.replicate p.code.size false) []

def matchesText (p : Program) (s : String) : Bool := p.search none [] s.toList

end Program
end Gatehouse.Pattern
