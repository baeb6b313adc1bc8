import Gatehouse.Unicode.Property

/-!
Patterns as expressions: a text fits an expression if some stretch of it does. Assertions take up no
character; they look at the characters on both sides of a position.
-/
namespace Gatehouse.Pattern

/-- The places of a word that can be asked for. -/
inductive WordPlace where
  | edge | inside | start | finish | startHalf | finishHalf
  deriving DecidableEq, Repr

inductive Assertion where
  | textStart
  | textEnd
  /-- A line ends at a line feed; if `pairs`, also at a carriage return, and never between the two. -/
  | lineStart (pairs : Bool)
  | lineEnd (pairs : Bool)
  | word (place : WordPlace) (everyScript : Bool)
  deriving DecidableEq, Repr

inductive Expr where
  | nothing
  | one (set : Unicode.CharSet)
  | check (a : Assertion)
  | both (first second : Expr)
  | either (first second : Expr)
  /-- As often as `low` times at least and `high` times at most. -/
  | times (e : Expr) (low : Nat) (high : Option Nat)
  deriving Repr, Inhabited

def asciiWordChars : Unicode.CharSet :=
  .ofRanges [(0x30, 0x39), (0x41, 0x5A), (0x5F, 0x5F), (0x61, 0x7A)]

def isWordChar (everyScript : Bool) : Option Char → Bool
  | none => false
  | some c => (if everyScript then Unicode.wordChars else asciiWordChars).contains c

def WordPlace.holds (p : WordPlace) (before after : Bool) : Bool :=
  match p with
  | edge => before != after
  | inside => before == after
  | start => !before && after
  | finish => before && !after
  | startHalf => !before
  | finishHalf => !after

/-- Whether an assertion holds between two characters, each absent at an end of the text. -/
def Assertion.holds (a : Assertion) (before after : Option Char) : Bool :=
  match a with
  | textStart => before.isNone
  | textEnd => after.isNone
  | lineStart pairs =>
    before.isNone || before = some '\n' || (pairs && before = some '\r' && after != some '\n')
  | lineEnd pairs =>
    after.isNone || (if pairs then after = some '\r' || (after = some '\n' && before != some '\r')
      else after = some '\n')
  | word place everyScript =>
    place.holds (isWordChar everyScript before) (isWordChar everyScript after)

namespace Expr

/-- Whether an expression takes up no character wherever it fits. -/
def isEmpty : Expr → Bool
  | nothing => true
  | one _ => false
  | check _ => true
  | both a b => isEmpty a && isEmpty b
  | either a b => isEmpty a && isEmpty b
  | times e _ high => high = some 0 || isEmpty e

/-- A repetition. What takes up no character needs to fit only once, however often it is wanted. -/
def repeated (e : Expr) (low : Nat) (high : Option Nat) : Expr :=
  if e.isEmpty then times e (Nat.min low 1) (some (Nat.min (high.getD 1) 1)) else times e low high

/-- An estimate of the memory for a set of characters, in bytes: one state for ASCII, several where
characters take several bytes. -/
def setCost (s : Unicode.CharSet) : Nat :=
  match s.ranges.back? with
  | none => 32
  | some (_, last) =>
    if last < 0x80 then 32 + (if s.ranges.size = 1 then 0 else 8 * s.ranges.size)
    else if s.ranges = #[(last, last)] then 128
    else 300 + 60 * s.ranges.size

/-- An estimate of the memory for an expression with its repetitions written out, in bytes. -/
def cost : Expr → Nat
  | nothing => 32
  | one s => setCost s
  | check _ => 32
  | both a b => cost a + cost b
  | either a b => cost a + cost b + 64
  | times e low none => (low + 1) * cost e + 64
  | times e low (some high) => low * cost e + (high - low) * (cost e + 40) + 32

/-- What the estimate may not exceed. -/
def costLimit : Nat := 10 * Nat.pow 2 20

end Expr
end Gatehouse.Pattern
