import Gatehouse.Authority.Rotation

/-!
Rotations of one token take turns. Each caller first fetches the lock of its token, making one if there is
none, waits until nobody is inside, and when it has left removes the lock if nobody else refers to it. Its own
reference it gives up last, when it no longer keeps others from the locks. A caller that waits or is inside may
also be dropped where it stands: it gives up its place, and its reference after that.
-/
namespace Gatehouse.Authority

/-- How far a caller has come. -/
inductive Stage where
  | waiting
  | inside
  /-- It has left, and has yet to see whether the lock is needed. -/
  | leaving
  /-- It is done with the lock, but still refers to it. -/
  | parting
  deriving DecidableEq, Repr, Inhabited

structure Caller where
  number : Nat
  /-- The token to rotate. -/
  id : String
  lock : Nat
  stage : Stage
  deriving DecidableEq, Repr, Inhabited

/-- The locks that are known, by token, and the callers in the order of arrival. -/
structure Locks where
  entries : List (String × Nat) := []
  callers : List Caller := []
  /-- The next number, of a lock or a caller. -/
  next : Nat := 0
  deriving Repr, Inhabited

namespace Locks

/-- What a caller, given by its number, does next. -/
inductive Step where
  /-- A new caller fetches the lock of a token. -/
  | arrive (id : String)
  /-- It takes its turn, if the lock is free. -/
  | enter (number : Nat)
  /-- It is done and frees the lock. -/
  | leave (number : Nat)
  /-- It removes the lock if nobody else refers to it. -/
  | settle (number : Nat)
  /-- It no longer refers to the lock, and is gone. -/
  | forget (number : Nat)
  /-- It is dropped while it waits or is inside, and loses its place. -/
  | drop (number : Nat)
  deriving DecidableEq, Repr

def find? (l : Locks) (number : Nat) : Option Caller := l.callers.find? (·.number = number)

def without (l : Locks) (number : Nat) : Locks :=
  { l with callers := l.callers.filter (·.number ≠ number) }

/-- How often a lock is referred to, by its entry and by callers. -/
def references (l : Locks) (lock : Nat) : Nat :=
  (l.entries.filter (·.2 = lock)).length + (l.callers.filter (·.lock = lock)).length

def arrive (l : Locks) (id : String) : Locks :=
  match l.entries.lookup id with
  | some lock => { l with callers := l.callers ++ [⟨l.next, id, lock, .waiting⟩], next := l.next + 1 }
  | none =>
    { entries := (id, l.next) :: l.entries
      callers := l.callers ++ [⟨l.next + 1, id, l.next, .waiting⟩], next := l.next + 2 }

/-- Whether nobody is inside with a lock. -/
def isFree (l : Locks) (lock : Nat) : Bool :=
  !l.callers.any fun c => c.lock = lock ∧ c.stage = .inside

def move (l : Locks) (number : Nat) (stage : Stage) : Locks :=
  { l with callers := l.callers.map fun c => if c.number = number then { c with stage } else c }

def enter (l : Locks) (number : Nat) : Locks :=
  match l.find? number with
  | none => l
  | some c => if c.stage = .waiting ∧ l.isFree c.lock then l.move number .inside else l

def leave (l : Locks) (number : Nat) : Locks :=
  match l.find? number with
  | none => l
  | some c => if c.stage = .inside then l.move number .leaving else l

/-- The entry of a token is removed if only it and the caller refer to the lock. -/
def settle (l : Locks) (number : Nat) : Locks :=
  match l.find? number with
  | none => l
  | some c =>
    if c.stage ≠ .leaving then l
    else
      let entries := if l.references c.lock ≤ 2 then l.entries.filter (·.1 ≠ c.id) else l.entries
      { l.move number .parting with entries }

def forget (l : Locks) (number : Nat) : Locks :=
  match l.find? number with
  | none => l
  | some c => if c.stage = .parting then l.without number else l

/-- Nobody comes between the two parts of it. -/
def release (l : Locks) (number : Nat) : Locks := (l.settle number).forget number

def drop (l : Locks) (number : Nat) : Locks :=
  match l.find? number with
  | none => l
  | some c => if c.stage = .waiting ∨ c.stage = .inside then l.move number .parting else l

def step (l : Locks) : Step → Locks
  | .arrive id => l.arrive id
  | .enter number => l.enter number
  | .leave number => l.leave number
  | .settle number => l.settle number
  | .forget number => l.forget number
  | .drop number => l.drop number

def run (l : Locks) (steps : List Step) : Locks := steps.foldl step l

def inside (l : Locks) : List Caller := l.callers.filter (·.stage = .inside)

end Locks

/-- A rotation that was asked for, and the id that its token gets if the request names none. -/
structure Rotation where
  old : Token
  request : Token.Request
  fresh : String
  deriving Repr, Inhabited

/-- Lets the callers with the rotations they ask for take their turns, as long as somebody can enter. -/
def takeTurns (now stamp : Instant) :
    List (Nat × Rotation) → Locks → Authority → List (Except Token.Error Token) × Authority
  | [], _, a => ([], a)
  | (number, r) :: rest, l, a =>
    let l := l.enter number
    if l.inside.any (·.number = number) then
      let (result, a) := a.rotate now stamp r.fresh r.old r.request
      let (results, a) := takeTurns now stamp rest ((l.leave number).release number) a
      (result :: results, a)
    else takeTurns now stamp rest l a

/-- Rotations that are started together. -/
def rotateTogether (a : Authority) (now stamp : Instant) (rs : List Rotation) :
    List (Except Token.Error Token) × Authority :=
  let start (acc : Locks × List (Nat × Rotation)) (r : Rotation) : Locks × List (Nat × Rotation) :=
    let l := acc.1.arrive r.old.id
    (l, acc.2 ++ [(l.next - 1, r)])
  let (l, callers) := rs.foldl start ({}, [])
  takeTurns now stamp callers l a

end Gatehouse.Authority
