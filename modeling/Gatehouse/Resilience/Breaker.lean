import Gatehouse.Config

/-!
Circuit breakers. A closed circuit counts failures in a row and opens at a threshold; an open one rejects
calls until a cooldown has passed; then it is half-open and admits a few trials at a time, of which the
first success closes it and any failure opens it again. Each change of state begins a new generation, and
results of calls that were admitted in an earlier one are ignored.
-/
namespace Gatehouse.Resilience

inductive Circuit where
  | closed | opened | halfOpen
  deriving DecidableEq, Repr, Inhabited

def Circuit.name : Circuit → String
  | closed => "closed"
  | opened => "open"
  | halfOpen => "half_open"

structure Change where
  before : Circuit
  after : Circuit
  deriving DecidableEq, Repr

/-- What a call was admitted with. -/
structure Ticket where
  generation : Nat
  isTrial : Bool
  deriving DecidableEq, Repr

inductive Verdict where
  | success
  | failure
  /-- The call was canceled, timed out or dropped. -/
  | abandoned
  deriving DecidableEq, Repr

structure Breaker where
  config : Config.Breaker
  state : Circuit := .closed
  /-- Failures in a row. -/
  failures : Nat := 0
  /-- Trials that are not finished. -/
  trials : Nat := 0
  changedAt : Moment
  generation : Nat := 0
  deriving Repr, Inhabited

namespace Breaker

def moveTo (b : Breaker) (state : Circuit) (now : Moment) : Breaker × Option Change :=
  if b.state = state then (b, none)
  else
    ({ b with
        state, changedAt := now, generation := b.generation + 1, failures := 0, trials := 0 },
     some ⟨b.state, state⟩)

/-- Makes an open circuit half-open once its cooldown has passed. -/
def refresh (b : Breaker) (now : Moment) : Breaker × Option Change :=
  if b.state = .opened ∧ b.config.resetTimeout ≤ now.since b.changedAt then b.moveTo .halfOpen now
  else (b, none)

def ask (b : Breaker) (now : Moment) : Option Ticket × Breaker × Option Change :=
  let (b, change) := b.refresh now
  match b.state with
  | .closed => (some ⟨b.generation, false⟩, b, change)
  | .opened => (none, b, change)
  | .halfOpen =>
    if b.trials < b.config.halfOpenLimit then
      (some ⟨b.generation, true⟩, { b with trials := b.trials + 1 }, change)
    else (none, b, change)

/-- Reports how an admitted call ended. -/
def record (b : Breaker) (ticket : Ticket) (verdict : Verdict) (now : Moment) :
    Breaker × Option Change :=
  if b.generation ≠ ticket.generation then (b, none)
  else
    let b := if ticket.isTrial then { b with trials := b.trials - 1 } else b
    match b.state, verdict with
    | _, .abandoned => (b, none)
    | .opened, _ => (b, none)
    | .closed, .success => ({ b with failures := 0 }, none)
    | .closed, .failure =>
      let b := { b with failures := b.failures + 1 }
      if b.config.failureThreshold ≤ b.failures then b.moveTo .opened now else (b, none)
    | .halfOpen, .success => b.moveTo .closed now
    | .halfOpen, .failure => b.moveTo .opened now

/-- Closes the circuit and forgets its failures. -/
def reset (b : Breaker) (now : Moment) : Breaker × Option Change :=
  { b with failures := 0 }.moveTo .closed now

end Breaker

/-- Breakers with common settings under the names of their backends, in increasing order. -/
abbrev Breakers := List (String × Breaker)

namespace Breakers

/-- The breaker of a backend, a new one at its first use. -/
def get (bs : Breakers) (config : Config.Breaker) (now : Moment) (name : String) : Breaker :=
  (bs.lookup name).getD { config, changedAt := now }

def names (bs : Breakers) : List String := bs.map (·.1)

end Breakers
end Gatehouse.Resilience
