import Gatehouse.Duration

/-!
State that a limiter keeps for each key, with the instant of the last request. Reading never makes a key
known; only requests do. A key is forgotten when it is reset, or when it has been idle and its state is
as good as new.
-/
namespace Gatehouse.Limiter

structure Entry (σ : Type) where
  state : σ
  lastSeen : Moment
  deriving Repr

abbrev Keyed (σ : Type) := List (String × Entry σ)

namespace Keyed
variable {σ : Type}

def get? (k : Keyed σ) (key : String) : Option σ := (k.lookup key).map (·.state)

def put (key : String) (e : Entry σ) : Keyed σ → Keyed σ
  | [] => [(key, e)]
  | (l, f) :: rest => if l = key then (key, e) :: rest else (l, f) :: put key e rest

def erase (key : String) (k : Keyed σ) : Keyed σ := k.filter fun e => e.1 ≠ key

/-- Entries that are still wanted: seen within the idle time, or not yet settled. -/
def purge (k : Keyed σ) (now : Moment) (idle : Duration) (settled : σ → Bool) : Keyed σ :=
  k.filter fun e => now.since e.2.lastSeen < idle || !settled e.2.state

def size (k : Keyed σ) : Nat := k.length

end Keyed

/-- A request over the limit, and how long to wait. -/
structure Exceeded where
  key : String
  retryAfter : Duration
  deriving DecidableEq, Repr

end Gatehouse.Limiter
