import Gatehouse.Duration

/-!
Contexts of requests: a deadline, and a signal by which the request may be canceled. Polling a context
compares the deadline with the exact time; whoever waits for it is woken by a timer, at the first tick not
before the deadline. Contexts with the same signal are canceled together.
-/
namespace Gatehouse

/-- Why a request should not go on. -/
inductive ContextError where
  | canceled | deadlineExceeded
  deriving DecidableEq, Repr, Inhabited

def ContextError.message : ContextError → String
  | canceled => "request canceled"
  | deadlineExceeded => "request deadline exceeded"

structure Context where
  /-- The signal that cancels the request, by number. -/
  signal : Option Nat := none
  deadline : Option Moment := none
  deriving DecidableEq, Repr, Inhabited

/-- The signals given out so far, and those that were raised. A raised signal stays raised. -/
structure Signals where
  count : Nat := 0
  raised : List Nat := []
  /-- Those whose handle was dropped. Nobody can raise them any more. -/
  dropped : List Nat := []
  deriving Repr, Inhabited

namespace Signals

def fresh (s : Signals) : Nat × Signals := (s.count, { s with count := s.count + 1 })

def raise (s : Signals) (n : Nat) : Signals := { s with raised := n :: s.raised }

def isRaised (s : Signals) (n : Nat) : Bool := s.raised.contains n

def drop (s : Signals) (n : Nat) : Signals := { s with dropped := n :: s.dropped }

def isDropped (s : Signals) (n : Nat) : Bool := s.dropped.contains n

end Signals

namespace Context

def background : Context := {}

/-- Ends at a deadline too; an earlier one is kept. -/
def withDeadline (c : Context) (deadline : Moment) : Context :=
  { c with
    deadline := some
      (match c.deadline with
        | some earlier => if earlier ≤ deadline then earlier else deadline
        | none => deadline) }

def withTimeout (c : Context) (now : Moment) (timeout : Duration) : Context :=
  c.withDeadline (now.add timeout)

def remaining? (c : Context) (now : Moment) : Option Duration := c.deadline.map fun d => d.since now

def isCanceled (c : Context) (s : Signals) : Bool := c.signal.any s.isRaised

/-- Whether the request should stop now. A cancellation goes before a deadline. -/
def error? (c : Context) (s : Signals) (now : Moment) : Option ContextError :=
  if c.isCanceled s then some .canceled
  else if c.deadline.any (· ≤ now) then some .deadlineExceeded
  else none

/-- When a timer wakes those who wait for the context. -/
def wakeAt? (c : Context) : Option Moment := c.deadline.map Moment.tick

/-- Why those who wait for the context are woken now. Who waits no longer compares with the deadline itself. -/
def wakes? (c : Context) (s : Signals) (now : Moment) : Option ContextError :=
  if c.isCanceled s then some .canceled
  else if c.wakeAt?.any (· ≤ now) then some .deadlineExceeded
  else none

end Context
end Gatehouse
