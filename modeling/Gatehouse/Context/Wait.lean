import Gatehouse.Context

/-!
Waiting for a context: its signal and a timer for its deadline run a race, and whoever waits looks at both whenever
one of them may have come in. When the handle of the signal is dropped, only the timer is left.
-/
namespace Gatehouse.Context

/-- A wait that is not over. -/
structure Wait where
  context : Context
  /-- It found that nobody can raise the signal any more, and does not listen to it. -/
  deaf : Bool := false
  deriving DecidableEq, Repr, Inhabited

/-- The error with which a wait is over, or what is left of it. The signal is looked at before the timer, which
fires at the first tick that is not before the deadline. -/
def Wait.poll (w : Wait) (s : Signals) (now : Moment) : Except ContextError Wait :=
  if !w.deaf && w.context.isCanceled s then .error .canceled
  else if w.context.wakeAt?.any (· ≤ now) then .error .deadlineExceeded
  else .ok { w with deaf := w.deaf || w.context.signal.any s.isDropped }

/-- Begins to wait. A context that is done already is not waited for. -/
def wait (c : Context) (s : Signals) (now : Moment) : Except ContextError Wait :=
  match c.error? s now with
  | some why => .error why
  | none => Wait.poll ⟨c, false⟩ s now

end Gatehouse.Context
