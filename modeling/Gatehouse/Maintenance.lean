import Gatehouse.Duration

/-!
Periodic tasks. The first run is due one period after the start, and each further run one period after the
one before was due; a run that begins more than five milliseconds late moves the following ones. Runs of
one task never overlap: what is due during a run begins at its end. Between its runs a task waits for the next
tick and for a signal to stop, and if both have come in by the time it is polled either may win.
-/
namespace Gatehouse

/-- A period of a millisecond at least, and the instant at which the next tick is due. -/
structure Ticker where
  period : Duration
  deadline : Moment
  deriving DecidableEq, Repr, Inhabited

namespace Ticker

def start (now : Moment) (every : Duration) : Ticker :=
  let period := every.max (.ofMillis 1)
  ⟨period, now.add period⟩

/-- How late a tick may be without moving the following ones. -/
def grace : Duration := .ofMillis 5

/-- The timer for the next tick. -/
def wakeAt (t : Ticker) : Moment := t.deadline.tick

/-- After a tick that took place at `now`. -/
def next (t : Ticker) (now : Moment) : Ticker :=
  { t with
    deadline := if t.deadline.add grace < now then now.add t.period else t.deadline.add t.period }

end Ticker

structure Task where
  name : String
  ticker : Ticker
  /-- How long a run takes. -/
  work : Duration := .zero
  /-- The end of the run in progress. -/
  busyUntil : Option Moment := none
  /-- Whether the signal to stop was raised. -/
  stopping : Bool := false
  /-- Whether the task came to its end, or was aborted. It is not polled any more. -/
  gone : Bool := false
  deriving Repr, Inhabited

namespace Task

inductive Event where
  | started (moment : Moment)
  | ended (moment : Moment)
  deriving DecidableEq, Repr

def spawn (name : String) (now : Moment) (every work : Duration) : Task :=
  { name, ticker := .start now every, work }

/-- When there is next something to do. -/
def wakeAt (t : Task) : Moment := t.busyUntil.getD t.ticker.wakeAt

/-- Whether a tick is due, and no run in progress keeps it waiting. -/
def isDue (t : Task) (now : Moment) : Bool := !t.gone && t.busyUntil.isNone && t.ticker.wakeAt ≤ now

/-- Begins a run. One that takes no time is over at once. -/
def beginRun (t : Task) (now : Moment) : Task × List Event :=
  let t := { t with ticker := t.ticker.next now }
  if t.work = .zero then (t, [.started now, .ended now])
  else ({ t with busyUntil := some (now.add t.work).tick }, [.started now])

/-- Goes through the loop between two runs. Whether a tick goes before the signal to stop is left to chance, each
time that both have come in; without further choices it is the signal. -/
def loop (now : Moment) : Nat → List Bool → Task → Task × List Event
  | 0, _, t => (t, [])
  | fuel + 1, choices, t =>
    if t.gone || t.busyUntil.isSome then (t, [])
    else if t.stopping && !(t.isDue now && choices.headD false) then ({ t with gone := true }, [])
    else if t.isDue now then
      let (t, events) := t.beginRun now
      let (t, more) := loop now fuel choices.tail t
      (t, events ++ more)
    else (t, [])

/-- Polls the task at `now`. Of runs that take no time several may be due, each a millisecond at least after the one
before. -/
def wake (t : Task) (now : Moment) (choices : List Bool) : Task × List Event :=
  let fuel := (now.since t.ticker.deadline).nanos / Duration.nanosPerMilli + 2
  match t.busyUntil with
  | none => loop now fuel choices t
  | some finish =>
    if now < finish then (t, [])
    else
      let (t, events) := loop now fuel choices { t with busyUntil := none }
      (t, .ended finish :: events)

/-- Does everything that is due before `finish`, each at its own time. What is due at that time itself is left for
when the task is polled there. -/
def runTo (finish : Moment) : Nat → Task → List Event → Task × List Event
  | 0, t, events => (t, events)
  | fuel + 1, t, events =>
    if t.gone || finish ≤ t.wakeAt then (t, events)
    else
      let (t, more) := t.wake t.wakeAt []
      runTo finish fuel t (events ++ more)

def advance (t : Task) (now finish : Moment) : Task × List Event :=
  runTo finish (2 * ((finish.since now).nanos / Duration.nanosPerMilli + 2)) t []

/-- Lets time pass, and polls the task in the end. -/
def pass (t : Task) (now finish : Moment) : Task × List Event :=
  let (t, events) := t.advance now finish
  let (t, more) := t.wake finish []
  (t, events ++ more)

/-- Polls the task, at `now` and whenever a run ends, until it has stopped. -/
def join : Nat → List Bool → Moment → Task → Moment × Task × List Event
  | 0, _, now, t => (now, t, [])
  | fuel + 1, choices, now, t =>
    let (t, events) := t.wake now choices
    match t.busyUntil with
    | none => (now, t, events)
    | some finish =>
      let (last, t, more) := join fuel choices.tail finish t
      (last, t, events ++ more)

/-- Raises the signal to stop and waits until the task has stopped, which is after the run in progress and those that
win over the signal. -/
def shutdown (t : Task) (now : Moment) (choices : List Bool) : Moment × Task × List Event :=
  join (choices.length + 2) choices now { t with stopping := true }

/-- Drops the task where it stands. -/
def abort (t : Task) : Task := { t with gone := true, busyUntil := none }

def runs (events : List Event) : Nat :=
  (events.filter fun
    | .started _ => true
    | .ended _ => false).length

end Task
end Gatehouse
