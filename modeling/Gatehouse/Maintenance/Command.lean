import Gatehouse.Maintenance

/-!
The operations on a periodic task as data, so that runs of them can be written down. Whoever spawned a task keeps it
until it is shut down or dropped, and sleeps meanwhile, always up to a tick. The task need not have been polled at
that time when the sleep is over.
-/
namespace Gatehouse.Task

inductive Command where
  | sleep (d : Duration)
  /-- Lets the task have its turn. -/
  | yield
  /-- Ends the task, and waits for it. The choices tell which is first when a tick is due. -/
  | shutdown (choices : List Bool)
  | drop
  deriving DecidableEq, Repr

structure Tenure where
  now : Moment
  task : Task
  /-- Whether the task was neither shut down nor dropped. -/
  kept : Bool := true
  deriving Repr, Inhabited

namespace Tenure

def spawn (name : String) (now : Moment) (every work : Duration) : Tenure := { now, task := .spawn name now every work }

def perform (k : Tenure) : Command → Tenure × List Event
  | .sleep d =>
    let finish := (k.now.add d).tick
    let slept := k.task.advance k.now finish
    ({ k with now := finish, task := slept.1 }, slept.2)
  | .yield =>
    let polled := k.task.wake k.now []
    ({ k with task := polled.1 }, polled.2)
  | .shutdown choices =>
    if k.kept then
      let (now, task, events) := k.task.shutdown k.now choices
      (⟨now, task, false⟩, events)
    else (k, [])
  | .drop => if k.kept then ({ k with task := k.task.abort, kept := false }, []) else (k, [])

/-- The time and the task after a run, and what the task did meanwhile. -/
def run (k : Tenure) : List Command → Tenure × List Event
  | [] => (k, [])
  | c :: rest =>
    let after := (k.perform c).1.run rest
    (after.1, (k.perform c).2 ++ after.2)

end Tenure
end Gatehouse.Task
