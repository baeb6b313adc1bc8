import Gatehouse.Gateway.Principal
import Gatehouse.Resilience.Breaker
import Gatehouse.Resilience.CallError

/-!
Calls on their way through the layers before a backend. From the outside in there may be a bulkhead, which
lets a limited number of calls pass at a time; retries with growing pauses; and a breaker for each backend,
which every attempt passes on its own. Time is simulated: between two instants nothing happens, and at
each instant everything happens that can. When the deadline of a call and its completion fall on one
instant, the deadline goes first. Timers fire at ticks only, those of deadlines too; where a layer looks at
the context by itself, before it waits or calls, the exact time counts.
-/
namespace Gatehouse.Resilience

/-- How a backend answers an attempt: after some time or never, and then by one of three ends. -/
inductive End where
  | success
  | failure (e : CallError)
  /-- The call dies without a result. -/
  | crash
  deriving Repr

structure Reply where
  after : Option Duration
  result : End
  deriving Repr

structure BulkheadLayer where
  name : String
  config : Config.Bulkhead
  deriving Repr, Inhabited

structure Layers where
  bulkhead : Option BulkheadLayer := none
  retry : Option Config.Retry := none
  breaker : Option Config.Breaker := none
  deriving Repr, Inhabited

inductive Phase where
  /-- Waits for a permit of the bulkhead, perhaps not for ever. -/
  | queued (giveUpAt : Option Moment)
  /-- The backend works on an attempt. -/
  | attempting (attempt : Nat) (ticket : Option Ticket) (finishAt : Option Moment)
  /-- Pauses after an attempt. -/
  | pausing (attempt : Nat) (finish : Moment)
  /-- Waits for its context only. -/
  | watching
  deriving Repr

structure Call where
  id : String
  context : Context := {}
  backend : String := ""
  /-- On whose behalf the backend is called. -/
  principal : Option Gateway.Principal := none
  /-- The backend's reply to each attempt, from the first on. -/
  script : Nat → Reply
  holdsPermit : Bool := false

inductive Event where
  | invoked (call : String) (attempt : Nat) (principal : Option Gateway.Principal)
  | changed (breaker : String) (change : Change)
  | done (call : String) (result : Except CallError Nat)
  | woken (watcher : String) (why : ContextError)

structure Traffic where
  layers : Layers
  now : Moment := .start
  signals : Signals := {}
  /-- Permits of the bulkhead that are not taken. -/
  free : Nat := 0
  breakers : Breakers := []
  /-- Calls that are not finished, in the order in which they entered their phase. -/
  calls : List (Call × Phase) := []
  /-- What happened so far, and when. -/
  log : List (Moment × Event) := []

namespace Traffic

def ofLayers (layers : Layers) : Traffic :=
  { layers, free := (layers.bulkhead.map (·.config.maxConcurrent)).getD 0 }

def note (t : Traffic) (e : Event) : Traffic := { t with log := t.log ++ [(t.now, e)] }

/-- Why a call should not go on, for a layer that looks. -/
def errorOf? (t : Traffic) (c : Call) : Option ContextError := c.context.error? t.signals t.now

/-- Why a call that waits is woken by its context. -/
def wakes? (t : Traffic) (c : Call) : Option ContextError := c.context.wakes? t.signals t.now

def isDue (t : Traffic) (timer : Option Moment) : Bool := timer.any (· ≤ t.now)

/-- Stores a breaker and notes its change. -/
def setBreaker (t : Traffic) (name : String) (b : Breaker) (change : Option Change) : Traffic :=
  let t := { t with breakers := Json.setEntry name b t.breakers }
  match change with
  | none => t
  | some c => t.note (.changed name c)

/-- Applies an operation to the breaker of a backend, if there are breakers. -/
def onBreaker (t : Traffic) (name : String) (f : Breaker → Breaker × Option Change) : Traffic :=
  match t.layers.breaker with
  | none => t
  | some config =>
    let (b, change) := f (t.breakers.get config t.now name)
    t.setBreaker name b change

def record (t : Traffic) (c : Call) (ticket : Option Ticket) (v : Verdict) : Traffic :=
  match ticket with
  | none => t
  | some ticket => t.onBreaker c.backend fun b => b.record ticket v t.now

/-- Gives back the permit of a call that ends. -/
def release (t : Traffic) (c : Call) : Traffic :=
  if c.holdsPermit then { t with free := t.free + 1 } else t

def finish (t : Traffic) (c : Call) (result : Except CallError Nat) : Traffic :=
  (t.note (.done c.id result)).release c

def stop (t : Traffic) (c : Call) (why : ContextError) : Traffic := t.finish c (.error (.stopped why))

/-- Puts a call among those that are not finished. -/
def hold (t : Traffic) (c : Call) (p : Phase) : Traffic := { t with calls := t.calls ++ [(c, p)] }

def attempts (t : Traffic) : Nat := (t.layers.retry.map fun r => Nat.max r.maxAttempts 1).getD 1

/-- Asks the breaker, if there is one: a ticket, or a rejection. -/
def ask (t : Traffic) (c : Call) : Except CallError (Option Ticket) × Traffic :=
  match t.layers.breaker with
  | none => (.ok none, t)
  | some config =>
    let (ticket, b, change) := (t.breakers.get config t.now c.backend).ask t.now
    (match ticket with
      | some ticket => .ok (some ticket)
      | none => .error (.circuitOpen c.backend),
     t.setBreaker c.backend b change)

/-- What becomes of a call whose attempt ended: it has ended, or goes on after a pause. -/
inductive Next where
  | ended
  | again (pause : Duration)

/-- Ends an attempt; `left` more are allowed. -/
def conclude (t : Traffic) (c : Call) (attempt left : Nat) (ticket : Option Ticket) (r : End) :
    Traffic × Next :=
  match r with
  | .crash => ((t.record c ticket .abandoned).release c, .ended)
  | .success => ((t.record c ticket .success).finish c (.ok attempt), .ended)
  | .failure e =>
    let t := t.record c ticket .failure
    match t.layers.retry with
    | none => (t.finish c (.error e), .ended)
    | some retry =>
      if !e.isRetryable then (t.finish c (.error e), .ended)
      else if left = 0 then (t.finish c (.error (.exhausted attempt e)), .ended)
      else
        match t.errorOf? c with
        | some why => (t.stop c why, .ended)
        | none => (t, .again (retry.backoff attempt))

/-- Begins an attempt; `left` more are allowed after it. A reply that takes no time is dealt with at
once; a pause that takes none is over at the next tick, which may be now. -/
def begin (c : Call) : Nat → Nat → Traffic → Traffic
  | left, attempt, t =>
    let asksContext := t.layers.retry.isSome || t.layers.breaker.isSome
    match if asksContext then t.errorOf? c else none with
    | some why => t.stop c why
    | none =>
      match t.ask c with
      | (.error e, t) => t.finish c (.error e)
      | (.ok ticket, t) =>
        let t := t.note (.invoked c.id attempt c.principal)
        let reply := c.script attempt
        if reply.after = some .zero then
          match t.conclude c attempt left ticket reply.result, left with
          | (t, .ended), _ => t
          | (t, .again _), 0 => t
          | (t, .again pause), left + 1 =>
            if (t.now.add pause).tick ≤ t.now then begin c left (attempt + 1) t
            else t.hold c (.pausing attempt (t.now.add pause).tick)
        else t.hold c (.attempting attempt ticket (reply.after.map fun d => (t.now.add d).tick))

def enter (t : Traffic) (c : Call) : Traffic := begin c (t.attempts - 1) 1 t

/-- The first call that waits for a permit, and the others. -/
def takeQueued : List (Call × Phase) → Option (Call × List (Call × Phase))
  | [] => none
  | (c, .queued _) :: rest => some (c, rest)
  | other :: rest => (takeQueued rest).map fun r => (r.1, other :: r.2)

/-- Hands free permits to the calls that wait, the first come first. A call that its context wakes as well takes
none. -/
def serve : Nat → Traffic → Traffic
  | 0, t => t
  | fuel + 1, t =>
    if t.free = 0 then t
    else
      match takeQueued t.calls with
      | none => t
      | some (c, rest) =>
        let t := { t with calls := rest }
        match t.wakes? c with
        | some why => serve fuel (t.stop c why)
        | none => serve fuel ({ t with free := t.free - 1 }.enter { c with holdsPermit := true })

def settle (t : Traffic) : Traffic := serve t.calls.length t

/-- Starts a call, for whose backend there is a breaker from now on. -/
def start (t : Traffic) (c : Call) : Traffic :=
  let t := t.onBreaker c.backend fun b => (b, none)
  match t.layers.bulkhead with
  | none => t.enter c
  | some bulkhead =>
    match t.errorOf? c with
    | some why => t.stop c why
    | none =>
      if 0 < t.free then ({ t with free := t.free - 1 }.enter { c with holdsPermit := true }).settle
      else
        let giveUpAt := bulkhead.config.maxWait.map fun d => (t.now.add d).tick
        if t.isDue giveUpAt then t.finish c (.error (.bulkheadFull bulkhead.name))
        else t.hold c (.queued giveUpAt)

/-- Whether a call is woken by its context. An attempt is interrupted by the breaker only. -/
def heedsContext (t : Traffic) : Phase → Bool
  | .attempting _ _ _ => t.layers.breaker.isSome
  | _ => true

/-- The timer of a phase by itself. -/
def Phase.wakeAt? : Phase → Option Moment
  | .queued giveUpAt => giveUpAt
  | .attempting _ _ finishAt => finishAt
  | .pausing _ finish => some finish
  | .watching => none

def earlier : Option Moment → Option Moment → Option Moment
  | none, b => b
  | a, none => a
  | some a, some b => some (if a ≤ b then a else b)

def wakeAt? (t : Traffic) (c : Call) (p : Phase) : Option Moment :=
  earlier (Phase.wakeAt? p) (if t.heedsContext p then c.context.wakeAt? else none)

/-- The next instant at which something happens by itself. -/
def nextAt? (t : Traffic) : Option Moment :=
  t.calls.foldl (fun next call => earlier next (t.wakeAt? call.1 call.2)) none

/-- Ends a call in its phase because its context is done. -/
def interrupt (t : Traffic) (c : Call) (p : Phase) (why : ContextError) : Traffic :=
  match p with
  | .watching => t.note (.woken c.id why)
  | .attempting _ ticket _ => (t.record c ticket .abandoned).stop c why
  | _ => t.stop c why

/-- Goes on with a call whose own timer fired. -/
def resume (t : Traffic) (c : Call) (p : Phase) : Traffic :=
  match p with
  | .watching => t.hold c p
  | .queued _ =>
    if 0 < t.free then { t with free := t.free - 1 }.enter { c with holdsPermit := true }
    else t.finish c (.error (.bulkheadFull ((t.layers.bulkhead.map (·.name)).getD "")))
  | .pausing attempt _ => begin c (t.attempts - (attempt + 1)) (attempt + 1) t
  | .attempting attempt ticket _ =>
    match t.conclude c attempt (t.attempts - attempt) ticket (c.script attempt).result with
    | (t, .ended) => t
    | (t, .again pause) =>
      if (t.now.add pause).tick ≤ t.now then begin c (t.attempts - (attempt + 1)) (attempt + 1) t
      else t.hold c (.pausing attempt (t.now.add pause).tick)

/-- Why the context wakes a call in its phase, if it does. -/
def wokenBy? (t : Traffic) (c : Call) (p : Phase) : Option ContextError :=
  if t.heedsContext p then t.wakes? c else none

def visit (t : Traffic) (c : Call) (p : Phase) : Traffic :=
  match t.wokenBy? c p with
  | some why => t.interrupt c p why
  | none => if t.isDue (Phase.wakeAt? p) then t.resume c p else t.hold c p

/-- Whether a call stays as it is for now. -/
def rests (t : Traffic) (c : Call) (p : Phase) : Bool :=
  (t.wokenBy? c p).isNone && !t.isDue (Phase.wakeAt? p)

/-- Looks at every call. Of those that go on at one instant, the one that waited longest is the first. -/
def visitAll (t : Traffic) : Traffic :=
  let (resting, due) := t.calls.partition fun call => t.rests call.1 call.2
  let t := due.foldl (fun (u : Traffic) call => u.visit call.1 call.2) { t with calls := [] }
  { t with calls := resting ++ t.calls }.settle

/-- Lets time pass up to `finish`, with everything that happens on the way. -/
def runTo (finish : Moment) : Nat → Traffic → Traffic
  | 0, t => { t with now := finish }
  | fuel + 1, t =>
    match t.nextAt? with
    | none => { t with now := finish }
    | some next =>
      if finish < next then { t with now := finish }
      else runTo finish fuel { t with now := next }.visitAll

/-- Every instant at which something happens is a tick of its own. -/
def pass (t : Traffic) (finish : Moment) : Traffic :=
  runTo finish ((finish.since t.now).nanos / Duration.nanosPerMilli + 2) t

/-- Raises a signal, which wakes those who wait for it. -/
def cancel (t : Traffic) (signal : Nat) : Traffic :=
  { t with signals := t.signals.raise signal }.visitAll

/-- Drops the handle of a signal. -/
def dropHandle (t : Traffic) (signal : Nat) : Traffic := { t with signals := t.signals.drop signal }

def watch (t : Traffic) (id : String) (context : Context) : Traffic :=
  let c : Call := { id, context, script := fun _ => ⟨none, .success⟩ }
  match t.errorOf? c with
  | some why => t.note (.woken id why)
  | none => t.hold c .watching

def abort (t : Traffic) (id : String) : Traffic :=
  let drop (t : Traffic) (call : Call × Phase) : Traffic :=
    let (c, p) := call
    if c.id ≠ id then t.hold c p
    else
      match p with
      | .attempting _ ticket _ => (t.record c ticket .abandoned).release c
      | _ => t.release c
  (t.calls.foldl drop { t with calls := [] }).settle

def isRunning (t : Traffic) (id : String) : Bool := t.calls.any (·.1.id = id)

/-- Applies due changes to the breaker of a backend and returns it. -/
def look (t : Traffic) (name : String) : Traffic := t.onBreaker name fun b => b.refresh t.now

def lookAll (t : Traffic) : Traffic := t.breakers.names.foldl look t

def resetBreaker (t : Traffic) (name : String) : Traffic := t.onBreaker name fun b => b.reset t.now

end Traffic
end Gatehouse.Resilience
