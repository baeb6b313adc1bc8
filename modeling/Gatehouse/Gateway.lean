import Gatehouse.Authority.Rotation
import Gatehouse.Gateway.Error
import Gatehouse.Maintenance
import Gatehouse.Policy.Authorizer
import Gatehouse.Resilience.Traffic

/-!
The gateway in front of backends. A request passes the limiter, has its bearer authenticated and its action
authorized, in this order, and the first stage that fails turns it away; only then does it join the traffic
behind the bulkhead, retries and breakers. Its context may end it before the first stage and for as long as the
token store has not answered. Tasks in the background forget idle callers, remove expired tokens and replace the
signing key.
-/
namespace Gatehouse

namespace Gateway

structure Request where
  /-- Whose limit counts. -/
  caller : String
  bearer : Token.Bearer
  requirement : Authority.Requirement := {}
  action : String
  resource : Access.Resource
  context : Attributes := []
  subjectAttributes : Attributes := []
  backend : String

/-- A request under a name, and what it is to be handed to. -/
structure Arrival where
  id : String
  context : Context := {}
  request : Request
  /-- The replies of the backend, for whoever it is called for. -/
  backend : Principal → Nat → Resilience.Reply

inductive Job where
  | forgetCallers | removeTokens | replaceKey
  deriving DecidableEq, Repr, Inhabited

def Job.name : Job → String
  | forgetCallers => Limiter.cleanupName
  | removeTokens => Authority.cleanupName
  | replaceKey => Authority.rotationName

end Gateway

open Gateway in
structure Gateway where
  authority : Authority
  authorizer : Authorizer
  limiter : Limiter
  traffic : Resilience.Traffic
  limits : Config.RateLimit := {}
  rotationInterval : Option Duration := none
  /-- Requests for whose tokens the store has yet to answer. -/
  arrivals : List Arrival := []
  /-- The requests that were turned away so far. -/
  refusals : List (String × Error) := []
  tasks : List (Job × Task) := []

namespace Gateway

def layers (bulkhead : Config.Bulkhead) (retry : Config.Retry) (breaker : Config.Breaker) :
    Resilience.Layers :=
  { bulkhead := some ⟨"gateway", bulkhead⟩, retry := some retry, breaker := some breaker }

def refuse (g : Gateway) (id : String) (e : Error) : Gateway := { g with refusals := g.refusals ++ [(id, e)] }

/-- Takes in a request, unless its context is done or its caller is over the limit. -/
def arrive (g : Gateway) (a : Arrival) : Gateway :=
  match a.context.error? g.traffic.signals g.traffic.now with
  | some why => g.refuse a.id (.stopped why)
  | none =>
    match g.limiter.allow g.traffic.now a.request.caller with
    | (.error e, limiter) => { g with limiter }.refuse a.id (.limited e)
    | (.ok _, limiter) => { g with limiter, arrivals := g.arrivals ++ [a] }

def wakes? (g : Gateway) (a : Arrival) : Option ContextError :=
  a.context.wakes? g.traffic.signals g.traffic.now

def principalOf (g : Gateway) (r : Request) (token : Token) : Principal :=
  let subject := subjectFor token r.subjectAttributes
  { token, subject
    decision := g.authorizer.authorize
      { subject, action := r.action, resource := r.resource, context := r.context } }

/-- What comes of a request when the token store answers. If its context ends at the same time this goes first. -/
def judge (g : Gateway) (wall : Instant) (a : Arrival) : Except Error Principal :=
  match g.wakes? a with
  | some why => .error (.stopped why)
  | none =>
    match g.authority.authenticate wall a.request.bearer a.request.requirement with
    | .error e => .error (.unauthenticated e)
    | .ok token =>
      let p := g.principalOf a.request token
      if p.decision.allowed then .ok p else .error (.forbidden p.decision)

def Arrival.call (a : Arrival) (p : Principal) : Resilience.Call :=
  { id := a.id, context := a.context, backend := a.request.backend, principal := some p, script := a.backend p }

/-- The token store answers for a request, which is turned away or joins the traffic. -/
def answer (g : Gateway) (wall : Instant) (id : String) : Gateway :=
  match g.arrivals.find? (·.id = id) with
  | none => g
  | some a =>
    let h := { g with arrivals := g.arrivals.eraseP (·.id = id) }
    match g.judge wall a with
    | .error e => h.refuse id e
    | .ok p => { h with traffic := h.traffic.start (a.call p) }

/-- Turns away the requests that wait for the token store and are woken by their contexts. -/
def attend (g : Gateway) : Gateway :=
  { g with
    arrivals := g.arrivals.filter fun a => (g.wakes? a).isNone
    refusals := g.refusals ++ g.arrivals.filterMap fun a => (g.wakes? a).map fun why => (a.id, .stopped why) }

/-- Raises a signal, which wakes those who wait for it. -/
def cancel (g : Gateway) (signal : Nat) : Gateway := { g with traffic := g.traffic.cancel signal }.attend

def abort (g : Gateway) (id : String) : Gateway :=
  { g with arrivals := g.arrivals.filter (·.id ≠ id), traffic := g.traffic.abort id }

/-- Starts the tasks; the key is replaced only if an interval is configured. -/
def startMaintenance (g : Gateway) : Gateway :=
  let task (job : Job) (every : Duration) : Job × Task :=
    (job, .spawn job.name g.traffic.now every .zero)
  { g with
    tasks := [task .forgetCallers g.limits.cleanupInterval,
        task .removeTokens g.authority.config.cleanupInterval] ++
      (g.rotationInterval.map (task .replaceKey)).toList }

/-- One run of a task that begins at `now`. A store that fails is left for the next run. -/
def runJob (g : Gateway) (wall : Instant) (freshKey : Key) (now : Moment) (job : Job) : Gateway :=
  match job with
  | .forgetCallers => { g with limiter := g.limiter.purge now g.limits.inactivityTimeout }
  | .removeTokens =>
    match g.authority.cleanup wall with
    | .ok (_, authority) => { g with authority }
    | .error _ => g
  | .replaceKey =>
    let keys := g.authority.keys.rotate freshKey wall
    { g with authority := { g.authority with keys } }

/-- Runs of one task. The new keys are taken from a supply. -/
def runJobs (g : Gateway) (wall : Instant) (freshKey : Nat → Key) (job : Job) (events : List Task.Event) :
    Gateway :=
  let starts := events.filterMap fun
    | .started t => some t
    | .ended _ => none
  starts.zipIdx.foldl (fun (g : Gateway) (s : Moment × Nat) => g.runJob wall (freshKey s.2) s.1 job) g

/-- Lets every task do what it has to, each on its own. -/
def runTasks (g : Gateway) (wall : Instant) (freshKey : Nat → Key) (go : Task → Task × List Task.Event) :
    Gateway :=
  g.tasks.foldl (fun (h : Gateway) (t : Job × Task) =>
    let (task, events) := go t.2
    { h.runJobs wall freshKey t.1 events with tasks := h.tasks ++ [(t.1, task)] })
    { g with tasks := [] }

/-- Lets time pass, with everything that happens on the way. The wall clock stands still meanwhile. -/
def pass (g : Gateway) (wall : Instant) (freshKey : Nat → Key) (finish : Moment) : Gateway :=
  let now := g.traffic.now
  { g with traffic := g.traffic.pass finish }.attend.runTasks wall freshKey (·.pass now finish)

/-- Sets the monotonic clock at once. A task that is due by then runs late. -/
def jump (g : Gateway) (wall : Instant) (freshKey : Nat → Key) (now : Moment) : Gateway :=
  { g with traffic := { g.traffic with now } }.attend.runTasks wall freshKey (·.wake now [])

end Gateway
end Gatehouse
