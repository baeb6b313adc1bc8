import Gatehouse.Report
import Gatehouse.Resilience.Traffic

/-!
Errors of calls, breakers and events as JSON. Instants of the clock are shown in whole milliseconds. Events
of one instant are told by kind, then by the name of their call or breaker.
-/
namespace Gatehouse

def ContextError.code : ContextError → String
  | canceled => "Canceled"
  | deadlineExceeded => "DeadlineExceeded"

def Moment.toJson (t : Moment) : Json := .int t.millis

namespace Resilience

def CallError.code : CallError → String
  | rateLimited _ _ => "RateLimitExceeded"
  | circuitOpen _ => "CircuitOpen"
  | bulkheadFull _ => "BulkheadFull"
  | exhausted _ _ => "RetryExhausted"
  | stopped why => why.code
  | failed _ => "Inner"

def CallError.toJson (e : CallError) : Json :=
  let more := match e with
    | exhausted attempts last => [("attempts", .int attempts), ("last", last.toJson)]
    | _ => []
  Report.error e.code e.message more

def Breaker.toJson (b : Breaker) : Json :=
  .ofEntries
    [("state", .text b.state.name), ("consecutive_failures", .int b.failures),
     ("half_open_in_flight", .int b.trials), ("last_transition", b.changedAt.toJson)]

def Breakers.toJson (bs : Breakers) : Json := .object (bs.map fun b => (b.1, b.2.toJson))

namespace Event

def rank : Event → Nat
  | invoked _ _ _ => 0
  | changed _ _ => 1
  | done _ _ => 2
  | woken _ _ => 2

/-- The call or breaker that an event is about. -/
def name : Event → String
  | invoked c _ _ => c
  | changed b _ => b
  | done c _ => c
  | woken c _ => c

def isChange : Event → Bool
  | changed _ _ => true
  | _ => false

/-- An event with the form in which results of calls are shown. -/
def toJson (result : String → Except CallError Nat → Json) (t : Moment) (e : Event) : Json :=
  let fields : List (String × Json) := match e with
    | invoked c n _ => [("event", .text "invoke"), ("call", .text c), ("attempt", .int n)]
    | changed b c =>
      [("event", .text "circuit"), ("name", .text b), ("from", .text c.before.name),
       ("to", .text c.after.name)]
    | done c r => [("event", .text "done"), ("call", .text c), ("result", result c r)]
    | woken c why => [("event", .text "done"), ("call", .text c), ("result", .text why.code)]
  .ofEntries (("t", t.toJson) :: fields)

def before (a b : Moment × Event) : Bool :=
  a.1 < b.1 || (a.1 = b.1 && (a.2.rank < b.2.rank || (a.2.rank = b.2.rank && a.2.name ≤ b.2.name)))

/-- The events of a log in the order in which they are told. -/
def told (log : List (Moment × Event)) : List (Moment × Event) := log.mergeSort before

end Event
end Resilience
end Gatehouse
