import Gatehouse.Gateway
import Gatehouse.Policy.Printer
import Gatehouse.Resilience.Printer
import Gatehouse.Token.Printer

/-!
What a gateway answers, as JSON.
-/
namespace Gatehouse

def Limiter.Exceeded.toJson (e : Limiter.Exceeded) : Json :=
  Report.error "Exceeded" e.message [("retry_after", Report.duration e.retryAfter)]

namespace Gateway

def Error.code : Error → String
  | limited _ => "RateLimited"
  | unauthenticated _ => "Unauthenticated"
  | forbidden _ => "Forbidden"
  | stopped _ => "Context"
  | backend _ => "Backend"

def Error.toJson (e : Error) : Json :=
  let more := match e with
    | unauthenticated cause => [("cause", cause.toJson)]
    | forbidden decision => [("decision", decision.toJson)]
    | backend cause => [("cause", cause.toJson)]
    | _ => []
  Report.error e.code e.message
    ([("status", .int e.status), ("retry_after", Report.orNull Report.duration e.retryAfter?),
      ("early", .bool e.isEarly)] ++ more)

def Principal.toJson (p : Principal) : Json :=
  .ofEntries
    [("token", .text p.token.id), ("metadata", Token.metadataJson p.token.metadata),
     ("subject", p.subject.toJson), ("decision", p.decision.toJson)]

/-- The result of a call on behalf of a principal. -/
def resultJson (principal : Option Principal) : Except Resilience.CallError Nat → Json
  | .ok attempt =>
    Report.one "ok"
      (.ofEntries [("attempt", .int attempt), ("principal", Report.orNull Principal.toJson principal)])
  | .error e => (Error.ofCall e).toJson

end Gateway
end Gatehouse
