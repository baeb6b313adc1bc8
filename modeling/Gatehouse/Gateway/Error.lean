import Gatehouse.Access
import Gatehouse.Limiter
import Gatehouse.Resilience.CallError
import Gatehouse.Token.Error

/-!
Why a request did not reach the backend, or did not come back from it, and the status that says so to a
client of the web.
-/
namespace Gatehouse.Gateway
open Resilience (CallError)

inductive Error where
  | limited (e : Limiter.Exceeded)
  | unauthenticated (e : Token.Error)
  | forbidden (decision : Access.Decision)
  | stopped (why : ContextError)
  | backend (e : CallError)

namespace Error

/-- The error for a call that did not succeed: a context that is done is not held against the backend. -/
def ofCall : CallError → Error
  | .stopped why => stopped why
  | e => backend e

def message : Error → String
  | limited e => e.message
  | unauthenticated e => "authentication failed: " ++ e.message
  | forbidden decision => "access denied: " ++ decision.reason
  | stopped why => why.message
  | backend e => "backend call failed: " ++ e.message

def contextStatus : ContextError → Nat
  | .deadlineExceeded => 504
  | .canceled => 499

def callStatus : CallError → Nat
  | .rateLimited _ _ => 429
  | .circuitOpen _ => 503
  | .bulkheadFull _ => 503
  | .stopped why => contextStatus why
  | .exhausted _ _ => 502
  | .failed _ => 502

def status : Error → Nat
  | limited _ => 429
  | unauthenticated (.scope _) => 403
  | unauthenticated e => if e.isRejection then 401 else 500
  | forbidden _ => 403
  | stopped why => contextStatus why
  | backend e => callStatus e

/-- How long a caller that is limited should wait. -/
def retryAfter? : Error → Option Duration
  | limited e => some e.retryAfter
  | backend (.rateLimited _ retryAfter) => some retryAfter
  | _ => none

/-- Whether the request was turned away before the backend was called at all. -/
def isEarly : Error → Bool
  | limited _ => true
  | unauthenticated _ => true
  | forbidden _ => true
  | _ => false

end Error
end Gatehouse.Gateway
