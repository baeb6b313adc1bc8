import Gatehouse.Context
import Gatehouse.Text.Decimal

/-!
Why a protected call did not succeed. Only failures of the operation itself are worth another attempt.
-/
namespace Gatehouse.Resilience

inductive CallError where
  | rateLimited (key : String) (retryAfter : Duration)
  | circuitOpen (name : String)
  | bulkheadFull (name : String)
  /-- Every attempt failed, the last one with `last`. -/
  | exhausted (attempts : Nat) (last : CallError)
  | stopped (why : ContextError)
  /-- The operation failed by itself. -/
  | failed (reason : String)
  deriving DecidableEq, Repr, Inhabited

namespace CallError

def message : CallError → String
  | rateLimited key _ => "rate limit exceeded for '" ++ key ++ "'"
  | circuitOpen name => "circuit '" ++ name ++ "' is open"
  | bulkheadFull name => "bulkhead '" ++ name ++ "' is full"
  | exhausted attempts last =>
    "retry exhausted after " ++ Text.Decimal.natText attempts ++ " attempts: " ++ last.message
  | stopped why => why.message
  | failed reason => reason

def isRetryable : CallError → Bool
  | failed _ => true
  | _ => false

def isCancellation : CallError → Bool
  | stopped _ => true
  | _ => false

/-- The failure of the operation itself, also as the last of several. -/
def reason? : CallError → Option String
  | failed reason => some reason
  | exhausted _ last => last.reason?
  | _ => none

/-- The messages of the errors behind this one, from the outside in. -/
def sources : CallError → List String
  | exhausted _ last => last.message :: last.sources
  | stopped why => [why.message]
  | failed reason => [reason]
  | _ => []

end CallError
end Gatehouse.Resilience
