import Gatehouse.Config
import Gatehouse.Text.Blank

/-!
Settings that would make a subsystem unusable. The first fault found is the one that is told; faults are
looked for section by section.
-/
namespace Gatehouse.Config

inductive Fault where
  | emptyIssuer
  | noValidity
  | outOfRange (setting : String)
  | notPositive (setting : String)
  | emptyWindow
  | noAttempts
  | badMultiplier
  deriving DecidableEq, Repr

def Fault.message : Fault → String
  | emptyIssuer => "tokens.issuer must not be empty"
  | noValidity => "token validity periods must be greater than zero"
  | outOfRange setting => setting ++ " is out of range"
  | notPositive setting => setting ++ " must be greater than zero"
  | emptyWindow => "rate_limit.window admits no requests at the configured rate"
  | noAttempts => "retry.max_attempts must be at least 1"
  | badMultiplier => "retry.multiplier must be a finite value >= 1.0"

/-- The longest span that calendar arithmetic takes, in milliseconds. -/
def maxCalendarMillis : Nat := Nat.pow 2 63 - 1

/-- Whether a span can be added to a calendar time. -/
def isCalendarSpan (d : Duration) : Bool := d.nanos ≤ maxCalendarMillis * Duration.nanosPerMilli

def Tokens.faults (t : Tokens) : List (Bool × Fault) :=
  [(Text.isAllBlank t.issuer, .emptyIssuer),
   (t.accessValidity = .zero || t.refreshValidity = .zero, .noValidity),
   (!isCalendarSpan t.accessValidity, .outOfRange "tokens.access_validity"),
   (!isCalendarSpan t.refreshValidity, .outOfRange "tokens.refresh_validity"),
   (!isCalendarSpan t.clockSkew, .outOfRange "tokens.clock_skew"),
   (!isCalendarSpan t.retention, .outOfRange "tokens.retention"),
   (t.cleanupInterval = .zero, .notPositive "tokens.cleanup_interval")]

def Keys.faults (k : Keys) : List (Bool × Fault) :=
  [(k.rotationInterval = some .zero, .notPositive "keys.rotation_interval")]

def RateLimit.faults (r : RateLimit) : List (Bool × Fault) :=
  [(r.requestsPerSecond = 0, .notPositive "rate_limit.requests_per_second"),
   (r.algorithm = .slidingWindow && r.quota = 0, .emptyWindow),
   (r.algorithm = .tokenBucket && r.burst = 0, .notPositive "rate_limit.burst"),
   (r.cleanupInterval = .zero, .notPositive "rate_limit.cleanup_interval")]

def Breaker.faults (b : Breaker) : List (Bool × Fault) :=
  [(b.failureThreshold = 0, .notPositive "circuit_breaker.failure_threshold"),
   (b.halfOpenLimit = 0, .notPositive "circuit_breaker.half_open_limit")]

def Retry.faults (r : Retry) : List (Bool × Fault) :=
  [(r.maxAttempts = 0, .noAttempts),
   (!r.multiplier.isFinite || r.multiplier.lt Binary64.one, .badMultiplier)]

def Bulkhead.faults (b : Bulkhead) : List (Bool × Fault) :=
  [(b.maxConcurrent = 0, .notPositive "bulkhead.max_concurrent")]

/-- Every check in order, each with the fault that it stands for. -/
def faults (c : Config) : List (Bool × Fault) :=
  c.tokens.faults ++ c.keys.faults ++ c.rateLimit.faults ++ c.breaker.faults ++ c.retry.faults
    ++ c.bulkhead.faults

/-- The first fault, if there is any. -/
def fault? (c : Config) : Option Fault := (c.faults.find? (·.1)).map (·.2)

end Gatehouse.Config
