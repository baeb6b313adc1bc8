import Gatehouse.Duration
import Gatehouse.Value

/-!
The settings of every subsystem. Each section has defaults, so that no settings at all are usable. The
quota of a rate limit and the pauses between retries are computed here, in floating arithmetic with
one rounding for each operation.
-/
namespace Gatehouse

inductive ScopeMatch where
  | all | any
  deriving DecidableEq, Repr, Inhabited

/-- Whether granted scopes satisfy the required ones. Requiring nothing is always satisfied. -/
def ScopeMatch.satisfied (m : ScopeMatch) (required : List String) (granted : String → Bool) : Bool :=
  required.isEmpty ||
    match m with
    | .all => required.all granted
    | .any => required.any granted

inductive LimitAlgorithm where
  | slidingWindow | tokenBucket
  deriving DecidableEq, Repr, Inhabited

/-- Where tokens are kept: in this process, or in a store that the caller brings. -/
inductive StoreBackend where
  | memory | external
  deriving DecidableEq, Repr, Inhabited

namespace Config

structure Tokens where
  issuer : String := "warden"
  accessValidity : Duration := .ofSeconds 3600
  refreshValidity : Duration := .ofSeconds 86400
  clockSkew : Duration := .ofSeconds 120
  retention : Duration := .ofSeconds 86400
  cleanupInterval : Duration := .ofSeconds 300
  allowedIssuers : List String := []
  allowedAudiences : List String := []
  defaultScopes : List String := []
  scopeMatch : ScopeMatch := .all
  deriving Repr, Inhabited

/-- The longest validity that a token gets by default. -/
def Tokens.maxLifetime (t : Tokens) : Duration := t.accessValidity.max t.refreshValidity

structure Keys where
  privateKeyEnv : Option String := none
  privateKeyFile : Option String := none
  rotationInterval : Option Duration := none
  deriving Repr, Inhabited

structure Store where
  backend : StoreBackend := .memory
  deriving Repr, Inhabited

structure RateLimit where
  algorithm : LimitAlgorithm := .slidingWindow
  requestsPerSecond : Nat := 10
  window : Duration := .ofSeconds 1
  burst : Nat := 20
  cleanupInterval : Duration := .ofSeconds 60
  inactivityTimeout : Duration := .ofSeconds 3600
  deriving Repr, Inhabited

def maxQuota : Nat := Nat.pow 2 64 - 1

/-- The requests that one window admits: rate times length, rounded down. -/
def RateLimit.quota (r : RateLimit) : Nat :=
  ((Binary64.ofNat r.requestsPerSecond).mul r.window.toSeconds).floorWithin maxQuota

structure Breaker where
  failureThreshold : Nat := 5
  resetTimeout : Duration := .ofSeconds 30
  halfOpenLimit : Nat := 1
  deriving Repr, Inhabited

structure Retry where
  maxAttempts : Nat := 3
  initialInterval : Duration := .ofMillis 100
  multiplier : Binary64 := .ofNat 2
  maxInterval : Duration := .ofSeconds 5
  deriving Repr, Inhabited

/-- The exponent of an attempt: one less than its number, kept in 32 signed bits. -/
def Retry.exponent (attempt : Nat) : Int := ((attempt - 1 : Nat) : Int).bmod (Nat.pow 2 32)

/-- The pause after an attempt: the first interval times a power of the multiplier, at most the longest
interval; no number counts as too long, and less than nothing as nothing. -/
def Retry.backoff (r : Retry) (attempt : Nat) : Duration :=
  let secs := r.initialInterval.toSeconds.mul (r.multiplier.pow (exponent attempt))
  if !secs.isFinite || r.maxInterval.toSeconds.le secs then r.maxInterval
  else (Duration.ofFloatSeconds? (secs.max Binary64.zero)).getD r.maxInterval

structure Bulkhead where
  maxConcurrent : Nat := 10
  maxWait : Option Duration := none
  deriving Repr, Inhabited

end Config

structure Config where
  tokens : Config.Tokens := {}
  keys : Config.Keys := {}
  store : Config.Store := {}
  rateLimit : Config.RateLimit := {}
  breaker : Config.Breaker := {}
  retry : Config.Retry := {}
  bulkhead : Config.Bulkhead := {}
  policiesFile : Option String := none
  /-- Policies as written, to be given their type later. -/
  policies : List Value := []
  deriving Repr, Inhabited

end Gatehouse
