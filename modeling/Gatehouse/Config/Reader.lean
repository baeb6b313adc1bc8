import Gatehouse.Config
import Gatehouse.Duration.Text
import Gatehouse.Yaml.Content

/-!
Reading the settings from a YAML text. Unknown keys are ignored and missing ones have their defaults; a
section without any content is a section of defaults, and so is a blank text as a whole.
-/
namespace Gatehouse.Config

open Yaml (Document Node Visit)

def limit32 : Nat := Nat.pow 2 32
def limit64 : Nat := Nat.pow 2 64

def readDuration (d : Document) (n : Node) : Visit Duration := do
  let s ← d.text n
  Visit.ofOption (Duration.parse s)

def readTexts (d : Document) (depth : Nat) (n : Node) : Visit (List String) :=
  d.items depth (fun _ n => d.text n) n

def scopeMatchNames : List (String × ScopeMatch) := [("all", .all), ("any", .any)]
def algorithmNames : List (String × LimitAlgorithm) :=
  [("sliding_window", .slidingWindow), ("token_bucket", .tokenBucket)]
def backendNames : List (String × StoreBackend) := [("memory", .memory), ("external", .external)]

def Tokens.read (d : Document) (depth : Nat) (n : Node) : Visit Tokens := do
  let f ← d.fields depth
    ["issuer", "access_validity", "refresh_validity", "clock_skew", "retention", "cleanup_interval",
     "allowed_issuers", "allowed_audiences", "default_scopes", "scope_match"] n
  let base : Tokens := {}
  let issuer ← f.get 0 base.issuer d.text
  let accessValidity ← f.get 1 base.accessValidity (readDuration d)
  let refreshValidity ← f.get 2 base.refreshValidity (readDuration d)
  let clockSkew ← f.get 3 base.clockSkew (readDuration d)
  let retention ← f.get 4 base.retention (readDuration d)
  let cleanupInterval ← f.get 5 base.cleanupInterval (readDuration d)
  let allowedIssuers ← f.get 6 [] (readTexts d f.depth)
  let allowedAudiences ← f.get 7 [] (readTexts d f.depth)
  let defaultScopes ← f.get 8 [] (readTexts d f.depth)
  let scopeMatch ← f.get 9 base.scopeMatch (d.choice scopeMatchNames)
  pure { issuer, accessValidity, refreshValidity, clockSkew, retention, cleanupInterval,
         allowedIssuers, allowedAudiences, defaultScopes, scopeMatch }

def Keys.read (d : Document) (depth : Nat) (n : Node) : Visit Keys := do
  let f ← d.fields depth ["private_key_env", "private_key_file", "rotation_interval"] n
  let privateKeyEnv ← f.get 0 none (d.optional d.text)
  let privateKeyFile ← f.get 1 none (d.optional d.text)
  let rotationInterval ← f.get 2 none (d.optional (readDuration d))
  pure { privateKeyEnv, privateKeyFile, rotationInterval }

def Store.read (d : Document) (depth : Nat) (n : Node) : Visit Store := do
  let f ← d.fields depth ["backend"] n
  let backend ← f.get 0 StoreBackend.memory (d.choice backendNames)
  pure { backend }

def RateLimit.read (d : Document) (depth : Nat) (n : Node) : Visit RateLimit := do
  let f ← d.fields depth
    ["algorithm", "requests_per_second", "window", "burst", "cleanup_interval",
     "inactivity_timeout"] n
  let base : RateLimit := {}
  let algorithm ← f.get 0 base.algorithm (d.choice algorithmNames)
  let requestsPerSecond ← f.get 1 base.requestsPerSecond (d.natBelow limit32)
  let window ← f.get 2 base.window (readDuration d)
  let burst ← f.get 3 base.burst (d.natBelow limit32)
  let cleanupInterval ← f.get 4 base.cleanupInterval (readDuration d)
  let inactivityTimeout ← f.get 5 base.inactivityTimeout (readDuration d)
  pure { algorithm, requestsPerSecond, window, burst, cleanupInterval, inactivityTimeout }

def Breaker.read (d : Document) (depth : Nat) (n : Node) : Visit Breaker := do
  let f ← d.fields depth ["failure_threshold", "reset_timeout", "half_open_limit"] n
  let base : Breaker := {}
  let failureThreshold ← f.get 0 base.failureThreshold (d.natBelow limit32)
  let resetTimeout ← f.get 1 base.resetTimeout (readDuration d)
  let halfOpenLimit ← f.get 2 base.halfOpenLimit (d.natBelow limit32)
  pure { failureThreshold, resetTimeout, halfOpenLimit }

def Retry.read (d : Document) (depth : Nat) (n : Node) : Visit Retry := do
  let f ← d.fields depth ["max_attempts", "initial_interval", "multiplier", "max_interval"] n
  let base : Retry := {}
  let maxAttempts ← f.get 0 base.maxAttempts (d.natBelow limit32)
  let initialInterval ← f.get 1 base.initialInterval (readDuration d)
  let multiplier ← f.get 2 base.multiplier d.float
  let maxInterval ← f.get 3 base.maxInterval (readDuration d)
  pure { maxAttempts, initialInterval, multiplier, maxInterval }

def Bulkhead.read (d : Document) (depth : Nat) (n : Node) : Visit Bulkhead := do
  let f ← d.fields depth ["max_concurrent", "max_wait"] n
  let base : Bulkhead := {}
  let maxConcurrent ← f.get 0 base.maxConcurrent (d.natBelow limit64)
  let maxWait ← f.get 1 none (d.optional (readDuration d))
  pure { maxConcurrent, maxWait }

def read (d : Document) (depth : Nat) (n : Node) : Visit Config := do
  let f ← d.fields depth
    ["tokens", "keys", "store", "rate_limit", "circuit_breaker", "retry", "bulkhead",
     "policies_file", "policies"] n
  let tokens ← f.get 0 {} (Tokens.read d f.depth)
  let keys ← f.get 1 {} (Keys.read d f.depth)
  let store ← f.get 2 {} (Store.read d f.depth)
  let rateLimit ← f.get 3 {} (RateLimit.read d f.depth)
  let breaker ← f.get 4 {} (Breaker.read d f.depth)
  let retry ← f.get 5 {} (Retry.read d f.depth)
  let bulkhead ← f.get 6 {} (Bulkhead.read d f.depth)
  let policiesFile ← f.get 7 none (d.optional d.text)
  let policies ← f.get 8 [] (d.items f.depth d.distinctValue)
  pure { tokens, keys, store, rateLimit, breaker, retry, bulkhead, policiesFile, policies }

def parse (text : String) : Option Config :=
  if Text.isAllBlank text then some {} else Yaml.parseWith text read

end Gatehouse.Config
