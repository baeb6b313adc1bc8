import Gatehouse.Config.Reader
import Gatehouse.Json.Printer
import Gatehouse.Report

/-!
Settings shown as one JSON object, under the names that a configuration text uses. Spans are shown as
their text, and the multiplier as the sixteen hexadecimal digits of its bits.
-/
namespace Gatehouse.Config

def nameOf {α : Type} [DecidableEq α] (names : List (String × α)) (a : α) : Json :=
  match names.find? (·.2 = a) with
  | some (name, _) => .text name
  | none => .null

def spanJson (d : Duration) : Json := .text d.format

def bitsText (f : Binary64) : String :=
  let ds := Text.Quoted.hexDigits f.toBits
  String.ofList (List.replicate (16 - ds.length) '0' ++ ds)

def Tokens.toJson (t : Tokens) : Json :=
  .ofEntries
    [("issuer", .text t.issuer), ("access_validity", spanJson t.accessValidity),
     ("refresh_validity", spanJson t.refreshValidity), ("clock_skew", spanJson t.clockSkew),
     ("retention", spanJson t.retention), ("cleanup_interval", spanJson t.cleanupInterval),
     ("allowed_issuers", Report.texts t.allowedIssuers),
     ("allowed_audiences", Report.texts t.allowedAudiences),
     ("default_scopes", Report.texts t.defaultScopes),
     ("scope_match", nameOf scopeMatchNames t.scopeMatch)]

def Keys.toJson (k : Keys) : Json :=
  .ofEntries
    [("private_key_env", Report.orNull .text k.privateKeyEnv),
     ("private_key_file", Report.orNull .text k.privateKeyFile),
     ("rotation_interval", Report.orNull spanJson k.rotationInterval)]

def RateLimit.toJson (r : RateLimit) : Json :=
  .ofEntries
    [("algorithm", nameOf algorithmNames r.algorithm),
     ("requests_per_second", .int r.requestsPerSecond), ("window", spanJson r.window),
     ("burst", .int r.burst), ("cleanup_interval", spanJson r.cleanupInterval),
     ("inactivity_timeout", spanJson r.inactivityTimeout)]

def Breaker.toJson (b : Breaker) : Json :=
  .ofEntries
    [("failure_threshold", .int b.failureThreshold), ("reset_timeout", spanJson b.resetTimeout),
     ("half_open_limit", .int b.halfOpenLimit)]

def Retry.toJson (r : Retry) : Json :=
  .ofEntries
    [("max_attempts", .int r.maxAttempts), ("initial_interval", spanJson r.initialInterval),
     ("multiplier", .text (bitsText r.multiplier)), ("max_interval", spanJson r.maxInterval)]

def Bulkhead.toJson (b : Bulkhead) : Json :=
  .ofEntries
    [("max_concurrent", .int b.maxConcurrent), ("max_wait", Report.orNull spanJson b.maxWait)]

def toJson (c : Config) : Json :=
  .ofEntries
    [("tokens", c.tokens.toJson), ("keys", c.keys.toJson),
     ("store", .ofEntries [("backend", nameOf backendNames c.store.backend)]),
     ("rate_limit", c.rateLimit.toJson), ("circuit_breaker", c.breaker.toJson),
     ("retry", c.retry.toJson), ("bulkhead", c.bulkhead.toJson),
     ("policies_file", Report.orNull .text c.policiesFile),
     ("policies", .array (c.policies.map Value.toJson))]

end Gatehouse.Config
