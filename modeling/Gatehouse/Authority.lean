import Gatehouse.KeyRing
import Gatehouse.Token.Store

/-!
Authorities issue and validate tokens with the keys of a ring and the records of a store. Validation
consists of checks in a fixed order, of which the first to fail is reported: signature, time, issuer,
audience, scopes, revocation. It never changes anything, and its result is the record in the store.
-/
namespace Gatehouse

structure Authority where
  config : Config.Tokens := {}
  keys : KeyRing := {}
  backend : Token.Backend := {}
  deriving Repr, Inhabited

namespace Authority
open Token (Error StoreError SignatureFault Bearer Claims)

/-- An authority whose keys are retained as long as a token by default may be valid. -/
def ofParts (config : Config.Tokens) (keys : KeyRing) (backend : Token.Backend) : Authority :=
  { config, keys := keys.retainAtLeast (config.maxLifetime.saturatingAdd config.clockSkew), backend }

structure Requirement where
  scopes : List String := []
  /-- How the scopes are matched, if not as configured. -/
  mode : Option ScopeMatch := none
  deriving DecidableEq, Repr, Inhabited

/-- Verifies a token with keys in order. If none does, the first fault counts. -/
def verifyWithSome (t : Token) (now : Instant) (first : Option SignatureFault) :
    List String → Except SignatureFault Unit
  | [] => .error (first.getD .noKey)
  | id :: ids =>
    match t.verify id now with
    | .ok () => .ok ()
    | .error fault => verifyWithSome t now (first.or (some fault)) ids

/-- Opens a bearer value with the first key that can. -/
def openWithSome (b : Bearer) (now : Instant) : List String → Except SignatureFault Claims
  | [] => .error .noKey
  | id :: ids =>
    match b.openWith id now with
    | .ok claims => .ok claims
    | .error _ => openWithSome b now ids

/-- The token that a bearer value stands for. -/
def tokenOf (a : Authority) (b : Bearer) (now : Instant) : Except Error Token :=
  match openWithSome b now (a.keys.verifiers none) with
  | .error fault => .error (.signature fault)
  | .ok claims => (Token.ofClaims claims b).mapError fun member => .claims (.outOfRange member)

def checkSignature (a : Authority) (t : Token) (now : Instant) : Except Error Unit :=
  (verifyWithSome t now none (a.keys.verifiers t.keyId)).mapError .signature

/-- The skew widens the time of a token at both ends, as far as there are instants. -/
def checkTime (a : Authority) (t : Token) (now : Instant) : Except Error Unit :=
  let skew := Span.ofDuration a.config.clockSkew
  if now < (t.notBefore.sub? skew).getD .earliest then .error (.notYetValid t.notBefore)
  else if (t.expiresAt.add? skew).getD .latest < now then .error (.expired t.expiresAt)
  else .ok ()

/-- Whether a list of what is allowed, when it is not empty, has one of the items. -/
def permits (allowed items : List String) : Bool := allowed.isEmpty || items.any allowed.contains

def checkParties (a : Authority) (t : Token) : Except Error Unit :=
  if !permits a.config.allowedIssuers [t.issuer] then .error (.issuer t.issuer)
  else if !permits a.config.allowedAudiences t.audience then .error (.audience t.audience)
  else .ok ()

def checkScopes (a : Authority) (t : Token) (r : Requirement) : Except Error Unit :=
  if (r.mode.getD a.config.scopeMatch).satisfied r.scopes t.hasScope then .ok ()
  else .error (.scope r.scopes)

/-- The record of a token that is not revoked. A token without a record counts as revoked. -/
def checkRevocation (a : Authority) (t : Token) : Except Error Token := do
  if t.isRevoked then throw (.revoked t.id)
  if ← (a.backend.isRevoked t.id).mapError .store then throw (.revoked t.id)
  match a.backend.get t.id with
  | .ok record => if record.isRevoked then throw (.revoked t.id) else pure record
  | .error (.notFound _) => throw (.revoked t.id)
  | .error e => throw (.store e)

/-- All checks behind the one of the signature. -/
def checkClaims (a : Authority) (t : Token) (r : Requirement) (now : Instant) : Except Error Token := do
  a.checkTime t now
  a.checkParties t
  a.checkScopes t r
  a.checkRevocation t

def validate (a : Authority) (now : Instant) (t : Token) (r : Requirement) : Except Error Token := do
  a.checkSignature t now
  a.checkClaims t r now

/-- Validates the value of a bearer by itself and returns the record of the token that it stands for. -/
def authenticate (a : Authority) (now : Instant) (b : Bearer) (r : Requirement) :
    Except Error Token := do
  let t ← a.tokenOf b now
  a.checkClaims t r now

end Authority
end Gatehouse
