import Gatehouse.Token.Envelope

/-!
Tokens: signed credentials that are valid for some time. A revocation, once set, stays. Audience and scopes
are sets, kept in order and without repetitions; metadata are kept in the order of their keys and are not
signed.
-/
namespace Gatehouse

namespace Token

structure Revocation where
  revokedAt : Instant
  revokedBy : Option String
  reason : String
  deriving DecidableEq, Repr, Inhabited

end Token

structure Token where
  id : String
  kind : Token.Kind
  subject : String
  issuer : String
  audience : List String := []
  scopes : List String := []
  issuedAt : Instant
  notBefore : Instant
  expiresAt : Instant
  algorithm : Token.Algorithm := .edDSA
  /-- The key that is said to have signed the token. -/
  keyId : Option String := none
  value : Option Token.Bearer := none
  metadata : List (String × String) := []
  revocation : Option Token.Revocation := none
  deriving DecidableEq, Repr, Inhabited

namespace Token

def hasScope (t : Token) (scope : String) : Bool := t.scopes.contains scope

def isRevoked (t : Token) : Bool := t.revocation.isSome

def isExpiredAt (t : Token) (now : Instant) : Bool := t.expiresAt < now

/-- The time left, nothing after the expiry. -/
def remainingAt (t : Token) (now : Instant) : Duration := ⟨(t.expiresAt.since now).nanos.toNat⟩

/-- What a token is to be like. Whatever is not given is filled in when it is issued. -/
structure Request where
  id : Option String := none
  kind : Kind := .access
  subject : String
  issuer : Option String := none
  audience : List String := []
  scopes : List String := []
  notBefore : Option Instant := none
  expiresAt : Option Instant := none
  /-- The time from issue to expiry, if no expiry is given. -/
  validity : Option Span := none
  metadata : List (String × String) := []
  deriving DecidableEq, Repr, Inhabited

def claims (t : Token) (keyId : String) : Claims :=
  { id := t.id, kind := t.kind, subject := t.subject, issuer := t.issuer, audience := t.audience
    scopes := t.scopes, issuedAt := t.issuedAt.micros, notBefore := t.notBefore.micros
    expiresAt := t.expiresAt.micros, algorithm := t.algorithm, keyId }

def signWith (t : Token) (keyId : String) : Token :=
  { t with value := some (.envelope (Envelope.sign (t.claims keyId))) }

/-- The token that claims describe, without metadata and revocation; or the first member that is out
of range. -/
def ofClaims (c : Claims) (value : Bearer) : Except String Token :=
  match Instant.ofMicros? c.issuedAt, Instant.ofMicros? c.notBefore, Instant.ofMicros? c.expiresAt with
  | none, _, _ => .error "iat"
  | _, none, _ => .error "nbf"
  | _, _, none => .error "exp"
  | some issuedAt, some notBefore, some expiresAt =>
    .ok
      { id := c.id, kind := c.kind, subject := c.subject, issuer := c.issuer, audience := c.audience
        scopes := c.scopes, issuedAt, notBefore, expiresAt, algorithm := c.algorithm
        keyId := some c.keyId, value := some value }

/-- Checks that a key signed the value of a token, and over these very claims. -/
def verify (t : Token) (keyId : String) (now : Instant) : Except SignatureFault Unit := do
  let some value := t.value | throw .unsigned
  let signed ← value.openWith keyId now
  if signed = t.claims keyId then pure () else throw .altered

end Token
end Gatehouse
