import Gatehouse.Authority

/-!
Issuing, looking up and revoking tokens. A token gets what its request leaves open from the configuration
and the clock, is signed with the active key, and is put into the store under an id that was free. Ids are
drawn outside: `fresh` is the one to use if the request names none.
-/
namespace Gatehouse.Authority
open Token (Error StoreError)

/-- The validity of tokens that ask for none. -/
def defaultValidity (a : Authority) (kind : Token.Kind) : Except Error Span :=
  let d := if kind = .refresh then a.config.refreshValidity else a.config.accessValidity
  match Span.ofDuration? d with
  | some s => .ok s
  | none => .error (.claims .validityOutOfRange)

/-- The expiry of a token that is issued at `now`. -/
def expiryOf (a : Authority) (now : Instant) (r : Token.Request) : Except Error Instant := do
  let validity ←
    match r.validity with
    | some v => pure v
    | none => a.defaultValidity r.kind
  match r.expiresAt with
  | some t => pure t.truncated
  | none =>
    match now.add? validity with
    | some t => pure t
    | none => throw (.claims .expiryOutOfRange)

/-- The token that a request asks for, before it is signed. Times are cut to microseconds. -/
def draft (a : Authority) (keyId : String) (now : Instant) (fresh : String) (r : Token.Request) :
    Except Error Token := do
  let now := now.truncated
  if Text.isAllBlank r.subject then throw (.claims .blankSubject)
  let expiresAt ← a.expiryOf now r
  let notBefore := (r.notBefore.map Instant.truncated).getD now
  if expiresAt < notBefore then throw (.claims .notBeforeAfterExpiry)
  if expiresAt < now then throw (.claims .issuedAfterExpiry)
  pure
    { id := (r.id.filter (· ≠ "")).getD fresh, kind := r.kind, subject := r.subject
      issuer := r.issuer.getD a.config.issuer, audience := r.audience
      scopes := if r.scopes.isEmpty then Text.Ordered.ofList a.config.defaultScopes else r.scopes
      issuedAt := now, notBefore, expiresAt, keyId := some keyId, metadata := r.metadata }

def retention (a : Authority) : Span := .ofDuration a.config.retention

/-- How long the store has to keep the record of a token. -/
def keepFor (a : Authority) (t : Token) : Duration :=
  (((t.expiresAt.since t.issuedAt).add? a.retention).bind Span.toDuration?).getD .longest

def issue (a : Authority) (now : Instant) (fresh : String) (r : Token.Request) :
    Except Error (Token × Authority) := do
  let some keyId := a.keys.signer? | throw (.signing .noActiveKey)
  let t ← a.draft keyId now fresh r
  let t := t.signWith keyId
  match a.backend.insert t with
  | .ok backend => pure (t, { a with backend })
  | .error (.alreadyExists id) => throw (.claims (.idInUse id))
  | .error e => throw (.store e)

def ofStore : StoreError → Error
  | .notFound id => .notFound id
  | e => .store e

def get (a : Authority) (id : String) : Except Error Token := (a.backend.get id).mapError ofStore

def list (a : Authority) (f : Token.Filter) : Except Error (List Token) :=
  (a.backend.list f).mapError .store

def count (a : Authority) (f : Token.Filter) : Except Error Nat := (a.backend.count f).mapError .store

/-- Revokes a token. Doing so again changes nothing and is no error. -/
def revoke (a : Authority) (id : String) (status : Token.Revocation) : Except Error (Bool × Authority) :=
  match a.backend.revoke id status with
  | .ok (changed, backend) => .ok (changed, { a with backend })
  | .error (.notFound _) => .error (.notFound id)
  | .error e => .error (.store e)

/-- Removes the records of tokens that expired longer ago than they are kept. -/
def cleanup (a : Authority) (now : Instant) : Except Error (Nat × Authority) :=
  match now.sub? a.retention with
  | none => .ok (0, a)
  | some before =>
    match a.backend.cleanup before with
    | .ok (removed, backend) => .ok (removed, { a with backend })
    | .error e => .error (.store e)

/-- Removes keys that no valid token can have been signed with. -/
def pruneKeys (a : Authority) (now : Instant) : List RetainedKey × Authority :=
  let (removed, keys) := a.keys.prune a.config.maxLifetime now
  (removed, { a with keys })

/-- The name of the task that removes expired records now and then. -/
def cleanupName : String := "token-cleanup"

/-- The name of the task that replaces the active key now and then. -/
def rotationName : String := "key-rotation"

end Gatehouse.Authority
