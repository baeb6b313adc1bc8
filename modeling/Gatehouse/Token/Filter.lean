import Gatehouse.Token

/-!
Choosing tokens. Whatever a filter does not say matches every token, except that revoked tokens have to
be asked for.
-/
namespace Gatehouse.Token

structure Filter where
  kinds : List Kind := []
  subject : Option String := none
  issuer : Option String := none
  expiresAfter : Option Instant := none
  expiresBefore : Option Instant := none
  issuedAfter : Option Instant := none
  issuedBefore : Option Instant := none
  scopes : List String := []
  /-- Every scope is required, not just one of them. -/
  requireAllScopes : Bool := false
  /-- An instant at which the token is valid. -/
  activeAt : Option Instant := none
  includeRevoked : Bool := false
  deriving DecidableEq, Repr, Inhabited

namespace Filter

/-- All tokens of a subject, revoked ones too. -/
def forSubject (subject : String) : Filter := { subject := some subject, includeRevoked := true }

/-- Whether a criterion is met; one that is not given always is. -/
def meets {α : Type} (criterion : Option α) (test : α → Bool) : Bool := criterion.all test

def scopesMatch (f : Filter) (t : Token) : Bool :=
  f.scopes.isEmpty ||
    if f.requireAllScopes then f.scopes.all t.hasScope else f.scopes.any t.hasScope

def selects (f : Filter) (t : Token) : Bool :=
  (f.kinds.isEmpty || f.kinds.contains t.kind) &&
  meets f.subject (· = t.subject) &&
  meets f.issuer (· = t.issuer) &&
  meets f.expiresAfter (· < t.expiresAt) &&
  meets f.expiresBefore (t.expiresAt < ·) &&
  meets f.issuedAfter (· < t.issuedAt) &&
  meets f.issuedBefore (t.issuedAt < ·) &&
  f.scopesMatch t &&
  meets f.activeAt (fun moment => t.notBefore ≤ moment ∧ moment ≤ t.expiresAt) &&
  (f.includeRevoked || !t.isRevoked)

end Filter
end Gatehouse.Token
