import Gatehouse.Instant.Text
import Gatehouse.Token.Filter

/-!
Tokens, requests for tokens and filters from JSON.
-/
namespace Gatehouse.Token
open Claims (textSet?)

def text? : Value → Option String := Value.text? .strict

def instant? (v : Value) : Option Instant := (text? v).bind Instant.parse

def kind? : Value → Option Kind := Value.variant? .strict kindNames

def metadata? : Value → Option (List (String × String)) := Value.textMap? .strict text?

def flag? : Value → Option Bool
  | .bool b => some b
  | _ => none

/-- A field that may be null. -/
def orNull {α : Type} (read : Value → Option α) (v : Value) : Option (Option α) :=
  Value.optional read (some v)

def Revocation.ofValue? (v : Value) : Option Revocation := do
  let f ← v.fields? .strict ["revoked_at", "revoked_by", "reason"]
  let revokedAt ← f.required 0 instant?
  let revokedBy ← f.nullable 1 text?
  let reason ← f.required 2 text?
  some { revokedAt, revokedBy, reason }

def ofValue? (v : Value) : Option Token := do
  let f ← v.fields? .strict
    ["id", "type", "subject", "issuer", "audience", "scopes", "issued_at", "not_before", "expires_at",
     "algorithm", "key_id", "value", "metadata", "revocation"]
  let id ← f.required 0 text?
  let kind ← f.required 1 kind?
  let subject ← f.required 2 text?
  let issuer ← f.required 3 text?
  let audience ← f.defaulted 4 textSet? []
  let scopes ← f.defaulted 5 textSet? []
  let issuedAt ← f.required 6 instant?
  let notBefore ← f.required 7 instant?
  let expiresAt ← f.required 8 instant?
  let algorithm ← f.defaulted 9 (Value.variant? .strict algorithmNames) .edDSA
  let keyId ← f.defaulted 10 (orNull text?) none
  let value ← f.defaulted 11 (orNull fun v => (text? v).map .text) none
  let metadata ← f.defaulted 12 metadata? []
  let revocation ← f.defaulted 13 (orNull Revocation.ofValue?) none
  some
    { id, kind, subject, issuer, audience, scopes, issuedAt, notBefore, expiresAt, algorithm, keyId, value
      metadata, revocation }

/-- A request; a validity cannot be written. -/
def Request.ofValue? (v : Value) : Option Request := do
  let f ← v.fields? .strict
    ["id", "type", "subject", "issuer", "audience", "scopes", "not_before", "expires_at", "metadata"]
  let id ← f.defaulted 0 (orNull text?) none
  let kind ← f.required 1 kind?
  let subject ← f.required 2 text?
  let issuer ← f.defaulted 3 (orNull text?) none
  let audience ← f.defaulted 4 textSet? []
  let scopes ← f.defaulted 5 textSet? []
  let notBefore ← f.defaulted 6 (orNull instant?) none
  let expiresAt ← f.defaulted 7 (orNull instant?) none
  let metadata ← f.defaulted 8 metadata? []
  some { id, kind, subject, issuer, audience, scopes, notBefore, expiresAt, metadata }

/-- A filter. `for_subject` asks for all tokens of a subject; the other members refine that. -/
def Filter.ofValue? (v : Value) : Option Filter := do
  let f ← v.fields? .strict
    ["for_subject", "types", "subject", "issuer", "expires_after", "expires_before", "issued_after",
     "issued_before", "scopes", "require_all_scopes", "active_at", "include_revoked"]
  let instant (n : Nat) : Option (Option Instant) := f.defaulted n (orNull instant?) none
  let choice (n : Nat) : Option (Option Bool) := f.defaulted n (orNull flag?) none
  let subjectOf ← f.defaulted 0 (orNull text?) none
  let base : Filter := (subjectOf.map Filter.forSubject).getD {}
  let kinds ← f.defaulted 1 (orNull fun v => (v.items? .strict).bind (·.mapM kind?)) none
  let subject ← f.defaulted 2 (orNull text?) none
  let issuer ← f.defaulted 3 (orNull text?) none
  let expiresAfter ← instant 4
  let expiresBefore ← instant 5
  let issuedAfter ← instant 6
  let issuedBefore ← instant 7
  let scopes ← f.defaulted 8 (orNull (Value.texts? .strict)) none
  let requireAllScopes ← choice 9
  let activeAt ← instant 10
  let includeRevoked ← choice 11
  some
    { kinds := kinds.getD [], subject := subject.or base.subject, issuer, expiresAfter, expiresBefore
      issuedAfter, issuedBefore, scopes := scopes.getD []
      requireAllScopes := requireAllScopes.getD false, activeAt
      includeRevoked := includeRevoked.getD base.includeRevoked }

end Gatehouse.Token
