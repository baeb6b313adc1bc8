import Gatehouse.Authority.Issue

/-!
Exchanging tokens for new ones. Rotation replaces a token by one with the same subject, issuer, audience
and scopes, and revokes the old one; if that cannot be done the new one is discarded. A refresh token is
kept and gives a new access token.
-/
namespace Gatehouse.Authority
open Token (Error)

/-- Metadata that list the scopes a refresh token gives, between blanks or commas. -/
def originalScopesKey : String := "original_scopes"

def successorOf (current : Token) (r : Token.Request) : Token.Request :=
  { r with
    subject := current.subject, issuer := some current.issuer, audience := current.audience
    scopes := current.scopes, metadata := Json.setEntry "rotated_from" current.id r.metadata }

/-- Removes the record of a token that was issued in vain, if the store lets it. -/
def discard (a : Authority) (id : String) : Authority :=
  match a.backend.delete id with
  | .ok backend => { a with backend }
  | .error _ => a

/-- Replaces a token. `stamp` is the time that the store writes into the revocation. -/
def rotate (a : Authority) (now stamp : Instant) (fresh : String) (old : Token) (r : Token.Request) :
    Except Error Token × Authority :=
  match a.get old.id with
  | .error e => (.error e, a)
  | .ok _ =>
    match a.validate now old {} with
    | .error e => (.error (.invalid e), a)
    | .ok current =>
      match a.issue now fresh (successorOf current r) with
      | .error e => (.error e, a)
      | .ok (issued, b) =>
        match b.backend.revoke current.id ⟨stamp, none, "rotated"⟩ with
        | .ok (true, backend) => (.ok issued, { b with backend })
        | .ok (false, _) => (.error (.invalid (.revoked current.id)), b.discard issued.id)
        | .error e => (.error (.store e), b.discard issued.id)

def refreshedScopes (t : Token) : List String :=
  match t.metadata.lookup originalScopesKey with
  | some listed =>
    Text.Ordered.ofList ((Text.split (fun c => c = ' ' || c = ',') listed).filter (· ≠ ""))
  | none => t.scopes

def refresh (a : Authority) (now : Instant) (fresh : String) (t : Token) :
    Except Error (Token × Authority) := do
  let record ← a.validate now t {}
  if record.kind ≠ .refresh then throw (.kind .refresh record.kind)
  a.issue now fresh
    { kind := .access, subject := record.subject, issuer := some record.issuer
      audience := record.audience, scopes := refreshedScopes record
      metadata := [("refreshed_from", record.id)] }

end Gatehouse.Authority
