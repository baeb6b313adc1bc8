import Gatehouse.Report
import Gatehouse.Token.Error

/-!
Tokens, requests for tokens and errors as JSON. The text of an envelope is not shown.
-/
namespace Gatehouse.Token
open Report (orNull texts)

def instantJson (t : Instant) : Json := .text t.text

def metadataJson (m : List (String × String)) : Json := .ofEntries (m.map fun e => (e.1, .text e.2))

def Bearer.toJson : Bearer → Json
  | envelope _ => .text "<envelope>"
  | text s => .text s

def Revocation.toJson (r : Revocation) : Json :=
  .ofEntries
    [("revoked_at", instantJson r.revokedAt), ("revoked_by", orNull .text r.revokedBy),
     ("reason", .text r.reason)]

def toJson (t : Token) : Json :=
  .ofEntries
    [("id", .text t.id), ("type", .text t.kind.name), ("subject", .text t.subject),
     ("issuer", .text t.issuer), ("audience", texts t.audience), ("scopes", texts t.scopes),
     ("issued_at", instantJson t.issuedAt), ("not_before", instantJson t.notBefore),
     ("expires_at", instantJson t.expiresAt), ("algorithm", .text t.algorithm.name),
     ("key_id", orNull .text t.keyId), ("value", orNull Bearer.toJson t.value),
     ("metadata", metadataJson t.metadata), ("revocation", orNull Revocation.toJson t.revocation)]

def Request.toJson (r : Request) : Json :=
  .ofEntries
    [("id", orNull .text r.id), ("type", .text r.kind.name), ("subject", .text r.subject),
     ("issuer", orNull .text r.issuer), ("audience", texts r.audience),
     ("scopes", texts r.scopes), ("not_before", orNull instantJson r.notBefore),
     ("expires_at", orNull instantJson r.expiresAt), ("metadata", metadataJson r.metadata)]

def StoreError.code : StoreError → String
  | notFound _ => "Store.NotFound"
  | alreadyExists _ => "Store.AlreadyExists"
  | missingBackend => "Store.Config"
  | backend _ => "Store.Backend"

def StoreError.toJson (e : StoreError) : Json := Report.error e.code e.message []

def Error.code : Error → String
  | signing _ => "SigningError"
  | signature _ => "InvalidSignature"
  | expired _ => "TokenExpired"
  | notYetValid _ => "TokenNotYetValid"
  | issuer _ => "InvalidIssuer"
  | audience _ => "InvalidAudience"
  | scope _ => "InsufficientScope"
  | revoked _ => "TokenRevoked"
  | notFound _ => "TokenNotFound"
  | invalid _ => "InvalidToken"
  | kind _ _ => "InvalidTokenType"
  | claims _ => "InvalidClaims"
  | store e => e.code

def Error.toJson (e : Error) : Json :=
  let inner := match e with
    | invalid reason => [("inner", reason.toJson)]
    | _ => []
  Report.error e.code e.message (("rejection", .bool e.isRejection) :: inner)

end Gatehouse.Token
