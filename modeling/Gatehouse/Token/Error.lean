import Gatehouse.Instant.Text
import Gatehouse.Text.Quoted
import Gatehouse.Token

/-!
Why an operation on tokens fails. An error is a rejection if the token that was presented is at fault, and
not the keys or the store behind.
-/
namespace Gatehouse.Token

/-- Stands in a message where details are left out. -/
def withheld : String := "<library>"

inductive SigningFault where
  | noActiveKey
  | invalidKey
  /-- The file of a key cannot be read. -/
  | unreadable (path : String)
  /-- The configured key cannot be read. -/
  | unreadableKey
  deriving DecidableEq, Repr, Inhabited

def SigningFault.message : SigningFault → String
  | noActiveKey => "no active signing key"
  | invalidKey => "invalid private key: " ++ withheld
  | unreadable path => "cannot read " ++ path ++ ": " ++ withheld
  | unreadableKey => "cannot read private key: " ++ withheld

def SignatureFault.message : SignatureFault → String
  | closed => withheld
  | missingClaims => "missing claims"
  | malformedClaims => "malformed claims: " ++ withheld
  | keyMismatch => "key id mismatch"
  | unsigned => "token is not signed"
  | altered => "claims do not match signature"
  | noKey => "no retained key verifies the token"

/-- Why claims are not fit to be issued or read. -/
inductive ClaimsFault where
  | blankSubject
  | validityOutOfRange
  | expiryOutOfRange
  | notBeforeAfterExpiry
  | issuedAfterExpiry
  | idInUse (id : String)
  /-- The time of a member is no instant. -/
  | outOfRange (member : String)
  deriving DecidableEq, Repr, Inhabited

def ClaimsFault.message : ClaimsFault → String
  | blankSubject => "subject must not be empty"
  | validityOutOfRange => "validity out of range: " ++ withheld
  | expiryOutOfRange => "expiry is beyond the representable range"
  | notBeforeAfterExpiry => "not_before must not be after expires_at"
  | issuedAfterExpiry => "issued_at must not be after expires_at"
  | idInUse id => "token id already in use: " ++ id
  | outOfRange member => member ++ " out of range"

inductive StoreError where
  | notFound (id : String)
  | alreadyExists (id : String)
  /-- A store has to be brought, and none was. -/
  | missingBackend
  /-- The backend of the store fails. -/
  | backend (reason : String)
  deriving DecidableEq, Repr, Inhabited

def StoreError.message : StoreError → String
  | notFound id => "token not found: " ++ id
  | alreadyExists id => "token id already in use: " ++ id
  | missingBackend =>
    "store configuration error: backend 'external' requires a caller-supplied store"
  | backend reason => "store backend error: " ++ reason

inductive Error where
  | signing (fault : SigningFault)
  | signature (fault : SignatureFault)
  | expired (expiredAt : Instant)
  | notYetValid (notBefore : Instant)
  | issuer (issuer : String)
  | audience (audience : List String)
  | scope (required : List String)
  | revoked (id : String)
  | notFound (id : String)
  /-- A token that had to be valid is not. -/
  | invalid (reason : Error)
  | kind (expected actual : Kind)
  | claims (fault : ClaimsFault)
  | store (error : StoreError)
  deriving DecidableEq, Repr, Inhabited

namespace Error

def message : Error → String
  | signing f => "signing failed: " ++ f.message
  | signature f => "invalid signature: " ++ f.message
  | expired t => "token expired at " ++ t.plain
  | notYetValid t => "token not valid before " ++ t.plain
  | issuer i => "issuer not allowed: " ++ i
  | audience ss => "audience not allowed: " ++ Text.Quoted.list ss
  | scope ss => "insufficient scope: required " ++ Text.Quoted.list ss
  | revoked id => "token revoked: " ++ id
  | notFound id => "token not found: " ++ id
  | invalid reason => "invalid token: " ++ reason.message
  | kind expected actual =>
    "invalid token type: expected " ++ expected.name ++ ", got " ++ actual.name
  | claims f => "invalid claims: " ++ f.message
  | store e => "store error: " ++ e.message

def isRejection : Error → Bool
  | signing _ => false
  | store _ => false
  | _ => true

end Error
end Gatehouse.Token
