import Gatehouse.Json.Printer
import Gatehouse.Json.Reader
import Gatehouse.Text.Ordered
import Gatehouse.Value.Reading

/-!
What a signature covers. Claims are written as one JSON object with its members in a fixed order and
times in whole microseconds, so that equal claims have the same text. They are read back from any JSON
that has every member; members that are not known are passed over, one given twice is refused.
-/
namespace Gatehouse.Token

inductive Kind where
  /-- Short-lived, presented to the servers of resources. -/
  | access
  /-- Long-lived, exchanged for new access tokens. -/
  | refresh
  /-- Says who somebody is. -/
  | id
  deriving DecidableEq, Repr, Inhabited

inductive Algorithm where
  | edDSA
  deriving DecidableEq, Repr, Inhabited

def Kind.name : Kind → String
  | access => "access"
  | refresh => "refresh"
  | id => "id"

def Algorithm.name : Algorithm → String
  | edDSA => "EdDSA"

def kindNames : List (String × Kind) := [("access", .access), ("refresh", .refresh), ("id", .id)]

def algorithmNames : List (String × Algorithm) := [("EdDSA", .edDSA)]

/-- The claims of a token and the key that signs them. Times are microseconds from the beginning of
1970. -/
structure Claims where
  id : String
  kind : Kind
  subject : String
  issuer : String
  audience : List String
  scopes : List String
  issuedAt : Int
  notBefore : Int
  expiresAt : Int
  algorithm : Algorithm
  keyId : String
  deriving DecidableEq, Repr, Inhabited

namespace Claims

def memberNames : List String :=
  ["jti", "typ", "sub", "iss", "aud", "scope", "iat", "nbf", "exp", "alg", "kid"]

def texts (ss : List String) : Json := .array (ss.map .text)

/-- The members, in the order in which they are signed. -/
def members (c : Claims) : List Json :=
  [.text c.id, .text c.kind.name, .text c.subject, .text c.issuer, texts c.audience, texts c.scopes,
   .int c.issuedAt, .int c.notBefore, .int c.expiresAt, .text c.algorithm.name, .text c.keyId]

def render (c : Claims) : String := (Json.object (memberNames.zip c.members)).render

def textSet? (v : Value) : Option (List String) := (v.texts? .strict).map Text.Ordered.ofList

def ofValue? (v : Value) : Option Claims := do
  let f ← v.fields? .strict memberNames
  let text := Value.text? .strict
  let time := Value.int? .strict (-Nat.pow 2 63) (Nat.pow 2 63 - 1)
  let id ← f.required 0 text
  let kind ← f.required 1 (Value.variant? .strict kindNames)
  let subject ← f.required 2 text
  let issuer ← f.required 3 text
  let audience ← f.required 4 textSet?
  let scopes ← f.required 5 textSet?
  let issuedAt ← f.required 6 time
  let notBefore ← f.required 7 time
  let expiresAt ← f.required 8 time
  let algorithm ← f.required 9 (Value.variant? .strict algorithmNames)
  let keyId ← f.required 10 text
  some { id, kind, subject, issuer, audience, scopes, issuedAt, notBefore, expiresAt, algorithm, keyId }

def parse (text : String) : Option Claims :=
  (Json.parseEntries text).bind fun j => ofValue? (.ofJson j)

end Claims
end Gatehouse.Token
