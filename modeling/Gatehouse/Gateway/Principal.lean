import Gatehouse.Access
import Gatehouse.Token

/-!
On whose behalf a backend is called: a token that was validated, the subject it makes, and the decision that lets it
pass.
-/
namespace Gatehouse.Gateway

structure Principal where
  token : Token
  subject : Access.Subject
  decision : Access.Decision

/-- The metadata of a token that list the roles of its subject, between commas. -/
def rolesKey : String := "roles"

/-- The subject of a validated token. -/
def subjectFor (t : Token) (attributes : Attributes) : Access.Subject :=
  let listed := (t.metadata.lookup rolesKey).getD ""
  let roles := ((Text.split (· = ',') listed).map Text.trim).filter (· ≠ "")
  { id := t.subject, roles := Text.Ordered.ofList roles, attributes }

end Gatehouse.Gateway
