import Gatehouse.Json
import Gatehouse.Text.Ordered

/-!
Questions of access and their answers: a subject wants to act on a resource, in a context. Roles are kept
in order and without repetitions, attributes in the order of their keys.
-/
namespace Gatehouse

/-- Values under text keys in increasing order. -/
abbrev Attributes := List (String × Json)

namespace Access

structure Subject where
  id : String
  roles : List String := []
  attributes : Attributes := []
  deriving Repr, Inhabited

structure Resource where
  id : String
  type : String
  attributes : Attributes := []
  deriving Repr, Inhabited

structure Request where
  subject : Subject
  action : String
  resource : Resource
  context : Attributes := []
  deriving Repr, Inhabited

/-- The outcome of a question. Whatever no policy speaks about is denied. -/
inductive Decision where
  | allowedBy (policy : String)
  | deniedBy (policy : String)
  | noMatch
  deriving DecidableEq, Repr, Inhabited

namespace Decision

def allowed : Decision → Bool
  | allowedBy _ => true
  | _ => false

def policy? : Decision → Option String
  | allowedBy p => some p
  | deniedBy p => some p
  | noMatch => none

def isExplicitDeny : Decision → Bool
  | deniedBy _ => true
  | _ => false

def reason : Decision → String
  | allowedBy p => "allowed by policy '" ++ p ++ "'"
  | deniedBy p => "denied by policy '" ++ p ++ "'"
  | noMatch => "no matching policy"

end Decision
end Access
end Gatehouse
