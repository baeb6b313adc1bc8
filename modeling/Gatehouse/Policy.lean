import Gatehouse.Policy.Condition

/-!
Policies. A policy applies to a request if one of its subject matchers, one of its resource matchers and
one of its action matchers select it and all its conditions hold.
-/
namespace Gatehouse

namespace Policy

inductive Effect where
  | allow | deny
  deriving DecidableEq, Repr, Inhabited

end Policy

structure Policy where
  id : String
  description : Option String := none
  effect : Policy.Effect
  priority : Int := 0
  subjects : List Policy.SubjectMatcher := []
  resources : List Policy.ResourceMatcher := []
  actions : List Policy.ActionMatcher := []
  conditions : List Policy.Condition := []

namespace Policy

/-- What is wrong with a policy by itself. -/
inductive Fault where
  | emptyId
  | emptyConditionName
  | repeatedConditionName (name : String)
  | noRoles (condition : String)
  deriving DecidableEq, Repr

def Fault.message : Fault → String
  | emptyId => "id must not be empty"
  | emptyConditionName => "condition name must not be empty"
  | repeatedConditionName name => "duplicate condition name '" ++ name ++ "'"
  | noRoles condition => "condition '" ++ condition ++ "' lists no roles"

/-- The first fault among conditions, behind conditions with the names in `earlier`. -/
def conditionFault? (earlier : List String) : List Condition → Option Fault
  | [] => none
  | c :: cs =>
    if Text.isAllBlank c.name then some .emptyConditionName
    else if earlier.contains c.name then some (.repeatedConditionName c.name)
    else if c.listsNoRoles then some (.noRoles c.name)
    else conditionFault? (c.name :: earlier) cs

def fault? (p : Policy) : Option Fault :=
  if Text.isAllBlank p.id then some .emptyId else conditionFault? [] p.conditions

/-- Whether the matchers select the request. -/
def targets (p : Policy) (r : Access.Request) : Bool :=
  p.subjects.any (·.selects r.subject) && p.resources.any (·.selects r.resource) &&
    p.actions.any (·.selects r.action)

/-- The first condition that does not hold, with the reason if it could not be evaluated. -/
def failedCondition? (r : Access.Request) : List Condition → Option (String × Option ConditionError)
  | [] => none
  | c :: cs =>
    match c.evaluate r with
    | .ok true => failedCondition? r cs
    | .ok false => some (c.name, none)
    | .error e => some (c.name, some e)

def check (p : Policy) (r : Access.Request) : Option (String × Option ConditionError) :=
  failedCondition? r p.conditions

def applies (p : Policy) (r : Access.Request) : Bool := p.targets r && (p.check r).isNone

/-- The order of evaluation: by priority, the highest first, then by id. -/
def before (p q : Policy) : Bool :=
  q.priority < p.priority || (p.priority = q.priority && p.id ≤ q.id)

end Policy
end Gatehouse
