import Gatehouse.Policy.Matcher

/-!
Named conditions on a request. A condition holds, does not hold, or cannot be evaluated.
-/
namespace Gatehouse.Policy

inductive ConditionError where
  | missingAttribute (key : String)
  | notText (key : String)
  | failed (reason : String)
  deriving DecidableEq, Repr

def ConditionError.message : ConditionError → String
  | missingAttribute key => "missing attribute: " ++ key
  | notText key => "attribute '" ++ key ++ "' is not a string"
  | failed reason => "condition failed: " ++ reason

/-- Whose attributes are looked at. -/
inductive Source where
  | subject | resource | context
  deriving DecidableEq, Repr, Inhabited

def Source.attributes (s : Source) (r : Access.Request) : Attributes :=
  match s with
  | subject => r.subject.attributes
  | resource => r.resource.attributes
  | context => r.context

inductive Predicate where
  | onAttribute (source : Source) (key : String) (test : AttributeTest)
  /-- The attribute names the subject. -/
  | subjectIsOwner (source : Source) (key : String)
  | rolesAll (roles : List String)
  /-- A predicate that lives in the program and cannot be written down. -/
  | custom (evaluate : Access.Request → Except ConditionError Bool)

structure Condition where
  name : String
  predicate : Predicate

namespace Condition

def onAttribute (name : String) (source : Source) (key : String) (test : AttributeTest) : Condition :=
  ⟨name, .onAttribute source key test⟩

def subjectIsOwner (name : String) : Condition := ⟨name, .subjectIsOwner .resource "owner"⟩

def rolesAll (name : String) (roles : List String) : Condition :=
  ⟨name, .rolesAll (Text.Ordered.ofList roles)⟩

def evaluate (c : Condition) (r : Access.Request) : Except ConditionError Bool :=
  match c.predicate with
  | .onAttribute source key test => .ok (test.holds ((source.attributes r).lookup key))
  | .subjectIsOwner source key =>
    match (source.attributes r).lookup key with
    | none => .error (.missingAttribute key)
    | some (.text owner) => .ok (owner = r.subject.id)
    | some _ => .error (.notText key)
  | .rolesAll roles => .ok (roles.all r.subject.roles.contains)
  | .custom f => f r

/-- Whether the condition asks for all of no roles, which every subject has. -/
def listsNoRoles (c : Condition) : Bool :=
  match c.predicate with
  | .rolesAll [] => true
  | _ => false

end Condition
end Gatehouse.Policy
