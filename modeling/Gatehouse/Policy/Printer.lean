import Gatehouse.Policy.Reader
import Gatehouse.Report

/-!
Policies as JSON, in the form in which they are read. Matchers leave out empty criteria, and a policy
leaves out a missing description. Predicates that live in the program cannot be shown.
-/
namespace Gatehouse.Policy

def tagged (key : String) (kind : String) (fields : List (String × Json)) : Json :=
  .ofEntries ((key, .text kind) :: fields)

def AttributeTest.toJson : AttributeTest → Json
  | equals v => tagged "op" "equals" [("value", v)]
  | oneOf vs => tagged "op" "one_of" [("values", .array vs)]
  | present => tagged "op" "present" []
  | fits p => tagged "op" "matches" [("pattern", .text p.text)]

/-- A field that is left out if there is nothing to show. -/
def given {α : Type} (key : String) (show? : α → Json) : Option α → List (String × Json)
  | none => []
  | some a => [(key, show? a)]

def nonempty {α : Type} (items : List α) : Option (List α) :=
  if items.isEmpty then none else some items

def AttributeTests.toJson (ts : AttributeTests) : Json :=
  .ofEntries (ts.map fun t => (t.1, t.2.toJson))

def SubjectMatcher.toJson (m : SubjectMatcher) : Json :=
  .ofEntries (given "id" .text m.id ++ given "roles" Report.texts (nonempty m.roles) ++
    given "attributes" AttributeTests.toJson (nonempty m.attributes))

def ResourceMatcher.toJson (m : ResourceMatcher) : Json :=
  .ofEntries (given "id" .text m.id ++ given "type" .text m.type ++
    given "attributes" AttributeTests.toJson (nonempty m.attributes))

def Source.name : Source → String
  | subject => "subject"
  | resource => "resource"
  | context => "context"

def Condition.toJson? (c : Condition) : Option Json :=
  let form (kind : String) (fields : List (String × Json)) : Option Json :=
    some (tagged "type" kind (("name", .text c.name) :: fields))
  match c.predicate with
  | .onAttribute source key test =>
    form "attribute" [("source", .text source.name), ("key", .text key), ("match", test.toJson)]
  | .subjectIsOwner source key =>
    form "subject_is_owner" [("source", .text source.name), ("key", .text key)]
  | .rolesAll roles => form "roles_all" [("roles", Report.texts roles)]
  | .custom _ => none

def Effect.name : Effect → String
  | allow => "allow"
  | deny => "deny"

def toJson? (p : Policy) : Option Json := do
  let conditions ← p.conditions.mapM Condition.toJson?
  some (.ofEntries
    (given "description" .text p.description ++
      [("id", .text p.id), ("effect", .text p.effect.name), ("priority", .int p.priority),
       ("subjects", .array (p.subjects.map SubjectMatcher.toJson)),
       ("resources", .array (p.resources.map ResourceMatcher.toJson)),
       ("actions", .array (p.actions.map fun a => .text a.name)),
       ("conditions", .array conditions)]))

def Error.code : Error → String
  | duplicate _ => "Duplicate"
  | notFound _ => "NotFound"
  | invalid _ _ => "Invalid"
  | pattern _ => "Pattern"
  | malformed => "Yaml"
  | unreadable => "Io"

def Error.toJson (e : Error) : Json :=
  let text := match e with
    | pattern p => [("pattern", .text p)]
    | _ => []
  Report.error e.code e.message? text

def ConditionError.toJson (e : ConditionError) : Json :=
  let code := match e with
    | missingAttribute _ => "MissingAttribute"
    | notText _ => "NotAString"
    | failed _ => "Failed"
  Report.error code e.message []

/-- How a policy stands to a request: whether it speaks about it, and the first condition that fails. -/
def explain (p : Policy) (r : Access.Request) : Json :=
  let failure (f : String × Option ConditionError) : Json :=
    .ofEntries [("condition", .text f.1), ("why", Report.orNull ConditionError.toJson f.2)]
  .ofEntries
    [("id", .text p.id), ("targets", .bool (p.targets r)),
     ("failed", Report.orNull failure (p.check r))]

end Gatehouse.Policy

namespace Gatehouse.Access

def Subject.toJson (s : Subject) : Json :=
  .ofEntries
    [("id", .text s.id), ("roles", Report.texts s.roles), ("attributes", .ofEntries s.attributes)]

def Decision.toJson (d : Decision) : Json :=
  .ofEntries
    [("allowed", .bool d.allowed), ("reason", .text d.reason),
     ("policy_id", Report.orNull .text d.policy?), ("explicit_deny", .bool d.isExplicitDeny)]

end Gatehouse.Access
