import Gatehouse.Policy.Authorizer
import Gatehouse.Value.Reading
import Gatehouse.Yaml.Content

/-!
Policies, matchers, conditions and requests from untyped values.
-/
namespace Gatehouse

namespace Policy

/-- A test, told apart by the field `op`. -/
def AttributeTest.ofValue? (r : Reading) (v : Value) : Option AttributeTest := do
  let (n, rest) ← v.kind? r "op" ["equals", "one_of", "present", "matches"]
  let field (name : String) : Option Value :=
    (rest.fields? .aside [name]).bind fun f => f.required 0 some
  match n with
  | 0 => (← field "value").json?.map .equals
  | 1 => do
    let items ← (← field "values").items? .aside
    (items.mapM Value.json?).map .oneOf
  | 2 => some .present
  | _ => do
    let text ← (← field "pattern").text? .aside
    (Pattern.parse text).map .fits

/-- A set of texts. -/
def textSet? (r : Reading) (v : Value) : Option (List String) :=
  (v.texts? r).map Text.Ordered.ofList

def SubjectMatcher.ofValue? (r : Reading) (v : Value) : Option SubjectMatcher := do
  let f ← v.fields? r ["id", "roles", "attributes"]
  let id ← f.defaulted 0 (fun v => Value.optional (Value.text? r) (some v)) none
  let roles ← f.defaulted 1 (textSet? r) []
  let attributes ← f.defaulted 2 (Value.textMap? r (AttributeTest.ofValue? r)) []
  some { id, roles, attributes }

def ResourceMatcher.ofValue? (r : Reading) (v : Value) : Option ResourceMatcher := do
  let f ← v.fields? r ["id", "type", "attributes"]
  let id ← f.defaulted 0 (fun v => Value.optional (Value.text? r) (some v)) none
  let type ← f.defaulted 1 (fun v => Value.optional (Value.text? r) (some v)) none
  let attributes ← f.defaulted 2 (Value.textMap? r (AttributeTest.ofValue? r)) []
  some { id, type, attributes }

def ActionMatcher.ofValue? (r : Reading) (v : Value) : Option ActionMatcher := (v.text? r).map .mk

def sourceNames : List (String × Source) :=
  [("subject", .subject), ("resource", .resource), ("context", .context)]

/-- A predicate, told apart by the field `type` among the fields of its condition. -/
def Predicate.ofEntries? (entries : List (Value × Value)) : Option Predicate := do
  let (n, rest) ←
    (Value.map entries).kind? .aside "type" ["attribute", "subject_is_owner", "roles_all"]
  let source := Value.variant? .aside sourceNames
  let key := Value.text? .aside
  match n with
  | 0 => do
    let f ← rest.fields? .aside ["source", "key", "match"]
    some (.onAttribute (← f.required 0 source) (← f.required 1 key)
      (← f.required 2 (AttributeTest.ofValue? .aside)))
  | 1 => do
    let f ← rest.fields? .aside ["source", "key"]
    some (.subjectIsOwner (← f.defaulted 0 source .resource) (← f.defaulted 1 key "owner"))
  | _ => do
    let f ← rest.fields? .aside ["roles"]
    some (.rolesAll (← f.required 0 (textSet? .aside)))

/-- A condition: the entry with its name, and the predicate in the others. -/
def Condition.ofValue? (r : Reading) (v : Value) : Option Condition := do
  let entries ← v.entries? r
  let isName (e : Value × Value) : Bool := (e.1.text? r).any (· = "name")
  match entries.filter isName with
  | [e] => do
    let name ← e.2.text? r
    some ⟨name, ← Predicate.ofEntries? (entries.filter fun e => !isName e)⟩
  | _ => none

def effectNames : List (String × Effect) := [("allow", .allow), ("deny", .deny)]

def ofValue? (r : Reading) (v : Value) : Option Policy := do
  let f ← v.fields? r
    ["id", "description", "effect", "priority", "subjects", "resources", "actions", "conditions"]
  let list {α : Type} (n : Nat) (read : Value → Option α) : Option (List α) :=
    f.defaulted n (fun v => (v.items? r).bind fun items => items.mapM read) []
  let id ← f.required 0 (Value.text? r)
  let description ← f.defaulted 1 (fun v => Value.optional (Value.text? r) (some v)) none
  let effect ← f.required 2 (Value.variant? r effectNames)
  let priority ← f.defaulted 3 (Value.int? r (-Nat.pow 2 31) (Nat.pow 2 31 - 1)) 0
  let subjects ← list 4 (SubjectMatcher.ofValue? r)
  let resources ← list 5 (ResourceMatcher.ofValue? r)
  let actions ← list 6 (ActionMatcher.ofValue? r)
  let conditions ← list 7 (Condition.ofValue? r)
  some { id, description, effect, priority, subjects, resources, actions, conditions }

def listOfValues? (items : List Value) : Option (List Policy) := items.mapM (ofValue? .loose)

/-- The policies of untyped values, which have to be valid and have different ids. -/
def ofValues (items : List Value) : Except Error (List Policy) := do
  let some ps := listOfValues? items | throw .malformed
  validateAll [] ps
  pure ps

/-- The policies of a text: a list, or a record with a field `policies`. -/
def ofYaml (text : String) : Except Error (List Policy) := do
  let some v := Yaml.parse text | throw .malformed
  let read : Option (List Policy) :=
    match v with
    | .null => some []
    | .list items => listOfValues? items
    | v => do
      let f ← v.fields? .loose ["policies"]
      f.defaulted 0 (fun v => (v.items? .loose).bind listOfValues?) []
  let some ps := read | throw .malformed
  validateAll [] ps
  pure ps

end Policy

namespace Access
open Policy (textSet?)

def attributes? (r : Reading) (v : Value) : Option Attributes := v.textMap? r Value.json?

def Subject.ofValue? (r : Reading) (v : Value) : Option Subject := do
  let f ← v.fields? r ["id", "roles", "attributes"]
  let id ← f.required 0 (Value.text? r)
  let roles ← f.defaulted 1 (textSet? r) []
  let attributes ← f.defaulted 2 (attributes? r) []
  some { id, roles, attributes }

def Resource.ofValue? (r : Reading) (v : Value) : Option Resource := do
  let f ← v.fields? r ["id", "type", "attributes"]
  let id ← f.required 0 (Value.text? r)
  let type ← f.required 1 (Value.text? r)
  let attributes ← f.defaulted 2 (attributes? r) []
  some { id, type, attributes }

def Request.ofValue? (r : Reading) (v : Value) : Option Request := do
  let f ← v.fields? r ["subject", "action", "resource", "context"]
  let subject ← f.required 0 (Subject.ofValue? r)
  let action ← f.required 1 (Value.text? r)
  let resource ← f.required 2 (Resource.ofValue? r)
  let context ← f.defaulted 3 (attributes? r) []
  some { subject, action, resource, context }

end Access
end Gatehouse
