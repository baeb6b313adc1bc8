import Gatehouse.Access
import Gatehouse.Pattern

/-!
Matchers that select subjects, resources and actions. A matcher without any criterion selects nothing;
whoever wants everything says so by an asterisk.
-/
namespace Gatehouse.Policy

def wildcard : String := "*"

inductive AttributeTest where
  | equals (value : Json)
  | oneOf (values : List Json)
  /-- The attribute is there, whatever its value. -/
  | present
  /-- The attribute is a text that fits the pattern. -/
  | fits (pattern : Pattern)
  deriving Repr, Inhabited

namespace AttributeTest

/-- A missing attribute fails every test. -/
def holds (t : AttributeTest) : Option Json → Bool
  | none => false
  | some v =>
    match t with
    | equals w => v.equal w
    | oneOf ws => ws.any v.equal
    | present => true
    | fits p => v.text?.any p.isMatch

def same : AttributeTest → AttributeTest → Bool
  | equals a, equals b => a.equal b
  | oneOf as, oneOf bs => Json.equalItems as bs
  | present, present => true
  | fits p, fits q => p == q
  | _, _ => false

end AttributeTest

/-- Tests under the keys of the attributes they look at, in increasing order. -/
abbrev AttributeTests := List (String × AttributeTest)

def AttributeTests.hold (ts : AttributeTests) (attributes : Attributes) : Bool :=
  ts.all fun t => t.2.holds (attributes.lookup t.1)

def AttributeTests.same : AttributeTests → AttributeTests → Bool
  | [], [] => true
  | (k, t) :: ts, (l, u) :: us => k == l && t.same u && same ts us
  | _, _ => false

structure SubjectMatcher where
  id : Option String := none
  roles : List String := []
  attributes : AttributeTests := []
  deriving Repr, Inhabited

namespace SubjectMatcher

def any : SubjectMatcher := { id := some wildcard }

def isEmpty (m : SubjectMatcher) : Bool := m.id.isNone && m.roles.isEmpty && m.attributes.isEmpty

/-- Whether the subject is named by its id or holds one of the roles. If neither an id nor a role is
given, every subject is. -/
def identifies (m : SubjectMatcher) (s : Access.Subject) : Bool :=
  (m.id.isNone && m.roles.isEmpty) ||
    m.id.any (fun id => id = wildcard || id = s.id) || m.roles.any s.roles.contains

def selects (m : SubjectMatcher) (s : Access.Subject) : Bool :=
  !m.isEmpty && m.identifies s && AttributeTests.hold m.attributes s.attributes

def same (a b : SubjectMatcher) : Bool :=
  a.id == b.id && a.roles == b.roles && AttributeTests.same a.attributes b.attributes

end SubjectMatcher

/-- Whether an id fits: an asterisk fits all, a text that ends in a slash and an asterisk fits what lies
below that slash, any other text itself only. -/
def idFits (pattern id : String) : Bool :=
  if pattern = wildcard then true
  else
    match pattern.toList.reverse with
    | '*' :: '/' :: back =>
      let stem := ('/' :: back).reverse
      stem.isPrefixOf id.toList && stem.length < id.toList.length
    | _ => pattern = id

structure ResourceMatcher where
  id : Option String := none
  type : Option String := none
  attributes : AttributeTests := []
  deriving Repr, Inhabited

namespace ResourceMatcher

def any : ResourceMatcher := { id := some wildcard }

def isEmpty (m : ResourceMatcher) : Bool := m.id.isNone && m.type.isNone && m.attributes.isEmpty

/-- Every criterion that is given has to hold. -/
def selects (m : ResourceMatcher) (r : Access.Resource) : Bool :=
  !m.isEmpty && m.id.all (fun pattern => idFits pattern r.id) &&
    m.type.all (fun t => t = wildcard || t = r.type) && AttributeTests.hold m.attributes r.attributes

def same (a b : ResourceMatcher) : Bool :=
  a.id == b.id && a.type == b.type && AttributeTests.same a.attributes b.attributes

end ResourceMatcher

structure ActionMatcher where
  name : String
  deriving DecidableEq, Repr, Inhabited

def ActionMatcher.selects (m : ActionMatcher) (action : String) : Bool :=
  m.name ≠ "" && (m.name = wildcard || m.name = action)

end Gatehouse.Policy
