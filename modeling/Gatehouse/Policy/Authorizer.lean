import Gatehouse.Policy

/-!
Sets of policies and the decisions they make. A denying policy that applies overrides every allowing one,
and a request that no policy speaks about is denied; priorities say only which policy is named.
-/
namespace Gatehouse

namespace Policy

inductive Error where
  | duplicate (id : String)
  | notFound (id : String)
  | invalid (id : String) (fault : Fault)
  | pattern (text : String)
  /-- A text is no YAML, or a value is no policy. -/
  | malformed
  /-- A file cannot be read. -/
  | unreadable
  deriving DecidableEq, Repr

/-- The text of an error, where it has one of its own. -/
def Error.message? : Error → Option String
  | duplicate id => some ("policy already exists: " ++ id)
  | notFound id => some ("policy not found: " ++ id)
  | invalid id fault => some ("invalid policy '" ++ id ++ "': " ++ fault.message)
  | pattern _ => none
  | malformed => none
  | unreadable => none

def validate (p : Policy) : Except Error Unit :=
  match p.fault? with
  | some f => .error (.invalid p.id f)
  | none => .ok ()

/-- Checks policies in order: each has to be valid and its id new. -/
def validateAll (seen : List String) : List Policy → Except Error Unit
  | [] => .ok ()
  | p :: ps => do
    p.validate
    if seen.contains p.id then .error (.duplicate p.id) else validateAll (p.id :: seen) ps

end Policy

/-- Policies in the order of evaluation. -/
structure Authorizer where
  policies : List Policy := []

namespace Authorizer

def ofPolicies (ps : List Policy) : Authorizer := ⟨ps.mergeSort Policy.before⟩

def get? (a : Authorizer) (id : String) : Option Policy := a.policies.find? (·.id = id)

def contains (a : Authorizer) (id : String) : Bool := a.policies.any (·.id = id)

def add (a : Authorizer) (p : Policy) : Except Policy.Error Authorizer := do
  p.validate
  if a.contains p.id then .error (.duplicate p.id) else .ok (ofPolicies (a.policies ++ [p]))

/-- Puts a policy under its id and returns the one that was there. -/
def update (a : Authorizer) (p : Policy) : Except Policy.Error (Option Policy × Authorizer) := do
  p.validate
  .ok (a.get? p.id, ofPolicies (a.policies.eraseP (·.id = p.id) ++ [p]))

def remove (a : Authorizer) (id : String) : Except Policy.Error (Policy × Authorizer) :=
  match a.get? id with
  | none => .error (.notFound id)
  | some p => .ok (p, ofPolicies (a.policies.eraseP (·.id = id)))

/-- An authorizer with exactly the policies given, all of them valid and with different ids. -/
def replace (ps : List Policy) : Except Policy.Error Authorizer := do
  Policy.validateAll [] ps
  .ok (ofPolicies ps)

/-- Goes through policies in order; `allowed` is the first allowing one that applied so far. -/
def settle (r : Access.Request) (allowed : Option String) : List Policy → Access.Decision
  | [] =>
    match allowed with
    | some id => .allowedBy id
    | none => .noMatch
  | p :: ps =>
    if p.applies r then
      match p.effect with
      | .deny => .deniedBy p.id
      | .allow => settle r (allowed.or (some p.id)) ps
    else settle r allowed ps

def authorize (a : Authorizer) (r : Access.Request) : Access.Decision := settle r none a.policies

end Authorizer
end Gatehouse
