import Gatehouse.Proofs.Json.Equality
import Gatehouse.Proofs.Policy.Decision
import Gatehouse.Proofs.Policy.Printing

/-!
What a decision depends on. Without conditions that live in the program a policy asks for roles and never for their
absence, so further roles never keep it from applying. Beside the roles it looks at the names in the request and at
the attributes that it mentions, and requests that agree in these are decided alike.
-/
namespace Gatehouse
open Policy (Effect)

def Access.Request.withRoles (r : Access.Request) (roles : List String) : Access.Request :=
  { r with subject := { r.subject with roles } }

namespace Policy

/-- No condition lives in the program. -/
def IsWritten (p : Policy) : Prop := ∀ c ∈ p.conditions, c.isCustom = false

@[simp] theorem Source.attributes_withRoles (s : Source) (r : Access.Request) (roles : List String) :
    s.attributes (r.withRoles roles) = s.attributes r := by
  cases s <;> rfl

section Roles
variable {r : Access.Request} {roles : List String} (more : ∀ role ∈ r.subject.roles, role ∈ roles)
include more

theorem SubjectMatcher.selects_withRoles {m : SubjectMatcher} (selects : m.selects r.subject = true) :
    m.selects (r.withRoles roles).subject = true := by
  simp only [SubjectMatcher.selects, SubjectMatcher.identifies, Bool.and_eq_true, Bool.or_eq_true, List.any_eq_true,
    List.contains_iff_mem] at selects ⊢
  obtain ⟨⟨given, identified⟩, attributes⟩ := selects
  refine ⟨⟨given, ?_⟩, attributes⟩
  rcases identified with named | ⟨role, listed, held⟩
  · exact .inl named
  · exact .inr ⟨role, listed, more role held⟩

theorem Condition.evaluate_withRoles {c : Condition} (written : c.isCustom = false) (holds : c.evaluate r = .ok true) :
    c.evaluate (r.withRoles roles) = .ok true := by
  obtain ⟨name, predicate⟩ := c
  cases predicate with
  | onAttribute source key test => simpa [evaluate] using holds
  | subjectIsOwner source key =>
    simp only [evaluate, Source.attributes_withRoles] at holds ⊢
    exact holds
  | rolesAll listed =>
    simp only [evaluate, Except.ok.injEq, List.all_eq_true, List.contains_iff_mem] at holds ⊢
    intro role asked
    exact more role (holds role asked)
  | custom f => simp [isCustom] at written

/-- Further roles never keep a policy from applying. -/
theorem AppliesTo.withRoles {p : Policy} (applies : p.AppliesTo r) (written : p.IsWritten) :
    p.AppliesTo (r.withRoles roles) where
  subject := by
    obtain ⟨m, listed, selects⟩ := applies.subject
    exact ⟨m, listed, m.selects_withRoles more selects⟩
  resource := applies.resource
  action := applies.action
  conditions c listed := c.evaluate_withRoles more (written c listed) (applies.conditions c listed)

end Roles

/-- The attribute is missing in both bags, or has equal values in them. -/
def Agree (key : String) (a b : Attributes) : Prop :=
  Option.Rel (fun v w => v.equal w = true) (a.lookup key) (b.lookup key)

def Predicate.attribute? : Predicate → Option (Source × String)
  | .onAttribute source key _ => some (source, key)
  | .subjectIsOwner source key => some (source, key)
  | .rolesAll _ => none
  | .custom _ => none

/-- The attributes that a policy looks at, with the bags in which it looks for them. -/
def mentioned (p : Policy) : List (Source × String) :=
  p.subjects.flatMap (fun m => m.attributes.map fun t => (.subject, t.1)) ++
    p.resources.flatMap (fun m => m.attributes.map fun t => (.resource, t.1)) ++
    p.conditions.filterMap fun c => c.predicate.attribute?

section Mentioned
variable {p : Policy} {test : String × AttributeTest}

theorem mentioned_of_subject {m : SubjectMatcher} (own : m ∈ p.subjects) (tested : test ∈ m.attributes) :
    (.subject, test.1) ∈ p.mentioned := by
  apply List.mem_append_left
  apply List.mem_append_left
  exact List.mem_flatMap.mpr ⟨m, own, List.mem_map.mpr ⟨test, tested, rfl⟩⟩

theorem mentioned_of_resource {m : ResourceMatcher} (own : m ∈ p.resources) (tested : test ∈ m.attributes) :
    (.resource, test.1) ∈ p.mentioned := by
  apply List.mem_append_left
  apply List.mem_append_right
  exact List.mem_flatMap.mpr ⟨m, own, List.mem_map.mpr ⟨test, tested, rfl⟩⟩

theorem mentioned_of_condition {c : Condition} (own : c ∈ p.conditions) {q : Source × String}
    (looks : c.predicate.attribute? = some q) : q ∈ p.mentioned := by
  apply List.mem_append_right
  exact List.mem_filterMap.mpr ⟨c, own, looks⟩

end Mentioned

/-- Two requests that differ in attributes only, and in none that one of the policies mentions. -/
structure Indistinct (ps : List Policy) (r s : Access.Request) : Prop where
  subject : r.subject.id = s.subject.id
  roles : r.subject.roles = s.subject.roles
  action : r.action = s.action
  resource : r.resource.id = s.resource.id
  type : r.resource.type = s.resource.type
  attributes : ∀ p ∈ ps, ∀ q ∈ p.mentioned, Agree q.2 (q.1.attributes r) (q.1.attributes s)

theorem AttributeTest.holds_congr (t : AttributeTest) {v w : Option Json}
    (same : Option.Rel (fun v w => v.equal w = true) v w) : t.holds v = t.holds w := by
  cases same with
  | none => rfl
  | @some v w same =>
    cases t with
    | equals x => exact Json.equal_congr same x
    | oneOf xs =>
      have alike : v.equal = w.equal := funext (Json.equal_congr same)
      simp only [holds, alike]
    | present => rfl
    | fits p => simp only [holds, Json.text?_of_equal same]

theorem AttributeTests.hold_congr {ts : AttributeTests} {a b : Attributes} (agree : ∀ t ∈ ts, Agree t.1 a b) :
    ts.hold a = ts.hold b := by
  rw [Bool.eq_iff_iff, hold, hold, List.all_eq_true, List.all_eq_true]
  apply forall₂_congr
  intro t listed
  rw [t.2.holds_congr (agree t listed)]

theorem any_congr_of_mem {α : Type} {l : List α} {f g : α → Bool} (same : ∀ x ∈ l, f x = g x) :
    l.any f = l.any g := by
  induction l with
  | nil => rfl
  | cons x rest ih =>
    obtain ⟨first, others⟩ := List.forall_mem_cons.mp same
    rw [List.any_cons, List.any_cons, first, ih others]

section Attributes
variable {ps : List Policy} {r s : Access.Request} {p : Policy}

theorem Indistinct.subjects (alike : Indistinct ps r s) (listed : p ∈ ps) {m : SubjectMatcher} (own : m ∈ p.subjects) :
    m.selects r.subject = m.selects s.subject := by
  have attributes : AttributeTests.hold m.attributes r.subject.attributes =
      AttributeTests.hold m.attributes s.subject.attributes := by
    apply AttributeTests.hold_congr
    intro t tested
    exact alike.attributes p listed _ (mentioned_of_subject own tested)
  simp only [SubjectMatcher.selects, SubjectMatcher.identifies, alike.subject, alike.roles, attributes]

theorem Indistinct.resources (alike : Indistinct ps r s) (listed : p ∈ ps) {m : ResourceMatcher}
    (own : m ∈ p.resources) : m.selects r.resource = m.selects s.resource := by
  have attributes : AttributeTests.hold m.attributes r.resource.attributes =
      AttributeTests.hold m.attributes s.resource.attributes := by
    apply AttributeTests.hold_congr
    intro t tested
    exact alike.attributes p listed _ (mentioned_of_resource own tested)
  simp only [ResourceMatcher.selects, alike.resource, alike.type, attributes]

theorem Indistinct.targets (alike : Indistinct ps r s) (listed : p ∈ ps) : p.targets r = p.targets s := by
  simp only [Policy.targets, alike.action, any_congr_of_mem fun m own => alike.subjects listed own,
    any_congr_of_mem fun m own => alike.resources listed own]

/-- Neither the outcome of a condition nor the reason why it could not be evaluated differs. -/
theorem Indistinct.evaluate (alike : Indistinct ps r s) (listed : p ∈ ps) {c : Condition} (own : c ∈ p.conditions)
    (written : c.isCustom = false) : c.evaluate r = c.evaluate s := by
  have seen (q : Source × String) (looks : c.predicate.attribute? = some q) :
      Agree q.2 (q.1.attributes r) (q.1.attributes s) :=
    alike.attributes p listed q (mentioned_of_condition own looks)
  obtain ⟨name, predicate⟩ := c
  cases predicate with
  | onAttribute source key test =>
    simp only [Condition.evaluate, test.holds_congr (seen (source, key) rfl)]
  | subjectIsOwner source key =>
    have agree := seen (source, key) rfl
    simp only [Agree] at agree
    simp only [Condition.evaluate, alike.subject]
    generalize (source.attributes r).lookup key = v at agree ⊢
    generalize (source.attributes s).lookup key = w at agree ⊢
    cases agree with
    | none => rfl
    | @some v w same =>
      -- A value that is no text is an error, and no text is equal to such a value.
      have texts := Json.text?_of_equal same
      cases v <;> cases w <;> simp_all [Json.text?]
  | rolesAll listed => simp only [Condition.evaluate, alike.roles]
  | custom f => simp [Condition.isCustom] at written

theorem failedCondition?_congr {cs : List Condition} (same : ∀ c ∈ cs, c.evaluate r = c.evaluate s) :
    failedCondition? r cs = failedCondition? s cs := by
  induction cs with
  | nil => rfl
  | cons c rest ih =>
    obtain ⟨first, others⟩ := List.forall_mem_cons.mp same
    simp only [failedCondition?, first, ih others]

theorem Indistinct.check (alike : Indistinct ps r s) (listed : p ∈ ps) (written : p.IsWritten) :
    p.check r = p.check s := by
  apply failedCondition?_congr
  intro c own
  exact alike.evaluate listed own (written c own)

end Attributes
end Policy

namespace Authorizer
variable {a : Authorizer}

/-- In whatever order the policies are, a request is allowed if one of them allows it and none denies it. -/
theorem allowed_iff_spoken {r : Access.Request} :
    (a.authorize r).allowed = true ↔ Spoken a r .allow ∧ ¬ Spoken a r .deny := by
  rw [authorize, settle_eq, Option.none_or]
  by_cases denied : Spoken a r .deny
  · obtain ⟨p, found⟩ := exists_find? denied
    simp [found, decision, Access.Decision.allowed, denied]
  · rw [find?_eq_none denied]
    by_cases allowed : Spoken a r .allow
    · obtain ⟨p, found⟩ := exists_find? allowed
      simp [found, decision, Access.Decision.allowed, allowed, denied]
    · simp [find?_eq_none allowed, decision, Access.Decision.allowed, allowed]

theorem settle_congr {r s : Access.Request} {ps : List Policy} (same : ∀ p ∈ ps, p.applies r = p.applies s)
    (allowed : Option String) : settle r allowed ps = settle s allowed ps := by
  induction ps generalizing allowed with
  | nil => rfl
  | cons p rest ih =>
    obtain ⟨first, others⟩ := List.forall_mem_cons.mp same
    simp only [settle, first, ih others]

/-- Roles never speak against a subject by themselves. A policy that applies still applies when the subject holds
further roles, so a request that is allowed stays allowed unless a policy now denies it that did not before. -/
theorem allowed_with_more_roles (r : Access.Request) (roles : List String)
    (more : ∀ role ∈ r.subject.roles, role ∈ roles) :
    (∀ p : Policy, p.IsWritten → p.applies r = true → p.applies (r.withRoles roles) = true) ∧
    ∀ a : Authorizer, (∀ p ∈ a.policies, p.IsWritten) → (a.authorize r).allowed = true →
      ((a.authorize (r.withRoles roles)).allowed = true ↔
        ∀ p ∈ a.policies, p.effect = .deny → p.applies (r.withRoles roles) = true → p.applies r = true) := by
  constructor
  · intro p written applies
    rw [Policy.applies_iff] at applies ⊢
    exact applies.withRoles more written
  · intro a written allowed
    obtain ⟨⟨p, listed, allows, applies⟩, undenied⟩ := allowed_iff_spoken.mp allowed
    have still : Spoken a (r.withRoles roles) .allow := ⟨p, listed, allows, applies.withRoles more (written p listed)⟩
    rw [allowed_iff_spoken]
    constructor
    · rintro ⟨-, spared⟩ q member denies applies'
      exact absurd ⟨q, member, denies, Policy.applies_iff.mp applies'⟩ spared
    · intro before
      refine ⟨still, ?_⟩
      rintro ⟨q, member, denies, applies'⟩
      have applied := before q member denies (Policy.applies_iff.mpr applies')
      exact undenied ⟨q, member, denies, Policy.applies_iff.mp applied⟩

namespace Staff

/-- Guests may do nothing, and trained staff may read documents. -/
def rules : Authorizer where
  policies :=
    [{ id := "no-guests", effect := .deny, subjects := [{ roles := ["guest"] }], resources := [.any],
       actions := [⟨"*"⟩] },
     { id := "staff-reads", effect := .allow, subjects := [{ id := some "root", roles := ["staff"] }],
       resources := [{ type := some "document" }], actions := [⟨"read"⟩],
       conditions := [.rolesAll "training" ["trained"]] }]

def reading (roles : List String) : Access.Request :=
  { subject := { id := "alice", roles }, action := "read", resource := { id := "d1", type := "document" } }

/-- Nobody loses the permission by becoming an administrator. -/
theorem allowed_as_admin :
    let r := reading ["staff", "trained"]
    let roles := ["admin", "staff", "trained"]
    (∀ role ∈ r.subject.roles, role ∈ roles) ∧ (rules.authorize r).allowed = true ∧
      (rules.authorize (r.withRoles roles)).allowed = true := by
  intro r roles
  have more : ∀ role ∈ r.subject.roles, role ∈ roles := by decide
  have allowed : (rules.authorize r).allowed = true := by decide
  have written : ∀ p ∈ rules.policies, p.IsWritten := by
    simp [rules, Policy.IsWritten, Policy.Condition.isCustom, Policy.Condition.rolesAll]
  refine ⟨more, allowed, ?_⟩
  exact ((allowed_with_more_roles r roles more).2 rules written allowed).mpr (by decide)

end Staff

/-- Of a request a decision depends on the id and the roles of the subject, the action, the id and the type of the
resource, and beyond these on the attributes that some policy mentions, each in the bag in which it is looked for.
Not even the reason why a policy does not apply depends on more. -/
theorem decided_by_mentioned (a : Authorizer) (written : ∀ p ∈ a.policies, p.IsWritten) (r s : Access.Request)
    (alike : Policy.Indistinct a.policies r s) :
    a.authorize r = a.authorize s ∧
      ∀ p ∈ a.policies, p.targets r = p.targets s ∧ p.check r = p.check s := by
  have parts (p : Policy) (listed : p ∈ a.policies) : p.targets r = p.targets s ∧ p.check r = p.check s :=
    ⟨alike.targets listed, alike.check listed (written p listed)⟩
  refine ⟨?_, parts⟩
  apply settle_congr
  intro p listed
  obtain ⟨targets, check⟩ := parts p listed
  rw [Policy.applies, Policy.applies, targets, check]

namespace Owned

/-- Owners may change what is theirs and weighs nothing. -/
def rules : Authorizer where
  policies :=
    [{ id := "own", effect := .allow, subjects := [.any], actions := [⟨"change"⟩],
       resources := [{ id := some "docs/*", attributes := [("weight", .equals (.float .zero))] }],
       conditions := [.subjectIsOwner "owner"] }]

def change (attributes context : Attributes) : Access.Request :=
  { subject := { id := "alice" }, action := "change", resource := { id := "docs/d1", type := "document", attributes },
    context }

/-- A zero weighs as little as the other zero, and nobody asks for the hour or for the name of the owner in the
context. -/
theorem decided_alike :
    let r := change [("owner", .text "alice"), ("weight", .float .zero)] [("hour", .int 9)]
    let s := change [("owner", .text "alice"), ("size", .int 1), ("weight", .float (.finite true 0 0))]
      [("owner", .text "bob")]
    Policy.Indistinct rules.policies r s ∧ rules.authorize r = rules.authorize s := by
  intro r s
  have written : ∀ p ∈ rules.policies, p.IsWritten := by
    simp [rules, Policy.IsWritten, Policy.Condition.isCustom, Policy.Condition.subjectIsOwner]
  have alike : Policy.Indistinct rules.policies r s := by
    refine ⟨rfl, rfl, rfl, rfl, rfl, ?_⟩
    intro p listed q mentioned
    obtain rfl := List.mem_singleton.mp listed
    have keys : q = (.resource, "weight") ∨ q = (.resource, "owner") := by
      simpa [Policy.mentioned, Policy.SubjectMatcher.any, Policy.Condition.subjectIsOwner,
        Policy.Predicate.attribute?] using mentioned
    rcases keys with rfl | rfl
    · exact .some (by decide)
    · exact .some (by decide)
  exact ⟨alike, (decided_by_mentioned rules written r s alike).1⟩

end Owned

end Authorizer
end Gatehouse
