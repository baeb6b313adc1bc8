import Mathlib.Data.List.Nodup
import Gatehouse.Policy.Authorizer
import Gatehouse.Proofs.Except

/-!
Which policy decides a request. Whatever changes an authorizer went through, its policies are in the order of
evaluation and have different ids. So the first policy that denies the request decides if there is one, else the
first one that allows it; the order in which policies were added does not matter, and priorities only for the
policy that is named.
-/
namespace Gatehouse
open Policy (Effect)

namespace Policy

/-- A matcher of each kind selects the request, and every condition evaluates to true. -/
structure AppliesTo (p : Policy) (r : Access.Request) : Prop where
  subject : ∃ m ∈ p.subjects, m.selects r.subject = true
  resource : ∃ m ∈ p.resources, m.selects r.resource = true
  action : ∃ m ∈ p.actions, m.selects r.action = true
  conditions : ∀ c ∈ p.conditions, c.evaluate r = .ok true

theorem failedCondition?_eq_none {r : Access.Request} {cs : List Condition} :
    failedCondition? r cs = none ↔ ∀ c ∈ cs, c.evaluate r = .ok true := by
  induction cs with
  | nil => exact iff_of_true rfl nofun
  | cons c rest ih =>
    rw [List.forall_mem_cons, failedCondition?]
    split
    next holds => exact ih.trans (and_iff_right holds).symm
    next fails => exact iff_of_false nofun fun all => by cases fails.symm.trans all.1
    next fails => exact iff_of_false nofun fun all => by cases fails.symm.trans all.1

theorem applies_iff {p : Policy} {r : Access.Request} : p.applies r = true ↔ p.AppliesTo r := by
  simp only [applies, targets, check, Bool.and_eq_true, List.any_eq_true, Option.isNone_iff_eq_none,
    failedCondition?_eq_none]
  exact ⟨fun ⟨⟨⟨s, o⟩, a⟩, c⟩ => ⟨s, o, a, c⟩, fun ⟨s, o, a, c⟩ => ⟨⟨⟨s, o⟩, a⟩, c⟩⟩

/-- The policy has the higher priority, or the same one and the smaller id. -/
def Leads (p q : Policy) : Prop := q.priority < p.priority ∨ p.priority = q.priority ∧ p.id < q.id

theorem before_iff {p q : Policy} :
    p.before q = true ↔ q.priority < p.priority ∨ p.priority = q.priority ∧ p.id ≤ q.id := by
  simp [before]

theorem before_trans (p q s : Policy) (first : p.before q = true) (second : q.before s = true) :
    p.before s = true := by
  rw [before_iff] at first second ⊢
  rcases first with above | ⟨level, ids⟩ <;> rcases second with above' | ⟨level', ids'⟩
  · exact .inl (Int.lt_trans above' above)
  · exact .inl (level' ▸ above)
  · exact .inl (level ▸ above')
  · exact .inr ⟨level.trans level', String.le_trans ids ids'⟩

theorem before_total (p q : Policy) : (p.before q || q.before p) = true := by
  rw [Bool.or_eq_true, before_iff, before_iff]
  rcases Int.lt_trichotomy p.priority q.priority with below | level | above
  · exact .inr (.inl below)
  · exact (String.le_total p.id q.id).imp (fun ids => .inr ⟨level, ids⟩) fun ids => .inr ⟨level.symm, ids⟩
  · exact .inl (.inl above)

theorem id_eq_of_before {p q : Policy} (first : p.before q = true) (second : q.before p = true) :
    p.id = q.id := by
  rw [before_iff] at first second
  rcases first with above | ⟨level, ids⟩ <;> rcases second with above' | ⟨level', ids'⟩
  · omega
  · omega
  · omega
  · exact String.le_antisymm ids ids'

theorem leads_of_before {p q : Policy} (first : p.before q = true) (other : p.id ≠ q.id) : p.Leads q := by
  rcases before_iff.mp first with above | ⟨level, ids⟩
  · exact .inl above
  · refine .inr ⟨level, ?_⟩
    apply Classical.byContradiction
    intro notLess
    exact other (String.le_antisymm ids (String.not_lt.mp notLess))

theorem nodup_of_validateAll {seen : List String} {ps : List Policy}
    (valid : validateAll seen ps = .ok ()) : (ps.map (·.id)).Nodup ∧ ∀ p ∈ ps, p.id ∉ seen := by
  induction ps generalizing seen with
  | nil => exact ⟨.nil, nofun⟩
  | cons p rest ih =>
    obtain ⟨_, -, others⟩ := bind_ok valid
    split at others
    · cases others
    next new =>
      obtain ⟨distinct, fresh⟩ := ih others
      refine ⟨List.nodup_cons.mpr ⟨fun repeated => ?_, distinct⟩, ?_⟩
      · obtain ⟨q, member, same⟩ := List.mem_map.mp repeated
        exact fresh q member (same ▸ List.mem_cons_self)
      · refine List.forall_mem_cons.mpr ⟨?_, fun q member seen' => fresh q member (List.mem_cons_of_mem _ seen')⟩
        simpa using new

end Policy

namespace Authorizer

/-- The policies are in the order of evaluation and have different ids. -/
structure Ordered (a : Authorizer) : Prop where
  sorted : a.policies.Pairwise fun p q => p.before q = true
  distinct : (a.policies.map (·.id)).Nodup

theorem ordered_ofPolicies {ps : List Policy} (distinct : (ps.map (·.id)).Nodup) :
    (ofPolicies ps).Ordered :=
  ⟨List.pairwise_mergeSort Policy.before_trans Policy.before_total ps,
    ((List.mergeSort_perm ps Policy.before).map _).nodup_iff.mpr distinct⟩

theorem Ordered.eq_of_perm {a b : Authorizer} (ordered : a.Ordered) (ordered' : b.Ordered)
    (same : a.policies.Perm b.policies) : a = b := by
  have equal : a.policies = b.policies := by
    refine same.eq_of_pairwise (fun p q member member' first second => ?_) ordered.sorted ordered'.sorted
    have ids := Policy.id_eq_of_before first second
    exact List.inj_on_of_nodup_map ordered.distinct member (same.mem_iff.mpr member') ids
  cases a
  cases b
  exact congrArg _ equal

inductive Change where
  | add (p : Policy)
  | update (p : Policy)
  | remove (id : String)
  | replace (ps : List Policy)

def change (a : Authorizer) : Change → Except Policy.Error Authorizer
  | .add p => a.add p
  | .update p => (a.update p).map Prod.snd
  | .remove id => (a.remove id).map Prod.snd
  | .replace ps => replace ps

/-- A change that is refused leaves the policies as they are. -/
def after (a : Authorizer) (c : Change) : Authorizer := (a.change c).toOption.getD a

def perform (cs : List Change) : Authorizer := cs.foldl after {}

theorem add_ok {a b : Authorizer} {p : Policy} (added : a.add p = .ok b) :
    p.validate = .ok () ∧ a.contains p.id = false ∧ b = ofPolicies (a.policies ++ [p]) := by
  obtain ⟨_, valid, rest⟩ := bind_ok added
  split at rest
  · cases rest
  next new => exact ⟨valid, Bool.not_eq_true _ ▸ new, (Except.ok.inj rest).symm⟩

theorem contains_eq_false {a : Authorizer} {id : String} :
    a.contains id = false ↔ id ∉ a.policies.map (·.id) := by
  simp [contains, List.any_eq_false]

theorem not_mem_eraseP {ps : List Policy} (distinct : (ps.map (·.id)).Nodup) (id : String) :
    id ∉ (ps.eraseP (·.id = id)).map (·.id) := by
  induction ps with
  | nil => exact List.not_mem_nil
  | cons p rest ih =>
    obtain ⟨new, others⟩ := List.nodup_cons.mp distinct
    by_cases own : p.id = id
    · rw [List.eraseP_cons_of_pos (by simpa using own)]
      exact own ▸ new
    · rw [List.eraseP_cons_of_neg (by simpa using own), List.map_cons, List.mem_cons, not_or]
      exact ⟨fun same => own same.symm, ih others⟩

theorem Ordered.change {a b : Authorizer} (ordered : a.Ordered) {c : Change} (done : a.change c = .ok b) :
    b.Ordered := by
  have kept (id : String) : ((a.policies.eraseP (·.id = id)).map (·.id)).Nodup :=
    ordered.distinct.sublist (List.eraseP_sublist.map _)
  have appended {ps : List Policy} {p : Policy} (distinct : (ps.map (·.id)).Nodup)
      (new : p.id ∉ ps.map (·.id)) : ((ps ++ [p]).map (·.id)).Nodup := by
    rw [List.map_append, List.map_singleton]
    exact List.nodup_append'.mpr ⟨distinct, List.nodup_singleton _, List.disjoint_singleton.mpr new⟩
  cases c with
  | add p =>
    obtain ⟨-, new, rfl⟩ := add_ok done
    exact ordered_ofPolicies (appended ordered.distinct (contains_eq_false.mp new))
  | update p =>
    obtain ⟨_, updated, rfl⟩ := map_ok done
    obtain ⟨_, -, rest⟩ := bind_ok updated
    cases rest
    exact ordered_ofPolicies (appended (kept p.id) (not_mem_eraseP ordered.distinct p.id))
  | remove id =>
    obtain ⟨_, removed, rfl⟩ := map_ok done
    unfold remove at removed
    split at removed
    · cases removed
    · cases removed
      exact ordered_ofPolicies (kept id)
  | replace ps =>
    obtain ⟨_, valid, rest⟩ := bind_ok done
    cases rest
    exact ordered_ofPolicies (Policy.nodup_of_validateAll valid).1

theorem Ordered.after {a : Authorizer} (ordered : a.Ordered) (c : Change) : (a.after c).Ordered := by
  unfold Authorizer.after
  cases done : a.change c with
  | error e => exact ordered
  | ok b => exact ordered.change done

theorem Ordered.foldl {a : Authorizer} (ordered : a.Ordered) (cs : List Change) :
    (cs.foldl Authorizer.after a).Ordered := by
  induction cs generalizing a with
  | nil => exact ordered
  | cons c rest ih => exact ih (ordered.after c)

/-- Policies are in order after any changes. -/
theorem ordered_perform (cs : List Change) : (perform cs).Ordered :=
  .foldl ⟨.nil, .nil⟩ cs

def speaks (r : Access.Request) (effect : Effect) (p : Policy) : Bool := p.effect = effect && p.applies r

theorem speaks_iff {r : Access.Request} {effect : Effect} {p : Policy} :
    speaks r effect p = true ↔ p.effect = effect ∧ p.AppliesTo r := by
  rw [speaks, Bool.and_eq_true, decide_eq_true_eq, Policy.applies_iff]

/-- The decision by the ids of a denying and an allowing policy, if there are such. -/
def decision : Option String → Option String → Access.Decision
  | some denying, _ => .deniedBy denying
  | none, some allowing => .allowedBy allowing
  | none, none => .noMatch

theorem settle_eq (r : Access.Request) (allowed : Option String) (ps : List Policy) :
    settle r allowed ps = decision ((ps.find? (speaks r .deny)).map (·.id))
      (allowed.or ((ps.find? (speaks r .allow)).map (·.id))) := by
  induction ps generalizing allowed with
  | nil => cases allowed <;> rfl
  | cons p rest ih =>
    simp only [settle, List.find?_cons, speaks]
    cases p.applies r with
    | false => simpa using ih allowed
    | true =>
      cases p.effect with
      | deny => rfl
      | allow => cases allowed <;> exact (ih _).trans rfl

section
variable (a : Authorizer) (r : Access.Request)

def Spoken (effect : Effect) : Prop := ∃ p ∈ a.policies, p.effect = effect ∧ p.AppliesTo r

structure First (effect : Effect) (p : Policy) : Prop where
  member : p ∈ a.policies
  own : p.effect = effect
  applies : p.AppliesTo r
  leads : ∀ q ∈ a.policies, q.effect = effect → q.AppliesTo r → q = p ∨ p.Leads q

variable {a r}

theorem first_of_find? {effect : Effect} {p : Policy} (ordered : a.Ordered)
    (found : a.policies.find? (speaks r effect) = some p) : First a r effect p := by
  obtain ⟨speaks', front, back, split, silent⟩ := List.find?_eq_some_iff_append.mp found
  obtain ⟨own, applies⟩ := speaks_iff.mp speaks'
  refine ⟨List.mem_of_find?_eq_some found, own, applies, fun q member own' applies' => ?_⟩
  have distinct := ordered.distinct
  have sorted := ordered.sorted
  rw [split] at member distinct sorted
  rcases List.mem_append.mp member with early | late
  · exact absurd (speaks_iff.mpr ⟨own', applies'⟩) (by simpa using silent q early)
  · refine (List.mem_cons.mp late).imp_right fun behind => ?_
    have first := List.rel_of_pairwise_cons (List.pairwise_append.mp sorted).2.1 behind
    refine Policy.leads_of_before first fun same => ?_
    have others := (List.nodup_cons.mp (List.nodup_append'.mp (List.map_append ▸ distinct)).2.1).1
    exact others (List.mem_map.mpr ⟨q, behind, same.symm⟩)

theorem exists_find? {effect : Effect} (spoken : Spoken a r effect) :
    ∃ p, a.policies.find? (speaks r effect) = some p := by
  obtain ⟨p, member, speaks'⟩ := spoken
  exact Option.isSome_iff_exists.mp (List.find?_isSome.mpr ⟨p, member, speaks_iff.mpr speaks'⟩)

theorem find?_eq_none {effect : Effect} (silent : ¬ Spoken a r effect) :
    a.policies.find? (speaks r effect) = none :=
  List.find?_eq_none.mpr fun p member speaks' => silent ⟨p, member, speaks_iff.mp speaks'⟩

/-- If any policy denies the request, the first one that does decides; else, if any allows it, the first one of
these does; else there is no match. -/
theorem authorize_spec (ordered : a.Ordered) (r : Access.Request) :
    (Spoken a r .deny → ∃ p, First a r .deny p ∧ a.authorize r = .deniedBy p.id) ∧
    (¬ Spoken a r .deny → Spoken a r .allow → ∃ p, First a r .allow p ∧ a.authorize r = .allowedBy p.id) ∧
    (¬ Spoken a r .deny → ¬ Spoken a r .allow → a.authorize r = .noMatch) := by
  unfold authorize
  rw [settle_eq, Option.none_or]
  refine ⟨fun denied => ?_, fun undenied allowed => ?_, fun undenied unallowed => ?_⟩
  · obtain ⟨p, found⟩ := exists_find? denied
    exact ⟨p, first_of_find? ordered found, by rw [found]; rfl⟩
  · obtain ⟨p, found⟩ := exists_find? allowed
    exact ⟨p, first_of_find? ordered found, by rw [find?_eq_none undenied, found]; rfl⟩
  · rw [find?_eq_none undenied, find?_eq_none unallowed]
    rfl

theorem allowed_iff (ordered : a.Ordered) :
    (a.authorize r).allowed = true ↔ Spoken a r .allow ∧ ¬ Spoken a r .deny := by
  obtain ⟨denial, allowance, silence⟩ := authorize_spec ordered r
  by_cases denied : Spoken a r .deny
  · obtain ⟨p, -, decided⟩ := denial denied
    exact iff_of_false (by rw [decided]; exact Bool.false_ne_true) fun both => both.2 denied
  · by_cases allowed : Spoken a r .allow
    · obtain ⟨p, -, decided⟩ := allowance denied allowed
      exact iff_of_true (by rw [decided]; rfl) ⟨allowed, denied⟩
    · exact iff_of_false (by rw [silence denied allowed]; exact Bool.false_ne_true) fun both => allowed both.1

def unranked (p : Policy) : Policy := { p with priority := 0 }

theorem spoken_iff_unranked {effect : Effect} :
    Spoken a r effect ↔ ∃ p ∈ a.policies.map unranked, p.effect = effect ∧ p.AppliesTo r := by
  constructor
  · rintro ⟨p, member, own, ⟨s, o, act, c⟩⟩
    exact ⟨unranked p, List.mem_map_of_mem member, own, ⟨s, o, act, c⟩⟩
  · rintro ⟨_, member, own, ⟨s, o, act, c⟩⟩
    obtain ⟨p, member', rfl⟩ := List.mem_map.mp member
    exact ⟨p, member', own, ⟨s, o, act, c⟩⟩

end

theorem added_perm (a : Authorizer) (p : Policy) (ps : List Policy) :
    ((ofPolicies (a.policies ++ [p])).policies ++ ps).Perm (a.policies ++ p :: ps) := by
  rw [List.append_cons a.policies p ps]
  exact (List.mergeSort_perm ..).append_right ps

theorem addAll_ok {a b : Authorizer} (ordered : a.Ordered) {ps : List Policy} (added : ps.foldlM add a = .ok b) :
    b.Ordered ∧ b.policies.Perm (a.policies ++ ps) ∧ ∀ p ∈ ps, p.validate = .ok () := by
  induction ps generalizing a with
  | nil =>
    cases added
    exact ⟨ordered, by rw [List.append_nil], nofun⟩
  | cons p rest ih =>
    obtain ⟨c, first, others⟩ := bind_ok added
    obtain ⟨ordered', same, valid⟩ := ih (ordered.change (c := .add p) first) others
    obtain ⟨valid', -, rfl⟩ := add_ok first
    exact ⟨ordered', same.trans (added_perm a p rest), List.forall_mem_cons.mpr ⟨valid', valid⟩⟩

theorem exists_addAll {a : Authorizer} {ps : List Policy} (valid : ∀ p ∈ ps, p.validate = .ok ())
    (distinct : ((a.policies ++ ps).map (·.id)).Nodup) : ∃ b, ps.foldlM add a = .ok b := by
  induction ps generalizing a with
  | nil => exact ⟨a, rfl⟩
  | cons p rest ih =>
    obtain ⟨valid', others⟩ := List.forall_mem_cons.mp valid
    have new : a.contains p.id = false := by
      rw [contains_eq_false]
      rw [List.map_append] at distinct
      exact fun old => (List.nodup_append'.mp distinct).2.2 old List.mem_cons_self
    have first : a.add p = .ok (ofPolicies (a.policies ++ [p])) := by
      unfold add
      rw [valid', new]
      rfl
    obtain ⟨b, added⟩ := ih others (((added_perm a p rest).map _).nodup_iff.mpr distinct)
    exact ⟨b, by rw [List.foldlM_cons, first]; exact added⟩

/-- Policies that can be added in one order can be added in every order, to the same end. -/
theorem addAll_perm {a b : Authorizer} (ordered : a.Ordered) {ps qs : List Policy} (same : ps.Perm qs)
    (added : ps.foldlM add a = .ok b) : qs.foldlM add a = .ok b := by
  obtain ⟨ordered', all, valid⟩ := addAll_ok ordered added
  have all' : b.policies.Perm (a.policies ++ qs) := all.trans (same.append_left _)
  obtain ⟨c, added'⟩ := exists_addAll (fun q member => valid q (same.mem_iff.mpr member))
    ((all'.map _).nodup_iff.mp ordered'.distinct)
  obtain ⟨ordered'', every, -⟩ := addAll_ok ordered added'
  rw [added', ordered''.eq_of_perm ordered' (every.trans all'.symm)]

/-- Denial overrides and is the default: whatever changes an authorizer went through, the first policy that denies
the request decides, else the first one that allows it, else none. So neither the order in which the same policies
were added nor the way they got there matters for the decision, nor do their priorities for what it is. -/
theorem denial_overrides (cs : List Change) (r : Access.Request) :
    let a := perform cs
    ((Spoken a r .deny → ∃ p, First a r .deny p ∧ a.authorize r = .deniedBy p.id) ∧
      (¬ Spoken a r .deny → Spoken a r .allow → ∃ p, First a r .allow p ∧ a.authorize r = .allowedBy p.id) ∧
      (¬ Spoken a r .deny → ¬ Spoken a r .allow → a.authorize r = .noMatch)) ∧
    (∀ (ps qs : List Policy) b, ps.Perm qs → ps.foldlM add a = .ok b → qs.foldlM add a = .ok b) ∧
    ∀ ds, let b := perform ds
      (a.policies.Perm b.policies → a.authorize r = b.authorize r) ∧
      ((a.policies.map unranked).Perm (b.policies.map unranked) →
        (a.authorize r).allowed = (b.authorize r).allowed) := by
  intro a
  have ordered := ordered_perform cs
  refine ⟨authorize_spec ordered r, fun ps qs b same added => addAll_perm ordered same added, fun ds => ?_⟩
  have ordered' := ordered_perform ds
  refine ⟨fun same => congrArg (authorize · r) (ordered.eq_of_perm ordered' same), fun same => ?_⟩
  have spoken (effect : Effect) : Spoken a r effect ↔ Spoken (perform ds) r effect := by
    simp only [spoken_iff_unranked, same.mem_iff]
  rw [Bool.eq_iff_iff, allowed_iff ordered, allowed_iff ordered', spoken, spoken]

/-- A denial overrides an allowing policy of a higher priority. -/
example :
    let reading : Policy :=
      { id := "allow-read", effect := .allow, priority := 100, subjects := [.any], resources := [.any],
        actions := [⟨"read"⟩] }
    let keeping : Policy :=
      { id := "deny-alice", effect := .deny, subjects := [{ id := some "alice" }],
        resources := [{ id := some "docs/*" }], actions := [⟨"*"⟩] }
    let decide (who : String) :=
      authorize ⟨[reading, keeping]⟩ ⟨{ id := who }, "read", { id := "docs/plan", type := "document" }, []⟩
    decide "alice" = .deniedBy "deny-alice" ∧ decide "bob" = .allowedBy "allow-read" := by
  decide

end Authorizer
end Gatehouse
