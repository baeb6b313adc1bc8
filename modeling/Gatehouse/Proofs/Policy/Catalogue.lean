import Mathlib.Data.Finmap
import Gatehouse.Proofs.Policy.Decision

/-!
An authorizer as a map from ids to policies. Whatever changes it went through, it lists the policies of the map,
each once, all of them free of faults and in the order of evaluation; and what it refuses, and why, can be read off
the map. A change that is refused leaves map and list as they are.
-/
namespace Gatehouse
open Authorizer (Change perform)

namespace Policy

/-- A policy is refused behind others with these ids: it has a fault, or else an id that was given before. -/
inductive Flawed (given : List String) (p : Policy) : Error → Prop
  | faulty {f : Fault} (fault : p.fault? = some f) : Flawed given p (.invalid p.id f)
  | repeated (sound : p.fault? = none) (again : p.id ∈ given) : Flawed given p (.duplicate p.id)

theorem Flawed.congr {given given' : List String} {p : Policy} {e : Error} (flawed : Flawed given p e)
    (same : p.id ∈ given → p.id ∈ given') : Flawed given' p e := by
  cases flawed with
  | faulty fault => exact .faulty fault
  | repeated sound again => exact .repeated sound (same again)

/-- Policies without faults whose ids are different from each other and from others. -/
structure Sound (given : List String) (ps : List Policy) : Prop where
  faultless : ∀ p ∈ ps, p.fault? = none
  distinct : (ps.map (·.id)).Nodup
  new : ∀ p ∈ ps, p.id ∉ given

theorem Sound.nil (given : List String) : Sound given [] := ⟨nofun, .nil, nofun⟩

theorem sound_cons {given : List String} {p : Policy} {ps : List Policy} :
    Sound given (p :: ps) ↔ p.fault? = none ∧ p.id ∉ given ∧ Sound (p.id :: given) ps := by
  constructor
  · rintro ⟨faultless, distinct, new⟩
    obtain ⟨own, others⟩ := List.forall_mem_cons.mp faultless
    obtain ⟨apart, distinct⟩ := List.nodup_cons.mp distinct
    obtain ⟨fresh, new⟩ := List.forall_mem_cons.mp new
    refine ⟨own, fresh, others, distinct, fun q member => ?_⟩
    rw [List.mem_cons, not_or]
    exact ⟨fun same => apart (List.mem_map.mpr ⟨q, member, same⟩), new q member⟩
  · rintro ⟨own, fresh, faultless, distinct, new⟩
    refine ⟨List.forall_mem_cons.mpr ⟨own, faultless⟩, List.nodup_cons.mpr ⟨?_, distinct⟩,
      List.forall_mem_cons.mpr ⟨fresh, fun q member old => new q member (List.mem_cons_of_mem _ old)⟩⟩
    intro repeated
    obtain ⟨q, member, same⟩ := List.mem_map.mp repeated
    exact new q member (same ▸ List.mem_cons_self)

theorem validate_sound {p : Policy} (sound : p.fault? = none) : p.validate = .ok () := by
  rw [validate, sound]

theorem validate_faulty {p : Policy} {f : Fault} (fault : p.fault? = some f) :
    p.validate = .error (.invalid p.id f) := by
  rw [validate, fault]

theorem fault?_of_validate {p : Policy} (valid : p.validate = .ok ()) : p.fault? = none := by
  cases fault : p.fault? with
  | none => rfl
  | some f => cases (validate_faulty fault).symm.trans valid

abbrev taken (given : List String) (front : List Policy) : List String := given ++ front.map (·.id)

theorem Flawed.behind {given : List String} {front : List Policy} {p q : Policy} {e : Error} :
    Flawed (taken (p.id :: given) front) q e ↔ Flawed (taken given (p :: front)) q e := by
  constructor
  · exact fun flawed => flawed.congr fun again => by simpa [or_left_comm] using again
  · exact fun flawed => flawed.congr fun again => by simpa [or_left_comm] using again

theorem sound_or_flawed (given : List String) (ps : List Policy) :
    Sound given ps ∨
      ∃ front p back e, ps = front ++ p :: back ∧ Sound given front ∧ Flawed (taken given front) p e := by
  induction ps generalizing given with
  | nil => exact .inl (.nil given)
  | cons p rest ih =>
    cases fault : p.fault? with
    | some f => exact .inr ⟨[], p, rest, _, rfl, .nil given, .faulty fault⟩
    | none =>
      by_cases old : p.id ∈ given
      · exact .inr ⟨[], p, rest, _, rfl, .nil given, .repeated fault (List.mem_append_left _ old)⟩
      · rcases ih (p.id :: given) with sound | ⟨front, q, back, e, rfl, sound, flawed⟩
        · exact .inl (sound_cons.mpr ⟨fault, old, sound⟩)
        · exact .inr ⟨p :: front, q, back, e, rfl, sound_cons.mpr ⟨fault, old, sound⟩, Flawed.behind.mp flawed⟩

theorem validateAll_cons {given : List String} {p : Policy} (sound : p.fault? = none) (new : p.id ∉ given)
    (ps : List Policy) : validateAll given (p :: ps) = validateAll (p.id :: given) ps := by
  rw [validateAll, validate_sound sound]
  exact if_neg fun known => new (List.contains_iff_mem.mp known)

theorem validateAll_sound {given : List String} {ps : List Policy} (sound : Sound given ps) :
    validateAll given ps = .ok () := by
  induction ps generalizing given with
  | nil => rfl
  | cons p rest ih =>
    obtain ⟨own, new, sound⟩ := sound_cons.mp sound
    rw [validateAll_cons own new, ih sound]

theorem validateAll_flawed {given : List String} {front : List Policy} {p : Policy} {e : Error}
    (sound : Sound given front) (flawed : Flawed (taken given front) p e) (back : List Policy) :
    validateAll given (front ++ p :: back) = .error e := by
  induction front generalizing given with
  | nil =>
    rw [List.nil_append, validateAll]
    cases flawed with
    | faulty fault => rw [validate_faulty fault]; rfl
    | repeated own again =>
      rw [validate_sound own]
      exact if_pos (List.contains_iff_mem.mpr (by simpa using again))
  | cons q rest ih =>
    obtain ⟨own, new, sound⟩ := sound_cons.mp sound
    rw [List.cons_append, validateAll_cons own new, ih sound (Flawed.behind.mpr flawed)]

theorem sound_of_validateAll {given : List String} {ps : List Policy} (valid : validateAll given ps = .ok ()) :
    Sound given ps := by
  rcases sound_or_flawed given ps with sound | ⟨front, p, back, e, rfl, sound, flawed⟩
  · exact sound
  · cases valid.symm.trans (validateAll_flawed sound flawed back)

end Policy

abbrev Catalogue := Finmap fun _ : String => Policy

namespace Catalogue
open Policy (Error Fault Sound Flawed)

def ofPolicies (ps : List Policy) : Catalogue := (ps.map fun p => Sigma.mk p.id p).toFinmap

def put (m : Catalogue) : Change → Catalogue
  | .add p => m.insert p.id p
  | .update p => m.insert p.id p
  | .remove id => m.erase id
  | .replace ps => ofPolicies ps

/-- Which changes are refused, and for what. -/
inductive Refused (m : Catalogue) : Change → Error → Prop
  | addFaulty {p : Policy} {f : Fault} (fault : p.fault? = some f) : Refused m (.add p) (.invalid p.id f)
  | addKnown {p : Policy} (sound : p.fault? = none) (known : p.id ∈ m) : Refused m (.add p) (.duplicate p.id)
  | updateFaulty {p : Policy} {f : Fault} (fault : p.fault? = some f) : Refused m (.update p) (.invalid p.id f)
  | removeUnknown {id : String} (unknown : id ∉ m) : Refused m (.remove id) (.notFound id)
  | replaceFlawed {front : List Policy} {p : Policy} {e : Error} (sound : Sound [] front)
      (flawed : Flawed (front.map (·.id)) p e) (back : List Policy) :
      Refused m (.replace (front ++ p :: back)) e

/-- The map of an authorizer after changes. Those that it refuses do not count. -/
def trace (a : Authorizer) (m : Catalogue) : List Change → Catalogue
  | [] => m
  | c :: cs => trace (a.after c) (if (a.change c).isOk then m.put c else m) cs

/-- The authorizer lists the policies of the map. -/
structure Lists (a : Authorizer) (m : Catalogue) : Prop where
  ordered : a.Ordered
  faultless : ∀ p ∈ a.policies, p.fault? = none
  listed : ∀ id p, m.lookup id = some p ↔ p ∈ a.policies ∧ p.id = id

theorem lists_empty : Lists {} ∅ :=
  ⟨⟨.nil, .nil⟩, nofun, fun id p => by simp⟩

section
variable {a b : Authorizer} {m : Catalogue}

theorem Lists.mem_iff (lists : Lists a m) (id : String) : id ∈ m ↔ id ∈ a.policies.map (·.id) := by
  simp [Finmap.mem_iff, lists.listed]

theorem Lists.get?_eq (lists : Lists a m) (id : String) : a.get? id = m.lookup id := by
  apply Option.ext
  intro p
  rw [lists.listed]
  constructor
  · intro found
    exact ⟨List.mem_of_find?_eq_some found, by simpa using List.find?_some found⟩
  · rintro ⟨member, own⟩
    obtain ⟨q, found⟩ : ∃ q, a.get? id = some q :=
      Option.isSome_iff_exists.mp (List.find?_isSome.mpr ⟨p, member, decide_eq_true own⟩)
    have same : q.id = id := by simpa using List.find?_some found
    have equal := List.inj_on_of_nodup_map lists.ordered.distinct (List.mem_of_find?_eq_some found) member
      (same.trans own.symm)
    exact equal ▸ found

theorem Lists.length_eq (lists : Lists a m) : a.policies.length = m.keys.card := by
  have keys : m.keys = (a.policies.map (·.id)).toFinset := by
    ext id
    rw [Finmap.mem_keys, lists.mem_iff, List.mem_toFinset]
  rw [keys, List.toFinset_card_of_nodup lists.ordered.distinct, List.length_map]

theorem mem_ofPolicies {p : Policy} {ps : List Policy} : p ∈ (Authorizer.ofPolicies ps).policies ↔ p ∈ ps :=
  List.mem_mergeSort

theorem lookup_ofPolicies {ps : List Policy} (distinct : (ps.map (·.id)).Nodup) (id : String) (p : Policy) :
    (ofPolicies ps).lookup id = some p ↔ p ∈ ps ∧ p.id = id := by
  have keys : (ps.map fun p => (⟨p.id, p⟩ : Sigma fun _ : String => Policy)).NodupKeys := by
    rw [List.NodupKeys, List.keys, List.map_map]
    exact distinct
  rw [ofPolicies, Finmap.dlookup_list_toFinmap, ← Option.mem_def, List.mem_dlookup_iff keys, List.mem_map]
  constructor
  · rintro ⟨q, member, same⟩
    cases same
    exact ⟨member, rfl⟩
  · rintro ⟨member, rfl⟩
    exact ⟨p, member, rfl⟩

theorem mem_eraseP {ps : List Policy} (distinct : (ps.map (·.id)).Nodup) (id : String) (p : Policy) :
    p ∈ ps.eraseP (·.id = id) ↔ p ∈ ps ∧ p.id ≠ id := by
  constructor
  · intro member
    refine ⟨List.mem_of_mem_eraseP member, fun own => ?_⟩
    exact Authorizer.not_mem_eraseP distinct id (List.mem_map.mpr ⟨p, member, own⟩)
  · rintro ⟨member, other⟩
    exact (List.mem_eraseP_of_neg (by simpa using other)).mpr member

theorem Lists.insert (lists : Lists a m) (ordered : b.Ordered) {p : Policy} (sound : p.fault? = none)
    (member : ∀ q, q ∈ b.policies ↔ q = p ∨ q ∈ a.policies ∧ q.id ≠ p.id) : Lists b (m.insert p.id p) := by
  refine ⟨ordered, fun q listed => ?_, fun id q => ?_⟩
  · rcases (member q).mp listed with rfl | ⟨old, -⟩
    · exact sound
    · exact lists.faultless q old
  · rw [member]
    by_cases own : id = p.id
    · subst own
      rw [Finmap.lookup_insert, Option.some_inj]
      constructor
      · rintro rfl
        exact ⟨.inl rfl, rfl⟩
      · rintro ⟨rfl | ⟨-, other⟩, same⟩
        · rfl
        · exact absurd same other
    · rw [Finmap.lookup_insert_of_ne m own, lists.listed]
      constructor
      · rintro ⟨old, rfl⟩
        exact ⟨.inr ⟨old, own⟩, rfl⟩
      · rintro ⟨rfl | ⟨old, -⟩, same⟩
        · exact absurd same.symm own
        · exact ⟨old, same⟩

theorem Lists.erase (lists : Lists a m) (ordered : b.Ordered) {id : String}
    (member : ∀ q, q ∈ b.policies ↔ q ∈ a.policies ∧ q.id ≠ id) : Lists b (m.erase id) := by
  refine ⟨ordered, fun q listed => lists.faultless q ((member q).mp listed).1, fun other q => ?_⟩
  rw [member]
  by_cases own : other = id
  · subst own
    rw [Finmap.lookup_erase]
    simp
  · rw [Finmap.lookup_erase_ne own, lists.listed]
    constructor
    · rintro ⟨old, rfl⟩
      exact ⟨⟨old, own⟩, rfl⟩
    · rintro ⟨⟨old, -⟩, same⟩
      exact ⟨old, same⟩

theorem Lists.change (lists : Lists a m) {c : Change} (made : a.change c = .ok b) : Lists b (m.put c) := by
  have ordered := lists.ordered.change made
  have distinct := lists.ordered.distinct
  cases c with
  | add p =>
    obtain ⟨valid, unknown, rfl⟩ := Authorizer.add_ok made
    have new := Authorizer.contains_eq_false.mp unknown
    refine lists.insert ordered (Policy.fault?_of_validate valid) fun q => ?_
    rw [mem_ofPolicies, List.mem_append, List.mem_singleton, or_comm]
    exact or_congr_right (iff_self_and.mpr fun old same => new (List.mem_map.mpr ⟨q, old, same⟩))
  | update p =>
    obtain ⟨_, updated, rfl⟩ := map_ok made
    obtain ⟨_, valid, rest⟩ := bind_ok updated
    cases rest
    refine lists.insert ordered (Policy.fault?_of_validate valid) fun q => ?_
    rw [mem_ofPolicies, List.mem_append, List.mem_singleton, or_comm, mem_eraseP distinct]
  | remove id =>
    obtain ⟨_, removed, rfl⟩ := map_ok made
    unfold Authorizer.remove at removed
    split at removed
    · cases removed
    · cases removed
      exact lists.erase ordered fun q => by rw [mem_ofPolicies, mem_eraseP distinct]
  | replace ps =>
    obtain ⟨_, valid, rest⟩ := bind_ok made
    cases rest
    have sound := Policy.sound_of_validateAll valid
    refine ⟨ordered, fun q listed => sound.faultless q (mem_ofPolicies.mp listed), fun id q => ?_⟩
    rw [mem_ofPolicies]
    exact lookup_ofPolicies sound.distinct id q

theorem Lists.contains_iff (lists : Lists a m) (id : String) : a.contains id = true ↔ id ∈ m := by
  rw [lists.mem_iff, ← not_iff_not, Bool.not_eq_true]
  exact Authorizer.contains_eq_false

theorem Lists.change_refused (lists : Lists a m) {c : Change} {e : Error} (refused : Refused m c e) :
    a.change c = .error e := by
  cases refused with
  | addFaulty fault =>
    simp only [Authorizer.change, Authorizer.add, Policy.validate_faulty fault]
    rfl
  | addKnown sound known =>
    simp only [Authorizer.change, Authorizer.add, Policy.validate_sound sound]
    exact if_pos ((lists.contains_iff _).mpr known)
  | updateFaulty fault =>
    simp only [Authorizer.change, Authorizer.update, Policy.validate_faulty fault]
    rfl
  | removeUnknown unknown =>
    simp only [Authorizer.change, Authorizer.remove, lists.get?_eq, Finmap.lookup_eq_none.mpr unknown]
    rfl
  | replaceFlawed sound flawed back =>
    simp only [Authorizer.change, Authorizer.replace, Policy.validateAll_flawed sound flawed back]
    rfl

theorem Lists.change_made (lists : Lists a m) {c : Change} (unrefused : ∀ e, ¬ Refused m c e) :
    ∃ b, a.change c = .ok b := by
  have faultless {p : Policy} (refused : ∀ f, p.fault? = some f → ∃ e, Refused m c e) : p.fault? = none := by
    refine Option.eq_none_iff_forall_ne_some.mpr fun f fault => ?_
    obtain ⟨e, refused⟩ := refused f fault
    exact unrefused e refused
  cases c with
  | add p =>
    have sound := faultless fun f fault => ⟨_, .addFaulty fault⟩
    have new : ¬ a.contains p.id = true := fun known =>
      unrefused _ (.addKnown sound ((lists.contains_iff p.id).mp known))
    simp only [Authorizer.change, Authorizer.add, Policy.validate_sound sound]
    exact ⟨_, if_neg new⟩
  | update p =>
    have sound := faultless fun f fault => ⟨_, .updateFaulty fault⟩
    simp only [Authorizer.change, Authorizer.update, Policy.validate_sound sound]
    exact ⟨_, rfl⟩
  | remove id =>
    obtain ⟨p, known⟩ := Finmap.mem_iff.mp (not_not.mp fun unknown => unrefused _ (.removeUnknown unknown))
    simp only [Authorizer.change, Authorizer.remove, lists.get?_eq, known]
    exact ⟨_, rfl⟩
  | replace ps =>
    rcases Policy.sound_or_flawed [] ps with sound | ⟨front, p, back, e, rfl, sound, flawed⟩
    · simp only [Authorizer.change, Authorizer.replace, Policy.validateAll_sound sound]
      exact ⟨_, rfl⟩
    · exact absurd (.replaceFlawed sound flawed back) (unrefused e)

theorem Lists.refused_iff (lists : Lists a m) (c : Change) (e : Error) : a.change c = .error e ↔ Refused m c e := by
  refine ⟨fun failed => ?_, lists.change_refused⟩
  by_cases refused : ∃ d, Refused m c d
  · obtain ⟨d, refused⟩ := refused
    cases (lists.change_refused refused).symm.trans failed
    exact refused
  · obtain ⟨b, made⟩ := lists.change_made (not_exists.mp refused)
    cases made.symm.trans failed

theorem Lists.trace (lists : Lists a m) (cs : List Change) :
    Lists (cs.foldl Authorizer.after a) (Catalogue.trace a m cs) := by
  induction cs generalizing a m with
  | nil => exact lists
  | cons c rest ih =>
    apply ih
    unfold Authorizer.after
    cases made : a.change c with
    | error e => exact lists
    | ok b => exact lists.change made

end

end Catalogue

def catalogue (cs : List Change) : Catalogue := .trace {} ∅ cs

namespace Authorizer
open Policy (Error)

theorem lists_perform (cs : List Change) : Catalogue.Lists (perform cs) (catalogue cs) :=
  Catalogue.lists_empty.trace cs

theorem Ordered.strict {a : Authorizer} (ordered : a.Ordered) : a.policies.Pairwise Policy.Leads :=
  (ordered.sorted.and (List.pairwise_map.mp ordered.distinct)).imp fun both =>
    Policy.leads_of_before both.1 both.2

theorem after_refused {a : Authorizer} {c : Change} {e : Error} (refused : a.change c = .error e) :
    a.after c = a := by
  rw [after, refused]
  rfl

theorem perform_refused {cs : List Change} {c : Change} {e : Error} (refused : (perform cs).change c = .error e) :
    perform (cs ++ [c]) = perform cs := by
  have last : perform (cs ++ [c]) = (perform cs).after c := List.foldl_append ..
  rw [last, after_refused refused]

/-- An authorizer is a map from ids to policies. After any changes its list is in strict order of evaluation, with
no id twice and no policy that has a fault, and answers as the map does that the changes made so far result in. The
map tells which change is refused next, and for what; an update returns the policy that it replaces, a removal the
one that it removes; and what is refused leaves the list as it was. -/
theorem authorizer_is_catalogue (cs : List Change) :
    let a := perform cs
    let m := catalogue cs
    (a.policies.Pairwise Policy.Leads ∧ (a.policies.map (·.id)).Nodup ∧ ∀ p ∈ a.policies, p.validate = .ok ()) ∧
    ((∀ id, a.get? id = m.lookup id) ∧ (∀ p, p ∈ a.policies ↔ m.lookup p.id = some p) ∧
      a.policies.length = m.keys.card) ∧
    (∀ c e, a.change c = .error e ↔ Catalogue.Refused m c e) ∧
    (∀ p replaced b, a.update p = .ok (replaced, b) → replaced = m.lookup p.id) ∧
    (∀ id removed b, a.remove id = .ok (removed, b) → m.lookup id = some removed) ∧
    ∀ c e, a.change c = .error e → perform (cs ++ [c]) = a := by
  intro a m
  have lists : Catalogue.Lists a m := lists_perform cs
  refine ⟨⟨lists.ordered.strict, lists.ordered.distinct, ?_⟩, ⟨lists.get?_eq, ?_, lists.length_eq⟩,
    lists.refused_iff, ?_, ?_, fun c e refused => perform_refused refused⟩
  · exact fun p member => Policy.validate_sound (lists.faultless p member)
  · exact fun p => ((lists.listed p.id p).trans (and_iff_left rfl)).symm
  · intro p replaced b updated
    obtain ⟨_, -, done⟩ := bind_ok updated
    cases done
    exact lists.get?_eq p.id
  · intro id removed b done
    rw [← lists.get?_eq]
    unfold remove at done
    split at done
    · cases done
    next found =>
      cases done
      exact found

/-- A policy that has a fault is refused for it, even if its id is there. -/
theorem fault_before_duplicate :
    ¬ ∀ (cs : List Change) (p : Policy),
      (perform cs).add p = .error (.duplicate p.id) ↔ p.id ∈ catalogue cs := by
  intro all
  let p : Policy := { id := "p", effect := .allow }
  let q : Policy := { p with conditions := [.subjectIsOwner ""] }
  have valid : p.validate = .ok () := Policy.validate_sound (by decide +kernel)
  have faulty : q.validate = .error (.invalid "p" .emptyConditionName) :=
    Policy.validate_faulty (by decide +kernel)
  have made : perform [.add p] = ⟨[p]⟩ := by
    simp [perform, after, change, add, valid, contains, bind, Except.bind, Except.toOption, ofPolicies]
  have there : q.id ∈ catalogue [.add p] := by
    rw [← (lists_perform _).contains_iff, made]
    decide
  have refused := (all [.add p] q).mpr there
  simp [add, faulty, bind, Except.bind] at refused

end Authorizer

end Gatehouse
