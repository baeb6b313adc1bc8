import Gatehouse.Proofs.Instant
import Gatehouse.Proofs.KeyRing.Retention
import Mathlib.Data.List.Nodup
import Mathlib.Data.List.Permutation

/-!
The order of the keys of a ring: the active one is first, then the newest, and of two that are equally old the one
with the smaller id. Keys with different ids can be put in this order in one way only. To verify with, a key
that is preferred is taken out and put first.
-/
namespace Gatehouse.KeyRing

/-- One key is active and the other is not; or neither is, and the one is newer or has the smaller id. -/
def Outranks (r : KeyRing) (a b : RetainedKey) : Prop :=
  r.active = some a.id ∧ r.active ≠ some b.id ∨
    r.active ≠ some a.id ∧ r.active ≠ some b.id ∧
      (b.createdAt < a.createdAt ∨ a.createdAt = b.createdAt ∧ a.id < b.id)

def Distinct (r : KeyRing) : Prop := (r.keys.map (·.id)).Nodup

section
variable {r : KeyRing} {a b c : RetainedKey}

theorem before_iff :
    r.before a b = true ↔ r.active = some a.id ∨ r.active ≠ some a.id ∧ r.active ≠ some b.id ∧
      (b.createdAt < a.createdAt ∨ a.createdAt = b.createdAt ∧ a.id ≤ b.id) := by
  by_cases first : r.active = some a.id
  · simp [before, isActive, first]
  · by_cases second : r.active = some b.id
    · simp [before, isActive, second, second ▸ first]
    · simp [before, isActive, first, second]

theorem before_trans (r : KeyRing) (a b c : RetainedKey) (first : r.before a b = true)
    (second : r.before b c = true) : r.before a c = true := by
  rw [before_iff] at first second ⊢
  rcases first with active | ⟨passive, passive', order⟩
  · exact .inl active
  · obtain ⟨-, last, order'⟩ := second.resolve_left passive'
    refine .inr ⟨passive, last, ?_⟩
    rcases order with newer | ⟨same, ids⟩ <;> rcases order' with newer' | ⟨same', ids'⟩
    · exact .inl (Instant.lt_trans newer' newer)
    · exact .inl (same' ▸ newer)
    · exact .inl (same ▸ newer')
    · exact .inr ⟨same.trans same', String.le_trans ids ids'⟩

theorem before_total (r : KeyRing) (a b : RetainedKey) : (r.before a b || r.before b a) = true := by
  rw [Bool.or_eq_true, before_iff, before_iff]
  by_cases first : r.active = some a.id
  · exact .inl (.inl first)
  · by_cases second : r.active = some b.id
    · exact .inr (.inl second)
    · rcases Instant.lt_trichotomy a.createdAt b.createdAt with older | same | newer
      · exact .inr (.inr ⟨second, first, .inl older⟩)
      · exact (String.le_total a.id b.id).imp (fun ids => .inr ⟨first, second, .inr ⟨same, ids⟩⟩)
          fun ids => .inr ⟨second, first, .inr ⟨same.symm, ids⟩⟩
      · exact .inl (.inr ⟨first, second, .inl newer⟩)

theorem outranks_of_before (first : r.before a b = true) (other : a.id ≠ b.id) : r.Outranks a b := by
  rcases before_iff.mp first with active | ⟨passive, passive', newer | ⟨same, ids⟩⟩
  · exact .inl ⟨active, fun active' => other (Option.some.inj (active.symm.trans active'))⟩
  · exact .inr ⟨passive, passive', .inl newer⟩
  · refine .inr ⟨passive, passive', .inr ⟨same, String.not_le.mp fun ids' => ?_⟩⟩
    exact other (String.le_antisymm ids ids')

theorem Outranks.asymm (first : r.Outranks a b) : ¬ r.Outranks b a := by
  rintro (⟨active, -⟩ | ⟨-, passive, order'⟩)
  · rcases first with ⟨-, passive⟩ | ⟨-, passive, -⟩ <;> exact passive active
  · rcases first with ⟨active, -⟩ | ⟨-, -, order⟩
    · exact passive active
    · rcases order with newer | ⟨same, ids⟩ <;> rcases order' with newer' | ⟨same', ids'⟩
      · exact Instant.lt_irrefl _ (Instant.lt_trans newer newer')
      · exact Instant.lt_irrefl _ (same' ▸ newer)
      · exact Instant.lt_irrefl _ (same ▸ newer')
      · exact String.lt_asymm ids ids'

end

theorem ordered_perm (r : KeyRing) : r.ordered.Perm r.keys := List.mergeSort_perm ..

section
variable {r : KeyRing} (distinct : r.Distinct)
include distinct

theorem Distinct.eq {a b : RetainedKey} (member : a ∈ r.keys) (member' : b ∈ r.keys) (same : a.id = b.id) : a = b :=
  List.inj_on_of_nodup_map distinct member member' same

theorem ordered_ranked : r.ordered.Pairwise r.Outranks := by
  have sorted : r.ordered.Pairwise fun a b => r.before a b = true :=
    List.pairwise_mergeSort r.before_trans r.before_total r.keys
  have apart : r.ordered.Pairwise fun a b => a.id ≠ b.id :=
    List.pairwise_map.mp ((r.ordered_perm.map _).nodup_iff.mpr distinct)
  exact (sorted.and apart).imp fun both => outranks_of_before both.1 both.2

theorem ids_of_perm {keys : List RetainedKey} (same : keys.Perm r.keys) : ({ r with keys } : KeyRing).ids = r.ids := by
  have distinct' : ({ r with keys } : KeyRing).Distinct := (same.map _).nodup_iff.mpr distinct
  have perm : ({ r with keys } : KeyRing).ordered.Perm r.ordered :=
    (ordered_perm _).trans (same.trans r.ordered_perm.symm)
  have equal : ({ r with keys } : KeyRing).ordered = r.ordered :=
    perm.eq_of_pairwise (fun a b _ _ first second => absurd second first.asymm) (ordered_ranked distinct')
      (ordered_ranked distinct)
  exact congrArg (List.map (·.id)) equal

end

/-- The order in which keys are tried: a preferred one that is there, then the active one, then the others, the
newest first. -/
inductive Tried (r : KeyRing) : Option String → List RetainedKey → Prop
  | preferred {k : RetainedKey} {rest : List RetainedKey} (ranked : rest.Pairwise r.Outranks) :
    Tried r (some k.id) (k :: rest)
  | others {preferred : Option String} {ks : List RetainedKey} (absent : ∀ k ∈ ks, preferred ≠ some k.id)
    (ranked : ks.Pairwise r.Outranks) : Tried r preferred ks

/-- The keys to verify with are all keys of the ring, in that order. -/
theorem verifiers_tried {r : KeyRing} (distinct : r.Distinct) (preferred : Option String) :
    ∃ ks, ks.Perm r.keys ∧ r.verifiers preferred = ks.map (·.id) ∧ r.Tried preferred ks := by
  have ranked := ordered_ranked distinct
  have unpreferred (absent : ∀ k ∈ r.ordered, preferred ≠ some k.id) (same : r.verifiers preferred = r.ids) :
      ∃ ks, ks.Perm r.keys ∧ r.verifiers preferred = ks.map (·.id) ∧ r.Tried preferred ks :=
    ⟨r.ordered, r.ordered_perm, same, .others absent ranked⟩
  cases preferred with
  | none => exact unpreferred nofun rfl
  | some first =>
    by_cases there : first ∈ r.ids
    · obtain ⟨k, member, rfl⟩ := List.mem_map.mp there
      obtain ⟨front, back, split⟩ := List.append_of_mem member
      have nodup : (r.ordered.map (·.id)).Nodup := (r.ordered_perm.map _).nodup_iff.mpr distinct
      have perm : (k :: (front ++ back)).Perm r.keys := by
        refine (List.perm_middle.symm).trans ?_
        rw [← split]
        exact r.ordered_perm
      rw [split] at ranked nodup
      refine ⟨k :: (front ++ back), perm, ?_, .preferred (ranked.sublist ?_)⟩
      · have ids : r.ids = front.map (·.id) ++ k.id :: back.map (·.id) := by simp [ids, split]
        have absent : k.id ∉ front.map (·.id) := by
          rw [List.map_append, List.map_cons] at nodup
          exact fun again => (List.nodup_append.mp nodup).2.2 _ again _ List.mem_cons_self rfl
        simp [verifiers, ids, List.erase_append_right _ absent]
      · exact List.Sublist.append_left (List.sublist_cons_self k back) front
    · refine unpreferred (fun k member same => there ?_) ?_
      · rw [Option.some.inj same]
        exact List.mem_map_of_mem member
      · simp [verifiers, there]

end Gatehouse.KeyRing
