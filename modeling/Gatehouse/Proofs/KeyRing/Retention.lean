import Gatehouse.KeyRing.Command

/-!
How long a key stays on a ring. A key retires when another takes its place, or when it is added without being
made active; it is removed only when it has been retired for longer than the floor, which never sinks.
-/
namespace Gatehouse.KeyRing

theorem mem_ids {r : KeyRing} {id : String} : id ∈ r.ids ↔ ∃ k ∈ r.keys, k.id = id := by
  simp [ids, ordered]

theorem mem_verifiers {r : KeyRing} {preferred : Option String} {id : String} :
    id ∈ r.verifiers preferred ↔ ∃ k ∈ r.keys, k.id = id := by
  rw [← mem_ids]
  unfold verifiers
  cases preferred with
  | none => rfl
  | some first =>
    by_cases there : r.ids.contains first = true
    · have member : first ∈ r.ids := by simpa using there
      simp only [there, if_true]
      exact (List.perm_cons_erase member).symm.mem_iff
    · simp only [there]
      rfl

/-- Wherever a key is on the ring without being active, it retired at an instant that has a property. -/
def Retires (r : KeyRing) (id : String) (p : Instant → Prop) : Prop :=
  ∀ k ∈ r.keys, k.id = id → r.active = some id ∨ ∀ n, k.retiredAt = some n → p n

theorem retires_of_signer {r : KeyRing} {id : String} (signer : r.signer? = some id) (p : Instant → Prop) :
    r.Retires id p :=
  fun _ _ _ => .inl (Option.filter_eq_some_iff.mp signer).1

def Command.retires : Command → Bool
  | .add _ _ => true
  | .rotate _ => true
  | _ => false

/-- The ring with a key, which is retired if it is new. -/
def withKey (r : KeyRing) (key : Key) (now : Instant) : KeyRing :=
  if r.contains key.id then r else { r with keys := r.keys ++ [⟨key, now, some now⟩] }

theorem add_eq (r : KeyRing) (key : Key) (activates : Bool) (now : Instant) :
    r.add key activates now =
      if activates || (r.withKey key now).active.isNone then (r.withKey key now).activate key.id now
      else r.withKey key now := rfl

section
variable {r : KeyRing} {id : String} {p : Instant → Prop} {now : Instant}

theorem Retires.fewer (retires : r.Retires id p) {keys : List RetainedKey} (kept : ∀ k ∈ keys, k ∈ r.keys)
    (floor : Duration) : Retires ⟨keys, r.active, floor⟩ id p :=
  fun k member => retires k (kept k member)

theorem Retires.activate (retires : r.Retires id p) (holds : p now) (next : String) :
    (r.activate next now).Retires id p := by
  intro k member own
  obtain ⟨old, there, turned⟩ := List.mem_map.mp member
  have same : k.id = old.id := by
    rw [← turned]
    split
    · rfl
    · split <;> rfl
  by_cases chosen : old.id = next
  · exact .inl (congrArg some (chosen.symm.trans (same.symm.trans own)))
  · right
    intro n retired
    rw [if_neg chosen] at turned
    by_cases active : r.isActive old = true
    · rw [if_pos active] at turned
      subst turned
      cases retired
      exact holds
    · rw [if_neg active] at turned
      subst turned
      rcases retires _ there own with still | since
      · exact absurd (by simp [isActive, still, own]) active
      · exact since n retired

theorem Retires.withKey (retires : r.Retires id p) (holds : p now) (key : Key) :
    (r.withKey key now).Retires id p := by
  unfold KeyRing.withKey
  split
  · exact retires
  · intro k member own
    rcases List.mem_append.mp member with old | new
    · exact retires k old own
    · rw [List.mem_singleton.mp new]
      exact .inr fun n retired => Option.some.inj retired ▸ holds

theorem Retires.add (retires : r.Retires id p) (holds : p now) (key : Key) (activates : Bool) :
    (r.add key activates now).Retires id p := by
  rw [add_eq]
  split
  · exact (retires.withKey holds key).activate holds _
  · exact retires.withKey holds key

theorem Retires.run (retires : r.Retires id p) {c : Command} (holds : c.retires = true → p now) :
    (r.run now c).2.Retires id p := by
  cases c with
  | add hex activates =>
    simp only [KeyRing.run]
    split
    · exact retires.add (holds rfl) _ _
    · exact retires
  | rotate drawn => exact retires.add (holds rfl) drawn true
  | prune lifetime => exact retires.fewer (fun k member => (List.mem_filter.mp member).1) _
  | retain lifetime => exact retires.fewer (fun k member => member) _
  | signer =>
    simp only [KeyRing.run]
    split <;> exact retires
  | active | find _ | ids | keys | verifiers _ => exact retires

end

theorem floor_add (r : KeyRing) (key : Key) (activates : Bool) (now : Instant) :
    (r.add key activates now).floor = r.floor := by
  have same : (r.withKey key now).floor = r.floor := by
    unfold withKey
    split <;> rfl
  rw [add_eq]
  split <;> exact same

theorem floor_le_run (r : KeyRing) (now : Instant) (c : Command) : r.floor ≤ (r.run now c).2.floor := by
  have kept : r.floor ≤ r.floor := Nat.le_refl _
  cases c with
  | add hex activates =>
    simp only [run]
    split
    · simp only [floor_add, kept]
    · exact kept
  | rotate drawn => simp only [run, rotate, floor_add, kept]
  | retain lifetime => exact Nat.le_max_left ..
  | signer =>
    simp only [run]
    split <;> exact kept
  | prune _ | active | find _ | ids | keys | verifiers _ => exact kept

theorem mem_prune {r : KeyRing} {lifetime : Duration} {now : Instant} {k : RetainedKey} (member : k ∈ r.keys)
    (recent : r.active = some k.id ∨ ∀ n x, k.retiredAt = some n →
      n.add? (.ofDuration (lifetime.max r.floor)) = some x → ¬ x < now) :
    k ∈ (r.prune lifetime now).2.keys := by
  refine List.mem_filter.mpr ⟨member, ?_⟩
  rcases recent with active | recent
  · simp [isStale, isActive, active]
  · have fresh : (k.retiredAt.bind (·.add? (.ofDuration (lifetime.max r.floor)))).any (· < now) = false := by
      cases retired : k.retiredAt with
      | none => rfl
      | some n =>
        cases sum : n.add? (.ofDuration (lifetime.max r.floor)) with
        | none => simp [sum]
        | some x => simpa [sum] using recent n x retired sum
    simp [isStale, fresh]

end Gatehouse.KeyRing
