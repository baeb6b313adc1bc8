import Gatehouse.Proofs.Authority.Replacement
import Gatehouse.Proofs.KeyRing.Soundness

/-!
An authority has a key to sign with as soon as it was given one. Whatever is true of its ring and outlasts each
command of a ring also outlasts each command of the authority, and so it is with the active key.
-/
namespace Gatehouse.Authority

section
variable {p : KeyRing → Prop} (lasting : ∀ r now c, p r → p (KeyRing.run r now c).2)
include lasting

theorem Explains.ring {a b : Authority} {es : List Effect} (explains : Explains a es b) (holds : p a.keys) :
    p b.keys := by
  induction es generalizing a with
  | nil =>
    cases explains
    exact holds
  | cons e rest ih =>
    refine ih explains.2 ?_
    cases e with
    | keys n c => exact lasting a.keys n c holds
    | revoked i status =>
      simp only [Effect.apply]
      split <;> exact holds
    | _ => exact holds

theorem ring_run {a : Authority} (o : Outside) (c : Command) (holds : p a.keys) : p (a.run o c).2.keys := by
  cases direct : c.bypasses with
  | false => exact (explains_run a o direct).ring lasting holds
  | true =>
    -- what is written past the authority goes to the store
    cases c with
    | store d =>
      simp only [run]
      split <;> exact holds
    | _ => cases direct

theorem ring_perform {a : Authority} (commands : List (Outside × Command)) (holds : p a.keys) :
    p (a.perform commands).keys := by
  induction commands generalizing a with
  | nil => exact holds
  | cons c rest ih => exact ih (ring_run lasting c.1 c.2 holds)

end

/-- A ring with an active key that it holds. -/
structure Manned (r : KeyRing) : Prop where
  sound : r.Sound
  active : r.active.isSome

theorem Manned.run {r : KeyRing} (manned : Manned r) (now : Instant) (c : KeyRing.Command) :
    Manned (r.run now c).2 :=
  ⟨manned.sound.run c, KeyRing.active_run manned.active now c⟩

theorem Manned.signer {r : KeyRing} (manned : Manned r) : ∃ id, r.signer? = some id := by
  obtain ⟨id, active⟩ := Option.isSome_iff_exists.mp manned.active
  exact ⟨id, Option.filter_eq_some_iff.mpr ⟨active, manned.sound.held id active⟩⟩

theorem issue_ne_signing {a : Authority} (manned : Manned a.keys) (now : Instant) (fresh : String)
    (q : Token.Request) (fault : Token.SigningFault) : a.issue now fresh q ≠ .error (.signing fault) := by
  intro failed
  obtain ⟨id, signer⟩ := manned.signer
  simp only [issue, signer] at failed
  rcases bind_error failed with unfit | ⟨t, -, rest⟩
  · obtain ⟨f, claims⟩ := draft_error unfit
    cases claims
  · split at rest <;> cases rest

/-- A command that puts a key on the ring. -/
def Command.installs : Command → Bool
  | .keys c => c.key?.isSome
  | _ => false

theorem manned_of_installs {a : Authority} (sound : a.keys.Sound) {o : Outside} {c : Command}
    (installs : c.installs = true) : Manned (a.run o c).2.keys := by
  cases c with
  | keys d =>
    have one : (o.now, d) ∈ [(o.now, d)] := List.mem_cons_self
    exact ⟨sound.run d, KeyRing.active_of_installed one installs⟩
  | _ => cases installs

theorem manned_perform {a : Authority} (sound : a.keys.Sound) {commands : List (Outside × Command)}
    (installed : a.keys.active.isSome ∨ ∃ c ∈ commands, c.2.installs = true) :
    Manned (a.perform commands).keys := by
  have lasting : ∀ r now c, Manned r → Manned (KeyRing.run r now c).2 := fun r now c manned => manned.run now c
  rcases installed with active | ⟨c, member, installs⟩
  · exact ring_perform lasting commands ⟨sound, active⟩
  · obtain ⟨earlier, later, rfl⟩ := List.append_of_mem member
    have before : (a.perform earlier).keys.Sound := ring_perform (fun r now c sound => sound.run c) earlier sound
    rw [perform_append]
    exact ring_perform lasting later (manned_of_installs before installs)

/-- Whatever was done to a ring that was empty at first: the active key is on it, and there is one unless the ring
is empty; only the active key has not retired; and the keys are listed once each, the active one first, then the
newest, in an order that does not depend on how they came onto the ring. An authority that has the ring, and was
given a key before or after, never fails to issue for want of one. -/
theorem ring_in_order_and_manned (commands : List (Instant × KeyRing.Command)) :
    let r := KeyRing.perform {} commands
    (r.active.isSome ↔ r.keys ≠ []) ∧
    (∀ id, r.active = some id → ∃ k ∈ r.keys, k.id = id) ∧
    (∀ k ∈ r.keys, k.retiredAt = none ↔ r.active = some k.id) ∧
    (r.ids.Nodup ∧ ∃ ks : List RetainedKey, ks.Perm r.keys ∧ r.ids = ks.map (·.id) ∧ ks.Pairwise r.Outranks) ∧
    (∀ keys, keys.Perm r.keys → ({ r with keys } : KeyRing).ids = r.ids) ∧
    ∀ config backend (service : List (Outside × Command)),
      (∃ c ∈ commands, c.2.key?.isSome) ∨ (∃ c ∈ service, c.2.installs = true) →
      ∀ now fresh q fault,
        ((ofParts config r backend).perform service).issue now fresh q ≠ .error (.signing fault) := by
  intro r
  have sound : r.Sound := KeyRing.sound_empty.perform commands
  have nodup : r.ids.Nodup := (r.ordered_perm.map _).nodup_iff.mpr sound.distinct
  refine ⟨⟨fun active none => ?_, sound.manned⟩, fun id active => KeyRing.contains_iff.mp (sound.held id active),
    sound.retired, ⟨nodup, r.ordered, r.ordered_perm, rfl, KeyRing.ordered_ranked sound.distinct⟩,
    fun keys same => KeyRing.ids_of_perm sound.distinct same, ?_⟩
  · obtain ⟨id, active⟩ := Option.isSome_iff_exists.mp active
    obtain ⟨k, member, -⟩ := KeyRing.contains_iff.mp (sound.held id active)
    rw [none] at member
    cases member
  · intro config backend service installed now fresh q fault
    have start : (ofParts config r backend).keys.Sound := @KeyRing.Sound.run r now sound (.retain _)
    refine issue_ne_signing (manned_perform start (installed.imp_left ?_)) now fresh q fault
    rintro ⟨c, member, installs⟩
    exact KeyRing.active_of_installed member installs

namespace Installed
open Sample

def first : Instant := ⟨0, 0⟩

def later : Instant := ⟨60, 0⟩

/-- Three keys, of which the second is made active again when the third is there. -/
def commands : List (Instant × KeyRing.Command) :=
  [(first, .rotate ⟨"a", "", ""⟩), (later, .rotate ⟨"c", "", ""⟩), (later, .rotate ⟨"b", "", ""⟩),
    (later, .rotate ⟨"c", "", ""⟩)]

def threeKeys : KeyRing :=
  { keys := [⟨⟨"a", "", ""⟩, first, some later⟩, ⟨⟨"c", "", ""⟩, later, none⟩, ⟨⟨"b", "", ""⟩, later, some later⟩]
    active := some "c" }

/-- The retired keys are listed by age, and are gone days later; an authority that has no key at all is at a loss. -/
theorem signs_with_key_made_active_again :
    let r := KeyRing.perform {} commands
    let a := (ofParts {} r {}).perform [(outside ⟨200000, 0⟩, .pruneKeys)]
    r.ids = ["c", "b", "a"] ∧ ({ r with keys := r.keys.reverse } : KeyRing).ids = r.ids ∧
    a.keys.keys.map (·.id) = ["c"] ∧
    (∀ now fresh q fault, a.issue now fresh q ≠ .error (.signing fault)) ∧
    ((ofParts {} {} {}).issue first "x" { subject := "alice" }).toOption = none := by
  intro r a
  have general := ring_in_order_and_manned commands
  have installed : ∃ c ∈ commands, c.2.key?.isSome := ⟨_, List.mem_cons_self, rfl⟩
  have ids : r.ids = ["c", "b", "a"] := by
    have ring : r = threeKeys := by decide +kernel
    rw [ring]
    cbv
  exact ⟨ids, general.2.2.2.2.1 _ r.keys.reverse_perm, by decide +kernel,
    general.2.2.2.2.2 {} {} _ (.inl installed), by decide +kernel⟩

end Installed

end Gatehouse.Authority
