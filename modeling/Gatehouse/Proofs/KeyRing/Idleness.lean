import Gatehouse.Proofs.Instant.Shift
import Gatehouse.Proofs.KeyRing.Soundness
import Mathlib.Data.List.Induction

/-!
Which keys are pruned. A key is idle since it was last active, or came onto the ring if that was later; pruning
removes the keys that have been idle for longer than is asked for and longer than any floor, and no others.
-/
namespace Gatehouse.KeyRing

/-- The key is there and not active. -/
structure Resting (r : KeyRing) (id : String) : Prop where
  there : r.contains id = true
  passive : r.active ≠ some id

/-- Before an instant the key was active or was not on the ring, and ever since it rests. -/
def IdleSince (commands : List (Instant × Command)) (id : String) (t : Instant) : Prop :=
  ∃ earlier c later, commands = earlier ++ (t, c) :: later ∧ ¬ Resting (perform {} earlier) id ∧
    ∀ part, part <+: later → Resting (perform {} (earlier ++ (t, c) :: part)) id

theorem perform_concat (r : KeyRing) (commands : List (Instant × Command)) (c : Instant × Command) :
    r.perform (commands ++ [c]) = ((r.perform commands).run c.1 c.2).2 :=
  List.foldl_append

section
variable {commands : List (Instant × Command)} {id : String} {t : Instant}

theorem IdleSince.member (idle : IdleSince commands id t) : ∃ c, (t, c) ∈ commands := by
  obtain ⟨earlier, c, later, rfl, -⟩ := idle
  exact ⟨c, by simp⟩

theorem IdleSince.begin {c : Command} (before : ¬ Resting (perform {} commands) id)
    (after : Resting (perform {} (commands ++ [(t, c)])) id) : IdleSince (commands ++ [(t, c)]) id t := by
  refine ⟨commands, c, [], rfl, before, fun part inside => ?_⟩
  rw [List.prefix_nil.mp inside]
  exact after

theorem IdleSince.go_on (idle : IdleSince commands id t) {c : Instant × Command}
    (after : Resting (perform {} (commands ++ [c])) id) : IdleSince (commands ++ [c]) id t := by
  obtain ⟨earlier, d, later, rfl, before, since⟩ := idle
  refine ⟨earlier, d, later ++ [c], by simp, before, fun part inside => ?_⟩
  rcases List.prefix_concat_iff.mp inside with rfl | inside
  · simpa using after
  · exact since part inside

theorem IdleSince.resting (idle : IdleSince commands id t) : Resting (perform {} commands) id := by
  obtain ⟨earlier, d, later, rfl, -, since⟩ := idle
  exact since later List.prefix_rfl

/-- There is one such instant at most: after an earlier one the key would rest when the later one comes. -/
theorem IdleSince.unique {u : Instant} (idle : IdleSince commands id t) (idle' : IdleSince commands id u) : t = u := by
  obtain ⟨earlier, c, later, rfl, before, since⟩ := idle
  obtain ⟨earlier', c', later', same, before', since'⟩ := idle'
  rcases List.append_eq_append_iff.mp same with ⟨x, front, back⟩ | ⟨x, front, back⟩
  · cases x with
    | nil => exact congrArg Prod.fst (List.cons.inj back).1
    | cons d x =>
      obtain ⟨rfl, rest⟩ := List.cons.inj back
      exact absurd (front ▸ since x ⟨_, rest.symm⟩) before'
  · cases x with
    | nil => exact (congrArg Prod.fst (List.cons.inj back).1).symm
    | cons d x =>
      obtain ⟨rfl, rest⟩ := List.cons.inj back
      exact absurd (front ▸ since' x ⟨_, rest.symm⟩) before

end

/-- A key that is not active has retired when it began to be idle. -/
theorem idle_since (commands : List (Instant × Command)) :
    ∀ k ∈ (perform {} commands).keys, (perform {} commands).active ≠ some k.id →
      ∃ t, k.retiredAt = some t ∧ IdleSince commands k.id t := by
  induction commands using List.reverseRecOn with
  | nil => nofun
  | append_singleton commands c ih =>
    obtain ⟨now, c⟩ := c
    intro k member passive
    have sound : (perform {} commands).Sound := sound_empty.perform commands
    have after : Resting (perform {} (commands ++ [(now, c)])) k.id := ⟨contains_of_mem member, passive⟩
    rw [perform_concat] at member passive
    cases sound.stems c member with
    | @kept old there key created retired =>
      have id : k.id = old.id := congrArg Key.id key
      rw [if_neg passive] at retired
      by_cases active : (perform {} commands).active = some k.id
      · rw [if_pos active] at retired
        exact ⟨now, retired, .begin (fun resting => resting.passive active) after⟩
      · rw [if_neg active] at retired
        obtain ⟨t, since, idle⟩ := ih old there (id ▸ active)
        exact ⟨t, retired.trans since, (id ▸ idle : IdleSince commands k.id t).go_on after⟩
    | added new retired =>
      rw [if_neg passive] at retired
      exact ⟨now, retired, .begin (fun resting => Bool.false_ne_true (new.symm.trans resting.there)) after⟩

def Command.floor? : Command → Option Duration
  | .retain lifetime => some lifetime
  | _ => none

def longestFloor (commands : List (Instant × Command)) : Duration :=
  (commands.filterMap fun c => c.2.floor?).foldl Duration.max .zero

theorem floor_run (r : KeyRing) (now : Instant) (c : Command) :
    (r.run now c).2.floor = match c.floor? with
      | some lifetime => r.floor.max lifetime
      | none => r.floor := by
  cases c with
  | add hex activates =>
    simp only [run]
    split
    · exact floor_add ..
    · rfl
  | rotate drawn => exact floor_add ..
  | signer =>
    simp only [run]
    split <;> rfl
  | _ => rfl

theorem floor_perform (r : KeyRing) (commands : List (Instant × Command)) :
    (r.perform commands).floor = (commands.filterMap fun c => c.2.floor?).foldl Duration.max r.floor := by
  induction commands generalizing r with
  | nil => rfl
  | cons c rest ih =>
    refine (ih _).trans ?_
    rw [floor_run, List.filterMap_cons]
    cases c.2.floor? <;> rfl

/-- The key is found by its id and is there to verify with, whichever is preferred. -/
def Available (r : KeyRing) (k : RetainedKey) : Prop :=
  r.find? k.id = some k ∧ ∀ preferred, k.id ∈ r.verifiers preferred

def Gone (r : KeyRing) (id : String) : Prop :=
  r.find? id = none ∧ ∀ preferred, id ∉ r.verifiers preferred

theorem Distinct.available {r : KeyRing} (distinct : r.Distinct) {k : RetainedKey} (member : k ∈ r.keys) :
    r.Available k := by
  refine ⟨?_, fun preferred => mem_verifiers.mpr ⟨k, member, rfl⟩⟩
  cases found : r.find? k.id with
  | none => simpa using List.find?_eq_none.mp found k member
  | some other =>
    have same : other.id = k.id := by simpa using List.find?_some found
    rw [distinct.eq (List.mem_of_find?_eq_some found) member same]

theorem gone_of_absent {r : KeyRing} {id : String} (absent : ∀ k ∈ r.keys, k.id ≠ id) : r.Gone id := by
  refine ⟨List.find?_eq_none.mpr fun k member => by simpa using absent k member, fun preferred there => ?_⟩
  obtain ⟨k, member, same⟩ := mem_verifiers.mp there
  exact absent k member same

section
variable {r : KeyRing} (distinct : r.Distinct) {k : RetainedKey} (member : k ∈ r.keys) (lifetime : Duration)
  (now : Instant)
include distinct member

/-- The keys that pruning reports are the stale ones. -/
theorem pruned_iff :
    k.id ∈ (r.prune lifetime now).1.map (·.id) ↔
      r.isStale (.ofDuration (lifetime.max r.floor)) now k = true := by
  simp only [prune, List.mem_map, List.mem_filter]
  constructor
  · rintro ⟨other, ⟨there, stale⟩, same⟩
    rwa [← distinct.eq there member same]
  · exact fun stale => ⟨k, ⟨member, stale⟩, rfl⟩

theorem gone_of_pruned (pruned : k.id ∈ (r.prune lifetime now).1.map (·.id)) :
    (r.prune lifetime now).2.Gone k.id := by
  refine gone_of_absent fun other there same => ?_
  obtain ⟨there, fresh⟩ := List.mem_filter.mp there
  rw [distinct.eq there member same, (pruned_iff distinct member lifetime now).mp pruned] at fresh
  cases fresh

theorem available_of_spared (spared : k.id ∉ (r.prune lifetime now).1.map (·.id)) :
    (r.prune lifetime now).2.Available k := by
  have distinct' : (r.prune lifetime now).2.Distinct := (List.filter_sublist.map _).nodup distinct
  refine distinct'.available (List.mem_filter.mpr ⟨member, ?_⟩)
  rw [pruned_iff distinct member lifetime now, Bool.not_eq_true] at spared
  simp [spared]

end

/-- When a ring is pruned, with whatever horizon, the keys are removed that have been idle for longer than that and
than any floor, and only these are reported. A sum past the range of instants removes nothing, as no clock shows
such a time. All other keys stay as they are. -/
theorem prune_removes_idle_keys {commands : List (Instant × Command)} (valid : ∀ c ∈ commands, c.1.Valid)
    {now : Instant} (there : now.Valid) (lifetime : Duration) :
    let r := perform {} commands
    let next := (r.run now (.prune lifetime)).2
    let horizon := lifetime.max (longestFloor commands)
    Thinned r next ∧ ∃ ids : List String, (r.run now (.prune lifetime)).1 = .pruned ids ∧ ids.Nodup ∧
      (∀ id ∈ ids, r.contains id = true) ∧
      ∀ k ∈ r.keys, (k.id ∈ ids → next.Gone k.id) ∧ (k.id ∉ ids → next.Available k) ∧
        (r.active = some k.id ∧ k.id ∉ ids ∨
          ∃ t, (∀ u, IdleSince commands k.id u ↔ u = t) ∧ (k.id ∈ ids ↔ t.shift horizon.nanos < now) ∧
            (t.nanos < Instant.nanosPerSecond → now.nanos < Instant.nanosPerSecond →
              (k.id ∈ ids ↔ t.upper + horizon.nanos < now.upper))) := by
  intro r next horizon
  have sound : r.Sound := sound_empty.perform commands
  have distinct := sound.distinct
  have floor : r.floor = longestFloor commands := floor_perform {} commands
  have listed {id : String} : id ∈ Text.Ordered.ofList ((r.prune lifetime now).1.map (·.id)) ↔
      id ∈ (r.prune lifetime now).1.map (·.id) := Text.Ordered.mem_ofList
  refine ⟨thinned_prune r lifetime now, Text.Ordered.ofList ((r.prune lifetime now).1.map (·.id)), rfl, ?_,
    fun id pruned => ?_, fun k member => ⟨fun pruned => ?_, fun spared => ?_, ?_⟩⟩
  · exact (Text.Ordered.ofList_increasing _).imp String.ne_of_lt
  · obtain ⟨k, stale, rfl⟩ := List.mem_map.mp (listed.mp pruned)
    exact contains_of_mem (List.mem_filter.mp stale).1
  · exact gone_of_pruned distinct member lifetime now (listed.mp pruned)
  · exact available_of_spared distinct member lifetime now fun pruned => spared (listed.mpr pruned)
  · rw [listed, pruned_iff distinct member lifetime now, isStale, floor]
    by_cases active : r.active = some k.id
    · exact .inl ⟨active, by simp [isActive, active]⟩
    · obtain ⟨t, retired, idle⟩ := idle_since commands k member active
      obtain ⟨c, came⟩ := idle.member
      have past := Instant.any_add?_lt (valid _ came) horizon there
      refine .inr ⟨t, fun u => ⟨fun idle' => idle'.unique idle, fun same => same ▸ idle⟩, ?_, fun plain plain' => ?_⟩
      · simpa [isActive, active, retired] using past
      · rw [← Instant.shift_lt_iff plain plain', ← past]
        simp [isActive, active, retired, horizon]

namespace Replaced

/-- The first key is replaced at an instant, and then a floor of half a minute is asked for. -/
def commands (t : Instant) : List (Instant × Command) :=
  [(⟨1483228700, 0⟩, .rotate ⟨"k", "", ""⟩), (t, .rotate ⟨"l", "", ""⟩), (t, .retain (.ofSeconds 30))]

def first (t : Instant) : RetainedKey := ⟨⟨"k", "", ""⟩, ⟨1483228700, 0⟩, some t⟩

theorem idle (t : Instant) : first t ∈ (perform {} (commands t)).keys ∧ IdleSince (commands t) "k" t := by
  have member : first t ∈ (perform {} (commands t)).keys := List.mem_cons_self
  have passive : (perform {} (commands t)).active ≠ some "k" := by
    change some "l" ≠ some "k"
    decide
  obtain ⟨_, since, idle⟩ := idle_since (commands t) _ member passive
  cases since
  exact ⟨member, idle⟩

/-- The first key is pruned once the floor has passed. -/
theorem gone_after_floor :
    let t : Instant := ⟨1483228799, 0⟩
    let r := perform {} (commands t)
    (∀ c ∈ commands t, c.1.Valid) ∧ Instant.Valid ⟨1483228829, 0⟩ ∧ Instant.Valid ⟨1483228829, 1⟩ ∧
    (r.run ⟨1483228829, 0⟩ (.prune .zero)).2.Available (first t) ∧
    (r.run ⟨1483228829, 1⟩ (.prune .zero)).2.Gone "k" := by
  intro t r
  obtain ⟨member, idle⟩ := idle t
  have valid : ∀ c ∈ commands t, c.1.Valid := by
    simp only [commands, List.forall_mem_cons]
    exact ⟨⟨by decide, by decide, by decide⟩, ⟨by decide, by decide, by decide⟩,
      ⟨by decide, by decide, by decide⟩, nofun⟩
  have soon : Instant.Valid ⟨1483228829, 0⟩ := ⟨by decide, by decide, by decide⟩
  have late : Instant.Valid ⟨1483228829, 1⟩ := ⟨by decide, by decide, by decide⟩
  have passive : ¬ r.active = some (first t).id := by decide +kernel
  refine ⟨valid, soon, late, ?_, ?_⟩
  · obtain ⟨-, ids, -, -, -, general⟩ := prune_removes_idle_keys valid soon .zero
    obtain ⟨-, stays, active | ⟨u, unique, pruned, -⟩⟩ := general _ member
    · exact absurd active.1 passive
    · obtain rfl := (unique t).mp idle
      exact stays fun gone => absurd (pruned.mp gone) (by decide +kernel)
  · obtain ⟨-, ids, -, -, -, general⟩ := prune_removes_idle_keys valid late .zero
    obtain ⟨goes, -, active | ⟨u, unique, pruned, -⟩⟩ := general _ member
    · exact absurd active.1 passive
    · obtain rfl := (unique t).mp idle
      exact goes (pruned.mpr (by decide +kernel))

def hex : String := "719c2b72c58d292eb20b35ca2c1d60b099f402e11b4f9b9aab375b552f0632f7"

def key : Key := ⟨"Y9pBOzXz6N5pVDIv", "f155ee909ac172462a22b451fbd79da39c9261dc9b17c9c72612e02a28380ab8", hex⟩

theorem key_of_hex : Key.ofHex? hex = some key := by decide +kernel

def readded : List (Instant × Command) :=
  [(⟨0, 0⟩, .add hex true), (⟨60, 0⟩, .rotate ⟨"l", "", ""⟩), (⟨120, 0⟩, .prune .zero), (⟨180, 0⟩, .add hex false)]

/-- The keys that are pruned, under a clock that never goes back, are those whose idleness is long enough by a count of
nanoseconds. -/
def PrunesBy (count : Instant → Int) : Prop :=
  ∀ (commands : List (Instant × Command)) (now : Instant) (lifetime : Duration),
    (∀ c ∈ commands, c.1.Valid ∧ c.1 ≤ now) → now.Valid → commands.Pairwise (fun c d => c.1 ≤ d.1) →
    ∀ k ∈ (perform {} commands).keys, ∀ t, IdleSince commands k.id t →
      (((perform {} commands).run now (.prune lifetime)).2.contains k.id = false ↔
        count t + (lifetime.max (longestFloor commands)).nanos < count now)

/-- A sum that begins in a leap second leads on from the second before, but the leap second itself comes after that. So
there is no count by which keys are pruned, if it is to tell the time outside leap seconds. Nor does a key that was
active until the second 60 count as idle since then when it came back later: it is spared when all are pruned that
have been idle for longer than 100 seconds at the second 200. -/
theorem idle_by_no_count_and_anew :
    (∀ count : Instant → Int, (∀ t, t.nanos < Instant.nanosPerSecond → count t = t.upper) → ¬ PrunesBy count) ∧
    let r := perform {} readded
    readded.inits.map (fun part => (perform {} part).active) = [none, some key.id, some "l", some "l", some "l"] ∧
      r.contains key.id = true ∧ (r.run ⟨200, 0⟩ (.prune (.ofSeconds 100))).1 = .pruned [] := by
  refine ⟨fun count plain rule => ?_, ?_⟩
  · let leap : Instant := ⟨1483228799, 1500000000⟩
    have before : Instant.Valid ⟨1483228700, 0⟩ := ⟨by decide, by decide, by decide⟩
    have inLeap : leap.Valid := ⟨by decide, by decide, by decide⟩
    have gone (t now : Instant) (valid : t.Valid) (valid' : now.Valid) (order : ⟨1483228700, 0⟩ ≤ t) (order' : t ≤ now)
        (pruned : ((perform {} (commands t)).run now (.prune .zero)).2.contains "k" = false) :
        count t + 30000000000 < count now := by
      obtain ⟨member, idle⟩ := idle t
      refine (rule (commands t) now .zero ?_ valid' ?_ _ member t idle).mp pruned
      · simp only [commands, List.forall_mem_cons]
        exact ⟨⟨before, Instant.le_trans order order'⟩, ⟨valid, order'⟩, ⟨valid, order'⟩, nofun⟩
      · simp [commands, order, Instant.le_refl]
    have out := gone leap ⟨1483228829, 750000000⟩ inLeap ⟨by decide, by decide, by decide⟩ (by decide) (by decide)
      (by decide +kernel)
    have into := gone ⟨1483228769, 800000000⟩ leap ⟨by decide, by decide, by decide⟩ inLeap (by decide) (by decide)
      (by decide +kernel)
    have outCount := plain ⟨1483228829, 750000000⟩ (by decide)
    have intoCount := plain ⟨1483228769, 800000000⟩ (by decide)
    simp only [Instant.upper, Instant.nanosPerSecond] at outCount intoCount
    omega
  · simp only [readded, List.inits, perform, run, key_of_hex, List.foldl_cons, List.foldl_nil, List.map_cons,
      List.map_nil]
    decide +kernel

end Replaced

end Gatehouse.KeyRing
