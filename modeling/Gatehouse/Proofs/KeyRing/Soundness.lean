import Gatehouse.Proofs.KeyRing.Order

/-!
What is true of every ring that comes about by adding, replacing and pruning keys. The active key is on the ring,
there is one unless the ring is empty, and it is the only key that has not retired. Each command leaves a key as it
was, but for the time when it retired.
-/
namespace Gatehouse.KeyRing

def perform (r : KeyRing) (commands : List (Instant × Command)) : KeyRing :=
  commands.foldl (fun r c => (r.run c.1 c.2).2) r

structure Sound (r : KeyRing) : Prop where
  distinct : r.Distinct
  manned : r.keys ≠ [] → r.active.isSome
  held : ∀ id, r.active = some id → r.contains id = true
  retired : ∀ k ∈ r.keys, k.retiredAt = none ↔ r.active = some k.id

/-- Where a key comes from that is on the ring after a command at `now`, and since when it is retired. -/
inductive StemsFrom (r : KeyRing) (now : Instant) (next : KeyRing) (k : RetainedKey) : Prop
  | kept {old : RetainedKey} (member : old ∈ r.keys) (key : k.key = old.key) (created : k.createdAt = old.createdAt)
    (retired : k.retiredAt = if next.active = some k.id then none
      else if r.active = some k.id then some now else old.retiredAt)
  | added (new : r.contains k.id = false)
    (retired : k.retiredAt = if next.active = some k.id then none else some now)

theorem contains_iff {r : KeyRing} {id : String} : r.contains id = true ↔ ∃ k ∈ r.keys, k.id = id := by
  simp [contains]

theorem contains_of_mem {r : KeyRing} {k : RetainedKey} (member : k ∈ r.keys) : r.contains k.id = true :=
  contains_iff.mpr ⟨k, member, rfl⟩

section
variable {r : KeyRing} {key : Key} {activates : Bool} {now : Instant}

theorem active_withKey : (r.withKey key now).active = r.active := by
  unfold withKey
  split <;> rfl

theorem active_add :
    (r.add key activates now).active = if activates || r.active.isNone then some key.id else r.active := by
  rw [add_eq, active_withKey]
  split
  · rfl
  · exact active_withKey

theorem active_add_isSome : (r.add key activates now).active.isSome := by
  rw [active_add]
  cases r.active <;> cases activates <;> rfl

theorem ids_activate (id : String) : (r.activate id now).keys.map (·.id) = r.keys.map (·.id) := by
  simp only [activate, List.map_map]
  refine List.map_congr_left fun k _ => ?_
  simp only [Function.comp]
  split
  · rfl
  · split <;> rfl

theorem ids_add :
    (r.add key activates now).keys.map (·.id) =
      if r.contains key.id then r.keys.map (·.id) else r.keys.map (·.id) ++ [key.id] := by
  have ids : (r.withKey key now).keys.map (·.id) =
      if r.contains key.id then r.keys.map (·.id) else r.keys.map (·.id) ++ [key.id] := by
    unfold withKey
    split
    · rfl
    · exact List.map_append
  rw [add_eq]
  split
  · rw [ids_activate, ids]
  · exact ids

theorem contains_add {id : String} :
    (r.add key activates now).contains id = true ↔ id = key.id ∨ r.contains id = true := by
  have listed (r : KeyRing) : r.contains id = true ↔ id ∈ r.keys.map (·.id) := by simp [contains]
  rw [listed, listed, ids_add]
  split
  next there =>
    refine (or_iff_right_of_imp ?_).symm
    rintro rfl
    obtain ⟨k, member, same⟩ := contains_iff.mp there
    exact List.mem_map.mpr ⟨k, member, same⟩
  next => rw [List.mem_append, List.mem_singleton, or_comm]

theorem Distinct.add (distinct : r.Distinct) : (r.add key activates now).Distinct := by
  unfold Distinct
  rw [ids_add]
  split
  · exact distinct
  next absent =>
    refine List.nodup_append.mpr ⟨distinct, List.nodup_singleton _, ?_⟩
    rintro id member _ new rfl
    obtain rfl := List.mem_singleton.mp new
    exact absent (contains_iff.mpr (List.mem_map.mp member))

theorem mem_withKey {k : RetainedKey} (member : k ∈ (r.withKey key now).keys) :
    k ∈ r.keys ∨ r.contains k.id = false ∧ k.retiredAt = some now := by
  unfold withKey at member
  split at member
  · exact .inl member
  next absent =>
    refine (List.mem_append.mp member).imp_right fun new => ?_
    rw [List.mem_singleton.mp new]
    exact ⟨Bool.not_eq_true _ ▸ absent, rfl⟩

theorem mem_activate {id : String} {k : RetainedKey} (member : k ∈ (r.activate id now).keys) :
    ∃ old ∈ r.keys, k.key = old.key ∧ k.createdAt = old.createdAt ∧
      k.retiredAt = if id = k.id then none else if r.active = some k.id then some now else old.retiredAt := by
  obtain ⟨old, there, turned⟩ := List.mem_map.mp member
  refine ⟨old, there, ?_⟩
  by_cases chosen : old.id = id
  · rw [if_pos chosen] at turned
    subst turned
    exact ⟨rfl, rfl, (if_pos chosen.symm).symm⟩
  · rw [if_neg chosen] at turned
    by_cases active : r.active = some old.id
    · rw [if_pos (by simpa [isActive] using active)] at turned
      subst turned
      exact ⟨rfl, rfl, ((if_neg (Ne.symm chosen)).trans (if_pos active)).symm⟩
    · rw [if_neg (by simpa [isActive] using active)] at turned
      subst turned
      exact ⟨rfl, rfl, ((if_neg (Ne.symm chosen)).trans (if_neg active)).symm⟩

theorem Sound.unturned (sound : r.Sound) {next : KeyRing} (same : next.active = r.active) {k : RetainedKey}
    (member : k ∈ r.keys) : StemsFrom r now next k := by
  refine .kept member rfl rfl ?_
  rw [same]
  split
  next active => exact (sound.retired k member).mpr active
  next => rfl

theorem Sound.stems_add (sound : r.Sound) {k : RetainedKey} (member : k ∈ (r.add key activates now).keys) :
    StemsFrom r now (r.add key activates now) k := by
  have active := @active_add r key activates now
  rw [add_eq, active_withKey] at member
  split at member
  next turns =>
    obtain ⟨old, there, same, created, retired⟩ := mem_activate member
    have id : k.id = old.id := congrArg Key.id same
    rw [if_pos turns] at active
    rcases mem_withKey there with kept | ⟨new, since⟩
    · exact .kept kept same created (by simpa [active, active_withKey] using retired)
    · refine .added (id ▸ new) ?_
      rw [since] at retired
      simpa [active] using retired
  next stays =>
    rw [if_neg stays] at active
    rcases mem_withKey member with kept | ⟨new, since⟩
    · exact sound.unturned active kept
    · refine .added new ?_
      have passive : r.active ≠ some k.id := fun active => by simp [sound.held _ active] at new
      rw [active, if_neg passive, since]

/-- Some keys may be gone, but not the active one. -/
structure Thinned (r next : KeyRing) : Prop where
  active : next.active = r.active
  fewer : next.keys.Sublist r.keys
  spared : ∀ k ∈ r.keys, r.active = some k.id → k ∈ next.keys

theorem thinned_floor (r : KeyRing) (floor : Duration) : Thinned r { r with floor } :=
  ⟨rfl, .refl _, fun _ member _ => member⟩

theorem thinned_prune (r : KeyRing) (lifetime : Duration) (now : Instant) : Thinned r (r.prune lifetime now).2 :=
  ⟨rfl, List.filter_sublist, fun _ member active => mem_prune member (.inl active)⟩

def Command.key? : Command → Option Key
  | .add hex _ => Key.ofHex? hex
  | .rotate drawn => some drawn
  | _ => none

theorem run_cases (r : KeyRing) (now : Instant) (c : Command) :
    (∃ key activates, c.key? = some key ∧ (r.run now c).2 = r.add key activates now) ∨
      c.key? = none ∧ Thinned r (r.run now c).2 := by
  cases c with
  | add hex activates =>
    simp only [run, Command.key?]
    cases Key.ofHex? hex with
    | some key => exact .inl ⟨key, activates, rfl, rfl⟩
    | none => exact .inr ⟨rfl, thinned_floor r r.floor⟩
  | rotate drawn => exact .inl ⟨drawn, true, rfl, rfl⟩
  | prune lifetime => exact .inr ⟨rfl, thinned_prune r lifetime now⟩
  | retain lifetime => exact .inr ⟨rfl, thinned_floor r _⟩
  | signer =>
    refine .inr ⟨rfl, ?_⟩
    simp only [run]
    split <;> exact thinned_floor r r.floor
  | active | find _ | ids | keys | verifiers _ => exact .inr ⟨rfl, thinned_floor r r.floor⟩

theorem Sound.stems (sound : r.Sound) (c : Command) {k : RetainedKey} (member : k ∈ (r.run now c).2.keys) :
    StemsFrom r now (r.run now c).2 k := by
  rcases run_cases r now c with ⟨key, activates, -, same⟩ | ⟨-, thinned⟩
  · rw [same] at member ⊢
    exact sound.stems_add member
  · exact sound.unturned thinned.active (thinned.fewer.subset member)

theorem StemsFrom.retired_iff (sound : r.Sound) {next : KeyRing} {k : RetainedKey} (stems : StemsFrom r now next k) :
    k.retiredAt = none ↔ next.active = some k.id := by
  cases stems with
  | @kept old member key created retired =>
    have id : k.id = old.id := congrArg Key.id key
    rw [retired]
    split
    next active => exact iff_of_true rfl active
    next passive =>
      split
      next => exact iff_of_false nofun passive
      next unserved =>
        rw [id] at unserved
        exact iff_of_false (fun unretired => unserved ((sound.retired old member).mp unretired)) passive
  | added new retired =>
    rw [retired]
    split
    next active => exact iff_of_true rfl active
    next passive => exact iff_of_false nofun passive

theorem Sound.run (sound : r.Sound) (c : Command) : (r.run now c).2.Sound where
  distinct := by
    rcases run_cases r now c with ⟨key, activates, -, same⟩ | ⟨-, thinned⟩
    · rw [same]
      exact sound.distinct.add
    · exact (thinned.fewer.map _).nodup sound.distinct
  manned := by
    rcases run_cases r now c with ⟨key, activates, -, same⟩ | ⟨-, thinned⟩
    · exact fun _ => same ▸ active_add_isSome
    · intro some
      rw [thinned.active]
      exact sound.manned fun none => some (List.sublist_nil.mp (none ▸ thinned.fewer))
  held := by
    rcases run_cases r now c with ⟨key, activates, -, same⟩ | ⟨-, thinned⟩
    · intro id active
      rw [same, active_add] at active
      rw [same, contains_add]
      split at active
      · exact .inl (Option.some.inj active).symm
      · exact .inr (sound.held id active)
    · intro id active
      rw [thinned.active] at active
      obtain ⟨k, member, rfl⟩ := contains_iff.mp (sound.held id active)
      exact contains_of_mem (thinned.spared k member active)
  retired k member := (sound.stems c member).retired_iff sound

end

theorem sound_empty : Sound {} := ⟨.nil, fun some => absurd rfl some, nofun, nofun⟩

theorem Sound.perform {r : KeyRing} (sound : r.Sound) (commands : List (Instant × Command)) :
    (r.perform commands).Sound := by
  induction commands generalizing r with
  | nil => exact sound
  | cons c rest ih => exact ih (sound.run c.2)

/-- A ring with an active key keeps one. -/
theorem active_run {r : KeyRing} (active : r.active.isSome) (now : Instant) (c : Command) :
    (r.run now c).2.active.isSome := by
  rcases run_cases r now c with ⟨key, activates, -, same⟩ | ⟨-, thinned⟩
  · exact same ▸ active_add_isSome
  · rw [thinned.active]
    exact active

theorem active_perform {r : KeyRing} (active : r.active.isSome) (commands : List (Instant × Command)) :
    (r.perform commands).active.isSome := by
  induction commands generalizing r with
  | nil => exact active
  | cons c rest ih => exact ih (active_run active c.1 c.2)

theorem active_of_installed {r : KeyRing} {commands : List (Instant × Command)} {c : Instant × Command}
    (member : c ∈ commands) (installs : c.2.key?.isSome) : (r.perform commands).active.isSome := by
  obtain ⟨before, after, rfl⟩ := List.append_of_mem member
  have here : ((r.perform before).run c.1 c.2).2.active.isSome := by
    rcases run_cases (r.perform before) c.1 c.2 with ⟨key, activates, -, same⟩ | ⟨none, -⟩
    · exact same ▸ active_add_isSome
    · simp [none] at installs
  rw [perform, List.foldl_append]
  exact active_perform here after

end Gatehouse.KeyRing
