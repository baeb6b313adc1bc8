import Gatehouse.Proofs.Except
import Gatehouse.Proofs.Token.Store
import Gatehouse.Token.Command
import Mathlib.Data.List.Induction

/-!
How long a revocation lasts in a store. It is kept in two places: in the record, and on the blacklist until
the expiry that the record had when it was revoked. As long as one of the two places is left alone the id
stays revoked, and unless records are brought in with revocations of their own it is the first one that is
shown.
-/
namespace Gatehouse.Token.Store

/-- The store after an operation. One that fails changes nothing. -/
def after (s : Store) (c : Backend.Command) : Store :=
  match ({ store := s } : Backend).run c with
  | .ok (_, b) => b.store
  | .error _ => s

def replay (s : Store) (cs : List Backend.Command) : Store := cs.foldl after s

theorem after_insert (s : Store) (t : Token) :
    s.after (.insert t) = s ∧ (s.find? t.id).isSome ∨
    s.find? t.id = none ∧ s.after (.insert t) = s.put (s.marked t) := by
  cases found : s.find? t.id with
  | none =>
    right
    have inserted : s.insert t = .ok (s.put (s.marked t)) := by simp only [insert, found]
    simp [after, Backend.run, Backend.insert, Backend.attempt, Backend.outage?, inserted, Except.map,
      Backend.withStore]
  | some r =>
    left
    have refused : s.insert t = .error (.alreadyExists t.id) := by simp only [insert, found]
    simp [after, Backend.run, Backend.insert, Backend.attempt, Backend.outage?, refused, Except.map]

theorem after_delete (s : Store) (id : String) :
    s.after (.delete id) = { s with records := s.records.filter (·.id ≠ id) } := by
  cases found : s.find? id with
  | none =>
    have refused : s.delete id = .error (.notFound id) := by simp only [delete, found]
    have kept : s.records.filter (·.id ≠ id) = s.records := by
      simpa using not_mem_of_find? found
    rw [kept]
    simp [after, Backend.run, Backend.delete, Backend.attempt, Backend.outage?, refused, Except.map]
  | some r =>
    have deleted : s.delete id = .ok { s with records := s.records.filter (·.id ≠ id) } := by
      simp only [delete, found]
    simp [after, Backend.run, Backend.delete, Backend.attempt, Backend.outage?, deleted, Except.map,
      Backend.withStore]

theorem after_revoke (s : Store) (id : String) (status : Revocation) :
    s.after (.revoke id status) = s ∨
    ∃ t, s.find? id = some t ∧ t.isRevoked = false ∧ s.after (.revoke id status) =
      (s.put { t with revocation := some status }).remember ⟨id, status, t.expiresAt⟩ := by
  cases revoked : s.revoke id status with
  | error e =>
    left
    simp [after, Backend.run, Backend.revoke, Backend.attempt, Backend.outage?, revoked, Except.map]
  | ok result =>
    obtain ⟨changed, u⟩ := result
    have same : s.after (.revoke id status) = u := by
      simp [after, Backend.run, Backend.revoke, Backend.attempt, Backend.outage?, revoked, Except.map,
        Backend.withStore]
    rw [same]
    rcases revoke_ok revoked with ⟨-, rfl⟩ | ⟨-, t, found, fresh, rfl⟩
    · exact .inl rfl
    · exact .inr ⟨t, found, fresh, rfl⟩

theorem after_get (s : Store) (id : String) : s.after (.get id) = s := by
  cases read : s.get id <;>
    simp [after, Backend.run, Backend.get, Backend.attempt, Backend.outage?, read, Except.map]

/-- The entry on the blacklist that counts for an id. -/
def entryOf? (s : Store) (id : String) : Option Blacklisted := s.blacklist.find? (·.id = id)

theorem blacklisted?_eq (s : Store) (id : String) : s.blacklisted? id = (s.entryOf? id).map (·.status) := rfl

theorem entryOf?_put (s : Store) (t : Token) (id : String) : (s.put t).entryOf? id = s.entryOf? id := by
  simp only [entryOf?, blacklist_put]

theorem entryOf?_remember {s : Store} {b : Blacklisted} {id : String} :
    (s.remember b).entryOf? id = (s.entryOf? id).or (if b.id = id then some b else none) := by
  unfold remember
  by_cases listed : (s.blacklisted? b.id).isSome
  · rw [if_pos listed]
    by_cases own : b.id = id
    · subst own
      obtain ⟨a, found⟩ := Option.isSome_iff_exists.mp listed
      obtain ⟨e, entry, -⟩ := Option.map_eq_some_iff.mp found
      simp [entryOf?, entry]
    · simp [own]
  · rw [if_neg listed]
    by_cases own : b.id = id <;> simp [entryOf?, own]

theorem mem_of_entryOf? {s : Store} {id : String} {b : Blacklisted} (entry : s.entryOf? id = some b) :
    b ∈ s.blacklist ∧ b.id = id :=
  ⟨List.mem_of_find?_eq_some entry, by simpa using List.find?_some entry⟩

theorem entryOf?_isSome {s : Store} {id : String} :
    (s.entryOf? id).isSome ↔ ∃ b ∈ s.blacklist, b.id = id := by
  simp [entryOf?]

theorem isRevoked_iff {s : Store} {id : String} :
    s.isRevoked id = true ↔ (s.entryOf? id).isSome ∨ ∃ r, s.find? id = some r ∧ r.isRevoked = true := by
  cases found : s.find? id <;> simp [isRevoked, blacklisted?_eq, found]

/-- Records under an id on the blacklist are revoked. -/
def Marked (s : Store) : Prop :=
  ∀ r ∈ s.records, (s.entryOf? r.id).isSome → r.isRevoked = true

theorem Marked.put {s : Store} (marked : s.Marked) {t : Token}
    (own : (s.entryOf? t.id).isSome → t.isRevoked = true) : (s.put t).Marked := by
  intro r member listed
  rw [entryOf?_put] at listed
  rcases mem_put.mp member with rfl | ⟨old, -⟩
  · exact own listed
  · exact marked r old listed

theorem Marked.fewer {s u : Store} (marked : s.Marked) (records : ∀ r ∈ u.records, r ∈ s.records)
    (blacklist : ∀ b ∈ u.blacklist, b ∈ s.blacklist) : u.Marked := by
  intro r member listed
  obtain ⟨b, there, own⟩ := entryOf?_isSome.mp listed
  exact marked r (records r member) (entryOf?_isSome.mpr ⟨b, blacklist b there, own⟩)

theorem isRevoked_marked {s : Store} {t : Token} (listed : (s.entryOf? t.id).isSome) :
    (s.marked t).isRevoked = true := by
  simp only [Token.isRevoked, marked, blacklisted?_eq, Option.isSome_or, Option.isSome_map, listed,
    Bool.or_true]

theorem Marked.after {s : Store} (marked : s.Marked) (c : Backend.Command) : (s.after c).Marked := by
  cases c with
  | insert t =>
    rcases after_insert s t with ⟨same, -⟩ | ⟨-, put⟩
    · rwa [same]
    · rw [put]
      exact marked.put fun listed => isRevoked_marked (t := t) listed
  | save t =>
    refine marked.put fun listed => ?_
    have revoked := isRevoked_marked (t := t) listed
    simp only [Token.isRevoked, Option.isSome_or] at revoked ⊢
    simp only [revoked, Bool.true_or]
  | delete id =>
    rw [after_delete]
    exact marked.fewer (fun r member => (List.mem_filter.mp member).1) fun b member => member
  | revoke id status =>
    rcases after_revoke s id status with same | ⟨t, found, -, revoked⟩
    · rwa [same]
    · rw [revoked]
      intro r member listed
      rcases mem_put.mp (mem_remember.mp member) with rfl | ⟨old, apart⟩
      · rfl
      · have own : t.id = id := (mem_of_find? found).2
        have other : ¬ id = r.id := fun same => apart (same.symm.trans own.symm)
        rw [entryOf?_remember, entryOf?_put] at listed
        simp only [other, if_false, Option.or_none] at listed
        exact marked r old listed
  | cleanup before =>
    exact marked.fewer (fun r member => (List.mem_filter.mp member).1)
      fun b member => (List.mem_filter.mp member).1
  | get id => rwa [after_get]
  | list _ | count _ | isRevoked _ => exact marked

theorem marked_replay {s : Store} (marked : s.Marked) (cs : List Backend.Command) : (s.replay cs).Marked := by
  induction cs generalizing s with
  | nil => exact marked
  | cons c rest ih => exact ih (marked.after c)

/-- Revoking an id that is revoked changes nothing. -/
theorem Marked.revoke_again {s : Store} (marked : s.Marked) {id : String} (revoked : s.isRevoked id = true)
    (status : Revocation) : s.revoke id status = .ok (false, s) := by
  unfold revoke
  cases found : s.find? id with
  | none =>
    have listed : (s.entryOf? id).isSome := by simpa [isRevoked_iff, found] using revoked
    have remembered : (s.blacklisted? id).isSome = true := by simpa [blacklisted?_eq] using listed
    simp only [remembered, if_true]
  | some t =>
    obtain ⟨member, own⟩ := mem_of_find? found
    have shown : t.isRevoked = true := by
      rcases isRevoked_iff.mp revoked with listed | ⟨r, there, shown⟩
      · exact marked t member (own ▸ listed)
      · rw [found] at there
        exact Option.some.inj there ▸ shown
    simp only [shown, if_true]

/-- Only revoking enters an id on the blacklist, until the expiry of its record. -/
theorem blacklist_after {s : Store} {c : Backend.Command} {b : Blacklisted}
    (member : b ∈ (s.after c).blacklist) :
    b ∈ s.blacklist ∨
      ∃ t, c = .revoke b.id b.status ∧ s.find? b.id = some t ∧ t.expiresAt = b.expiresAt := by
  cases c with
  | insert t =>
    left
    rcases after_insert s t with ⟨same, -⟩ | ⟨-, put⟩
    · rwa [same] at member
    · rwa [put, blacklist_put] at member
  | save t => exact .inl (blacklist_put s _ ▸ member)
  | delete id =>
    rw [after_delete] at member
    exact .inl member
  | revoke id status =>
    rcases after_revoke s id status with same | ⟨t, found, -, put⟩
    · exact .inl (same ▸ member)
    · rw [put] at member
      rcases mem_blacklist_remember member with old | rfl
      · exact .inl (blacklist_put s _ ▸ old)
      · exact .inr ⟨t, rfl, found, rfl⟩
  | cleanup before => exact .inl (List.mem_filter.mp member).1
  | get id => exact .inl (after_get s id ▸ member)
  | list _ | count _ | isRevoked _ => exact .inl member

theorem replay_append_singleton (s : Store) (cs : List Backend.Command) (c : Backend.Command) :
    s.replay (cs ++ [c]) = (s.replay cs).after c := by
  simp [replay]

theorem entered_by_revoking {cs : List Backend.Command} {b : Blacklisted}
    (member : b ∈ (Store.replay {} cs).blacklist) :
    ∃ pre post t, cs = pre ++ .revoke b.id b.status :: post ∧
      (Store.replay {} pre).find? b.id = some t ∧ t.expiresAt = b.expiresAt := by
  induction cs using List.reverseRecOn with
  | nil => cases member
  | append_singleton rest c ih =>
    rw [replay_append_singleton] at member
    rcases blacklist_after member with old | ⟨t, rfl, found, expiry⟩
    · obtain ⟨pre, post, t, rfl, found, expiry⟩ := ih old
      exact ⟨pre, post ++ [c], t, by simp, found, expiry⟩
    · exact ⟨rest, [], t, rfl, found, expiry⟩

def brought? : Backend.Command → Option Token
  | .insert t => some t
  | .save t => some t
  | _ => none

/-- No cleanup among operations cuts after an instant. -/
def Spared (expiry : Instant) (cs : List Backend.Command) : Prop :=
  ∀ before, .cleanup before ∈ cs → before ≤ expiry

/-- Operations that leave alone one of the places where the revocation of an id is kept: its entry on the
blacklist, or else its record, with whatever that is replaced by. -/
inductive Shielded (s : Store) (id : String) (cs : List Backend.Command) : Prop
  | listed (b : Blacklisted) (entry : s.entryOf? id = some b) (spared : Spared b.expiresAt cs)
  | recorded (r : Token) (found : s.find? id = some r) (revoked : r.isRevoked = true)
      (kept : .delete id ∉ cs) (spared : Spared r.expiresAt cs)
      (replaced : ∀ t, .save t ∈ cs → t.id = id → Spared t.expiresAt cs)

theorem Shielded.isRevoked {s : Store} {id : String} {cs : List Backend.Command}
    (shielded : Shielded s id cs) : s.isRevoked id = true := by
  cases shielded with
  | listed b entry _ => exact isRevoked_iff.mpr (.inl (by rw [entry]; rfl))
  | recorded r found revoked _ _ _ => exact isRevoked_iff.mpr (.inr ⟨r, found, revoked⟩)

theorem entryOf?_after {s : Store} {id : String} {b : Blacklisted} (entry : s.entryOf? id = some b)
    {c : Backend.Command} (spared : Spared b.expiresAt [c]) : (s.after c).entryOf? id = some b := by
  cases c with
  | insert t =>
    rcases after_insert s t with ⟨same, -⟩ | ⟨-, put⟩
    · rwa [same]
    · rwa [put, entryOf?_put]
  | save t => exact (entryOf?_put ..).trans entry
  | delete i => rwa [after_delete]
  | revoke i status =>
    rcases after_revoke s i status with same | ⟨t, -, -, revoked⟩
    · rwa [same]
    · rw [revoked, entryOf?_remember, entryOf?_put, entry]
      rfl
  | cleanup before =>
    have kept : before ≤ b.expiresAt := spared before List.mem_cons_self
    exact find?_filter_of_kept entry (by simpa using kept)
  | get i => rwa [after_get]
  | list _ | count _ | isRevoked _ => exact entry

/-- The record of a revoked id goes with a deletion, a cleanup, or the record that replaces it. -/
theorem find?_after {s : Store} {id : String} {r : Token} (found : s.find? id = some r)
    (revoked : r.isRevoked = true) {c : Backend.Command} (kept : c ≠ .delete id)
    (spared : Spared r.expiresAt [c]) :
    ∃ u, (s.after c).find? id = some u ∧ u.isRevoked = true ∧
      (u = r ∨ ∃ t, c = .save t ∧ t.id = id ∧ u.expiresAt = t.expiresAt) := by
  cases c with
  | insert t =>
    rcases after_insert s t with ⟨same, -⟩ | ⟨free, put⟩
    · exact ⟨r, by rwa [same], revoked, .inl rfl⟩
    · have other : ¬ id = t.id := fun same => by
        rw [same, free] at found
        cases found
      refine ⟨r, ?_, revoked, .inl rfl⟩
      rw [put, find?_put]
      exact (if_neg other).trans found
  | save t =>
    by_cases own : id = t.id
    · refine ⟨_, (find?_put ..).trans (if_pos own), ?_, .inr ⟨t, rfl, own.symm, rfl⟩⟩
      have there : s.find? t.id = some r := own ▸ found
      simp only [Token.isRevoked] at revoked
      simp [Token.isRevoked, marked, there, revoked]
    · exact ⟨r, (find?_put ..).trans ((if_neg own).trans found), revoked, .inl rfl⟩
  | delete i =>
    have other : r.id ≠ i := fun same => kept (by rw [← same, (mem_of_find? found).2])
    refine ⟨r, ?_, revoked, .inl rfl⟩
    rw [after_delete]
    exact find?_filter_of_kept found (by simpa using other)
  | revoke i status =>
    rcases after_revoke s i status with same | ⟨t, there, fresh, put⟩
    · exact ⟨r, by rwa [same], revoked, .inl rfl⟩
    · have other : ¬ id = t.id := fun same => by
        rw [same, (mem_of_find? there).2, there] at found
        rw [Option.some.inj found, revoked] at fresh
        cases fresh
      refine ⟨r, ?_, revoked, .inl rfl⟩
      rw [put, find?_remember, find?_put]
      exact (if_neg other).trans found
  | cleanup before =>
    have live : before ≤ r.expiresAt := spared before List.mem_cons_self
    exact ⟨r, find?_filter_of_kept found (by simpa using live), revoked, .inl rfl⟩
  | get i => exact ⟨r, by rwa [after_get], revoked, .inl rfl⟩
  | list _ | count _ | isRevoked _ => exact ⟨r, found, revoked, .inl rfl⟩

theorem Spared.head {expiry : Instant} {c : Backend.Command} {cs : List Backend.Command}
    (spared : Spared expiry (c :: cs)) : Spared expiry [c] := by
  intro before member
  obtain rfl := List.mem_singleton.mp member
  exact spared before List.mem_cons_self

theorem Spared.tail {expiry : Instant} {c : Backend.Command} {cs : List Backend.Command}
    (spared : Spared expiry (c :: cs)) : Spared expiry cs :=
  fun before member => spared before (List.mem_cons_of_mem _ member)

theorem Shielded.after {s : Store} {id : String} {c : Backend.Command} {cs : List Backend.Command}
    (shielded : Shielded s id (c :: cs)) : Shielded (s.after c) id cs := by
  cases shielded with
  | listed b entry spared => exact .listed b (entryOf?_after entry spared.head) spared.tail
  | recorded r found revoked kept spared replaced =>
    obtain ⟨u, there, still, which⟩ :=
      find?_after found revoked (fun same => kept (same ▸ List.mem_cons_self)) spared.head
    refine .recorded u there still (fun member => kept (List.mem_cons_of_mem _ member)) ?_
      fun t member own => (replaced t (List.mem_cons_of_mem _ member) own).tail
    rcases which with rfl | ⟨t, rfl, own, same⟩
    · exact spared.tail
    · rw [same]
      exact (replaced t List.mem_cons_self own).tail

theorem Shielded.replay {s : Store} {id : String} {cs : List Backend.Command}
    (shielded : Shielded s id cs) : (s.replay cs).isRevoked id = true := by
  induction cs generalizing s with
  | nil => exact shielded.isRevoked
  | cons c rest ih => exact ih shielded.after

/-- Wherever an id may have a revocation it has this one, or none anywhere. -/
structure Shows (s : Store) (id : String) (v : Option Revocation) : Prop where
  listed : ∀ b ∈ s.blacklist, b.id = id → some b.status = v
  shown : ∀ r ∈ s.records, r.id = id → r.revocation = v

/-- A record that an operation brings in under an id has no revocation of its own. -/
def Plain (id : String) (c : Backend.Command) : Prop :=
  ∀ t, brought? c = some t → t.id = id → t.revocation = none

theorem Shows.fewer {s u : Store} {id : String} {v : Option Revocation} (shows : Shows s id v)
    (records : ∀ r ∈ u.records, r ∈ s.records) (blacklist : ∀ b ∈ u.blacklist, b ∈ s.blacklist) :
    Shows u id v :=
  ⟨fun b member => shows.listed b (blacklist b member), fun r member => shows.shown r (records r member)⟩

theorem Shows.put {s : Store} {id : String} {v : Option Revocation} (shows : Shows s id v) {t : Token}
    (same : t.id = id → t.revocation = v) : Shows (s.put t) id v := by
  refine ⟨by rw [blacklist_put]; exact shows.listed, fun r member own => ?_⟩
  rcases mem_put.mp member with rfl | ⟨old, -⟩
  · exact same own
  · exact shows.shown r old own

theorem Shows.remember {s : Store} {id : String} {v : Option Revocation} (shows : Shows s id v)
    {b : Blacklisted} (same : b.id = id → some b.status = v) : Shows (s.remember b) id v := by
  refine ⟨fun a member own => ?_, fun r member => shows.shown r (mem_remember.mp member)⟩
  rcases mem_blacklist_remember member with old | rfl
  · exact shows.listed a old own
  · exact same own

theorem Shows.cleared {s : Store} {id : String} {v : Option Revocation} (shows : Shows s id v)
    (free : s.isRevoked id = false) : Shows s id none := by
  cases v with
  | none => exact shows
  | some w =>
    have revoked := mt isRevoked_iff.mpr (Bool.eq_false_iff.mp free)
    refine ⟨fun b member own => ?_, fun r member own => ?_⟩
    · exact absurd (.inl (entryOf?_isSome.mpr ⟨b, member, own⟩)) revoked
    · cases found : s.find? id with
      | none => exact absurd own (not_mem_of_find? found r member)
      | some t =>
        obtain ⟨there, this⟩ := mem_of_find? found
        refine absurd (.inr ⟨t, found, ?_⟩) revoked
        simp [Token.isRevoked, shows.shown t there this]

theorem Shows.isSome {s : Store} {id : String} {v : Option Revocation} (shows : Shows s id v)
    (revoked : s.isRevoked id = true) : ∃ w, v = some w := by
  rcases isRevoked_iff.mp revoked with listed | ⟨r, found, shown⟩
  · obtain ⟨b, member, own⟩ := entryOf?_isSome.mp listed
    exact ⟨b.status, (shows.listed b member own).symm⟩
  · obtain ⟨member, own⟩ := mem_of_find? found
    rw [← shows.shown r member own]
    exact Option.isSome_iff_exists.mp shown

/-- Where an id is revoked, or shows no revocation, what is stored under it anew shows the same. -/
theorem Shows.stored {s : Store} {id : String} {v : Option Revocation} (shows : Shows s id v)
    (settled : v.isSome → s.isRevoked id = true) {t : Token} (own : t.id = id) (plain : t.revocation = none) :
    (s.marked t).revocation.or ((s.find? id).bind (·.revocation)) = v := by
  have marks : (s.marked t).revocation = (s.entryOf? id).map (·.status) := by
    simp [marked, plain, blacklisted?_eq, own]
  rw [marks]
  cases entry : s.entryOf? id with
  | some b =>
    obtain ⟨member, there⟩ := mem_of_entryOf? entry
    exact shows.listed b member there
  | none =>
    cases found : s.find? id with
    | some r =>
      obtain ⟨member, there⟩ := mem_of_find? found
      exact shows.shown r member there
    | none =>
      cases v with
      | none => rfl
      | some w => simp [isRevoked_iff, entry, found] at settled

/-- Only an operation that revokes changes what an id shows, and only if that was nothing. -/
theorem Shows.after {s : Store} {id : String} {v : Option Revocation} (shows : Shows s id v)
    (settled : v.isSome → s.isRevoked id = true) {c : Backend.Command} (plain : Plain id c) :
    Shows (s.after c) id v ∨ v = none ∧ ∃ w, Shows (s.after c) id (some w) := by
  cases c with
  | insert t =>
    left
    rcases after_insert s t with ⟨same, -⟩ | ⟨free, put⟩
    · rwa [same]
    · rw [put]
      refine shows.put fun own => ?_
      have own : t.id = id := own
      simpa [own ▸ free] using shows.stored settled own (plain t rfl own)
  | save t =>
    left
    refine shows.put fun own => ?_
    obtain rfl : t.id = id := own
    exact shows.stored settled rfl (plain t rfl rfl)
  | delete i =>
    left
    rw [after_delete]
    exact shows.fewer (fun r member => (List.mem_filter.mp member).1) fun b member => member
  | revoke i status =>
    rcases after_revoke s i status with same | ⟨t, found, fresh, put⟩
    · left
      rwa [same]
    · obtain ⟨member, there⟩ := mem_of_find? found
      rw [put]
      by_cases own : t.id = id
      · right
        have none : v = none := by
          simpa [← shows.shown t member own, Token.isRevoked] using fresh
        subst none
        refine ⟨rfl, status, fun b listed this => ?_, fun r shown this => ?_⟩
        · rcases mem_blacklist_remember listed with old | rfl
          · rw [blacklist_put] at old
            exact absurd (shows.listed b old this) (by simp)
          · rfl
        · rcases mem_put.mp (mem_remember.mp shown) with rfl | ⟨-, apart⟩
          · rfl
          · exact absurd (this.trans own.symm) apart
      · left
        exact (shows.put (t := { t with revocation := some status }) fun this => absurd this own).remember
          fun this => absurd (there.trans this) own
  | cleanup before =>
    left
    exact shows.fewer (fun r member => (List.mem_filter.mp member).1)
      fun b member => (List.mem_filter.mp member).1
  | get i => exact .inl (by rwa [after_get])
  | list _ | count _ | isRevoked _ => exact .inl shows

theorem shows_replay {s : Store} {id : String} (shows : ∃ v, Shows s id v) {cs : List Backend.Command}
    (plain : ∀ c ∈ cs, Plain id c) : ∃ v, Shows (s.replay cs) id v := by
  induction cs generalizing s with
  | nil => exact shows
  | cons c rest ih =>
    refine ih ?_ fun d member => plain d (List.mem_cons_of_mem _ member)
    obtain ⟨v, shows⟩ := shows
    have first := plain c List.mem_cons_self
    cases revoked : s.isRevoked id with
    | true =>
      rcases shows.after (fun _ => revoked) first with same | ⟨-, w, now⟩
      · exact ⟨v, same⟩
      · exact ⟨some w, now⟩
    | false =>
      rcases (shows.cleared revoked).after (by simp) first with same | ⟨-, w, now⟩
      · exact ⟨none, same⟩
      · exact ⟨some w, now⟩

/-- As long as its revocation is left alone an id goes on showing it. -/
theorem Shielded.shows {s : Store} {id : String} {v : Revocation} {cs : List Backend.Command}
    (shielded : Shielded s id cs) (shows : Shows s id (some v)) (plain : ∀ c ∈ cs, Plain id c) :
    Shows (s.replay cs) id (some v) := by
  induction cs generalizing s with
  | nil => exact shows
  | cons c rest ih =>
    refine ih shielded.after ?_ fun d member => plain d (List.mem_cons_of_mem _ member)
    rcases shows.after (fun _ => shielded.isRevoked) (plain c List.mem_cons_self) with same | ⟨none, -⟩
    · exact same
    · cases none

theorem Shows.get {s : Store} {id : String} {v : Option Revocation} (shows : Shows s id v) {t : Token}
    (read : s.get id = .ok t) : t.revocation = v := by
  obtain ⟨member, own⟩ := mem_of_find? (get_ok read)
  exact shows.shown t member own

/-- In every run of a store an id that is revoked stays revoked, whatever is brought in, as long as what comes
later leaves its entry on the blacklist or its record alone; and an entry is lost only to a cleanup that cuts
after the expiry which the record had when it was revoked. Revoking again changes nothing. And the record
shows one revocation all the time, unless one was brought in that had its own. -/
theorem revocation_lasts (earlier later : List Backend.Command) (id : String) :
    let s := Store.replay {} earlier
    let u := s.replay later
    s.isRevoked id = true → Shielded s id later →
      u.isRevoked id = true ∧ (∀ status, u.revoke id status = .ok (false, u)) ∧
      (∀ b, s.entryOf? id = some b → ∃ pre post t, earlier = pre ++ .revoke id b.status :: post ∧
        (Store.replay {} pre).find? id = some t ∧ t.expiresAt = b.expiresAt) ∧
      ((∀ c ∈ earlier ++ later, Plain id c) →
        ∃ v, ∀ t, s.get id = .ok t ∨ u.get id = .ok t → t.revocation = some v) := by
  intro s u revoked shielded
  have still : u.isRevoked id = true := shielded.replay
  have new : Marked {} := fun r none => absurd none List.not_mem_nil
  have marked : u.Marked := marked_replay (marked_replay new earlier) later
  refine ⟨still, marked.revoke_again still, fun b entry => ?_, fun plain => ?_⟩
  · obtain ⟨member, rfl⟩ := mem_of_entryOf? entry
    exact entered_by_revoking member
  · have nothing : Shows {} id none := ⟨by simp, by simp⟩
    obtain ⟨v, before⟩ := shows_replay ⟨none, nothing⟩ fun c member => plain c (List.mem_append_left _ member)
    obtain ⟨w, rfl⟩ := before.isSome revoked
    have now := shielded.shows before fun c member => plain c (List.mem_append_right _ member)
    exact ⟨w, fun t read => read.elim before.get now.get⟩

namespace Lapse

def token (expiry : Int) (revocation : Option Revocation) : Token :=
  { id := "x", kind := .access, subject := "alice", issuer := "warden", issuedAt := ⟨0, 0⟩
    notBefore := ⟨0, 0⟩, expiresAt := ⟨expiry, 0⟩, revocation }

def logout : Revocation := ⟨⟨600, 0⟩, some "admin", "logout"⟩

def theft : Revocation := ⟨⟨900, 0⟩, none, "theft"⟩

/-- A revocation outlives the deletion of its record and is shown by the record that is saved again. -/
theorem logout_outlives_record :
    let s := Store.replay {} [.save (token 3600 none), .revoke "x" logout]
    let u := s.replay [.delete "x", .cleanup ⟨3600, 0⟩, .save (token 7200 none), .revoke "x" theft]
    s.get "x" = .ok (token 3600 (some logout)) ∧ u.isRevoked "x" = true ∧
      ∀ t, u.get "x" = .ok t → t.revocation = some logout := by
  have shown : (Store.replay {} [.save (token 3600 none), .revoke "x" logout]).get "x" =
      .ok (token 3600 (some logout)) := ok_of_toOption (by decide +kernel)
  obtain ⟨still, -, -, same⟩ := revocation_lasts [.save (token 3600 none), .revoke "x" logout]
    [.delete "x", .cleanup ⟨3600, 0⟩, .save (token 7200 none), .revoke "x" theft] "x" (by decide +kernel)
    (.listed ⟨"x", logout, ⟨3600, 0⟩⟩ (by decide +kernel) (by
      intro before member
      obtain rfl : before = ⟨3600, 0⟩ := by simpa using member
      decide))
  obtain ⟨v, shows⟩ := same (by
    intro c member t brought own
    simp only [List.cons_append, List.nil_append, List.mem_cons, List.not_mem_nil, or_false] at member
    rcases member with rfl | rfl | rfl | rfl | rfl | rfl <;> cases brought <;> rfl)
  refine ⟨shown, still, fun t read => ?_⟩
  rw [shows t (.inr read), ← shows _ (.inl shown)]
  rfl

/-- A revocation that came with a record goes when the record is deleted; one of its own lets a record forget
the first; and a record that was saved again with an earlier expiry is cleaned away with its revocation before
all that were stored under the id have expired. -/
theorem revocation_lost :
    let brought := Store.replay {} [.save (token 3600 (some logout))]
    let revoked := Store.replay {} [.save (token 3600 none), .revoke "x" logout]
    let shortened := Store.replay {} [.save (token 7200 none), .save (token 1800 none), .revoke "x" logout]
    (brought.isRevoked "x" = true ∧ (brought.replay [.delete "x"]).isRevoked "x" = false) ∧
    (revoked.get "x" = .ok (token 3600 (some logout)) ∧
      (revoked.replay [.save (token 3600 (some theft))]).get "x" = .ok (token 3600 (some theft))) ∧
    (shortened.isRevoked "x" = true ∧ (shortened.replay [.cleanup ⟨3600, 0⟩]).isRevoked "x" = false) :=
  ⟨by decide +kernel, ⟨ok_of_toOption (by decide +kernel), ok_of_toOption (by decide +kernel)⟩,
    by decide +kernel⟩

end Lapse

end Gatehouse.Token.Store
