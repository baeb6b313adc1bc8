import Gatehouse.Proofs.Authority.Agreement
import Gatehouse.Proofs.Token.Revocation

/-!
The records of an authority. Issuing a token adds its record or does nothing, and all that an authority does to its
store comes down to issuing, revoking and cleaning up: a rotation that takes its new token back was never there. So
what each of the three preserves holds of every record, and every record goes back to the command that signed it.
-/
namespace Gatehouse.Authority
open Token (Store)

/-- All commands but those that go to the store past the authority. -/
def Command.isService : Command → Bool
  | .store _ => false
  | _ => true

def adding (a : Authority) (t : Token) : Authority :=
  a.withStore { a.store with records := a.store.records ++ [{ t with revocation := a.store.blacklisted? t.id }] }

theorem issue_adds {a b : Authority} {now : Instant} {fresh : String} {r : Token.Request} {t : Token}
    (issued : a.issue now fresh r = .ok (t, b)) : a.store.find? t.id = none ∧ b = a.adding t := by
  obtain ⟨⟨keyId, d, -, drafted, rfl, free⟩, rfl⟩ := issue_ok issued
  have plain : (d.signWith keyId).revocation = none := (draft_ok drafted).1
  refine ⟨free, ?_⟩
  have absent : a.store.find? (a.store.marked (d.signWith keyId)).id = none := free
  simp only [Effect.apply, adding, Store.put, absent]
  rw [Store.marked, plain, Option.none_or]

/-- What issuing, exchanging and revoking tokens does to the store. -/
def Effect.Trades (now : Instant) : Effect → Prop
  | issued m _ _ _ => m = now
  | revoked _ _ => True
  | _ => False

def Traded (now : Instant) (a b : Authority) : Prop := ∃ es, (∀ e ∈ es, e.Trades now) ∧ Explains a es b

/-- What a command comes to for the store. -/
inductive Course (now : Instant) (a : Authority) : Authority → Prop where
  | idle {b : Authority} (same : b.store = a.store) : Course now a b
  | cleaned (before : Instant) : Course now a ((Effect.cleaned before).apply a)
  | traded {b : Authority} (traded : Traded now a b) : Course now a b

section
variable {a b c : Authority} {now : Instant}

theorem Traded.refl (a : Authority) : Traded now a a :=
  ⟨[], fun _ none => absurd none List.not_mem_nil, rfl⟩

theorem Traded.trans (first : Traded now a b) (second : Traded now b c) : Traded now a c := by
  obtain ⟨es, trades, explains⟩ := first
  obtain ⟨fs, trades', explains'⟩ := second
  exact ⟨es ++ fs, List.forall_mem_append.mpr ⟨trades, trades'⟩, explains.append explains'⟩

theorem Traded.single {e : Effect} (trades : e.Trades now) (allowed : e.Allowed a) : Traded now a (e.apply a) :=
  ⟨[e], by simpa using trades, .single allowed⟩

theorem traded_discard {fresh : String} {r : Token.Request} {t : Token}
    (allowed : (Effect.issued now fresh r t).Allowed a) :
    Traded now a (((Effect.issued now fresh r t).apply a).discard t.id) := by
  have free : a.store.find? t.id = none := by
    obtain ⟨_, _, -, -, -, free⟩ := allowed
    exact free
  have deleted : (a.store.put (a.store.marked t)).delete t.id = .ok a.store :=
    @Store.delete_put a.store (a.store.marked t) free
  cases outcome : ((Effect.issued now fresh r t).apply a).backend.delete t.id with
  | error e =>
    have kept : ((Effect.issued now fresh r t).apply a).discard t.id = (Effect.issued now fresh r t).apply a := by
      simp only [discard, outcome]
    rw [kept]
    exact .single rfl allowed
  | ok backend =>
    obtain ⟨s, stored, rfl⟩ := map_ok (attempt_ok outcome)
    obtain rfl := Except.ok.inj (deleted.symm.trans stored)
    have gone : ((Effect.issued now fresh r t).apply a).discard t.id = a := by
      simp only [discard, outcome]
      rfl
    rw [gone]
    exact .refl a

theorem traded_rotate (a : Authority) (now stamp : Instant) (fresh : String) (old : Token) (r : Token.Request) :
    Traded now a (a.rotate now stamp fresh old r).2 := by
  unfold rotate
  cases a.get old.id with
  | error e => exact .refl a
  | ok _ =>
    cases a.validate now old {} with
    | error e => exact .refl a
    | ok current =>
      simp only
      cases issued : a.issue now fresh (successorOf current r) with
      | error e => exact .refl a
      | ok result =>
        obtain ⟨t, b⟩ := result
        obtain ⟨allowed, rfl⟩ := issue_ok issued
        simp only
        cases revoked : ((Effect.issued now fresh (successorOf current r) t).apply a).backend.revoke current.id
            ⟨stamp, none, "rotated"⟩ with
        | error e => exact traded_discard allowed
        | ok outcome =>
          obtain ⟨changed, backend⟩ := outcome
          cases changed with
          | false => exact traded_discard allowed
          | true =>
            have issues : Traded now a ((Effect.issued now fresh (successorOf current r) t).apply a) :=
              .single rfl allowed
            refine issues.trans ⟨_, fun e member => ?_, explains_revoke revoked⟩
            rw [mem_revokeEffects member]
            trivial

theorem traded_turns (now stamp : Instant) (callers : List (Nat × Rotation)) (l : Locks) (a : Authority) :
    Traded now a (takeTurns now stamp callers l a).2 := by
  induction callers generalizing l a with
  | nil => exact .refl a
  | cons caller rest ih =>
    obtain ⟨number, r⟩ := caller
    simp only [takeTurns]
    split
    · exact (traded_rotate ..).trans (ih ..)
    · exact ih ..

theorem course_look {α : Type} (a : Authority) (now : Instant) (r : Except Token.Error α) (form : α → Answer) :
    Course now a (a.settle (r.map (·, a)) form).2 :=
  .idle (congrArg store (explains_look a r form))

theorem course_run (a : Authority) (o : Outside) {c : Command} (service : c.isService = true) :
    Course o.now a (a.run o c).2 := by
  cases c with
  | issue r =>
    refine .traded ⟨_, fun e member => ?_, explains_run a o rfl⟩
    obtain ⟨t, rfl⟩ := mem_issueEffects member
    rfl
  | rotate old r =>
    have same : (a.run o (.rotate old r)).2 = (a.rotate o.now o.stamp (o.freshId 0) old r).2 := by
      simp only [run]
      split
      next rotated => rw [rotated]
      next failed => rw [failed]
    rw [same]
    exact .traded (traded_rotate ..)
  | rotateMany old r n =>
    simp only [run, rotateTogether_eq]
    exact .traded (traded_turns ..)
  | refresh t =>
    refine .traded ⟨_, fun e member => ?_, explains_run a o rfl⟩
    simp only [effects, refreshEffects] at member
    split at member
    · split at member
      · obtain ⟨u, rfl⟩ := mem_issueEffects member
        rfl
      · cases member
    · cases member
  | revoke id reason revokedBy =>
    refine .traded ⟨_, fun e member => ?_, explains_run a o rfl⟩
    rw [mem_revokeEffects member]
    trivial
  | cleanup =>
    have explains := explains_run a o (c := .cleanup) rfl
    simp only [effects, cleanEffects] at explains
    split at explains
    · exact .idle (congrArg store explains)
    · split at explains
      · rw [explains.2]
        exact .cleaned _
      · exact .idle (congrArg store explains)
  | pruneKeys | switch _ _ | keys _ => exact .idle rfl
  | validate _ _ | authenticate _ _ | get _ | list _ | count _ => exact course_look ..
  | store d => cases service

end

/-- What holds of every store that only an authority writes to. -/
structure Sound (s : Store) : Prop where
  own : ∀ r ∈ s.records, s.find? r.id = some r
  times : ∀ r ∈ s.records, r.notBefore ≤ r.expiresAt ∧ r.issuedAt ≤ r.expiresAt
  /-- The revocation of a record is remembered, as long as the record is kept. -/
  entered : ∀ r ∈ s.records, ∀ status, r.revocation = some status →
    s.entryOf? r.id = some ⟨r.id, status, r.expiresAt⟩
  /-- No revocation is remembered without a record, or for longer. -/
  recorded : ∀ b ∈ s.blacklist, ∃ r ∈ s.records, r.id = b.id ∧ r.isRevoked = true ∧ r.expiresAt = b.expiresAt

namespace Sound
variable {s : Store} {t : Token}

theorem new : Sound {} :=
  ⟨fun _ none => absurd none List.not_mem_nil, fun _ none => absurd none List.not_mem_nil,
    fun _ none => absurd none List.not_mem_nil, fun _ none => absurd none List.not_mem_nil⟩

theorem unlisted (sound : Sound s) {id : String} (live : ∀ r ∈ s.records, r.id = id → r.isRevoked = false) :
    s.entryOf? id = none := by
  cases entry : s.entryOf? id with
  | none => rfl
  | some b =>
    obtain ⟨listed, rfl⟩ := Store.mem_of_entryOf? entry
    obtain ⟨r, member, own, revoked, -⟩ := sound.recorded b listed
    rw [live r member own] at revoked
    cases revoked

/-- A new token is stored without a revocation, since none is remembered for a free id. -/
theorem insert (sound : Sound s) (free : s.find? t.id = none) (plain : t.revocation = none)
    (times : t.notBefore ≤ t.expiresAt ∧ t.issuedAt ≤ t.expiresAt) : Sound (s.put (s.marked t)) := by
  have apart := Store.not_mem_of_find? free
  have unlisted := sound.unlisted fun r member own => absurd own (apart r member)
  have unmarked : s.marked t = t := by
    rw [Store.marked, Store.blacklisted?_eq, unlisted, plain]
    simp [← plain]
  rw [unmarked]
  constructor
  case own => exact Store.own_put sound.own
  case times => exact Store.forall_mem_put times sound.times
  case entered =>
    intro r member status revoked
    rw [Store.entryOf?_put]
    rcases Store.mem_put.mp member with rfl | ⟨old, -⟩
    · rw [plain] at revoked
      cases revoked
    · exact sound.entered r old status revoked
  case recorded =>
    intro b listed
    rw [Store.blacklist_put] at listed
    obtain ⟨r, member, kept⟩ := sound.recorded b listed
    exact ⟨r, Store.mem_put.mpr (.inr ⟨member, apart r member⟩), kept⟩

/-- Revoking a record enters it with its expiry, since nothing is remembered for a record that is live. -/
theorem revoke (sound : Sound s) {id : String} (found : s.find? id = some t) (live : t.isRevoked = false)
    (status : Token.Revocation) :
    Sound ((s.put { t with revocation := some status }).remember ⟨id, status, t.expiresAt⟩) := by
  obtain ⟨there, rfl⟩ := Store.mem_of_find? found
  have unlisted : s.entryOf? t.id = none := sound.unlisted fun r member own => by
    rw [← own, sound.own r member] at found
    exact Option.some.inj found ▸ live
  have records : ∀ r, r ∈ ((s.put { t with revocation := some status }).remember
      ⟨t.id, status, t.expiresAt⟩).records ↔
      r = { t with revocation := some status } ∨ r ∈ s.records ∧ r.id ≠ t.id :=
    fun r => Store.mem_remember.trans Store.mem_put
  constructor
  case own =>
    intro r member
    rw [Store.records_remember] at member
    rw [Store.find?_remember]
    exact Store.own_put sound.own r member
  case times =>
    rw [Store.records_remember]
    exact Store.forall_mem_put (sound.times t there) sound.times
  case entered =>
    intro r member status' revoked
    rw [Store.entryOf?_remember, Store.entryOf?_put]
    rcases (records r).mp member with rfl | ⟨old, other⟩
    · obtain rfl := Option.some.inj revoked
      simp [unlisted]
    · rw [sound.entered r old status' revoked]
      rfl
  case recorded =>
    intro b listed
    rcases Store.mem_blacklist_remember listed with old | rfl
    · rw [Store.blacklist_put] at old
      obtain ⟨r, member, own, revoked, expiry⟩ := sound.recorded b old
      have other : r.id ≠ t.id := fun same => by
        rw [← same, sound.own r member] at found
        rw [Option.some.inj found, live] at revoked
        cases revoked
      exact ⟨r, (records r).mpr (.inr ⟨member, other⟩), own, revoked, expiry⟩
    · exact ⟨_, (records _).mpr (.inl rfl), rfl, rfl, rfl⟩

/-- A record and its entry are removed at once, since both have the same expiry. -/
theorem cleanup (sound : Sound s) (before : Instant) : Sound (s.cleanup before).2 := by
  constructor
  case own =>
    intro r member
    obtain ⟨old, kept⟩ := List.mem_filter.mp member
    exact Store.find?_filter_of_kept (sound.own r old) kept
  case times => exact fun r member => sound.times r (List.mem_filter.mp member).1
  case entered =>
    intro r member status revoked
    obtain ⟨old, kept⟩ := List.mem_filter.mp member
    exact Store.find?_filter_of_kept (sound.entered r old status revoked) kept
  case recorded =>
    intro b listed
    obtain ⟨old, kept⟩ := List.mem_filter.mp listed
    obtain ⟨r, member, own, revoked, expiry⟩ := sound.recorded b old
    exact ⟨r, List.mem_filter.mpr ⟨member, expiry ▸ kept⟩, own, revoked, expiry⟩

variable {a b : Authority} {now : Instant}

theorem trade (sound : Sound a.store) {e : Effect} (trades : e.Trades now) (allowed : e.Allowed a) :
    Sound (e.apply a).store := by
  cases e with
  | issued m fresh r t =>
    obtain ⟨keyId, d, -, drafted, rfl, free⟩ := allowed
    obtain ⟨-, _, -, -, begins, lasts⟩ := draft_eq_ok.mp drafted
    exact sound.insert free (draft_ok drafted).1
      ⟨Instant.le_of_not_lt begins, Instant.le_of_not_lt lasts⟩
  | revoked id status =>
    obtain ⟨t, found, live⟩ := allowed
    simp only [Effect.apply, found]
    exact sound.revoke found live status
  | _ => exact trades.elim

theorem traded (sound : Sound a.store) {es : List Effect} (trades : ∀ e ∈ es, e.Trades now)
    (explains : Explains a es b) : Sound b.store := by
  induction es generalizing a with
  | nil =>
    cases explains
    exact sound
  | cons e rest ih =>
    obtain ⟨first, others⟩ := List.forall_mem_cons.mp trades
    exact ih (sound.trade first explains.1) others explains.2

theorem course (sound : Sound a.store) (course : Course now a b) : Sound b.store := by
  cases course with
  | idle same => rwa [same]
  | cleaned before => exact sound.cleanup before
  | traded traded =>
    obtain ⟨es, trades, explains⟩ := traded
    exact sound.traded trades explains

theorem perform (sound : Sound a.store) {commands : List (Outside × Command)}
    (service : ∀ c ∈ commands, c.2.isService = true) : Sound (a.perform commands).store := by
  induction commands generalizing a with
  | nil => exact sound
  | cons c rest ih =>
    obtain ⟨first, others⟩ := List.forall_mem_cons.mp service
    exact ih (sound.course (course_run a c.1 first)) others

end Sound

/-- What a token is when it is issued: under an id that is free, and signed with the key that is active. -/
structure New (a : Authority) (now : Instant) (r : Token) : Prop where
  free : a.store.find? r.id = none
  signed : ∃ k, a.keys.signer? = some k ∧ r.keyId = some k ∧ r.value = some (.envelope (.sign (r.claims k)))
  issuedAt : r.issuedAt = now.truncated

section
variable {a b : Authority} {now : Instant}

theorem New.revoked {t r : Token} (new : New a now t) (same : r = { t with revocation := r.revocation }) :
    New a now r := by
  rw [same]
  exact ⟨new.free, new.signed, new.issuedAt⟩

theorem New.before {e : Effect} (trades : e.Trades now) {r : Token} (new : New (e.apply a) now r) : New a now r := by
  have absent := new.free
  cases e with
  | issued m fresh q t =>
    exact ⟨Store.free_of_put absent, new.signed, new.issuedAt⟩
  | revoked id status =>
    cases found : a.store.find? id with
    | none =>
      simp only [Effect.apply, found] at new
      exact new
    | some t =>
      simp only [Effect.apply, found] at new absent
      exact ⟨Store.free_of_put ((Store.find?_remember ..).symm.trans absent), new.signed, new.issuedAt⟩
  | _ => exact trades.elim

/-- Apart from its revocation, a record was there before or is new. -/
theorem origin_of_trade {e : Effect} (trades : e.Trades now) (allowed : e.Allowed a) {r : Token}
    (member : r ∈ (e.apply a).store.records) :
    (∃ q ∈ a.store.records, r = { q with revocation := r.revocation }) ∨ New a now r := by
  cases e with
  | issued m fresh q t =>
    obtain ⟨keyId, d, signer, drafted, rfl, free⟩ := allowed
    rcases Store.mem_put.mp member with rfl | ⟨old, -⟩
    · right
      obtain rfl : m = now := trades
      exact ⟨free, ⟨keyId, signer, (draft_whole drafted).1, rfl⟩, (draft_ok drafted).2.1⟩
    · exact .inl ⟨r, old, rfl⟩
  | revoked id status =>
    obtain ⟨t, found, -⟩ := allowed
    simp only [Effect.apply, found] at member
    rcases Store.mem_put.mp (Store.mem_remember.mp member) with rfl | ⟨old, -⟩
    · exact .inl ⟨t, (Store.mem_of_find? found).1, rfl⟩
    · exact .inl ⟨r, old, rfl⟩
  | _ => exact trades.elim

theorem origin_of_traded {es : List Effect} (trades : ∀ e ∈ es, e.Trades now) (explains : Explains a es b)
    {r : Token} (member : r ∈ b.store.records) :
    (∃ q ∈ a.store.records, r = { q with revocation := r.revocation }) ∨ New a now r := by
  induction es generalizing a with
  | nil =>
    cases explains
    exact .inl ⟨r, member, rfl⟩
  | cons e rest ih =>
    obtain ⟨first, others⟩ := List.forall_mem_cons.mp trades
    rcases ih others explains.2 with ⟨q, there, same⟩ | new
    · rcases origin_of_trade first explains.1 there with ⟨p, old, same'⟩ | new
      · refine .inl ⟨p, old, ?_⟩
        rw [same, same']
      · exact .inr (new.revoked same)
    · exact .inr (new.before first)

theorem origin_of_course (course : Course now a b) {r : Token} (member : r ∈ b.store.records) :
    (∃ q ∈ a.store.records, r = { q with revocation := r.revocation }) ∨ New a now r := by
  cases course with
  | idle same => exact .inl ⟨r, same ▸ member, rfl⟩
  | cleaned before => exact .inl ⟨r, (List.mem_filter.mp member).1, rfl⟩
  | traded traded =>
    obtain ⟨es, trades, explains⟩ := traded
    exact origin_of_traded trades explains member

/-- Every record goes back to a command that stored it, as it is but for a revocation. -/
theorem origin_of_perform (new : a.store.records = []) {commands : List (Outside × Command)}
    (service : ∀ c ∈ commands, c.2.isService = true) {r : Token}
    (member : r ∈ (a.perform commands).store.records) :
    ∃ earlier d later, commands = earlier ++ d :: later ∧ New (a.perform earlier) d.1.now r ∧
      ∃ t ∈ (a.perform (earlier ++ [d])).store.records, r = { t with revocation := r.revocation } := by
  induction commands using List.reverseRecOn generalizing r with
  | nil =>
    rw [perform, List.foldl_nil, new] at member
    cases member
  | append_singleton rest c ih =>
    obtain ⟨before, here⟩ := List.forall_mem_append.mp service
    have last : (a.perform (rest ++ [c])) = ((a.perform rest).run c.1 c.2).2 := perform_append ..
    have course := course_run (a.perform rest) c.1 (here c List.mem_cons_self)
    rw [← last] at course
    rcases origin_of_course course member with ⟨q, old, same⟩ | new
    · obtain ⟨earlier, d, later, rfl, new, t, stored, same'⟩ := ih before old
      refine ⟨earlier, d, later ++ [c], by simp, new.revoked same, t, stored, ?_⟩
      rw [same, same']
    · exact ⟨rest, c, [], rfl, new, r, member, rfl⟩

end

/-- Whatever an authority did: issuing a token fails and changes nothing, or adds one record under an id that had
none, the token with the revocation that is remembered for the id. And where nobody wrote to the store past the
authority, the store is sound, and every record goes back to a command at which its id was free and which signed
it with the key that was active. -/
theorem issuing_adds_one_record_to_sound_records (config : Config.Tokens) (keys : KeyRing)
    (commands : List (Outside × Command)) :
    let start := ofParts config keys {}
    let a := start.perform commands
    (∀ o r, (∃ e, a.run o (.issue r) = (.failed e, a)) ∨
      ∃ t keepFor, a.run o (.issue r) = (.issued t keepFor, a.adding t) ∧ a.store.find? t.id = none) ∧
    ((∀ c ∈ commands, c.2.isService = true) → Sound a.store ∧ ∀ r ∈ a.store.records,
      ∃ earlier d later, commands = earlier ++ d :: later ∧ New (start.perform earlier) d.1.now r ∧
        ∃ t ∈ (start.perform (earlier ++ [d])).store.records, r = { t with revocation := r.revocation }) := by
  intro start a
  refine ⟨fun o r => ?_, fun service => ⟨?_, fun r member => ?_⟩⟩
  · cases issued : a.issue o.now (o.freshId 0) r with
    | error e =>
      left
      exact ⟨e, by simp only [run, issued, settle]⟩
    | ok result =>
      right
      obtain ⟨t, b⟩ := result
      obtain ⟨free, rfl⟩ := issue_adds issued
      exact ⟨t, a.keepFor t, by simp only [run, issued, settle], free⟩
  · have new : Sound start.store := .new
    exact new.perform service
  · exact origin_of_perform rfl service member

namespace Turnover
open Sample

def commands : List (Outside × Command) :=
  [(outside ⟨0, 0⟩, .issue { id := some "x", subject := "alice" }),
    (outside ⟨60, 0⟩, .rotate (token .access ⟨0, 0⟩ ⟨3600, 0⟩) { subject := "bob" }),
    (outside ⟨60, 0⟩, .keys (.rotate ⟨"l", "", ""⟩)),
    (outside ⟨60, 0⟩, .issue { id := some "y", subject := "bob" })]

def rotated : Token.Revocation := ⟨⟨60, 0⟩, none, "rotated"⟩

/-- Three records, each signed with the key of its time; and one more under an id for which, its record having been
deleted, a revocation is remembered. -/
theorem records_of_two_keys :
    let a := (start {}).perform commands
    let b := (start {}).perform (commands ++ [(outside ⟨61, 0⟩, .store (.delete "x"))])
    let again := b.run (outside ⟨62, 0⟩) (.issue { id := some "x", subject := "carol" })
    (∀ c ∈ commands, c.2.isService = true) ∧ Sound a.store ∧
    a.store.records.map (fun r => (r.id, r.keyId)) = [("x", some "k"), ("drawn", some "k"), ("y", some "l")] ∧
    (∀ r ∈ a.store.records, ∃ earlier d later, commands = earlier ++ d :: later ∧
      New ((start {}).perform earlier) d.1.now r) ∧
    ∃ t, again.1.issues = [t] ∧ t.id = "x" ∧ again.2 = b.adding t ∧ b.store.blacklisted? "x" = some rotated := by
  intro a b again
  have service : ∀ c ∈ commands, c.2.isService = true := by decide
  obtain ⟨sound, origins⟩ := (issuing_adds_one_record_to_sound_records {} oneKey commands).2 service
  have outcome := (issuing_adds_one_record_to_sound_records {} oneKey
    (commands ++ [(outside ⟨61, 0⟩, .store (.delete "x"))])).1
    (outside ⟨62, 0⟩) { id := some "x", subject := "carol" }
  have ids : again.1.issues.map (·.id) = ["x"] := by decide +kernel
  refine ⟨service, sound, by decide +kernel, fun r member => ?_, ?_⟩
  · obtain ⟨earlier, d, later, split, new, -⟩ := origins r member
    exact ⟨earlier, d, later, split, new⟩
  · rcases outcome with ⟨e, failed⟩ | ⟨t, keepFor, issued, -⟩
    · have none : again.1.issues = [] := congrArg (fun x => x.1.issues) failed
      rw [none] at ids
      cases ids
    · have one : again.1.issues = [t] := congrArg (fun x => x.1.issues) issued
      rw [one] at ids
      exact ⟨t, one, List.head_eq_of_cons_eq ids, congrArg Prod.snd issued, by decide +kernel⟩

end Turnover

end Gatehouse.Authority
