import Gatehouse.Proofs.Authority.Runs

/-!
How long a revocation lasts for an authority. The record of a token that was revoked, by itself or when it was
rotated, keeps the revocation until a cleanup removes it. By then the token has expired, with the skew of
clocks, if records are kept as long as that; and so no value of the token is accepted any more.
-/
namespace Gatehouse.Authority

/-- The command is answered that a token was revoked, and this is the revocation it got. -/
inductive Revokes (a : Authority) (o : Outside) : Command → String → Token.Revocation → Prop
  | revoked {id reason : String} {revokedBy : Option String}
      (answered : (a.run o (.revoke id reason revokedBy)).1 = .changed true) :
      Revokes a o (.revoke id reason revokedBy) id ⟨o.stamp, revokedBy, reason⟩
  | replaced {old t : Token} {r : Token.Request} {keepFor : Duration}
      (answered : (a.run o (.rotate old r)).1 = .issued t keepFor) :
      Revokes a o (.rotate old r) old.id ⟨o.stamp, none, "rotated"⟩
  | replacedOnce {old t : Token} {r : Token.Request} {n : Nat} {results : List (Except Token.Error Token)}
      (answered : (a.run o (.rotateMany old r n)).1 = .rotated results) (done : .ok t ∈ results) :
      Revokes a o (.rotateMany old r n) old.id ⟨o.stamp, none, "rotated"⟩

/-- A rotation that gives a new token has revoked the old one. -/
theorem revoked_of_rotated {a : Authority} {now stamp : Instant} {fresh : String} {old t : Token}
    {r : Token.Request} (rotated : (a.rotate now stamp fresh old r).1 = .ok t) :
    .revoked old.id ⟨stamp, none, "rotated"⟩ ∈ a.rotateEffects now stamp fresh old r := by
  unfold rotate at rotated
  unfold rotateEffects
  cases known : a.get old.id with
  | error e => simp [known] at rotated
  | ok record =>
    cases valid : a.validate now old {} with
    | error e => simp [known, valid] at rotated
    | ok current =>
      have own : current.id = old.id :=
        (Token.Store.mem_of_find? (checkRevocation_ok (checkClaims_ok (validate_ok valid).2)).1).2
      simp only [known, valid] at rotated
      simp only [replaceEffects]
      cases issued : a.issue now fresh (successorOf current r) with
      | error e => simp [issued] at rotated
      | ok result =>
        obtain ⟨u, b⟩ := result
        simp only [issued] at rotated
        cases revoked : b.backend.revoke current.id ⟨stamp, none, "rotated"⟩ with
        | error e => simp [revoked] at rotated
        | ok outcome =>
          obtain ⟨changed, backend⟩ := outcome
          cases changed with
          | false => simp [revoked] at rotated
          | true =>
            simp only [revoked, revokeEffects]
            rw [own]
            exact List.mem_cons_of_mem _ (List.mem_singleton_self _)

theorem mem_arrivals {rs : List Rotation} {caller : Nat × Rotation} (member : caller ∈ (arrivals rs).2) :
    caller.2 ∈ rs := by
  suffices whole : ∀ acc : Locks × List (Nat × Rotation), caller ∈ (rs.foldl (fun acc r =>
      (acc.1.arrive r.old.id, acc.2 ++ [((acc.1.arrive r.old.id).next - 1, r)])) acc).2 →
      caller ∈ acc.2 ∨ caller.2 ∈ rs from (whole _ member).resolve_left List.not_mem_nil
  clear member
  induction rs with
  | nil => exact fun acc member => .inl member
  | cons r rest ih =>
    intro acc member
    rcases ih _ member with first | later
    · rcases List.mem_append.mp first with old | new
      · exact .inl old
      · rw [List.mem_singleton.mp new]
        exact .inr List.mem_cons_self
    · exact .inr (List.mem_cons_of_mem _ later)

theorem revoked_of_turns {now stamp : Instant} {old t : Token} {callers : List (Nat × Rotation)}
    (same : ∀ caller ∈ callers, caller.2.old = old) {l : Locks} {a : Authority}
    (done : .ok t ∈ (takeTurns now stamp callers l a).1) :
    .revoked old.id ⟨stamp, none, "rotated"⟩ ∈ turnEffects now stamp callers l a := by
  induction callers generalizing l a with
  | nil => cases done
  | cons caller rest ih =>
    obtain ⟨number, r⟩ := caller
    have own : r.old = old := same _ List.mem_cons_self
    have later := fun l b => @ih (fun c member => same c (List.mem_cons_of_mem _ member)) l b
    by_cases inside : ((l.enter number).inside.any (·.number = number)) = true
    · simp only [takeTurns, turnEffects, inside, if_true] at done ⊢
      rcases List.mem_cons.mp done with first | others
      · exact List.mem_append_left _ (own ▸ revoked_of_rotated first.symm)
      · exact List.mem_append_right _ (later _ _ others)
    · simp only [takeTurns, turnEffects, inside] at done ⊢
      exact later _ _ done

theorem Revokes.effect {a : Authority} {o : Outside} {c : Command} {id : String}
    {status : Token.Revocation} (revokes : Revokes a o c id status) :
    .revoked id status ∈ a.effects o c := by
  cases revokes with
  | @revoked _ reason revokedBy answered =>
    simp only [effects, revokeEffects]
    simp only [run, revoke] at answered
    cases done : a.backend.revoke id ⟨o.stamp, revokedBy, reason⟩ with
    | error e => cases e <;> simp [done, settle] at answered
    | ok result =>
      obtain ⟨changed, backend⟩ := result
      simp only [done, settle] at answered
      cases answered
      exact List.mem_singleton_self _
  | @replaced old t r _ answered =>
    simp only [run] at answered
    split at answered
    next u b rotated =>
      exact revoked_of_rotated (congrArg Prod.fst rotated)
    next => cases answered
  | @replacedOnce old t r n results answered done =>
    simp only [run, rotateTogether_eq] at answered
    cases answered
    refine revoked_of_turns (fun caller member => ?_) done
    obtain ⟨i, -, made⟩ := List.mem_map.mp (mem_arrivals member)
    rw [← made]

/-- A record that is revoked stays as it is until it is removed. -/
theorem find?_apply {a : Authority} {e : Effect} {id : String} {r : Token}
    (found : a.store.find? id = some r) (revoked : r.isRevoked = true) (allowed : e.Allowed a)
    (kept : ¬ e.Removes r) : (e.apply a).store.find? id = some r := by
  cases e with
  | issued now fresh q t =>
    obtain ⟨_, _, -, -, -, free⟩ := allowed
    have other : ¬ id = t.id := fun same => by
      rw [same, free] at found
      cases found
    exact (Token.Store.find?_put ..).trans ((if_neg other).trans found)
  | revoked i status =>
    obtain ⟨u, there, fresh⟩ := allowed
    have other : ¬ id = u.id := fun same => by
      rw [same, (Token.Store.mem_of_find? there).2, there] at found
      rw [Option.some.inj found, revoked] at fresh
      cases fresh
    simp only [Effect.apply, there]
    exact (Token.Store.find?_remember ..).trans
      ((Token.Store.find?_put ..).trans ((if_neg other).trans found))
  | deleted i =>
    have other : r.id ≠ i := fun same => kept same.symm
    exact Token.Store.find?_filter_of_kept found (by simpa using other)
  | cleaned before =>
    have live : before ≤ r.expiresAt := Instant.le_of_not_lt kept
    exact Token.Store.find?_filter_of_kept found (by simpa using live)
  | keys now c => exact found
  | switched op mode => exact found

theorem find?_explained {a b : Authority} {es : List Effect} (explains : Explains a es b) {id : String}
    {r : Token} (found : a.store.find? id = some r) (revoked : r.isRevoked = true)
    (kept : ∀ e ∈ es, ¬ e.Removes r) : b.store.find? id = some r := by
  induction es generalizing a with
  | nil =>
    cases explains
    exact found
  | cons e rest ih =>
    have next := find?_apply found revoked explains.1 (kept e List.mem_cons_self)
    exact ih explains.2 next fun f member => kept f (List.mem_cons_of_mem _ member)

theorem find?_revoked {a : Authority} {id : String} {u : Token} (found : a.store.find? id = some u)
    (status : Token.Revocation) :
    ((Effect.revoked id status).apply a).store.find? id = some { u with revocation := some status } := by
  have own : id = u.id := (Token.Store.mem_of_find? found).2.symm
  simp only [Effect.apply, found]
  exact (Token.Store.find?_remember ..).trans ((Token.Store.find?_put ..).trans (if_pos own))

theorem find?_of_kept {start a : Authority} {before after : List Effect} {id : String}
    {status : Token.Revocation} (recorded : Recorded [] start)
    (explains : Explains start (before ++ .revoked id status :: after) a) {m : Instant} {fresh : String}
    {q : Token.Request} {t : Token} (issued : .issued m fresh q t ∈ before) (own : t.id = id)
    (kept : ∀ e ∈ before ++ .revoked id status :: after, ¬ e.Removes t) :
    a.store.find? id = some { t with revocation := some status } := by
  obtain ⟨pre, mid, rfl⟩ := List.append_of_mem issued
  obtain ⟨b, first, ⟨u, found, live⟩, rest⟩ := explains.split
  -- until it was revoked the record was the token itself
  have same : u = t := by
    have now : Recorded (pre ++ .issued m fresh q t :: mid) b := by simpa using recorded.explained first
    obtain ⟨member, there⟩ := Token.Store.mem_of_find? found
    obtain ⟨w, last, plain, record⟩ := now.last u member
    have unremoved := lastIssued_of_kept first fun e member => kept e (by simp [member])
    rw [there, ← own, unremoved] at last
    have fresh : u.revocation = none := by simpa [Token.isRevoked] using live
    rw [record, fresh, ← plain]
    exact (Option.some.inj last).symm
  subst same
  exact find?_explained rest (find?_revoked found status) rfl fun e member => kept e (by simp [member])

/-- A bearer value that proves the claims of a token if any: its own value, or that with checks appended. -/
def Presents (b : Token.Bearer) (t : Token) : Prop :=
  ∀ k n c, b.openWith k n = .ok c → c = t.claims k

theorem presents_of_issued {a : Authority} {m : Instant} {fresh : String} {q : Token.Request} {t : Token}
    (allowed : (Effect.issued m fresh q t).Allowed a) : ∃ v, t.value = some v ∧ Presents v t := by
  obtain ⟨k, d, -, -, rfl, -⟩ := allowed
  refine ⟨_, rfl, fun k' n c opened => ?_⟩
  obtain ⟨signed, content⟩ := Token.Envelope.signedBy_of_openWith opened
  cases signed
  cases content
  rfl

/-- A bearer is accepted in the time that its claims tell, for a record that is not revoked. -/
theorem authenticated_in_time {a : Authority} {now : Instant} {b : Token.Bearer} {r : Requirement}
    {record : Token} (authentic : a.authenticate now b r = .ok record) :
    ∃ k c expiry, b.openWith k now = .ok c ∧ Instant.ofMicros? c.expiresAt = some expiry ∧
      ¬ (expiry.add? (.ofDuration a.config.clockSkew)).getD .latest < now ∧
      a.store.find? c.id = some record ∧ record.revocation = none := by
  obtain ⟨t, read, passed⟩ := bind_ok authentic
  obtain ⟨_, inTime, -⟩ := bind_ok passed
  obtain ⟨k, c, -, opened, described⟩ := tokenOf_ok read
  obtain ⟨same, expiry⟩ := ofClaims_ok described
  have stored := checkRevocation_ok (checkClaims_ok passed)
  rw [same] at stored
  exact ⟨k, c, t.expiresAt, opened, expiry, checkTime_ok inTime, stored⟩

/-- Once a cleanup has removed its record a token is out of time, for what its values say of it. -/
theorem unauthentic_of_removed {a : Authority} {t : Token} {now before n : Instant} {b : Token.Bearer}
    (keeps : Keeps a.config (t.expiresAt.leap + now.leap)) (cut : now.sub? a.retention = some before)
    (removed : t.expiresAt < before) (past : now ≤ n) (presents : Presents b t) (req : Requirement)
    (record : Token) : a.authenticate n b req ≠ .ok record := by
  intro authentic
  obtain ⟨k, c, expiry, opened, read, inTime, -⟩ := authenticated_in_time authentic
  rw [presents k n c opened] at read
  have room : (Span.ofDuration a.config.clockSkew).nanos + t.expiresAt.leap + now.leap ≤
      a.retention.nanos := by
    rw [Keeps] at keeps
    simp only [retention]
    omega
  have ended := Instant.ended_of_cut_micros read (Span.ofDuration_nonneg _) room cut removed
  exact inTime (Instant.lt_of_lt_of_le ended past)

theorem get_of_found {a : Authority} (works : a.backend.outages = []) {id : String} {r : Token}
    (found : a.store.find? id = some r) : a.get id = .ok r := by
  have there : a.backend.store.find? id = some r := found
  simp [get, Token.Backend.get, Token.Backend.attempt, Token.Backend.outage?, works, Token.Store.get, there,
    Except.mapError]

theorem run_revoke {a : Authority} (works : a.backend.outages = []) {o : Outside} {id reason : String}
    {revokedBy : Option String} {changed : Bool} {s : Token.Store}
    (revoked : a.store.revoke id ⟨o.stamp, revokedBy, reason⟩ = .ok (changed, s)) :
    a.run o (.revoke id reason revokedBy) = (.changed changed, a.withStore s) := by
  have done : a.backend.store.revoke id ⟨o.stamp, revokedBy, reason⟩ = .ok (changed, s) := revoked
  simp only [run, revoke, Token.Backend.revoke, Token.Backend.outage?, Token.Backend.attempt, works, done]
  rfl

theorem run_revoke_live {a : Authority} (works : a.backend.outages = []) {id : String} {r : Token}
    (found : a.store.find? id = some r) (live : r.isRevoked = false) (o : Outside) (reason : String)
    (revokedBy : Option String) : (a.run o (.revoke id reason revokedBy)).1 = .changed true := by
  obtain ⟨s, first⟩ : ∃ s, a.store.revoke id ⟨o.stamp, revokedBy, reason⟩ = .ok (true, s) := by
    simp [Token.Store.revoke, found, live]
  rw [run_revoke works first]

theorem run_revoke_again {a : Authority} (works : a.backend.outages = []) {id : String} {r : Token}
    (found : a.store.find? id = some r) (revoked : r.isRevoked = true) (o : Outside) (reason : String)
    (revokedBy : Option String) : a.run o (.revoke id reason revokedBy) = (.changed false, a) := by
  have again : a.store.revoke id ⟨o.stamp, revokedBy, reason⟩ = .ok (false, a.store) := by
    simp [Token.Store.revoke, found, revoked]
  rw [run_revoke works again]
  rfl

theorem Revokes.not_cleanup {a : Authority} {o : Outside} {c : Command} {id : String}
    {status : Token.Revocation} (revokes : Revokes a o c id status) : c ≠ .cleanup := by
  cases revokes <;> nofun

/-- The effects of a command that revokes. From the revocation on the record is there and shows it, so that no
token is issued under its id. -/
theorem Revokes.split {a : Authority} {o : Outside} {c : Command} {id : String} {status : Token.Revocation}
    (works : a.backend.outages = []) (own : c.isOwn = true) (revokes : Revokes a o c id status) :
    ∃ pre post, a.effects o c = pre ++ .revoked id status :: post ∧
      (∀ m fresh q t, .issued m fresh q t ∈ post → t.id ≠ id) ∧
      ∃ r, (a.run o c).2.store.find? id = some r ∧ r.revocation = some status := by
  obtain ⟨pre, post, effects⟩ := List.append_of_mem revokes.effect
  have explains := explains_run a o (Command.bypasses_of_isOwn own)
  rw [effects] at explains
  obtain ⟨b, -, ⟨u, found, -⟩, rest⟩ := explains.split
  have shown := find?_revoked found status
  have kept : ∀ e ∈ post, ¬ e.Removes { u with revocation := some status } := by
    intro e member removes
    have here : e ∈ a.history [(o, c)] := by simp [history, effects, member]
    obtain ⟨d, there, cleanup, -⟩ := cleaned_of_removes works (by simpa using own) here removes
    obtain rfl := List.mem_singleton.mp there
    exact revokes.not_cleanup cleanup
  refine ⟨pre, post, effects, fun m fresh q t issued same => ?_, _, find?_explained rest shown rfl kept, rfl⟩
  obtain ⟨before, after, rfl⟩ := List.append_of_mem issued
  obtain ⟨d, until', ⟨_, _, -, -, -, free⟩, -⟩ := rest.split
  have still := find?_explained until' shown rfl fun e member => kept e (by simp [member])
  rw [same, still] at free
  cases free

theorem find?_perform {a : Authority} (works : a.backend.outages = []) {commands : List (Outside × Command)}
    (own : ∀ d ∈ commands, d.2.isOwn = true) {id : String} {r : Token} (found : a.store.find? id = some r)
    (revoked : r.isRevoked = true) :
    (a.perform commands).store.find? id = some r ∨
      ∃ d ∈ commands, d.2 = .cleanup ∧ ∃ before, d.1.now.sub? a.retention = some before ∧
        r.expiresAt < before := by
  by_cases removed : ∃ e ∈ a.history commands, e.Removes r
  · obtain ⟨e, member, removes⟩ := removed
    exact .inr (cleaned_of_removes works own member removes)
  · have explains := explains_history a fun d member => Command.bypasses_of_isOwn (own d member)
    exact .inl (find?_explained explains found revoked fun e member removes => removed ⟨e, member, removes⟩)

/-- After its revocation no value of a token is accepted: its record shows the revocation, or was removed by a
cleanup when the token was out of time. -/
theorem unauthentic_of_revoked {start : Authority} (works : start.backend.outages = [])
    (recorded : Recorded [] start) {commands : List (Outside × Command)}
    (own : ∀ d ∈ commands, d.2.isOwn = true) {before after : List Effect} {id : String}
    {status : Token.Revocation} (history : start.history commands = before ++ .revoked id status :: after)
    {m : Instant} {fresh : String} {q : Token.Request} {t : Token} (issued : .issued m fresh q t ∈ before)
    (same : t.id = id)
    (keeps : ∀ d ∈ commands, d.2 = .cleanup → Keeps start.config (t.expiresAt.leap + d.1.now.leap))
    {n : Instant} (past : ∀ d ∈ commands, d.1.now ≤ n) {b : Token.Bearer} (presents : Presents b t)
    (req : Requirement) (record : Token) : (start.perform commands).authenticate n b req ≠ .ok record := by
  have direct := fun d member => Command.bypasses_of_isOwn (own d member)
  -- a removal may also come before the token was issued; the token is out of time all the same
  by_cases removed : ∃ e ∈ start.history commands, e.Removes t
  · obtain ⟨e, member, removes⟩ := removed
    obtain ⟨d, there, cleanup, before, cut, old⟩ := cleaned_of_removes works own member removes
    rw [← perform_retention start direct] at cut
    have keeps := keeps d there cleanup
    rw [← perform_config start direct] at keeps
    exact unauthentic_of_removed keeps cut old (past d there) presents req record
  · have explains := explains_history start direct
    have kept := fun e member removes => removed ⟨e, member, removes⟩
    rw [history] at explains kept
    have shown := find?_of_kept recorded explains issued same kept
    intro authentic
    obtain ⟨k, claims, _, opened, -, -, found, live⟩ := authenticated_in_time authentic
    have own : claims.id = id := by rw [presents k n claims opened]; exact same
    rw [own, shown] at found
    cases found
    cases live

/-- A revocation is for good. Once a token was revoked or rotated no value of it, or of another token that was
issued under its id before, is ever accepted, as long as every cleanup keeps its record until it expired for
all clocks. The record shows that revocation until a cleanup removes it, and to revoke it again changes
nothing. -/
theorem revoked_for_good (config : Config.Tokens) (keys : KeyRing) (earlier : List (Outside × Command))
    (o : Outside) (c : Command) (later : List (Outside × Command)) (id : String) (status : Token.Revocation)
    (own : ∀ d ∈ earlier ++ (o, c) :: later, d.2.isOwn = true) :
    let start := ofParts config keys {}
    let h := start.history (earlier ++ [(o, c)])
    let a := start.perform (earlier ++ (o, c) :: later)
    Revokes (start.perform earlier) o c id status →
      (∀ m fresh q t, .issued m fresh q t ∈ h → t.id = id →
        (∃ v, t.value = some v ∧ Presents v t) ∧
        ((∀ d ∈ earlier ++ (o, c) :: later, d.2 = .cleanup → Keeps config (t.expiresAt.leap + d.1.now.leap)) →
          ∀ n b req record, (∀ d ∈ earlier ++ (o, c) :: later, d.1.now ≤ n) → Presents b t →
            a.authenticate n b req ≠ .ok record)) ∧
      ∃ t, lastIssued h id = some t ∧
        (start.perform (earlier ++ [(o, c)])).get id = .ok { t with revocation := some status } ∧
        (a.get id = .ok { t with revocation := some status } ∧
            (∀ o' reason by', a.run o' (.revoke id reason by') = (.changed false, a)) ∨
          ∃ d ∈ later, d.2 = .cleanup ∧ ∃ before, d.1.now.sub? a.retention = some before ∧
            t.expiresAt < before) := by
  intro start h a revokes
  have ownEarlier : ∀ d ∈ earlier, d.2.isOwn = true := fun d member => own d (by simp [member])
  obtain ⟨pre, post, effects, others, r, shown, revoked⟩ :=
    revokes.split (perform_outages start ownEarlier) (own (o, c) (by simp))
  have history : h = (start.history earlier ++ pre) ++ .revoked id status :: post := by
    simp [h, history_append, Authority.history, effects]
  have whole : start.history (earlier ++ (o, c) :: later) = (start.history earlier ++ pre) ++
      .revoked id status :: (post ++ ((start.perform earlier).run o c).2.history later) := by
    simp [history_append, Authority.history, effects]
  have ownThis : ∀ d ∈ earlier ++ [(o, c)], d.2.isOwn = true := by
    intro d member
    rcases List.mem_append.mp member with first | this
    · exact ownEarlier d first
    · exact own d (by simp [List.mem_singleton.mp this])
  have directThis := fun d member => Command.bypasses_of_isOwn (ownThis d member)
  refine ⟨fun m fresh q t issued same => ⟨?_, fun keeps n b req record past presents => ?_⟩, ?_⟩
  · obtain ⟨before, after, split⟩ := List.append_of_mem issued
    have explains : Explains start h _ := explains_history start directThis
    rw [split] at explains
    obtain ⟨_, -, allowed, -⟩ := explains.split
    exact presents_of_issued allowed
  · have before : .issued m fresh q t ∈ start.history earlier ++ pre := by
      rw [history] at issued
      rcases List.mem_append.mp issued with first | second
      · exact first
      · rcases List.mem_cons.mp second with this | last
        · cases this
        · exact absurd same (others m fresh q t last)
    exact unauthentic_of_revoked rfl (recorded_new config keys) own whole before same keeps past presents
      req record
  · have after : start.perform (earlier ++ [(o, c)]) = ((start.perform earlier).run o c).2 :=
      perform_append ..
    rw [← after] at shown
    have explains := explains_history start directThis
    have recorded : Recorded h (start.perform (earlier ++ [(o, c)])) := by
      simpa using (recorded_new config keys).explained explains
    obtain ⟨member, there⟩ := Token.Store.mem_of_find? shown
    obtain ⟨t, last, -, same⟩ := recorded.last r member
    rw [there] at last
    rw [revoked] at same
    subst same
    have worked := perform_outages start ownThis
    refine ⟨t, last, get_of_found worked shown, ?_⟩
    have ownLater : ∀ d ∈ later, d.2.isOwn = true := fun d member => own d (by simp [member])
    have rest : a = (start.perform (earlier ++ [(o, c)])).perform later := by
      rw [← perform_append, List.append_assoc]
      rfl
    rcases find?_perform worked ownLater shown rfl with still | removed
    · rw [← rest] at still
      have working : a.backend.outages = [] := perform_outages start own
      exact .inl ⟨get_of_found working still, run_revoke_again working still rfl⟩
    · have direct := fun d member => Command.bypasses_of_isOwn (own d member)
      rw [perform_retention start directThis, ← perform_retention start direct] at removed
      exact .inr removed

namespace LeapSecond
open Sample

def requestUntil (expiresAt : Instant) : Token.Request :=
  { id := some "x", subject := "alice", expiresAt := some expiresAt }

/-- Two hours before the end of the year 2016. -/
def evening : Instant := ⟨1483221600, 0⟩

def issuing (expiresAt : Instant) : List (Outside × Command) :=
  [(outside evening, .issue (requestUntil expiresAt))]

def revocation : Outside × Command := (outside ⟨1483221601, 0⟩, .revoke "x" "logout" none)

/-- The record is cleaned away, and another token is issued under its id. -/
def reissuing (now : Instant) : List (Outside × Command) :=
  [(outside now, .cleanup), (outside now, .issue (requestUntil ⟨now.seconds + 3600, 0⟩))]

/-- A token that expires in the leap second at the end of the year is revoked, and its record is cleaned away
half a second before the time that its value tells, which is in the second after: the value is taken for the
new token. -/
theorem revoked_value_accepted :
    let config : Config.Tokens := { clockSkew := .zero, retention := .zero }
    let expiry : Instant := ⟨1483228799, 1500000000⟩
    let now : Instant := ⟨1483228800, 250000000⟩
    let commands := issuing expiry ++ revocation :: reissuing now
    (config.clockSkew ≤ config.retention ∧ (∀ c ∈ commands, c.2.isOwn = true) ∧
      commands.Pairwise (fun c d => c.1.now ≤ d.1.now)) ∧
    (start config).history (issuing expiry) =
      [.issued evening "drawn" (requestUntil expiry) (token .access evening expiry)] ∧
    Revokes ((start config).perform (issuing expiry)) revocation.1 revocation.2 "x"
      ⟨⟨1483221601, 0⟩, none, "logout"⟩ ∧
    ∃ v, (token .access evening expiry).value = some v ∧
      ((start config).perform commands).authenticate now v {} = .ok (token .access now ⟨1483232400, 0⟩) := by
  intro config expiry now commands
  have found : ((start config).perform (issuing expiry)).store.find? "x" =
      some (token .access evening expiry) := by decide +kernel
  have answered := run_revoke_live (by decide +kernel) found rfl revocation.1 "logout" none
  exact ⟨⟨by decide, by decide, by decide⟩, by decide +kernel, .revoked answered, _, rfl,
    ok_of_toOption (by decide +kernel)⟩

/-- Where no leap second is near and records are kept for a day the value is refused. -/
theorem revoked_value_refused :
    let expiry : Instant := ⟨1483225200, 0⟩
    let now : Instant := ⟨1483315200, 0⟩
    let a := (start {}).perform (issuing expiry ++ revocation :: reissuing now)
    ∃ v, (token .access evening expiry).value = some v ∧
      a.get "x" = .ok (token .access now ⟨1483318800, 0⟩) ∧
      ∀ req record, a.authenticate now v req ≠ .ok record := by
  intro expiry now a
  have effects : (start {}).history (issuing expiry) =
      [.issued evening "drawn" (requestUntil expiry) (token .access evening expiry)] := by decide +kernel
  have issued : .issued evening "drawn" (requestUntil expiry) (token .access evening expiry) ∈
      (start {}).history (issuing expiry ++ [revocation]) := by
    rw [history_append, effects]
    exact List.mem_cons_self
  have found : ((start {}).perform (issuing expiry)).store.find? "x" =
      some (token .access evening expiry) := by decide +kernel
  have answered := run_revoke_live (by decide +kernel) found rfl revocation.1 "logout" none
  have refused := (revoked_for_good {} oneKey (issuing expiry) revocation.1 revocation.2 (reissuing now) "x"
    ⟨⟨1483221601, 0⟩, none, "logout"⟩ (by decide) (.revoked answered)).1
  obtain ⟨⟨v, value, presents⟩, never⟩ := refused _ _ _ _ issued rfl
  have plain : ∀ d ∈ issuing expiry ++ revocation :: reissuing now,
      d.1.now ≤ now ∧ d.1.now.nanos < Instant.nanosPerSecond := by decide
  refine ⟨v, value, ok_of_toOption (by decide +kernel), fun req record =>
    never (fun d member _ => ?_) now v req record (fun d member => (plain d member).1) presents⟩
  have plain' : (token .access evening expiry).expiresAt.nanos < Instant.nanosPerSecond := by decide
  rw [Instant.leap_of_plain plain', Instant.leap_of_plain (plain d member).2]
  exact keeps_of_le (by decide)

end LeapSecond

end Gatehouse.Authority
