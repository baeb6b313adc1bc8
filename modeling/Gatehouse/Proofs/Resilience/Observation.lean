import Gatehouse.Proofs.Resilience.Cycle
import Mathlib.Data.List.ReduceOption

/-!
Looking at a breaker. The first look after a cooldown is what makes an open circuit half-open, so in a session
where somebody looks more often the generations are others and begin at other times. None of this shows: no call
is admitted or rejected and no later reading is different because of a look.
-/
namespace Gatehouse.Resilience

namespace Breaker

/-- What shows of a breaker. Its generation does not, and since when it is in its state only while it is open. -/
@[ext]
structure Face where
  config : Config.Breaker
  state : Circuit
  failures : Nat
  trials : Nat
  openedAt : Option Moment

def face (b : Breaker) : Face where
  config := b.config
  state := b.state
  failures := b.failures
  trials := b.trials
  openedAt := if b.state = .opened then some b.changedAt else none

/-- What a ticket is good for, which is nothing once its generation is over. -/
def honours (b : Breaker) (ticket : Ticket) : Option Bool :=
  if b.generation = ticket.generation then some ticket.isTrial else none

/-- An operation that changes the state begins a later generation, and no other does. -/
structure Advances (b : Breaker) (r : Breaker × Option Change) : Prop where
  still : r.2 = none → r.1.generation = b.generation
  moved : r.2 ≠ none → b.generation < r.1.generation

structure LeadAlike (r q : Breaker × Option Change) : Prop where
  face : r.1.face = q.1.face
  change : r.2 = q.2

theorem count_opened {b : Breaker} {ticket : Ticket} (opened : b.state = .opened) (plain : ticket.isTrial = false)
    (verdict : Verdict) : b.count ticket verdict = b := by
  obtain ⟨config, state, failures, trials, changedAt, generation⟩ := b
  cases opened
  simp [count, plain]

theorem advances_unchanged (b : Breaker) : b.Advances (b, none) := ⟨fun _ => rfl, fun change => absurd rfl change⟩

theorem moveTo_advances (b : Breaker) (state : Circuit) (now : Moment) : b.Advances (b.moveTo state now) := by
  unfold moveTo
  split
  next => exact b.advances_unchanged
  next => exact ⟨nofun, fun _ => Nat.lt_succ_self _⟩

theorem follow_advances (b : Breaker) (now : Moment) (target : Option Circuit) :
    b.Advances (b.follow now target) := by
  cases target with
  | none => exact b.advances_unchanged
  | some state => exact b.moveTo_advances state now

theorem refresh_advances (b : Breaker) (now : Moment) : b.Advances (b.refresh now) := by
  unfold refresh
  split
  next => exact b.moveTo_advances .halfOpen now
  next => exact b.advances_unchanged

section Alike
variable {b c : Breaker} (alike : b.face = c.face)
include alike

theorem state_alike : b.state = c.state := congrArg Face.state alike

theorem config_alike : b.config = c.config := congrArg Face.config alike

theorem failures_alike : b.failures = c.failures := congrArg Face.failures alike

theorem trials_alike : b.trials = c.trials := congrArg Face.trials alike

theorem changedAt_alike (opened : b.state = .opened) : b.changedAt = c.changedAt := by
  have since := congrArg Face.openedAt alike
  simpa [face, opened, ← state_alike alike] using since

theorem moveTo_alike (state : Circuit) (now : Moment) :
    LeadAlike (b.moveTo state now) (c.moveTo state now) := by
  have same := state_alike alike
  by_cases arrived : b.state = state
  · rw [moveTo, moveTo, if_pos arrived, if_pos (same ▸ arrived)]
    exact ⟨alike, rfl⟩
  · rw [moveTo, moveTo, if_neg arrived, if_neg (same ▸ arrived)]
    refine ⟨?_, ?_⟩
    · simp [face, config_alike alike]
    · rw [same]

theorem refresh_alike (now : Moment) : LeadAlike (b.refresh now) (c.refresh now) := by
  have due : (b.state = .opened ∧ b.config.resetTimeout ≤ now.since b.changedAt) ↔
      (c.state = .opened ∧ c.config.resetTimeout ≤ now.since c.changedAt) := by
    rw [← state_alike alike, ← config_alike alike]
    refine and_congr_right fun opened => ?_
    rw [changedAt_alike alike opened]
  simp only [refresh, due]
  split
  next => exact moveTo_alike alike .halfOpen now
  next => exact ⟨alike, rfl⟩

theorem count_alike {t u : Ticket} (trial : t.isTrial = u.isTrial) (verdict : Verdict) :
    (b.count t verdict).face = (c.count u verdict).face := by
  have opened := congrArg Face.openedAt alike
  apply Face.ext (config_alike alike) (state_alike alike)
  · simp only [face, count, state_alike alike, failures_alike alike]
  · simp only [face, count, trial, trials_alike alike]
  · exact opened

theorem forget_alike : face { b with failures := 0 } = face { c with failures := 0 } := by
  have opened := congrArg Face.openedAt alike
  exact Face.ext (config_alike alike) (state_alike alike) rfl (trials_alike alike) opened

theorem target?_alike (verdict : Verdict) : b.target? verdict = c.target? verdict := by
  cases verdict <;> simp only [target?, state_alike alike, config_alike alike, failures_alike alike]

theorem follow_alike (now : Moment) (target : Option Circuit) :
    LeadAlike (b.follow now target) (c.follow now target) := by
  cases target with
  | none => exact ⟨alike, rfl⟩
  | some state => exact moveTo_alike alike state now

end Alike
end Breaker

namespace Session
variable {config : Config.Breaker} {start : Moment} {s t : Session}

@[ext]
structure Face where
  now : Moment
  breaker : Breaker.Face
  admissions : Nat
  pending : List (Nat × Option Bool)

def face (s : Session) : Face where
  now := s.now
  breaker := s.breaker.face
  admissions := s.admissions
  pending := s.pending.map fun p => (p.1, s.breaker.honours p.2)

def Issued (s : Session) : Prop := ∀ p ∈ s.pending, p.2.generation ≤ s.breaker.generation

theorem Issued.drop (issued : s.Issued) (call : Nat) (verdict : Verdict) : (s.drop call verdict).Issued :=
  fun p kept => issued p (List.mem_filter.mp kept).1

theorem lookup_face (s : Session) (call : Nat) :
    s.face.pending.lookup call = (s.pending.lookup call).map s.breaker.honours := by
  simp only [face]
  induction s.pending with
  | nil => rfl
  | cons p rest ih =>
    obtain ⟨n, ticket⟩ := p
    by_cases same : call = n
    · simp [same]
    · simp [List.lookup_cons, beq_false_of_ne same, ih]

/-- A change of state leaves nobody with a ticket that is good for anything. -/
theorem face_update (issued : s.Issued) {r : Breaker × Option Change} (advances : s.breaker.Advances r) :
    (s.update r).face =
      { s.face with
        breaker := r.1.face
        pending := if r.2 = none then s.face.pending else s.face.pending.map fun p => (p.1, none) } := by
  obtain ⟨b, _ | change⟩ := r
  · have still : b.generation = s.breaker.generation := advances.still rfl
    simp [face, update, Breaker.honours, still]
  · have moved : s.breaker.generation < b.generation := advances.moved (by simp)
    have void : ∀ p ∈ s.pending, b.honours p.2 = none := by
      intro p member
      have old := issued p member
      refine if_neg ?_
      omega
    simpa [face, update, note] using void

theorem face_replace (s : Session) {b : Breaker} (same : b.generation = s.breaker.generation) :
    face { s with breaker := b } = { s.face with breaker := b.face } := by
  simp [face, Breaker.honours, same]

theorem face_drop (s : Session) (call : Nat) (verdict : Verdict) :
    (s.drop call verdict).face = { s.face with pending := s.face.pending.filter (·.1 ≠ call) } := by
  simp [face, drop, note, List.filter_map, Function.comp_def]

theorem face_enter (s : Session) (trials : Nat) (isTrial : Bool) :
    ({ s with breaker := { s.breaker with trials } }.answer (some ⟨s.breaker.generation, isTrial⟩)).face =
      { s.face with
        breaker := { s.face.breaker with trials }
        admissions := s.face.admissions + 1
        pending := (s.face.admissions, some isTrial) :: s.face.pending } := by
  have good : s.breaker.honours ⟨s.breaker.generation, isTrial⟩ = some isTrial := if_pos rfl
  exact Face.ext rfl rfl rfl (congrArg (fun g => (s.admissions, g) :: s.face.pending) good)

section Alike
variable (alike : s.face = t.face)
include alike

theorem breaker_alike : s.breaker.face = t.breaker.face := congrArg Face.breaker alike

theorem now_alike : s.now = t.now := congrArg Face.now alike

theorem replace_alike {b c : Breaker} (mine : b.generation = s.breaker.generation)
    (yours : c.generation = t.breaker.generation) (same : b.face = c.face) :
    face { s with breaker := b } = face { t with breaker := c } := by
  rw [face_replace s mine, face_replace t yours, alike, same]

theorem update_alike {r q : Breaker × Option Change} (old : s.Issued) (young : t.Issued)
    (first : s.breaker.Advances r) (second : t.breaker.Advances q) (same : Breaker.LeadAlike r q) :
    (s.update r).face = (t.update q).face := by
  rw [face_update old first, face_update young second, alike, same.face, same.change]

theorem look_alike (old : s.Issued) (young : t.Issued) : (s.step .look).face = (t.step .look).face := by
  apply update_alike alike old young (Breaker.refresh_advances ..) (Breaker.refresh_advances ..)
  rw [now_alike alike]
  exact Breaker.refresh_alike (breaker_alike alike) t.now

theorem enter_alike {m n : Nat} (trials : m = n) (isTrial : Bool) :
    ({ s with breaker := { s.breaker with trials := m } }.answer (some ⟨s.breaker.generation, isTrial⟩)).face =
      ({ t with breaker := { t.breaker with trials := n } }.answer (some ⟨t.breaker.generation, isTrial⟩)).face := by
  rw [face_enter, face_enter, alike, trials]

theorem grant_alike :
    ({ s with breaker := s.breaker.grant.2 }.answer s.breaker.grant.1).face =
        ({ t with breaker := t.breaker.grant.2 }.answer t.breaker.grant.1).face ∧
      s.breaker.grant.1.isSome = t.breaker.grant.1.isSome := by
  have same := Breaker.state_alike (breaker_alike alike)
  have trials := Breaker.trials_alike (breaker_alike alike)
  have config := Breaker.config_alike (breaker_alike alike)
  cases state : s.breaker.state with
  | opened =>
    rw [Breaker.grant_opened state, Breaker.grant_opened (same ▸ state)]
    exact ⟨alike, rfl⟩
  | closed =>
    rw [Breaker.grant_closed state, Breaker.grant_closed (same ▸ state)]
    exact ⟨enter_alike alike trials false, rfl⟩
  | halfOpen =>
    by_cases room : s.breaker.trials < s.breaker.config.halfOpenLimit
    · rw [Breaker.grant_trial state room, Breaker.grant_trial (same ▸ state) (trials ▸ config ▸ room)]
      exact ⟨enter_alike alike (congrArg (· + 1) trials) true, rfl⟩
    · rw [Breaker.grant_full state room, Breaker.grant_full (same ▸ state) (trials ▸ config ▸ room)]
      exact ⟨alike, rfl⟩

theorem ask_alike (old : s.Issued) (young : t.Issued) : (s.step .ask).face = (t.step .ask).face := by
  rw [step_ask, step_ask]
  exact (grant_alike (look_alike alike old young)).1

theorem reset_alike (old : s.Issued) (young : t.Issued) : (s.step .reset).face = (t.step .reset).face := by
  have forgot := Breaker.forget_alike (breaker_alike alike)
  rw [step_reset, step_reset]
  refine update_alike ?_ old young (Breaker.moveTo_advances ..) (Breaker.moveTo_advances ..) ?_
  · have noted : (s.note .reset).face = (t.note .reset).face := alike
    exact replace_alike noted rfl rfl forgot
  · rw [now_alike alike]
    exact Breaker.moveTo_alike forgot .closed t.now

theorem wait_alike (span : Duration) : (s.step (.wait span)).face = (t.step (.wait span)).face := by
  change { s.face with now := s.face.now.add span } = { t.face with now := t.face.now.add span }
  rw [alike]

theorem drop_alike (call : Nat) (verdict : Verdict) : (s.drop call verdict).face = (t.drop call verdict).face := by
  rw [face_drop, face_drop, alike]

theorem finish_alike (old : s.Issued) (young : t.Issued) (call : Nat) (verdict : Verdict) :
    (s.step (.finish call verdict)).face = (t.step (.finish call verdict)).face := by
  have tickets : (s.pending.lookup call).map s.breaker.honours = (t.pending.lookup call).map t.breaker.honours := by
    rw [← lookup_face, ← lookup_face, alike]
  cases mine : s.pending.lookup call with
  | none =>
    have unknown : t.pending.lookup call = none := by simpa [mine] using tickets.symm
    rw [step_finish_unknown mine, step_finish_unknown unknown]
    exact alike
  | some ticket =>
    obtain ⟨other, yours, honoured⟩ : ∃ u, t.pending.lookup call = some u ∧
        t.breaker.honours u = s.breaker.honours ticket := by
      simpa [mine] using tickets.symm
    by_cases current : s.breaker.generation = ticket.generation
    · rw [Breaker.honours, Breaker.honours, if_pos current] at honoured
      obtain ⟨same, trial⟩ := Option.ite_none_right_eq_some.mp honoured
      have counted := Breaker.count_alike (breaker_alike alike) (Option.some.inj trial).symm verdict
      have dropped := drop_alike alike call verdict
      rw [step_finish_current mine verdict current, step_finish_current yours verdict same]
      refine update_alike ?_ (old.drop call verdict) (young.drop call verdict) (Breaker.follow_advances ..)
        (Breaker.follow_advances ..) ?_
      · exact replace_alike dropped rfl rfl counted
      · rw [Breaker.target?_alike counted, now_alike alike]
        exact Breaker.follow_alike counted ..
    · have stale : t.breaker.generation ≠ other.generation := by
        intro same
        simp [Breaker.honours, current, same] at honoured
      rw [step_finish_stale mine verdict current, step_finish_stale yours verdict stale]
      exact drop_alike alike call verdict

theorem step_alike (old : s.Issued) (young : t.Issued) (action : Action) :
    (s.step action).face = (t.step action).face := by
  cases action with
  | ask => exact ask_alike alike old young
  | finish call verdict => exact finish_alike alike old young call verdict
  | reset => exact reset_alike alike old young
  | look => exact look_alike alike old young
  | wait span => exact wait_alike alike span

end Alike

/-- The circuit has cooled down, and the next look will make it half-open. -/
def Due (s : Session) : Prop :=
  s.breaker.state = .opened ∧ s.breaker.config.resetTimeout ≤ s.now.since s.breaker.changedAt

theorem step_look_due (due : s.Due) : s.step .look = s.update (s.breaker.moveTo .halfOpen s.now) := by
  change s.update (s.breaker.refresh s.now) = _
  rw [Breaker.refresh]
  exact congrArg s.update (if_pos due)

theorem step_look_early (early : ¬ s.Due) : s.step .look = s := by
  change s.update (s.breaker.refresh s.now) = s
  rw [Breaker.refresh]
  exact congrArg s.update (if_neg early)

theorem look_look (s : Session) : (s.step .look).step .look = s.step .look := by
  by_cases due : s.Due
  · apply step_look_steady
    simp [step_look_due due]
  · rw [step_look_early due, step_look_early due]

def Face.moved (f : Face) (state : Circuit) : Face where
  now := f.now
  breaker :=
    { config := f.breaker.config, state, failures := 0, trials := 0,
      openedAt := if state = .opened then some f.now else none }
  admissions := f.admissions
  pending := f.pending.map fun p => (p.1, none)

theorem face_moved (issued : s.Issued) {state : Circuit} (apart : s.breaker.state ≠ state) :
    (s.update (s.breaker.moveTo state s.now)).face = s.face.moved state := by
  rw [face_update issued (Breaker.moveTo_advances ..), Breaker.moveTo, if_neg apart]
  rfl

theorem face_look_due (issued : s.Issued) (due : s.Due) : (s.step .look).face = s.face.moved .halfOpen := by
  rw [step_look_due due]
  exact face_moved issued (by simp [due.1])

@[simp] theorem Face.moved_moved (f : Face) (first second : Circuit) :
    (f.moved first).moved second = f.moved second := by
  simp [Face.moved]

theorem Face.moved_filter (f : Face) (state : Circuit) (call : Nat) :
    { f with pending := f.pending.filter (·.1 ≠ call) }.moved state =
      { f.moved state with pending := (f.moved state).pending.filter (·.1 ≠ call) } := by
  simp [Face.moved, List.filter_map, Function.comp_def]

theorem face_reset_moved (issued : s.Issued) (apart : s.breaker.state ≠ .closed) :
    (s.step .reset).face = s.face.moved .closed := by
  have forgotten : Issued { s.note .reset with breaker := { s.breaker with failures := 0 } } := issued
  rw [step_reset]
  exact face_moved forgotten apart

/-- The end of a call makes no difference to an open circuit. -/
theorem Follows.finish_opened (follows : Follows config start s) (opened : s.breaker.state = .opened) {call : Nat}
    {ticket : Ticket} (found : s.pending.lookup call = some ticket) (verdict : Verdict) :
    s.step (.finish call verdict) = s.drop call verdict := by
  by_cases current : s.breaker.generation = ticket.generation
  · have plain : ticket.isTrial = false := by
      simpa [opened] using follows.trial (call, ticket) (mem_of_lookup found) current.symm
    have stays : s.breaker.target? verdict = none := by cases verdict <;> simp [Breaker.target?, opened]
    rw [step_finish_current found verdict current, Breaker.count_opened opened plain, stays]
    rfl
  · exact step_finish_stale found verdict current

section Due
variable (follows : Follows config start s) (due : s.Due)
include due

theorem half_after_look : (s.step .look).breaker.state = .halfOpen := by simp [step_look_due due]

theorem later_after_look : s.breaker.generation < (s.step .look).breaker.generation := by
  rw [step_look_due due, update_breaker]
  exact (s.breaker.moveTo_advances .halfOpen s.now).moved (by simp [Breaker.moveTo, due.1])

include follows

theorem Follows.look_before_wait (span : Duration) :
    (((s.step .look).step (.wait span)).step .look).face = ((s.step (.wait span)).step .look).face := by
  have later : Due (s.step (.wait span)) :=
    ⟨due.1, Nat.le_trans due.2 (Nat.sub_le_sub_right (Nat.le_add_right ..) _)⟩
  have steady : ((s.step .look).step (.wait span)).breaker.state ≠ .opened := by
    change (s.step .look).breaker.state ≠ .opened
    simp [half_after_look due]
  have waited : Issued (s.step (.wait span)) := follows.issued
  rw [step_look_steady steady, face_look_due waited later]
  change { (s.step .look).face with now := (s.step .look).face.now.add span } = _
  rw [face_look_due follows.issued due]
  rfl

theorem Follows.look_before_reset :
    (((s.step .look).step .reset).step .look).face = ((s.step .reset).step .look).face := by
  have closes (t : Session) : (t.step .reset).step .look = t.step .reset :=
    step_look_steady (by simp [Session.step, Breaker.reset])
  have half := half_after_look due
  rw [closes, closes, face_reset_moved follows.look.issued (by simp [half]),
    face_reset_moved follows.issued (by simp [due.1]), face_look_due follows.issued due, Face.moved_moved]

theorem Follows.look_before_finish (call : Nat) (verdict : Verdict) :
    (((s.step .look).step (.finish call verdict)).step .look).face =
      ((s.step (.finish call verdict)).step .look).face := by
  have same : (s.step .look).pending = s.pending := update_pending ..
  cases found : s.pending.lookup call with
  | none => rw [step_finish_unknown found, step_finish_unknown (same ▸ found), look_look]
  | some ticket =>
    have stale : (s.step .look).breaker.generation ≠ ticket.generation := by
      have old : ticket.generation ≤ s.breaker.generation := follows.issued (call, ticket) (mem_of_lookup found)
      have later := later_after_look due
      omega
    have steady : ((s.step .look).drop call verdict).breaker.state ≠ .opened := by
      change (s.step .look).breaker.state ≠ .opened
      simp [half_after_look due]
    have dropped : Due (s.drop call verdict) := due
    have issued : s.Issued := follows.issued
    rw [step_finish_stale (same ▸ found) verdict stale, follows.finish_opened due.1 found, step_look_steady steady,
      face_look_due (issued.drop call verdict) dropped, face_drop, face_drop, face_look_due issued due,
      Face.moved_filter]

end Due

/-- Nobody can tell whether a circuit became half-open before something was done or only after it. -/
theorem Follows.look_absorbed (follows : Follows config start s) (action : Action) :
    (((s.step .look).step action).step .look).face = ((s.step action).step .look).face := by
  -- The early look makes a difference only to a circuit that is due.
  by_cases due : s.Due
  · cases action with
    | ask => rw [step_ask, look_look, ← step_ask]
    | finish call verdict => exact follows.look_before_finish due call verdict
    | reset => exact follows.look_before_reset due
    | look => rw [look_look]
    | wait span => exact follows.look_before_wait due span
  · rw [step_look_early due]

structure Reading where
  state : Circuit
  failures : Nat
  trials : Nat
  deriving DecidableEq, Repr

/-- What somebody gets to know who does something with a breaker. -/
inductive Answer where
  | admitted (call : Nat)
  | rejected
  | read (reading : Reading)
  | nothing
  deriving DecidableEq, Repr

def reply (s : Session) : Action → Answer
  | .ask =>
    match (s.breaker.ask s.now).1 with
    | some _ => .admitted s.admissions
    | none => .rejected
  | .look =>
    let (b, _) := s.breaker.refresh s.now
    .read { state := b.state, failures := b.failures, trials := b.trials }
  | .finish _ _ => .nothing
  | .reset => .nothing
  | .wait _ => .nothing

def replies (s : Session) : List Action → List Answer
  | [] => []
  | action :: rest => s.reply action :: (s.step action).replies rest

/-- The answers in a run that is watched: wherever nothing stands in it somebody else takes a look. -/
def watchedReplies (s : Session) : List (Option Action) → List Answer
  | [] => []
  | none :: rest => (s.step .look).watchedReplies rest
  | some action :: rest => s.reply action :: (s.step action).watchedReplies rest

theorem reply_ask (s : Session) :
    s.reply .ask =
      if (s.step .look).breaker.grant.1.isSome then .admitted (s.step .look).admissions else .rejected := by
  have looked : (s.step .look).breaker = (s.breaker.refresh s.now).1 := update_breaker ..
  have admissions : (s.step .look).admissions = s.admissions := update_admissions ..
  rw [looked, admissions, reply, Breaker.ask_eq]
  cases (s.breaker.refresh s.now).1.grant.1 <;> rfl

theorem reply_look (s : Session) :
    s.reply .look =
      .read { state := (s.step .look).breaker.state, failures := (s.step .look).breaker.failures,
              trials := (s.step .look).breaker.trials } := by
  have looked : (s.step .look).breaker = (s.breaker.refresh s.now).1 := update_breaker ..
  rw [looked]
  rfl

theorem reply_alike (alike : (s.step .look).face = (t.step .look).face) (action : Action) :
    s.reply action = t.reply action := by
  cases action with
  | ask =>
    have admissions : (s.step .look).admissions = (t.step .look).admissions := congrArg Face.admissions alike
    rw [reply_ask, reply_ask, (grant_alike alike).2, admissions]
  | look =>
    have same := breaker_alike alike
    rw [reply_look, reply_look, Breaker.state_alike same, Breaker.failures_alike same, Breaker.trials_alike same]
  | finish call verdict => rfl
  | reset => rfl
  | wait span => rfl

/-- Sessions that look alike after a look do so for ever, however often somebody looks at one of them in between. -/
theorem Follows.watched (mine : Follows config start s) (yours : Follows config start t)
    (alike : (s.step .look).face = (t.step .look).face) (steps : List (Option Action)) :
    s.watchedReplies steps = t.replies steps.reduceOption := by
  -- They need not look alike before the look: one circuit may be half-open already when the other is still due.
  induction steps generalizing s t with
  | nil => rfl
  | cons step rest ih =>
    cases step with
    | none =>
      rw [List.reduceOption_cons_of_none]
      refine ih mine.look yours ?_
      rw [look_look, alike]
    | some action =>
      rw [List.reduceOption_cons_of_some, watchedReplies, replies, reply_alike alike]
      congr 1
      refine ih (mine.step action) (yours.step action) ?_
      rw [← mine.look_absorbed, ← yours.look_absorbed]
      have stepped := step_alike alike mine.look.issued yours.look.issued action
      exact look_alike stepped (mine.look.step action).issued (yours.look.step action).issued

/-- To look at a breaker does not influence it. Whatever calls ask, end in whatever way or never, whenever the breaker
is reset and however time passes, further looks change neither which calls are admitted nor what any other look
sees. -/
theorem looks_unnoticed (config : Config.Breaker) (start : Moment) (steps : List (Option Action)) :
    (fresh config start).watchedReplies steps = (fresh config start).replies steps.reduceOption :=
  (follows_fresh config start).watched (follows_fresh config start) rfl steps

end Session
end Gatehouse.Resilience
