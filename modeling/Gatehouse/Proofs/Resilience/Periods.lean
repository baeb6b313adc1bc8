import Gatehouse.Proofs.Resilience.Session
import Mathlib.Data.List.Nodup

/-!
How the state and the counters of a breaker follow from the log of its use, through every change of state:
a period is what lies between two changes, and each admitted call belongs to the period of its ticket.
-/
namespace Gatehouse.Resilience.Session

/-- The breaker of a session is the one that the log describes. -/
structure Follows (config : Config.Breaker) (start : Moment) (s : Session) : Prop where
  settings : s.breaker.config = config
  circuit : s.breaker.state = s.log.circuit
  since : s.breaker.changedAt = s.log.since start
  past : s.breaker.changedAt ≤ s.now
  distinct : (s.pending.map (·.1)).Nodup
  numbered : ∀ p ∈ s.pending, p.1 < s.admissions
  issued : ∀ p ∈ s.pending, p.2.generation ≤ s.breaker.generation
  trial : ∀ p ∈ s.pending, p.2.generation = s.breaker.generation →
    p.2.isTrial = decide (s.breaker.state = .halfOpen)
  unfinished : s.log.unfinished =
    (s.pending.filter (·.2.generation = s.breaker.generation)).map (·.1)
  trials : s.breaker.state = .halfOpen → s.breaker.trials = s.log.unfinished.length
  failures : s.breaker.state = .closed → s.breaker.failures = s.log.streak

variable {config : Config.Breaker} {start : Moment} {s : Session}

theorem follows_fresh (config : Config.Breaker) (start : Moment) :
    Follows config start (fresh config start) where
  settings := rfl
  circuit := rfl
  since := rfl
  past := Nat.le_refl _
  distinct := List.nodup_nil
  numbered := by simp [fresh]
  issued := by simp [fresh]
  trial := by simp [fresh]
  unfinished := rfl
  trials := by simp [fresh]
  failures _ := rfl

/-- A change of state begins a period of its own: no call that was admitted before belongs to it. -/
theorem Follows.move (follows : Follows config start s) {state : Circuit}
    (apart : s.breaker.state ≠ state) :
    Follows config start (s.update (s.breaker.moveTo state s.now)) := by
  have older : ∀ p ∈ s.pending, ¬ p.2.generation = s.breaker.generation + 1 := fun p member same => by
    have := follows.issued p member
    omega
  have moved : s.breaker.moveTo state s.now =
      ({ s.breaker with
          state, changedAt := s.now, generation := s.breaker.generation + 1, failures := 0,
          trials := 0 },
       some ⟨s.breaker.state, state⟩) := if_neg apart
  rw [moved]
  constructor
  · exact follows.settings
  · rfl
  · rfl
  · exact Nat.le_refl _
  · exact follows.distinct
  · exact follows.numbered
  · exact fun p member => Nat.le_succ_of_le (follows.issued p member)
  · exact fun p member same => absurd same (older p member)
  · have none : s.pending.filter (·.2.generation = s.breaker.generation + 1) = [] :=
      List.filter_eq_nil_iff.mpr fun p member => by simpa using older p member
    exact congrArg (List.map (·.1)) none.symm
  · exact fun _ => rfl
  · exact fun _ => rfl

theorem Follows.wait (follows : Follows config start s) (span : Duration) :
    Follows config start { s with now := s.now.add span } :=
  { follows with past := Nat.le_trans follows.past (Nat.le_add_right _ _) }

theorem Follows.reject (follows : Follows config start s) : Follows config start (s.note .rejected) :=
  { follows with }

/-- A call that is admitted belongs to the present period. -/
theorem Follows.enter (follows : Follows config start s) (trials : Nat)
    (counted : s.breaker.state = .halfOpen → trials = s.breaker.trials + 1) :
    Follows config start
      ({ s with breaker := { s.breaker with trials } }.answer
        (some ⟨s.breaker.generation, s.breaker.state = Circuit.halfOpen⟩)) where
  settings := follows.settings
  circuit := follows.circuit
  since := follows.since
  past := follows.past
  distinct := by
    have new : s.admissions ∉ s.pending.map (·.1) := fun member => by
      obtain ⟨p, pending, same⟩ := List.mem_map.mp member
      have := follows.numbered p pending
      omega
    exact List.nodup_cons.mpr ⟨new, follows.distinct⟩
  numbered := by
    intro p member
    rcases List.mem_cons.mp member with rfl | member
    · exact Nat.lt_succ_self _
    · exact Nat.lt_succ_of_lt (follows.numbered p member)
  issued := by
    intro p member
    rcases List.mem_cons.mp member with rfl | member
    · exact Nat.le_refl _
    · exact follows.issued p member
  trial := by
    intro p member
    rcases List.mem_cons.mp member with rfl | member
    · exact fun _ => rfl
    · exact follows.trial p member
  unfinished := by
    change s.admissions :: s.log.unfinished =
      (((s.admissions, (⟨s.breaker.generation, s.breaker.state = Circuit.halfOpen⟩ : Ticket)) ::
        s.pending).filter (·.2.generation = s.breaker.generation)).map (·.1)
    rw [follows.unfinished, List.filter_cons_of_pos (by simp)]
    rfl
  trials state := by
    rw [counted state, follows.trials state]
    rfl
  failures := follows.failures

theorem Follows.grant (follows : Follows config start s) :
    Follows config start
      ({ s with breaker := s.breaker.grant.2 }.answer s.breaker.grant.1) := by
  cases state : s.breaker.state with
  | opened =>
    rw [Breaker.grant_opened state]
    exact follows.reject
  | closed =>
    have entered := follows.enter s.breaker.trials (by simp [state])
    have plain : decide (s.breaker.state = .halfOpen) = false := by simp [state]
    rw [plain] at entered
    rw [Breaker.grant_closed state]
    exact entered
  | halfOpen =>
    by_cases room : s.breaker.trials < s.breaker.config.halfOpenLimit
    · have entered := follows.enter (s.breaker.trials + 1) fun _ => rfl
      have trial : decide (s.breaker.state = .halfOpen) = true := by simp [state]
      rw [trial] at entered
      rw [Breaker.grant_trial state room]
      exact entered
    · rw [Breaker.grant_full state room]
      exact follows.reject

theorem mem_of_lookup {pending : List (Nat × Ticket)} {call : Nat} {ticket : Ticket}
    (found : pending.lookup call = some ticket) : (call, ticket) ∈ pending := by
  obtain ⟨before, after, rfl, -⟩ := List.lookup_eq_some_iff.mp found
  exact List.mem_append_right _ List.mem_cons_self

/-- A call belongs to the present period if its ticket does. -/
theorem Follows.current_iff (follows : Follows config start s) {p : Nat × Ticket} (member : p ∈ s.pending) :
    p.1 ∈ s.log.unfinished ↔ p.2.generation = s.breaker.generation := by
  rw [follows.unfinished]
  constructor
  · intro current
    obtain ⟨q, kept, same⟩ := List.mem_map.mp current
    obtain ⟨pending, generation⟩ := List.mem_filter.mp kept
    obtain rfl : q = p := List.inj_on_of_nodup_map follows.distinct pending member same
    exact of_decide_eq_true generation
  · intro same
    exact List.mem_map.mpr ⟨p, List.mem_filter.mpr ⟨member, by simp [same]⟩, rfl⟩

theorem Follows.mem_unfinished (follows : Follows config start s) {call : Nat} {ticket : Ticket}
    (found : s.pending.lookup call = some ticket) :
    call ∈ s.log.unfinished ↔ s.breaker.generation = ticket.generation :=
  (follows.current_iff (mem_of_lookup found)).trans eq_comm

theorem Follows.drop (follows : Follows config start s) (call : Nat) (verdict : Verdict)
    (trials failures : Nat)
    (fewer : s.breaker.state = .halfOpen →
      trials = (s.log.unfinished.filter (· ≠ call)).length)
    (counted : s.breaker.state = .closed →
      failures = History.streak ((s.now, .ended call verdict) :: s.log)) :
    Follows config start
      { s.drop call verdict with breaker := { s.breaker with trials, failures } } := by
  have still : ∀ p ∈ (s.drop call verdict).pending, p ∈ s.pending := fun p kept =>
    (List.mem_filter.mp kept).1
  constructor
  · exact follows.settings
  · exact follows.circuit
  · exact follows.since
  · exact follows.past
  · exact follows.distinct.sublist (List.filter_sublist.map _)
  · exact fun p kept => follows.numbered p (still p kept)
  · exact fun p kept => follows.issued p (still p kept)
  · exact fun p kept => follows.trial p (still p kept)
  · change s.log.unfinished.filter (· ≠ call) =
      ((s.pending.filter (·.1 ≠ call)).filter (·.2.generation = s.breaker.generation)).map (·.1)
    rw [follows.unfinished, List.filter_map, List.filter_filter, List.filter_filter]
    congr 2
    funext p
    exact Bool.and_comm _ _
  · exact fewer
  · exact counted

theorem Follows.finish_stale (follows : Follows config start s) {call : Nat} {ticket : Ticket}
    (found : s.pending.lookup call = some ticket) (verdict : Verdict)
    (other : s.breaker.generation ≠ ticket.generation) :
    Follows config start (s.drop call verdict) := by
  have apart : call ∉ s.log.unfinished := fun member =>
    other ((follows.mem_unfinished found).mp member)
  have all : s.log.unfinished.filter (· ≠ call) = s.log.unfinished :=
    List.filter_eq_self.mpr fun n member => by
      have : n ≠ call := fun same => apart (same ▸ member)
      simpa using this
  refine follows.drop call verdict s.breaker.trials s.breaker.failures ?_ ?_
  · intro state
    rw [all]
    exact follows.trials state
  · intro state
    rw [follows.failures state]
    cases verdict <;> simp [History.streak, apart]

theorem Follows.finish_current (follows : Follows config start s) {call : Nat} {ticket : Ticket}
    (found : s.pending.lookup call = some ticket) (verdict : Verdict)
    (same : s.breaker.generation = ticket.generation) :
    Follows config start
      { s.drop call verdict with breaker := s.breaker.count ticket verdict } := by
  have member : call ∈ s.log.unfinished := (follows.mem_unfinished found).mpr same
  have trial := follows.trial _ (mem_of_lookup found) same.symm
  refine follows.drop call verdict _ _ ?_ ?_
  · intro state
    have distinct : s.log.unfinished.Nodup := by
      rw [follows.unfinished]
      exact follows.distinct.sublist (List.filter_sublist.map _)
    have less : (s.log.unfinished.filter (· ≠ call)).length = s.log.unfinished.length - 1 := by
      rw [← List.length_erase_of_mem member, distinct.erase_eq_filter]
      exact congrArg List.length (List.filter_congr fun n _ => Bool.eq_iff_iff.mpr (by simp))
    rw [less, trial, state, ← follows.trials state]
    rfl
  · intro state
    rw [state]
    cases verdict with
    | success => simp [History.streak, member]
    | failure => simp [History.streak, member, follows.failures state]
    | abandoned => simpa [History.streak] using follows.failures state

theorem Follows.look (follows : Follows config start s) : Follows config start (s.step .look) := by
  change Follows config start (s.update (s.breaker.refresh s.now))
  unfold Breaker.refresh
  split
  next due => exact follows.move (by simp [due.1])
  next => exact follows

theorem Follows.ask (follows : Follows config start s) : Follows config start (s.step .ask) := by
  rw [step_ask]
  exact follows.look.grant

theorem step_reset (s : Session) :
    s.step .reset =
      { s.note .reset with breaker := { s.breaker with failures := 0 } }.update
        (Breaker.moveTo { s.breaker with failures := 0 } .closed s.now) := by
  rw [update_replaced]
  rfl

theorem Follows.reset (follows : Follows config start s) : Follows config start (s.step .reset) := by
  have forgot : Follows config start
      { s.note .reset with breaker := { s.breaker with failures := 0 } } :=
    { follows with failures := fun _ => rfl }
  rw [step_reset]
  by_cases closed : s.breaker.state = .closed
  · rw [Breaker.moveTo, if_pos closed]
    exact forgot
  · exact forgot.move closed

theorem Follows.finish (follows : Follows config start s) (call : Nat) (verdict : Verdict) :
    Follows config start (s.step (.finish call verdict)) := by
  cases found : s.pending.lookup call with
  | none =>
    rw [step_finish_unknown found]
    exact follows
  | some ticket =>
    by_cases same : s.breaker.generation = ticket.generation
    · have counted := follows.finish_current found verdict same
      rw [step_finish_current found verdict same]
      cases target : (s.breaker.count ticket verdict).target? verdict with
      | none => exact counted
      | some state => exact counted.move (Breaker.target?_apart target)
    · rw [step_finish_stale found verdict same]
      exact follows.finish_stale found verdict same

theorem Follows.step (follows : Follows config start s) (action : Action) :
    Follows config start (s.step action) := by
  cases action with
  | ask => exact follows.ask
  | finish call verdict => exact follows.finish call verdict
  | reset => exact follows.reset
  | look => exact follows.look
  | wait span => exact follows.wait span

structure Sound (config : Config.Breaker) (start : Moment) (s : Session) : Prop extends
    Follows config start s where
  below : s.breaker.state = .closed → s.breaker.failures < config.failureThreshold

theorem Sound.look (sound : Sound config start s) : Sound config start (s.step .look) where
  toFollows := sound.toFollows.look
  below := by
    have same : (s.step .look).breaker = (s.breaker.refresh s.now).1 := update_breaker ..
    rw [same]
    unfold Breaker.refresh
    split
    next due => simp
    next => exact sound.below

theorem Sound.ask (sound : Sound config start s) : Sound config start (s.step .ask) where
  toFollows := sound.toFollows.ask
  below := by
    have looked := sound.look
    rw [step_ask, answer_breaker]
    intro closed
    cases state : (s.step .look).breaker.state with
    | closed =>
      rw [Breaker.grant_closed state]
      exact looked.below state
    | opened => simp [Breaker.grant_opened state, state] at closed
    | halfOpen =>
      by_cases room : (s.step .look).breaker.trials < (s.step .look).breaker.config.halfOpenLimit
      · simp [Breaker.grant_trial state room, state] at closed
      · simp [Breaker.grant_full state room, state] at closed

section
variable (sound : Sound config start s) (positive : 1 ≤ config.failureThreshold)
include sound positive

theorem Sound.reset : Sound config start (s.step .reset) where
  toFollows := sound.toFollows.reset
  below _ := by
    rw [step_reset, update_breaker, Breaker.moveTo]
    split <;> exact positive

theorem Sound.finish (call : Nat) (verdict : Verdict) : Sound config start (s.step (.finish call verdict)) where
  toFollows := sound.toFollows.finish call verdict
  below := by
    cases found : s.pending.lookup call with
    | none =>
      rw [step_finish_unknown found]
      exact sound.below
    | some ticket =>
      by_cases same : s.breaker.generation = ticket.generation
      · rw [step_finish_current found verdict same, update_breaker]
        cases target : (s.breaker.count ticket verdict).target? verdict with
        | none =>
          intro closed
          have state : s.breaker.state = .closed := closed
          have settings := sound.settings
          cases verdict with
          | success =>
            simp only [Breaker.follow, Breaker.count, state]
            exact positive
          | failure =>
            have few : ¬ config.failureThreshold ≤ s.breaker.failures + 1 := by
              simpa [Breaker.target?, Breaker.count, state, settings] using target
            simpa [Breaker.follow, Breaker.count, state] using few
          | abandoned => simpa [Breaker.follow, Breaker.count, state] using sound.below state
        | some state =>
          intro _
          rw [Breaker.follow, Breaker.moveTo, if_neg (Breaker.target?_apart target)]
          exact positive
      · rw [step_finish_stale found verdict same]
        exact sound.below

theorem Sound.step (action : Action) : Sound config start (s.step action) := by
  cases action with
  | ask => exact sound.ask
  | finish call verdict => exact sound.finish positive call verdict
  | reset => exact sound.reset positive
  | look => exact sound.look
  | wait span => exact ⟨sound.toFollows.wait span, sound.below⟩

end

theorem Sound.run (sound : Sound config start s) (positive : 1 ≤ config.failureThreshold)
    (actions : List Action) : Sound config start (s.run actions) := by
  induction actions generalizing s with
  | nil => exact sound
  | cons action rest ih => exact ih (sound.step positive action)

theorem sound_run (config : Config.Breaker) (start : Moment) (positive : 1 ≤ config.failureThreshold)
    (actions : List Action) : Sound config start ((fresh config start).run actions) :=
  Sound.run ⟨follows_fresh config start, fun _ => positive⟩ positive actions

end Gatehouse.Resilience.Session
