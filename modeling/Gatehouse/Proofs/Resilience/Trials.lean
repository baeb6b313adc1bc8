import Gatehouse.Proofs.Resilience.Periods

/-!
Trials that outlast their period. A breaker counts the trials of the present period only, so one that was
admitted in an earlier half-open period and has not ended runs on beside those that the limit allows. A period
can leave at most one less than the limit, for it ends with one of its trials.
-/
namespace Gatehouse.Resilience.Session

namespace History

/-- The calls that were admitted while the circuit was half-open and have not ended, the latest first. -/
def trials : History → List Nat
  | [] => []
  | (_, .admitted call) :: past => if circuit past = .halfOpen then call :: trials past else trials past
  | (_, .ended call _) :: past => (trials past).filter (· ≠ call)
  | _ :: past => trials past

/-- Those that were admitted in an earlier period. -/
def leftOver (h : History) : List Nat := h.trials.filter (· ∉ h.unfinished)

/-- How many half-open periods are over. -/
def rounds : History → Nat
  | [] => 0
  | (_, .changed change) :: past => if change.before = .halfOpen then rounds past + 1 else rounds past
  | _ :: past => rounds past

end History

/-- The number of trials with a ticket of an earlier generation. -/
def strays (s : Session) : Nat :=
  (s.pending.filter fun p => !decide (p.2.generation = s.breaker.generation)).countP (·.2.isTrial)

/-- The trials are the calls with such tickets; those of the present period are within the limit, and each
half-open period left room for one more. -/
structure Tried (config : Config.Breaker) (start : Moment) (s : Session) : Prop extends
    Follows config start s where
  tickets : s.log.trials = (s.pending.filter (·.2.isTrial)).map (·.1)
  fits : s.breaker.state = .halfOpen → s.breaker.trials ≤ config.halfOpenLimit
  left : s.strays ≤ (config.halfOpenLimit - 1) * s.log.rounds

variable {config : Config.Breaker} {start : Moment} {s : Session}

theorem tried_fresh (config : Config.Breaker) (start : Moment) : Tried config start (fresh config start) where
  toFollows := follows_fresh config start
  tickets := rfl
  fits := by simp [fresh]
  left := Nat.zero_le _

/-- While the circuit is half-open the trials are those of the present period and the strays; otherwise all
of them are strays. -/
theorem Follows.count_trials (follows : Follows config start s) :
    s.pending.countP (·.2.isTrial) =
      (if s.breaker.state = .halfOpen then s.breaker.trials else 0) + s.strays := by
  rw [List.countP_eq_countP_filter_add _ _ fun p => decide (p.2.generation = s.breaker.generation), strays]
  congr 1
  have present : ∀ p ∈ s.pending.filter fun p => decide (p.2.generation = s.breaker.generation),
      p.2.isTrial = decide (s.breaker.state = .halfOpen) := fun p kept =>
    follows.trial p (List.mem_filter.mp kept).1 (of_decide_eq_true (List.mem_filter.mp kept).2)
  split
  next half =>
    rw [follows.trials half, follows.unfinished, List.length_map]
    exact List.countP_eq_length.mpr fun p kept => by simp [present p kept, half]
  next other => exact List.countP_eq_zero.mpr fun p kept => by simp [present p kept, other]

/-- A period that ends with a trial less than the limit leaves no more than that. -/
theorem Tried.move (tried : Tried config start s) {state : Circuit} (apart : s.breaker.state ≠ state)
    (spare : s.breaker.state = .halfOpen → s.breaker.trials ≤ config.halfOpenLimit - 1) :
    Tried config start (s.update (s.breaker.moveTo state s.now)) := by
  have moved : s.breaker.moveTo state s.now =
      ({ s.breaker with
          state, changedAt := s.now, generation := s.breaker.generation + 1, failures := 0,
          trials := 0 },
       some ⟨s.breaker.state, state⟩) := if_neg apart
  refine ⟨tried.toFollows.move apart, ?_, ?_, ?_⟩ <;> rw [moved]
  · exact tried.tickets
  · exact fun _ => Nat.zero_le _
  · have older : s.pending.filter (fun p => !decide (p.2.generation = s.breaker.generation + 1)) = s.pending :=
      List.filter_eq_self.mpr fun p member => by
        have := tried.issued p member
        simp
        omega
    have left := tried.left
    change (s.pending.filter fun p => !decide (p.2.generation = s.breaker.generation + 1)).countP _ ≤
      _ * (if s.breaker.state = .halfOpen then s.log.rounds + 1 else s.log.rounds)
    rw [older, tried.count_trials]
    split
    next half =>
      have spare := spare half
      rw [Nat.mul_add_one]
      omega
    next => omega

theorem Tried.look (tried : Tried config start s) : Tried config start (s.step .look) := by
  change Tried config start (s.update (s.breaker.refresh s.now))
  unfold Breaker.refresh
  split
  next due => exact tried.move (by simp [due.1]) (by simp [due.1])
  next => exact tried

theorem Tried.enter (tried : Tried config start s) (trials : Nat)
    (counted : s.breaker.state = .halfOpen → trials = s.breaker.trials + 1)
    (room : s.breaker.state = .halfOpen → s.breaker.trials < config.halfOpenLimit) :
    Tried config start
      ({ s with breaker := { s.breaker with trials } }.answer
        (some ⟨s.breaker.generation, s.breaker.state = Circuit.halfOpen⟩)) where
  toFollows := tried.toFollows.enter trials counted
  tickets := by
    change (if s.log.circuit = .halfOpen then s.admissions :: s.log.trials else s.log.trials) =
      (((s.admissions, (⟨s.breaker.generation, s.breaker.state = Circuit.halfOpen⟩ : Ticket)) ::
        s.pending).filter (·.2.isTrial)).map (·.1)
    rw [← tried.circuit, tried.tickets]
    by_cases half : s.breaker.state = .halfOpen <;> simp [half]
  fits half := by
    have below := room half
    have more := counted half
    simp only [answer_breaker]
    omega
  left := by
    change (((s.admissions, (⟨s.breaker.generation, s.breaker.state = Circuit.halfOpen⟩ : Ticket)) ::
      s.pending).filter fun p => !decide (p.2.generation = s.breaker.generation)).countP _ ≤ _
    rw [List.filter_cons_of_neg (by simp)]
    exact tried.left

theorem Tried.grant (tried : Tried config start s) :
    Tried config start ({ s with breaker := s.breaker.grant.2 }.answer s.breaker.grant.1) := by
  have rejected : Tried config start (s.note .rejected) := { tried with toFollows := tried.reject }
  cases state : s.breaker.state with
  | opened =>
    rw [Breaker.grant_opened state]
    exact rejected
  | closed =>
    have entered := tried.enter s.breaker.trials (by simp [state]) (by simp [state])
    have plain : decide (s.breaker.state = .halfOpen) = false := by simp [state]
    rw [plain] at entered
    rw [Breaker.grant_closed state]
    exact entered
  | halfOpen =>
    by_cases room : s.breaker.trials < s.breaker.config.halfOpenLimit
    · have entered := tried.enter (s.breaker.trials + 1) (fun _ => rfl) fun _ => tried.settings ▸ room
      have trial : decide (s.breaker.state = .halfOpen) = true := by simp [state]
      rw [trial] at entered
      rw [Breaker.grant_trial state room]
      exact entered
    · rw [Breaker.grant_full state room]
      exact rejected

/-- An end takes a call from the trials and the strays, if it is one of them. -/
theorem Tried.drop (tried : Tried config start s) {call : Nat} {verdict : Verdict} {trials failures : Nat}
    (follows : Follows config start
      { s.drop call verdict with breaker := { s.breaker with trials, failures } })
    (fewer : trials ≤ s.breaker.trials) :
    Tried config start { s.drop call verdict with breaker := { s.breaker with trials, failures } } where
  toFollows := follows
  tickets := by
    change s.log.trials.filter (· ≠ call) = ((s.pending.filter (·.1 ≠ call)).filter (·.2.isTrial)).map (·.1)
    rw [tried.tickets, List.filter_map, List.filter_filter, List.filter_filter]
    congr 2
    funext p
    exact Bool.and_comm _ _
  fits half := Nat.le_trans fewer (tried.fits half)
  left := by
    have fewer : ((s.pending.filter (·.1 ≠ call)).filter fun p =>
        !decide (p.2.generation = s.breaker.generation)).countP (·.2.isTrial) ≤ s.strays :=
      (List.filter_sublist.filter _).countP_le
    exact Nat.le_trans fewer tried.left

theorem Tried.finish (tried : Tried config start s) (call : Nat) (verdict : Verdict) :
    Tried config start (s.step (.finish call verdict)) := by
  cases found : s.pending.lookup call with
  | none =>
    rw [step_finish_unknown found]
    exact tried
  | some ticket =>
    by_cases same : s.breaker.generation = ticket.generation
    · have fewer : (s.breaker.count ticket verdict).trials ≤ s.breaker.trials := by
        simp only [Breaker.count]
        split <;> omega
      have counted := tried.drop (tried.toFollows.finish_current found verdict same) fewer
      rw [step_finish_current found verdict same]
      cases target : (s.breaker.count ticket verdict).target? verdict with
      | none => exact counted
      | some state =>
        refine counted.move (Breaker.target?_apart target) fun half => ?_
        -- the call that ends is itself a trial of this period
        have trial : ticket.isTrial = true := by
          have half : s.breaker.state = .halfOpen := half
          simpa [half] using tried.trial _ (mem_of_lookup found) same.symm
        have fits := tried.fits half
        simp only [trial, if_true]
        omega
    · rw [step_finish_stale found verdict same]
      exact tried.drop (tried.toFollows.finish_stale found verdict same) (Nat.le_refl _)

theorem Tried.step (tried : Tried config start s) {action : Action} (unreset : action ≠ .reset) :
    Tried config start (s.step action) := by
  cases action with
  | ask =>
    rw [step_ask]
    exact tried.look.grant
  | finish call verdict => exact tried.finish call verdict
  | reset => exact absurd rfl unreset
  | look => exact tried.look
  | wait span => exact { tried with toFollows := tried.toFollows.wait span }

theorem Tried.run (tried : Tried config start s) {actions : List Action} (unreset : .reset ∉ actions) :
    Tried config start (s.run actions) := by
  induction actions generalizing s with
  | nil => exact tried
  | cons action rest ih =>
    refine ih (tried.step fun same => ?_) fun member => unreset (List.mem_cons_of_mem _ member)
    exact unreset (same ▸ List.mem_cons_self)

/-- What the log shows of an earlier period are the strays. -/
theorem Tried.length_leftOver (tried : Tried config start s) : s.log.leftOver.length = s.strays := by
  have apart : ∀ p ∈ s.pending, decide (p.1 ∉ s.log.unfinished) = !decide (p.2.generation = s.breaker.generation) :=
    fun p member => by simp [tried.current_iff member]
  rw [History.leftOver, tried.tickets, List.filter_map, List.length_map, strays, List.countP_eq_length_filter,
    List.filter_filter, List.filter_filter]
  congr 1
  refine List.filter_congr fun p member => ?_
  rw [Function.comp_apply, apart p member, Bool.and_comm]

/-- The trials that run, of this period and of earlier ones. The limit bounds those of this period, so it
bounds all while none is left over, which is always so for a limit of one; and each half-open period that is
over left at most one less than the limit. -/
theorem trials_within_limit_and_left_over (config : Config.Breaker) (start : Moment) (actions : List Action)
    (unreset : .reset ∉ actions) :
    let s := (fresh config start).run actions
    s.log.trials = (s.pending.filter (·.2.isTrial)).map (·.1) ∧
    s.log.trials.length ≤ config.halfOpenLimit + s.log.leftOver.length ∧
    s.log.leftOver.length ≤ (config.halfOpenLimit - 1) * s.log.rounds ∧
    (s.log.leftOver = [] ∨ config.halfOpenLimit = 1 → s.log.trials.length ≤ config.halfOpenLimit) := by
  intro s
  have tried : Tried config start s := (tried_fresh config start).run unreset
  have left : s.log.leftOver.length ≤ (config.halfOpenLimit - 1) * s.log.rounds :=
    tried.length_leftOver ▸ tried.left
  have bound : s.log.trials.length ≤ config.halfOpenLimit + s.log.leftOver.length := by
    rw [tried.tickets, List.length_map, ← List.countP_eq_length_filter, tried.count_trials, tried.length_leftOver]
    refine Nat.add_le_add_right ?_ _
    split
    next half => exact tried.fits half
    next => exact Nat.zero_le _
  refine ⟨tried.tickets, bound, left, ?_⟩
  rintro (none | single)
  · rw [none] at bound
    exact bound
  · rw [single] at bound left ⊢
    omega

namespace Overlap

/-- Twice a circuit opens, cools down and lets calls in: the first trial of the first time runs through the
second time. -/
def actions : List Action :=
  [.ask, .finish 0 .failure, .wait (.ofSeconds 1), .ask, .ask, .finish 2 .failure, .wait (.ofSeconds 1), .ask, .ask]

def settings (limit : Nat) : Config.Breaker :=
  { failureThreshold := 1, resetTimeout := .ofSeconds 1, halfOpenLimit := limit }

/-- Three trials run where the limit is two. -/
theorem one_more_than_the_limit :
    let s := (fresh (settings 2) ⟨0⟩).run actions
    .reset ∉ actions ∧ s.log.circuit = .halfOpen ∧ s.log.trials = [4, 3, 1] ∧ s.log.leftOver = [1] ∧
      s.log.trials.length > (settings 2).halfOpenLimit := by
  decide

/-- With a limit of one the second call is rejected both times. -/
theorem single_trial :
    .reset ∉ actions ∧ ((fresh (settings 1) ⟨0⟩).run actions).log.trials.length ≤ (settings 1).halfOpenLimit := by
  have unreset : .reset ∉ actions := by decide
  exact ⟨unreset, (trials_within_limit_and_left_over (settings 1) ⟨0⟩ actions unreset).2.2.2 (.inr rfl)⟩

end Overlap

end Gatehouse.Resilience.Session
