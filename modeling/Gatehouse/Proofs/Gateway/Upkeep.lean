import Gatehouse.Proofs.Gateway.Stages
import Gatehouse.Proofs.Limiter.Memory
import Gatehouse.Proofs.Maintenance

/-!
What a gateway remembers of its callers while a task in the background forgets those that are idle. Between two runs
of the task only callers that make a request become known, and a run leaves none that was idle for long; so at any
time every caller that is known made a request not long ago.
-/
namespace Gatehouse.Gateway
open Limiter (Window forgettable lastRequest)
open Limiter.Window (Remembers Shrinks)
open Resilience (Traffic)

/-- What is done with the limiter of a gateway, between spans of time of whole milliseconds. -/
inductive Use where
  | call (c : Limiter.Call)
  | sleep (wall : Instant) (freshKey : Nat → Key) (ms : Nat)

def use (g : Gateway) : Use → List Limiter.Event × Gateway
  | .call c =>
    let (answer, limiter) := g.limiter.step g.traffic.now c
    ([⟨g.traffic.now, c, answer⟩], { g with limiter })
  | .sleep wall freshKey ms => ([], g.pass wall freshKey (g.traffic.now.add (.ofMillis ms)))

def uses (g : Gateway) : List Use → List Limiter.Event × Gateway
  | [] => ([], g)
  | u :: rest =>
    let (events, h) := g.use u
    let (more, k) := h.uses rest
    (events ++ more, k)

def sweep (idle : Duration) (starts : List Moment) (w : Window) : Window :=
  starts.foldl (fun w t => w.purge t idle) w

section Tasks
variable {g : Gateway} {w : Window}

/-- Tasks in the background forget keys of the limiter at most. -/
theorem runJob_window (limiter : g.limiter = .window w) (wall : Instant) (freshKey : Key) (now : Moment) (job : Job) :
    let h := g.runJob wall freshKey now job
    h.limits = g.limits ∧ ∃ v, h.limiter = .window v ∧ Shrinks w v := by
  cases job with
  | forgetCallers =>
    refine ⟨rfl, w.purge now g.limits.inactivityTimeout, ?_, w.shrinks_purge now _⟩
    exact congrArg (Limiter.purge · now g.limits.inactivityTimeout) limiter
  | removeTokens =>
    unfold runJob
    simp only
    split
    · exact ⟨rfl, w, limiter, .refl w⟩
    · exact ⟨rfl, w, limiter, .refl w⟩
  | replaceKey => exact ⟨rfl, w, limiter, .refl w⟩

theorem runJobs_window (limiter : g.limiter = .window w) (wall : Instant) (freshKey : Nat → Key) (job : Job)
    (events : List Task.Event) :
    let h := g.runJobs wall freshKey job events
    h.limits = g.limits ∧ ∃ v, h.limiter = .window v ∧ Shrinks w v := by
  unfold runJobs
  simp only
  generalize (events.filterMap _).zipIdx = starts
  induction starts generalizing g w with
  | nil => exact ⟨rfl, w, limiter, .refl w⟩
  | cons start rest ih =>
    obtain ⟨limits, v, first, shrinks⟩ := runJob_window limiter wall (freshKey start.2) start.1 job
    obtain ⟨limits', u, others, shrinks'⟩ := ih first
    exact ⟨limits'.trans limits, u, others, shrinks.trans shrinks'⟩

theorem runJobs_forget (limiter : g.limiter = .window w) (wall : Instant) (freshKey : Nat → Key)
    (starts : List Moment) :
    (g.runJobs wall freshKey .forgetCallers (Task.moments starts)).limiter =
      .window (sweep g.limits.inactivityTimeout starts w) := by
  unfold runJobs
  simp only
  generalize 0 = first
  induction starts generalizing g w first with
  | nil => exact limiter
  | cons start rest ih =>
    have next : (g.runJob wall (freshKey first) start .forgetCallers).limiter =
        .window (w.purge start g.limits.inactivityTimeout) :=
      congrArg (Limiter.purge · start g.limits.inactivityTimeout) limiter
    exact ih next (first + 1)

def runTask (wall : Instant) (freshKey : Nat → Key) (go : Task → Task × List Task.Event) (g : Gateway)
    (t : Job × Task) : Gateway :=
  { g.runJobs wall freshKey t.1 (go t.2).2 with tasks := g.tasks ++ [(t.1, (go t.2).1)] }

theorem pass_eq (g : Gateway) (wall : Instant) (freshKey : Nat → Key) (finish : Moment) :
    g.pass wall freshKey finish =
      g.tasks.foldl (runTask wall freshKey (·.pass g.traffic.now finish))
        { { g with traffic := g.traffic.pass finish }.attend with tasks := [] } := rfl

/-- Some window between the one before and the one after is swept by a task. -/
def SweptBetween (idle : Duration) (starts : List Moment) (w v : Window) : Prop :=
  ∃ u, Shrinks w u ∧ Shrinks (sweep idle starts u) v

theorem foldl_runTask (limiter : g.limiter = .window w) (wall : Instant) (freshKey : Nat → Key)
    (go : Task → Task × List Task.Event) (tasks : List (Job × Task)) :
    let h := tasks.foldl (runTask wall freshKey go) g
    h.limits = g.limits ∧ g.tasks ⊆ h.tasks ∧ ∃ v, h.limiter = .window v ∧ Shrinks w v ∧
      ∀ t starts, (.forgetCallers, t) ∈ tasks → (go t).2 = Task.moments starts →
        (.forgetCallers, (go t).1) ∈ h.tasks ∧ SweptBetween g.limits.inactivityTimeout starts w v := by
  -- The tasks before and after the one in question may forget keys too, whatever their times.
  induction tasks generalizing g w with
  | nil => exact ⟨rfl, List.Subset.refl _, w, limiter, .refl w, fun t starts listed => absurd listed List.not_mem_nil⟩
  | cons task rest ih =>
    obtain ⟨limits, v, first, shrinks⟩ := runJobs_window limiter wall freshKey task.1 (go task.2).2
    obtain ⟨limits', more, u, others, shrinks', swept⟩ := @ih (runTask wall freshKey go g task) v first
    have added := List.Subset.trans (List.subset_append_left g.tasks [(task.1, (go task.2).1)]) more
    refine ⟨limits'.trans limits, added, u, others, shrinks.trans shrinks', ?_⟩
    intro t starts listed begun
    rcases List.mem_cons.mp listed with rfl | later
    · have forgot := runJobs_forget limiter wall freshKey starts
      rw [← begun, first] at forgot
      cases forgot
      exact ⟨more (List.mem_append_right _ List.mem_cons_self), w, .refl w, shrinks'⟩
    · obtain ⟨kept, x, before, after⟩ := swept t starts later begun
      refine ⟨kept, x, shrinks.trans before, ?_⟩
      rw [← limits]
      exact after

theorem traffic_pass_now (t : Traffic) (finish : Moment) : (t.pass finish).now = finish := by
  unfold Traffic.pass
  generalize (finish.since t.now).nanos / Duration.nanosPerMilli + 2 = fuel
  induction fuel generalizing t with
  | zero => rfl
  | succ fuel ih =>
    unfold Traffic.runTo
    split
    next => rfl
    next =>
      split
      · rfl
      · exact ih _

/-- While time passes the limiter forgets keys at most, and it does so whenever a task that is prompt is due. -/
theorem pass_window (limiter : g.limiter = .window w) (wall : Instant) (freshKey : Nat → Key) (finish : Moment) :
    let h := g.pass wall freshKey finish
    h.traffic.now = finish ∧ h.limits = g.limits ∧ ∃ v, h.limiter = .window v ∧ Shrinks w v ∧
      ∀ t starts, (.forgetCallers, t) ∈ g.tasks → (t.pass g.traffic.now finish).2 = Task.moments starts →
        (.forgetCallers, (t.pass g.traffic.now finish).1) ∈ h.tasks ∧
          SweptBetween g.limits.inactivityTimeout starts w v := by
  intro h
  have traffic : h.traffic = g.traffic.pass finish := (g.alike_pass wall freshKey finish).traffic
  have same : ({ { g with traffic := g.traffic.pass finish }.attend with tasks := [] } : Gateway).limiter =
    .window w := limiter
  have run : h = _ := g.pass_eq wall freshKey finish
  obtain ⟨limits, -, swept⟩ := foldl_runTask same wall freshKey (·.pass g.traffic.now finish) g.tasks
  refine ⟨?_, ?_, ?_⟩
  · rw [traffic, traffic_pass_now]
  · rw [run]
    exact limits
  · rw [run]
    exact swept

end Tasks

/-- The limiter of a gateway in whose clock only whole milliseconds pass is a sliding window that remembers a run. -/
structure Holds (limits : Config.RateLimit) (length : Duration) (past : List Limiter.Event) (g : Gateway)
    (w : Window) : Prop where
  limiter : g.limiter = .window w
  length : w.length = length
  limits : g.limits = limits
  remembers : Remembers w past g.traffic.now
  whole : g.traffic.now.tick = g.traffic.now

variable {limits : Config.RateLimit} {length : Duration} {past : List Limiter.Event} {g : Gateway} {w : Window}

theorem Holds.call (holds : Holds limits length past g w) (c : Limiter.Call) :
    ∃ v, Holds limits length (past ++ (g.use (.call c)).1) (g.use (.call c)).2 v ∧
      v.length = w.length ∧ ∀ p ∈ v.keys, p ∈ w.keys ∨ p.2.lastSeen = g.traffic.now := by
  obtain ⟨v, left, -, same, remembers, entries⟩ := holds.remembers.step c
  rw [← holds.limiter] at left remembers
  exact ⟨v, ⟨left, same.trans holds.length, holds.limits, remembers, holds.whole⟩, same, entries⟩

theorem Holds.slept (holds : Holds limits length past g w) {h : Gateway} {v : Window} {ms : Nat}
    (now : h.traffic.now = g.traffic.now.add (.ofMillis ms)) (same : h.limits = g.limits)
    (left : h.limiter = .window v) (shrinks : Shrinks w v) : Holds limits length past h v where
  limiter := left
  length := shrinks.length.trans holds.length
  limits := same.trans holds.limits
  remembers := by
    rw [now]
    exact (holds.remembers.shrink shrinks).later (Nat.le_add_right ..)
  whole := by
    rw [now]
    exact Moment.tick_add holds.whole ms

theorem Holds.use (holds : Holds limits length past g w) (u : Use) :
    ∃ v, Holds limits length (past ++ (g.use u).1) (g.use u).2 v := by
  cases u with
  | call c =>
    obtain ⟨v, after, -⟩ := holds.call c
    exact ⟨v, after⟩
  | sleep wall freshKey ms =>
    obtain ⟨now, same, v, left, shrinks, -⟩ :=
      pass_window holds.limiter wall freshKey (g.traffic.now.add (.ofMillis ms))
    refine ⟨v, ?_⟩
    rw [Gateway.use, List.append_nil]
    exact holds.slept now same left shrinks

theorem Holds.uses (holds : Holds limits length past g w) (run : List Use) :
    ∃ v, Holds limits length (past ++ (g.uses run).1) (g.uses run).2 v := by
  induction run generalizing g w past with
  | nil => exact ⟨w, (List.append_nil past).symm ▸ holds⟩
  | cons u rest ih =>
    obtain ⟨v, after⟩ := holds.use u
    rw [Gateway.uses, ← List.append_assoc]
    exact ih after

/-- Every entry was in use not longer before a deadline than a period and the time that an entry is kept. -/
def Fresh (ms : Nat) (idle : Duration) (deadline : Moment) (w : Window) : Prop :=
  ∀ p ∈ w.keys, deadline ≤ (p.2.lastSeen.add (.ofMillis ms)).add (idle.max w.length)

theorem Fresh.shrink {ms : Nat} {idle : Duration} {deadline : Moment} {v : Window}
    (fresh : Fresh ms idle deadline w) (shrinks : Shrinks w v) : Fresh ms idle deadline v := by
  intro p member
  rw [shrinks.length]
  exact fresh p (shrinks.keys.subset member)

/-- After each run of the task the entries are fresh until the next one. -/
theorem fresh_sweep {ms : Nat} {idle : Duration} {now : Moment} (remembers : Remembers w past now) {t : Task}
    (prompt : t.Prompt ms) {start : Moment}
    (fresh : t.ticker.deadline ≤ start ∨ Fresh ms idle t.ticker.deadline w) (n : Nat) :
    (Task.beats n t).ticker.deadline ≤ start ∨
      Fresh ms idle (Task.beats n t).ticker.deadline (sweep idle (Task.dues n t) w) := by
  -- Whatever a run finds, what it leaves is fresh until the next one; so only without any run does it matter.
  induction n generalizing t w with
  | zero => exact fresh
  | succ n ih =>
    have deadline : t.beat.ticker.deadline = t.ticker.deadline.add (.ofMillis ms) :=
      congrArg t.ticker.deadline.add prompt.period
    refine ih (remembers.shrink (w.shrinks_purge t.ticker.deadline idle)) prompt.beat (.inr ?_)
    intro p kept
    have lately := remembers.purged t.ticker.deadline idle p kept
    rw [deadline]
    change _ ≤ (p.2.lastSeen.add (.ofMillis ms)).add (idle.max w.length)
    simp only [Moment.le_def, Moment.add] at lately ⊢
    omega

/-- The next run of the task that forgets callers is ahead and no more than a period away. All entries are fresh until
then, unless it is its first run. -/
structure Tended (start : Moment) (ms : Nat) (g : Gateway) (w : Window) (t : Task) : Prop where
  listed : (.forgetCallers, t) ∈ g.tasks
  prompt : t.Prompt ms
  ahead : g.traffic.now < t.ticker.deadline
  near : t.ticker.deadline ≤ g.traffic.now.add (.ofMillis ms)
  fresh : t.ticker.deadline ≤ start.add (.ofMillis ms) ∨
    Fresh ms g.limits.inactivityTimeout t.ticker.deadline w

variable {start : Moment} {ms : Nat} {t : Task}

theorem Holds.started (holds : Holds limits length past g w) (positive : 1 ≤ ms) {name : String}
    {tasks : List (Job × Task)}
    (listed : (.forgetCallers, .spawn name g.traffic.now (.ofMillis ms) .zero) ∈ tasks) :
    Holds limits length past { g with tasks } w ∧
      Tended g.traffic.now ms { g with tasks } w (.spawn name g.traffic.now (.ofMillis ms) .zero) := by
  obtain ⟨prompt, deadline⟩ := Task.prompt_spawn name holds.whole positive
  have later : g.traffic.now < g.traffic.now.add (.ofMillis ms) :=
    Nat.lt_add_of_pos_right (Nat.mul_pos positive (by decide))
  refine ⟨{ holds with }, listed, prompt, ?_, ?_, .inl ?_⟩
  · rw [deadline]
    exact later
  · exact Nat.le_of_eq (congrArg Moment.nanos deadline)
  · exact Nat.le_of_eq (congrArg Moment.nanos deadline)

theorem Tended.active (tended : Tended start ms g w t) (begun : start.add (.ofMillis ms) ≤ g.traffic.now) :
    ∀ p ∈ w.keys, g.traffic.now ≤ (p.2.lastSeen.add (.ofMillis ms)).add (g.limits.inactivityTimeout.max w.length) := by
  have ahead := Nat.le_of_lt tended.ahead
  rcases tended.fresh with first | fresh
  · exact absurd (Nat.le_trans first begun) (Nat.not_le.mpr tended.ahead)
  · exact fun p member => Nat.le_trans ahead (fresh p member)

/-- A new entry is as fresh as can be. -/
theorem Tended.call (tended : Tended start ms g w t) (holds : Holds limits length past g w) (c : Limiter.Call) :
    ∃ v, Holds limits length (past ++ (g.use (.call c)).1) (g.use (.call c)).2 v ∧
      Tended start ms (g.use (.call c)).2 v t := by
  obtain ⟨v, after, same, entries⟩ := holds.call c
  refine ⟨v, after, tended.listed, tended.prompt, tended.ahead, tended.near, ?_⟩
  refine tended.fresh.imp_right fun fresh p member => ?_
  rcases entries p member with old | new
  · rw [same]
    exact fresh p old
  · rw [new]
    exact Nat.le_trans tended.near (Nat.le_add_right ..)

theorem Tended.sleep (tended : Tended start ms g w t) (holds : Holds limits length past g w) (wall : Instant)
    (freshKey : Nat → Key) (span : Nat) :
    ∃ v u, Holds limits length (past ++ (g.use (.sleep wall freshKey span)).1) (g.use (.sleep wall freshKey span)).2 v ∧
      Tended start ms (g.use (.sleep wall freshKey span)).2 v u := by
  obtain ⟨now, same, v, left, shrinks, swept⟩ :=
    pass_window holds.limiter wall freshKey (g.traffic.now.add (.ofMillis span))
  obtain ⟨n, passed, ahead, near⟩ := tended.prompt.pass tended.ahead (g.traffic.now.add (.ofMillis span))
  obtain ⟨listed, x, before, after⟩ := swept t (Task.dues n t) tended.listed (congrArg Prod.snd passed)
  rw [passed] at listed
  rw [Gateway.use, List.append_nil]
  refine ⟨v, Task.beats n t, holds.slept now same left shrinks, listed, tended.prompt.beats n, ?_, ?_, ?_⟩
  · rw [now]
    exact ahead
  · rw [now]
    exact near (Nat.le_trans tended.near (Nat.add_le_add_right (Nat.le_add_right ..) _))
  · rw [same]
    have fresh := fresh_sweep (holds.remembers.shrink before) tended.prompt
      (tended.fresh.imp_right fun fresh => fresh.shrink before) n
    exact fresh.imp_right fun fresh => fresh.shrink after

theorem Tended.use (tended : Tended start ms g w t) (holds : Holds limits length past g w) (u : Use) :
    ∃ v t', Holds limits length (past ++ (g.use u).1) (g.use u).2 v ∧ Tended start ms (g.use u).2 v t' := by
  cases u with
  | call c =>
    obtain ⟨v, after, later⟩ := tended.call holds c
    exact ⟨v, t, after, later⟩
  | sleep wall freshKey span => exact tended.sleep holds wall freshKey span

theorem Tended.uses (tended : Tended start ms g w t) (holds : Holds limits length past g w) (run : List Use) :
    ∃ v t', Holds limits length (past ++ (g.uses run).1) (g.uses run).2 v ∧ Tended start ms (g.uses run).2 v t' := by
  induction run generalizing g w t past with
  | nil => exact ⟨w, t, (List.append_nil past).symm ▸ holds, tended⟩
  | cons u rest ih =>
    obtain ⟨v, t', after, later⟩ := tended.use holds u
    rw [Gateway.uses, ← List.append_assoc]
    exact ih later after

/-- While the task that forgets callers is running, memory follows activity. Every key that is known was asked for, and
once the task has been running for an interval this was no longer ago than an interval and the time for which a key
counts as active. The keys that are forgotten at any time are those of which the last request is long ago and the last
admission, if there was one, has left the window; and neither a look nor a reset makes a key known. -/
theorem memory_follows_activity {g : Gateway} {quota ms : Nat} {length : Duration}
    (limiter : g.limiter = .window { quota, length }) (whole : g.traffic.now.tick = g.traffic.now)
    (interval : g.limits.cleanupInterval = .ofMillis ms) (positive : 1 ≤ ms) (before after : List Use)
    (tasks : List (Job × Task))
    (started : (.forgetCallers, .spawn Limiter.cleanupName (g.uses before).2.traffic.now g.limits.cleanupInterval
      .zero) ∈ tasks) :
    let start := (g.uses before).2.traffic.now
    let run := { (g.uses before).2 with tasks }.uses after
    let past := (g.uses before).1 ++ run.1
    let now := run.2.traffic.now
    let l := run.2.limiter
    (∀ key ∈ l.names, ∃ t, lastRequest key past = some t ∧
      (start.add g.limits.cleanupInterval ≤ now →
        now ≤ (t.add g.limits.cleanupInterval).add (g.limits.inactivityTimeout.max length))) ∧
    l.names.Nodup ∧
    (∀ idle, (l.step now (.purge idle)).2.names =
        l.names.filter (fun key => !forgettable length past now idle key) ∧
      (l.step now (.purge idle)).1 = .purged (l.names.countP (forgettable length past now idle))) ∧
    ∀ key, (l.step now (.remaining key)).2 = l ∧ (l.step now (.reset key)).2.names = l.names.filter (· ≠ key) := by
  intro start run past now l
  have unused : Holds g.limits length [] g { quota, length } :=
    ⟨limiter, rfl, rfl, Limiter.Window.remembers_fresh .., whole⟩
  obtain ⟨w, holds⟩ := unused.uses before
  rw [List.nil_append] at holds
  rw [interval] at started ⊢
  obtain ⟨begun, first⟩ := holds.started positive started
  obtain ⟨v, t, final, tended⟩ := first.uses begun after
  have state : l = .window v := final.limiter
  have names : l.names = v.keys.map (·.1) := congrArg Limiter.names state
  refine ⟨?_, ?_, ?_, ?_⟩
  · intro key known
    rw [names] at known
    obtain ⟨p, member, rfl⟩ := List.mem_map.mp known
    refine ⟨p.2.lastSeen, final.remembers.requested p member, fun long => ?_⟩
    rw [← final.limits, ← final.length]
    exact tended.active long p member
  · rw [names]
    exact final.remembers.distinct
  · intro idle
    rw [state, ← final.length]
    exact final.remembers.purge idle
  · exact fun key => ⟨rfl, l.names_reset key⟩

namespace Visits

def gateway : Gateway where
  authority := { keys := {} }
  authorizer := {}
  limiter := .window { quota := 2, length := .ofSeconds 1 }
  traffic := .ofLayers {}
  limits := { cleanupInterval := .ofSeconds 60, inactivityTimeout := .ofSeconds 300 }

def sleep (seconds : Nat) : Use := .sleep ⟨0, 0⟩ (fun _ => ⟨"", "", ""⟩) (1000 * seconds)

def visits : List Use :=
  [.call (.allow "a"), .call (.allow "b"), .call (.allow "c"), sleep 200, .call (.allow "a"), sleep 170]

/-- The others are forgotten with the first run that finds them idle for five minutes. -/
theorem one_caller_left :
    let run := gateway.startMaintenance.uses visits
    run.2.traffic.now = Moment.start.add (.ofSeconds 370) ∧ run.2.limiter.names = ["a"] ∧
      ∃ t, lastRequest "a" run.1 = some t ∧
        run.2.traffic.now ≤ (t.add (.ofSeconds 60)).add ((Duration.ofSeconds 300).max (.ofSeconds 1)) := by
  intro run
  have now : run.2.traffic.now = Moment.start.add (.ofSeconds 370) := by decide +kernel
  have left : run.2.limiter.names = ["a"] := by decide +kernel
  have follows := @memory_follows_activity gateway 2 60000 (.ofSeconds 1) rfl rfl rfl (by decide) [] visits
    gateway.startMaintenance.tasks List.mem_cons_self
  obtain ⟨t, last, active⟩ := follows.1 "a" (left ▸ List.mem_cons_self)
  exact ⟨now, left, t, last, active (now ▸ by decide)⟩

end Visits

end Gatehouse.Gateway
