import Gatehouse.Maintenance
import Gatehouse.Proofs.Duration.Ticks

/-!
Periodic tasks whose work takes no time. They begin a run at the tick of each deadline as it comes, however much time
passes at once, and since a tick is never a whole millisecond late they never fall behind.
-/
namespace Gatehouse.Task

/-- A task that goes on, without lengthy runs, which are a millisecond apart at least. -/
structure Steady (t : Task) : Prop where
  stays : t.gone = false
  unstopped : t.stopping = false
  idle : t.busyUntil = none
  work : t.work = .zero
  period : Duration.ofMillis 1 ≤ t.ticker.period

def beat (t : Task) : Task :=
  { t with ticker := { t.ticker with deadline := t.ticker.deadline.add t.ticker.period } }

def beats : Nat → Task → Task
  | 0, t => t
  | n + 1, t => beats n t.beat

/-- When so many further runs are due. -/
def dues : Nat → Task → List Moment
  | 0, _ => []
  | n + 1, t => t.ticker.deadline :: dues n t.beat

/-- Runs that take no time. -/
def moments (starts : List Moment) : List Event := starts.flatMap fun m => [.started m, .ended m]

variable {ms : Nat} {t : Task}

theorem beats_add (n more : Nat) (t : Task) : beats (n + more) t = beats more (beats n t) := by
  induction n generalizing t with
  | zero => rw [Nat.zero_add, beats]
  | succ n ih =>
    rw [Nat.add_right_comm]
    exact ih t.beat

theorem dues_add (n more : Nat) (t : Task) : dues (n + more) t = dues n t ++ dues more (beats n t) := by
  induction n generalizing t with
  | zero => rw [Nat.zero_add, dues, List.nil_append, beats]
  | succ n ih =>
    rw [Nat.add_right_comm]
    exact congrArg (t.ticker.deadline :: ·) (ih t.beat)

theorem period_beats (n : Nat) (t : Task) : (beats n t).ticker.period = t.ticker.period := by
  induction n generalizing t with
  | zero => rfl
  | succ n ih => exact ih t.beat

theorem steady_spawn (name : String) (now : Moment) (every : Duration) : Steady (spawn name now every .zero) :=
  ⟨rfl, rfl, rfl, rfl, Nat.le_max_right ..⟩

theorem Steady.beat (steady : Steady t) : Steady t.beat := { steady with }

theorem Steady.beats (steady : Steady t) (n : Nat) : Steady (beats n t) := by
  induction n generalizing t with
  | zero => exact steady
  | succ n ih => exact ih steady.beat

theorem Steady.wakeAt (steady : Steady t) : t.wakeAt = t.ticker.deadline.tick := by
  rw [Task.wakeAt, steady.idle]
  rfl

/-- The tick of the next deadline is a later one. -/
theorem Steady.tick_beat (steady : Steady t) : t.ticker.deadline.tick < t.beat.ticker.deadline.tick := by
  have soon := t.ticker.deadline.tick_lt
  have period := steady.period
  have up := t.beat.ticker.deadline.le_tick
  simp only [Moment.lt_def, Moment.le_def, Duration.le_def, Moment.add] at soon period up ⊢
  exact Nat.lt_of_lt_of_le soon (Nat.le_trans (Nat.add_le_add_left period _) up)

theorem isDue_iff (stays : t.gone = false) (idle : t.busyUntil = none) (now : Moment) :
    t.isDue now = true ↔ t.ticker.deadline.tick ≤ now := by
  simp only [isDue, stays, idle, Ticker.wakeAt, Bool.not_false, Option.isNone_none, Bool.true_and]
  exact decide_eq_true_iff

theorem beginRun_due (work : t.work = .zero) :
    t.beginRun t.ticker.deadline.tick = (t.beat, moments [t.ticker.deadline.tick]) := by
  have soon := t.ticker.deadline.tick_lt
  have inTime : t.ticker.deadline.tick ≤ t.ticker.deadline.add Ticker.grace := by
    simp only [Moment.lt_def, Moment.le_def, Moment.add, Ticker.grace, Duration.ofMillis] at soon ⊢
    omega
  rw [beginRun]
  simp only [if_pos work, Ticker.next, if_neg (Moment.not_lt.mpr inTime)]
  rfl

theorem Steady.loop_early (steady : Steady t) {now : Moment} (early : now < t.ticker.deadline.tick) (fuel : Nat)
    (choices : List Bool) : loop now fuel choices t = (t, []) := by
  cases fuel with
  | zero => rfl
  | succ fuel =>
    have undue : t.isDue now = false := by
      rw [← Bool.not_eq_true, isDue_iff steady.stays steady.idle]
      exact Nat.not_le_of_lt early
    simp [loop, steady.stays, steady.unstopped, steady.idle, undue]

theorem Steady.wake_early (steady : Steady t) {now : Moment} (early : now < t.ticker.deadline.tick)
    (choices : List Bool) : t.wake now choices = (t, []) := by
  rw [Task.wake, steady.idle]
  exact steady.loop_early early ..

/-- A run takes place at the tick of its deadline. -/
theorem Steady.wake (steady : Steady t) (choices : List Bool) :
    t.wake t.ticker.deadline.tick choices = (t.beat, moments [t.ticker.deadline.tick]) := by
  have due := (isDue_iff steady.stays steady.idle t.ticker.deadline.tick).mpr (Nat.le_refl _)
  have once (fuel : Nat) : loop t.ticker.deadline.tick (fuel + 1) choices t =
      (t.beat, moments [t.ticker.deadline.tick]) := by
    simp [loop, steady.stays, steady.unstopped, steady.idle, due, beginRun_due steady.work,
      steady.beat.loop_early steady.tick_beat]
  rw [Task.wake, steady.idle]
  exact once _

/-- A task that is polled when nothing is overdue begins the run that is due just then, if there is one. -/
theorem Steady.turn (steady : Steady t) {now : Moment} (ahead : now ≤ t.ticker.deadline.tick)
    (choices : List Bool) :
    ∃ n, t.wake now choices = (Task.beats n t, moments ((dues n t).map Moment.tick)) ∧
      now < (Task.beats n t).ticker.deadline.tick ∧
      (t.ticker.deadline ≤ now.add t.ticker.period →
        (Task.beats n t).ticker.deadline ≤ now.add t.ticker.period) := by
  by_cases due : now = t.ticker.deadline.tick
  · subst due
    exact ⟨1, steady.wake choices, steady.tick_beat, fun _ => Nat.add_le_add_right t.ticker.deadline.le_tick _⟩
  · have early : now < t.ticker.deadline.tick := Nat.lt_of_le_of_ne ahead fun same => due (congrArg Moment.mk same)
    exact ⟨0, steady.wake_early early choices, early, id⟩

/-- Every run that is due before `finish` takes place at its own time. -/
theorem Steady.runTo (steady : Steady t) {finish : Moment} {fuel : Nat}
    (enough : finish.millis < t.ticker.deadline.tick.millis + fuel) (events : List Event) :
    ∃ n, runTo finish fuel t events = (Task.beats n t, events ++ moments ((dues n t).map Moment.tick)) ∧
      finish ≤ (Task.beats n t).ticker.deadline.tick ∧
      (t.ticker.deadline ≤ finish.add t.ticker.period →
        (Task.beats n t).ticker.deadline ≤ finish.add t.ticker.period) := by
  -- Each run puts the tick off by a millisecond at least, so there is fuel for all of them.
  induction fuel generalizing t events with
  | zero =>
    have ahead : finish ≤ t.ticker.deadline.tick := by
      refine Decidable.of_not_not fun late => ?_
      have := Moment.millis_mono (Nat.le_of_not_le late)
      omega
    exact ⟨0, by simp [Task.runTo, Task.beats, dues, moments], ahead, id⟩
  | succ fuel ih =>
    by_cases ahead : finish ≤ t.ticker.deadline.tick
    · refine ⟨0, ?_, ahead, id⟩
      simp [Task.runTo, steady.wakeAt, ahead, Task.beats, dues, moments]
    · have later : finish.millis < t.beat.ticker.deadline.tick.millis + fuel := by
        have forward := Moment.millis_lt steady.tick_beat (Moment.tick_tick _)
        omega
      obtain ⟨n, result, done, near⟩ := ih steady.beat later (events ++ moments [t.ticker.deadline.tick])
      refine ⟨n + 1, ?_, done, fun _ => near ?_⟩
      · rw [Task.runTo, steady.stays, steady.wakeAt, steady.wake]
        simp only [Bool.false_or, decide_eq_true_eq, if_neg ahead]
        refine result.trans ?_
        simp [Task.beats, dues, moments]
      · have past := Nat.le_of_not_le ahead
        have early := t.ticker.deadline.le_tick
        simp only [Moment.le_def, Moment.add, Task.beat] at past early ⊢
        omega

theorem Steady.advance (steady : Steady t) {now : Moment} (ahead : now ≤ t.ticker.deadline.tick) (finish : Moment) :
    ∃ n, t.advance now finish = (Task.beats n t, moments ((dues n t).map Moment.tick)) ∧
      finish ≤ (Task.beats n t).ticker.deadline.tick ∧
      (t.ticker.deadline ≤ finish.add t.ticker.period →
        (Task.beats n t).ticker.deadline ≤ finish.add t.ticker.period) := by
  refine steady.runTo ?_ []
  rw [Moment.le_def] at ahead
  simp only [Moment.millis, Moment.since, Duration.nanosPerMilli]
  omega

/-- When the task is polled after that, what is due just then takes place too. -/
theorem Steady.pass (steady : Steady t) {now : Moment} (ahead : now < t.ticker.deadline.tick) (finish : Moment) :
    ∃ n, t.pass now finish = (Task.beats n t, moments ((dues n t).map Moment.tick)) ∧
      finish < (Task.beats n t).ticker.deadline.tick ∧
      (t.ticker.deadline ≤ finish.add t.ticker.period →
        (Task.beats n t).ticker.deadline ≤ finish.add t.ticker.period) := by
  obtain ⟨n, advanced, done, near⟩ := steady.advance (Nat.le_of_lt ahead) finish
  obtain ⟨last, turned, early, near'⟩ := (steady.beats n).turn done []
  rw [period_beats] at near'
  refine ⟨n + last, ?_, ?_, fun soon => ?_⟩
  · simp [Task.pass, advanced, turned, beats_add, dues_add, moments]
  · rw [beats_add]
    exact early
  · rw [beats_add]
    exact near' (near soon)

def signaled (t : Task) : Task := { t with stopping := true }

/-- Once the signal to stop is raised a task comes to its end, unless a tick is due and goes first. -/
theorem loop_stopped (stays : t.gone = false) (idle : t.busyUntil = none) (signal : t.stopping = true) {now : Moment}
    {choices : List Bool} (unlucky : (t.isDue now && choices.headD false) = false) (fuel : Nat) :
    loop now (fuel + 1) choices t = ({ t with gone := true }, []) := by
  rw [loop, stays, idle, signal, unlucky]
  rfl

/-- The tick that goes first is the last one. -/
theorem Steady.loop_first (steady : Steady t) {choices : List Bool} (first : choices.headD false = true) (fuel : Nat) :
    loop t.ticker.deadline.tick (fuel + 2) choices t.signaled =
      ({ t.signaled.beat with gone := true }, moments [t.ticker.deadline.tick]) := by
  have due : t.signaled.isDue t.ticker.deadline.tick = true :=
    (isDue_iff (t := t.signaled) steady.stays steady.idle _).mpr (Nat.le_refl _)
  have undue : t.signaled.beat.isDue t.ticker.deadline.tick = false := by
    rw [← Bool.not_eq_true, isDue_iff (t := t.signaled.beat) steady.stays steady.idle]
    exact Nat.not_le_of_lt steady.tick_beat
  have unlucky : (t.signaled.beat.isDue t.ticker.deadline.tick && choices.tail.headD false) = false := by
    rw [undue, Bool.false_and]
  have begun : t.signaled.beginRun t.ticker.deadline.tick = (t.signaled.beat, moments [t.ticker.deadline.tick]) :=
    beginRun_due (t := t.signaled) steady.work
  have stopped := loop_stopped (t := t.signaled.beat) steady.stays steady.idle rfl unlucky fuel
  rw [loop, due, first, begun, show t.signaled.gone = false from steady.stays,
    show t.signaled.busyUntil = none from steady.idle]
  simp only [stopped]
  rfl

/-- What becomes of a task that is shut down when nothing is overdue: a run that is due just then may come first, and
there is none after it. -/
theorem Steady.shutdown (steady : Steady t) {now : Moment} (ahead : now ≤ t.ticker.deadline.tick)
    (choices : List Bool) :
    ∃ u, t.shutdown now choices = (now, u, if t.isDue now && choices.headD false then moments [now] else []) ∧
      u.gone = true ∧ u.busyUntil = none := by
  have joined {u : Task} {events : List Event} (idle : u.busyUntil = none)
      (looped : ∀ fuel, loop now (fuel + 2) choices t.signaled = (u, events)) :
      t.shutdown now choices = (now, u, events) := by
    have woken : t.signaled.wake now choices = (u, events) := by
      rw [Task.wake, show t.signaled.busyUntil = none from steady.idle]
      exact looped _
    simp only [signaled] at woken
    simp only [Task.shutdown, join, woken, idle]
  cases lucky : t.isDue now && choices.headD false with
  | false =>
    have looped (fuel : Nat) := loop_stopped (t := t.signaled) steady.stays steady.idle rfl lucky (fuel + 1)
    exact ⟨{ t.signaled with gone := true }, joined steady.idle looped, rfl, steady.idle⟩
  | true =>
    obtain ⟨due, first⟩ := Bool.and_eq_true_iff.mp lucky
    have late : t.ticker.deadline.tick ≤ now := (isDue_iff steady.stays steady.idle now).mp due
    have same : now = t.ticker.deadline.tick := congrArg Moment.mk (Nat.le_antisymm ahead late)
    subst same
    exact ⟨{ t.signaled.beat with gone := true }, joined steady.idle (steady.loop_first first), rfl, steady.idle⟩

/-- A steady task whose deadlines are ticks, now and in future. -/
structure Prompt (ms : Nat) (t : Task) : Prop where
  stays : t.gone = false
  unstopped : t.stopping = false
  idle : t.busyUntil = none
  work : t.work = .zero
  period : t.ticker.period = .ofMillis ms
  positive : 1 ≤ ms
  tick : t.ticker.deadline.tick = t.ticker.deadline

theorem prompt_spawn (name : String) {now : Moment} (whole : now.tick = now) (positive : 1 ≤ ms) :
    Prompt ms (spawn name now (.ofMillis ms) .zero) ∧
      (spawn name now (.ofMillis ms) .zero).ticker.deadline = now.add (.ofMillis ms) := by
  have longer : (Duration.ofMillis ms).max (.ofMillis 1) = .ofMillis ms := by
    simp only [Duration.max, Duration.ofMillis, Duration.nanosPerMilli, Duration.mk.injEq]
    exact Nat.max_eq_left (by omega)
  have deadline : (spawn name now (.ofMillis ms) .zero).ticker.deadline = now.add (.ofMillis ms) :=
    congrArg now.add longer
  refine ⟨⟨rfl, rfl, rfl, rfl, longer, positive, ?_⟩, deadline⟩
  rw [deadline]
  exact Moment.tick_add whole ms

theorem Prompt.steady (prompt : Prompt ms t) : Steady t where
  stays := prompt.stays
  unstopped := prompt.unstopped
  idle := prompt.idle
  work := prompt.work
  period := by
    rw [prompt.period]
    exact Nat.mul_le_mul_right _ prompt.positive

theorem Prompt.beat (prompt : Prompt ms t) : Prompt ms t.beat where
  stays := prompt.stays
  unstopped := prompt.unstopped
  idle := prompt.idle
  work := prompt.work
  period := prompt.period
  positive := prompt.positive
  tick := by
    change (t.ticker.deadline.add t.ticker.period).tick = t.ticker.deadline.add t.ticker.period
    rw [prompt.period]
    exact Moment.tick_add prompt.tick ms

theorem Prompt.beats (prompt : Prompt ms t) (n : Nat) : Prompt ms (beats n t) := by
  induction n generalizing t with
  | zero => exact prompt
  | succ n ih => exact ih prompt.beat

theorem Prompt.dues (prompt : Prompt ms t) (n : Nat) : (dues n t).map Moment.tick = dues n t := by
  induction n generalizing t with
  | zero => rfl
  | succ n ih =>
    rw [Task.dues, List.map_cons, prompt.tick, ih prompt.beat]

theorem Prompt.pass (prompt : Prompt ms t) {now : Moment} (ahead : now < t.ticker.deadline) (finish : Moment) :
    ∃ n, t.pass now finish = (Task.beats n t, moments (Task.dues n t)) ∧
      finish < (Task.beats n t).ticker.deadline ∧
      (t.ticker.deadline ≤ finish.add (.ofMillis ms) →
        (Task.beats n t).ticker.deadline ≤ finish.add (.ofMillis ms)) := by
  obtain ⟨n, passed, done, near⟩ := prompt.steady.pass (prompt.tick.symm ▸ ahead) finish
  rw [prompt.dues] at passed
  rw [(prompt.beats n).tick] at done
  rw [prompt.period] at near
  exact ⟨n, passed, done, near⟩

end Gatehouse.Task
