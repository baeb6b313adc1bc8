import Gatehouse.Maintenance.Command
import Gatehouse.Proofs.Maintenance
import Mathlib.Algebra.GroupWithZero.Nat

/-!
How often a periodic task runs while it is kept. Once it had its turn at a tick it has begun one run for each period
that is over since it was spawned, neither more nor less, whatever the spans between which its runs fell: their
deadlines are whole numbers of periods away from the start, so that nothing adds up. A run may be due at the very tick
at which the task is shut down; then it is the last one or does not take place, and none follows.
-/
namespace Gatehouse.Task

section
variable (t : Task)

theorem ticker_beats (n : Nat) :
    (beats n t).ticker = ⟨t.ticker.period, t.ticker.deadline.add ⟨n * t.ticker.period.nanos⟩⟩ := by
  induction n generalizing t with
  | zero =>
    rw [Nat.zero_mul]
    rfl
  | succ n ih =>
    refine (ih t.beat).trans ?_
    simp only [beat, Moment.add, Ticker.mk.injEq, Moment.mk.injEq, true_and]
    rw [Nat.add_mul]
    omega

theorem getElem?_dues {n i : Nat} {m : Moment} (run : (dues n t)[i]? = some m) :
    m = t.ticker.deadline.add ⟨i * t.ticker.period.nanos⟩ := by
  induction n generalizing t i with
  | zero => cases run
  | succ n ih =>
    cases i with
    | zero =>
      rw [Nat.zero_mul]
      exact (Option.some.inj run).symm
    | succ i =>
      refine (ih t.beat run).trans ?_
      simp only [beat, Moment.add, Moment.mk.injEq]
      rw [Nat.add_mul]
      omega

theorem length_dues (n : Nat) : (dues n t).length = n := by
  induction n generalizing t with
  | zero => rfl
  | succ n ih => exact congrArg (· + 1) (ih t.beat)

end

theorem runs_moments (starts : List Moment) : runs (moments starts) = starts.length := by
  induction starts with
  | nil => rfl
  | cons m rest ih => exact congrArg (· + 1) ih

theorem wake_gone {t : Task} (gone : t.gone = true) (idle : t.busyUntil = none) (now : Moment) (choices : List Bool) :
    t.wake now choices = (t, []) := by
  rw [wake, idle]
  simp [loop, gone]

theorem advance_gone {t : Task} (gone : t.gone = true) (now finish : Moment) : t.advance now finish = (t, []) := by
  rw [advance, Nat.mul_add]
  simp [runTo, gone]

def Command.keeps : Command → Bool
  | .sleep _ | .yield => true
  | .shutdown _ | .drop => false

/-- Whether a tick that is due goes before the end of the task. -/
def Command.tickFirst : Command → Bool
  | .shutdown choices => choices.headD false
  | _ => false

namespace Tenure

/-- What is done before the task is shut down or dropped for the first time. -/
def whileKept (commands : List Command) : List Command := commands.takeWhile Command.keeps

/-- How the task is shut down or dropped for the first time. -/
def ending (commands : List Command) : Option Command := (commands.dropWhile Command.keeps).head?

def period (every : Duration) : Nat := (every.max (.ofMillis 1)).nanos

variable {name : String} {every : Duration} {start : Moment} {n : Nat} {k : Tenure} {past : List Event}

theorem run_append (k : Tenure) (first rest : List Command) :
    k.run (first ++ rest) =
      (((k.run first).1.run rest).1, (k.run first).2 ++ ((k.run first).1.run rest).2) := by
  induction first generalizing k with
  | nil => rfl
  | cons c first ih => simp only [List.cons_append, Tenure.run, ih, List.append_assoc]

/-- A task that its owner does not have any more is gone, and nothing comes of it. -/
structure Ended (k : Tenure) : Prop where
  given : k.kept = false
  gone : k.task.gone = true
  idle : k.task.busyUntil = none

theorem Ended.perform (ended : Ended k) (c : Command) : Ended (k.perform c).1 ∧ (k.perform c).2 = [] := by
  obtain ⟨now, task, kept⟩ := k
  obtain ⟨rfl, gone, idle⟩ : kept = false ∧ task.gone = true ∧ task.busyUntil = none :=
    ⟨ended.given, ended.gone, ended.idle⟩
  cases c with
  | sleep d =>
    rw [Tenure.perform, advance_gone gone]
    exact ⟨⟨rfl, gone, idle⟩, rfl⟩
  | yield =>
    rw [Tenure.perform, wake_gone gone idle]
    exact ⟨⟨rfl, gone, idle⟩, rfl⟩
  | shutdown => exact ⟨ended, rfl⟩
  | drop => exact ⟨ended, rfl⟩

theorem Ended.run (ended : Ended k) (commands : List Command) : (k.run commands).2 = [] := by
  induction commands generalizing k with
  | nil => rfl
  | cons c rest ih =>
    obtain ⟨still, silent⟩ := ended.perform c
    rw [Tenure.run, silent, ih still, List.append_nil]

theorem deadline_beats (name : String) (every : Duration) (start : Moment) (n : Nat) :
    (beats n (Task.spawn name start every .zero)).ticker.deadline = start.add ⟨(n + 1) * period every⟩ := by
  rw [ticker_beats, Nat.add_mul, Nat.one_mul, Nat.add_comm]
  exact congrArg Moment.mk (Nat.add_assoc ..)

/-- A task that was spawned at a tick and has begun `n` runs, each at the tick of its deadline. The next one may be due
just now, but is not overdue. -/
structure Punctual (name : String) (every : Duration) (start : Moment) (n : Nat) (k : Tenure) (past : List Event) :
    Prop where
  kept : k.kept = true
  whole : k.now.tick = k.now
  task : k.task = beats n (Task.spawn name start every .zero)
  past : past = moments ((dues n (Task.spawn name start every .zero)).map Moment.tick)
  begun : start.add ⟨n * period every⟩ ≤ k.now
  ahead : k.now ≤ k.task.ticker.deadline.tick

theorem punctual_spawn (name : String) (every : Duration) (whole : start.tick = start) :
    Punctual name every start 0 (spawn name start every .zero) [] := by
  refine ⟨rfl, whole, rfl, rfl, ?_, ?_⟩
  · rw [Nat.zero_mul]
    exact Nat.le_refl _
  · exact Nat.le_trans (Nat.le_add_right ..) (Moment.le_tick _)

theorem periods_eq {now : Moment} (past : start.add ⟨n * period every⟩ ≤ now)
    (ahead : now < start.add ⟨(n + 1) * period every⟩) : (now.since start).nanos / period every = n := by
  simp only [Moment.le_def, Moment.lt_def, Moment.add] at past ahead
  refine Nat.div_eq_of_lt_le ?_ ?_
  · simp only [Moment.since]
    omega
  · simp only [Moment.since]
    omega

namespace Punctual
variable (punctual : Punctual name every start n k past)
include punctual

theorem steady : k.task.Steady := punctual.task ▸ (steady_spawn name start every).beats n

theorem deadline : k.task.ticker.deadline = start.add ⟨(n + 1) * period every⟩ := by
  rw [punctual.task, deadline_beats]

theorem isDue_iff : k.task.isDue k.now = true ↔ k.now = (start.add ⟨(n + 1) * period every⟩).tick := by
  rw [Task.isDue_iff punctual.steady.stays punctual.steady.idle, ← punctual.deadline]
  exact ⟨Moment.eq_of_le_of_le punctual.ahead, fun same => Nat.le_of_eq (congrArg Moment.nanos same.symm)⟩

/-- As many runs are begun, or due just now, as periods are over. -/
theorem count : n + (k.task.isDue k.now).toNat = (k.now.since start).nanos / period every := by
  have deadline := punctual.deadline
  cases due : k.task.isDue k.now with
  | false =>
    have early : k.now < k.task.ticker.deadline := by
      refine (Moment.lt_tick_iff punctual.whole).mp (Nat.lt_of_not_le fun late => ?_)
      rw [(Task.isDue_iff punctual.steady.stays punctual.steady.idle k.now).mpr late] at due
      cases due
    exact (periods_eq punctual.begun (deadline ▸ early)).symm
  | true =>
    have same := punctual.isDue_iff.mp due
    have next : k.task.beat.ticker.deadline = start.add ⟨(n + 1 + 1) * period every⟩ := by
      have again : k.task.beat = beats (n + 1) (Task.spawn name start every .zero) := by
        rw [beats_add, ← punctual.task]
        rfl
      rw [again, deadline_beats]
    have early : k.now < k.task.beat.ticker.deadline.tick := by
      rw [same, ← deadline]
      exact punctual.steady.tick_beat
    rw [Moment.lt_tick_iff punctual.whole, next] at early
    have begun : start.add ⟨(n + 1) * period every⟩ ≤ k.now := by
      rw [same]
      exact Moment.le_tick _
    exact (periods_eq begun early).symm

/-- The task is punctual after further runs too, if these were due and the next one is not overdue. -/
theorem onwards {finish : Moment} (forward : k.now ≤ finish) (whole : finish.tick = finish) {more : Nat}
    (near : k.task.ticker.deadline ≤ finish.add k.task.ticker.period →
      (beats more k.task).ticker.deadline ≤ finish.add k.task.ticker.period)
    (done : finish ≤ (beats more k.task).ticker.deadline.tick) :
    Punctual name every start (n + more) ⟨finish, beats more k.task, true⟩
      (past ++ moments ((dues more k.task).map Moment.tick)) := by
  have period : k.task.ticker.period = ⟨Tenure.period every⟩ := by
    rw [punctual.task, period_beats]
    rfl
  have task : beats more k.task = beats (n + more) (Task.spawn name start every .zero) := by
    rw [beats_add, ← punctual.task]
  refine ⟨rfl, whole, task, ?_, ?_, done⟩
  · rw [punctual.past, dues_add, ← punctual.task]
    simp only [moments, List.map_append, List.flatMap_append]
  · have begun := punctual.begun
    rw [punctual.deadline, task, deadline_beats, period] at near
    simp only [Moment.le_def, Moment.add, Nat.succ_mul] at begun forward near ⊢
    omega

theorem sleep (d : Duration) :
    ∃ m, Punctual name every start m (k.perform (.sleep d)).1 (past ++ (k.perform (.sleep d)).2) := by
  have forward : k.now ≤ (k.now.add d).tick := by
    have up := (k.now.add d).le_tick
    simp only [Moment.le_def, Moment.add] at up ⊢
    omega
  have whole := Moment.tick_tick (k.now.add d)
  obtain ⟨more, advanced, done, near⟩ := punctual.steady.advance punctual.ahead (k.now.add d).tick
  have after := punctual.onwards forward whole near done
  rw [perform, advanced, punctual.kept]
  exact ⟨_, after⟩

/-- A task that has its turn begins what is due, and then nothing is due any more. -/
theorem turn :
    ∃ m, Punctual name every start m (k.perform .yield).1 (past ++ (k.perform .yield).2) ∧
      (k.perform .yield).1.task.isDue (k.perform .yield).1.now = false := by
  obtain ⟨more, woken, early, near⟩ := punctual.steady.turn punctual.ahead []
  have after := punctual.onwards (Nat.le_refl _) punctual.whole near (Nat.le_of_lt early)
  have undue : (beats more k.task).isDue k.now = false := by
    rw [← Bool.not_eq_true, Task.isDue_iff after.steady.stays after.steady.idle]
    exact Nat.not_le_of_lt early
  rw [perform, woken, punctual.kept]
  exact ⟨_, after, undue⟩

theorem run {commands : List Command} (keeps : ∀ c ∈ commands, c.keeps = true) :
    ∃ m, Punctual name every start m (k.run commands).1 (past ++ (k.run commands).2) := by
  induction commands generalizing k past n with
  | nil => exact ⟨n, (List.append_nil past).symm ▸ punctual⟩
  | cons c rest ih =>
    have first : ∃ m, Punctual name every start m (k.perform c).1 (past ++ (k.perform c).2) := by
      cases c with
      | sleep d => exact punctual.sleep d
      | yield =>
        obtain ⟨m, after, -⟩ := punctual.turn
        exact ⟨m, after⟩
      | shutdown | drop => cases keeps _ List.mem_cons_self
    obtain ⟨m, after⟩ := first
    rw [Tenure.run, ← List.append_assoc]
    exact ih after fun c member => keeps c (List.mem_cons_of_mem _ member)

/-- In the end the run that is due just then may come first. -/
theorem last {c : Command} (ends : c.keeps = false) :
    (k.perform c).2 = (if k.task.isDue k.now && c.tickFirst then moments [k.now] else []) ∧
      Ended (k.perform c).1 := by
  cases c with
  | sleep | yield => cases ends
  | shutdown choices =>
    obtain ⟨u, stopped, gone, idle⟩ := punctual.steady.shutdown punctual.ahead choices
    rw [perform, punctual.kept, stopped]
    exact ⟨rfl, rfl, gone, idle⟩
  | drop =>
    rw [perform, punctual.kept, show Command.drop.tickFirst = false from rfl, Bool.and_false]
    exact ⟨rfl, rfl, rfl, rfl⟩

end Punctual

theorem now_sleep (k : Tenure) (d : Duration) : (k.perform (.sleep d)).1.now = (k.now.add d).tick := by
  obtain ⟨now, task, kept⟩ := k
  rfl

theorem now_yield (k : Tenure) : (k.perform .yield).1.now = k.now := by
  obtain ⟨now, task, kept⟩ := k
  rfl

theorem now_of_whole (whole : k.now.tick = k.now) (commands : List Command) (spans : List Nat)
    (sleeps : commands.filter (· ≠ .yield) = spans.map fun ms => .sleep (.ofMillis ms)) :
    (k.run commands).1.now = k.now.add (.ofMillis spans.sum) := by
  induction commands generalizing k spans with
  | nil =>
    cases spans with
    | cons => cases sleeps
    | nil =>
      rw [List.sum_nil, Duration.ofMillis, Nat.zero_mul]
      rfl
  | cons c rest ih =>
    cases c with
    | yield =>
      have same := now_yield k
      rw [Tenure.run, ih (by rw [same, whole]) spans sleeps, same]
    | sleep d =>
      cases spans with
      | nil => cases sleeps
      | cons ms spans =>
        obtain ⟨rfl, others⟩ : d = .ofMillis ms ∧
            rest.filter (· ≠ .yield) = spans.map fun ms => .sleep (.ofMillis ms) := by
          simpa using sleeps
        have slept := (now_sleep k (.ofMillis ms)).trans (Moment.tick_add whole ms)
        rw [Tenure.run, ih (by rw [slept, Moment.tick_add whole]) spans others, slept]
        simp only [Moment.add, Duration.ofMillis, List.sum_cons, Nat.add_mul, Nat.add_assoc]
    | shutdown | drop =>
      cases spans with
      | nil => cases sleeps
      | cons => simp at sleeps

theorem keeps_whileKept (commands : List Command) : ∀ c ∈ whileKept commands, c.keeps = true :=
  List.all_eq_true.mp List.all_takeWhile

/-- What happens altogether is what happens before the end, and perhaps the run that is due then. -/
theorem Punctual.run_ending {commands : List Command}
    (punctual : Punctual name every start n (k.run (whileKept commands)).1 (k.run (whileKept commands)).2) :
    let held := k.run (whileKept commands)
    (k.run commands).2 = held.2 ++
      if held.1.task.isDue held.1.now && (ending commands).any Command.tickFirst then moments [held.1.now] else [] := by
  intro held
  have split : whileKept commands ++ commands.dropWhile Command.keeps = commands := List.takeWhile_append_dropWhile
  have ends := List.head?_dropWhile_not Command.keeps commands
  rw [ending]
  cases rest : commands.dropWhile Command.keeps with
  | nil =>
    rw [rest, List.append_nil] at split
    simp only [List.head?_nil, Option.any_none, Bool.and_false, Bool.false_eq_true, if_false, List.append_nil, held,
      split]
  | cons c later =>
    rw [rest] at split ends
    obtain ⟨events, ended⟩ := punctual.last ends
    have whole : (k.run commands).2 = held.2 ++ ((held.1.perform c).2 ++ ((held.1.perform c).1.run later).2) := by
      rw [← congrArg (fun commands => (k.run commands).2) split, run_append, Tenure.run]
    rw [whole, ended.run, events, List.append_nil, List.head?_cons, Option.any_some]

theorem Punctual.past_ending {commands : List Command}
    (punctual : Punctual name every start n (k.run (whileKept commands)).1 (k.run (whileKept commands)).2) :
    ∃ m, (k.run commands).2 = moments ((dues m (Task.spawn name start every .zero)).map Moment.tick) := by
  rw [punctual.run_ending]
  split
  next last =>
    have due := (Bool.and_eq_true_iff.mp last).1
    refine ⟨n + 1, ?_⟩
    rw [dues_add, dues, dues, deadline_beats, List.map_append, List.map_cons, ← punctual.isDue_iff.mp due,
      punctual.past]
    exact List.flatMap_append.symm
  next =>
    rw [List.append_nil]
    exact ⟨n, punctual.past⟩

theorem start_eq {m i : Nat} {due : Moment}
    (run : ((dues m (Task.spawn name start every .zero)).map Moment.tick)[i]? = some due) :
    due = (start.add ⟨(i + 1) * period every⟩).tick := by
  rw [List.getElem?_map] at run
  obtain ⟨deadline, listed, rfl⟩ := Option.map_eq_some_iff.mp run
  rw [← deadline_beats name, ticker_beats]
  exact congrArg Moment.tick (getElem?_dues _ listed)

end Tenure
end Gatehouse.Task
