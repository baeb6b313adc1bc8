import Gatehouse.Proofs.Resilience.Journey
import Gatehouse.Proofs.Resilience.Schedule

/-!
Retries on their own, without bulkhead and breaker. Whatever befalls a call, its attempts come at the times that its
replies and pauses give, each after one that failed, and it ends in one of four ways. Its context is looked at
before each attempt and throughout each pause, never while the backend works on an attempt.
-/
namespace Gatehouse.Resilience.Traffic

/-- What befalls a call. A signal may be raised at the time of a timer and then goes before it. -/
inductive Influence where
  | start (c : Call)
  | pass (finish : Moment)
  | cancel (time : Moment) (signal : Nat)

def influence (t : Traffic) : Influence → Traffic
  | .start c => t.start c
  | .pass finish => t.pass finish
  | .cancel time signal => { t with now := time }.cancel signal

def undergo (t : Traffic) (is : List Influence) : Traffic := is.foldl influence t

/-- Time does not go back, and no timer is left behind. -/
def Influence.Fits (t : Traffic) : Influence → Prop
  | .start _ => False
  | .pass finish => t.now ≤ finish
  | .cancel time _ => t.now ≤ time ∧ ∀ q ∈ t.calls, ∀ m, t.wakeAt? q.1 q.2 = some m → time ≤ m

def Follows (t : Traffic) : List Influence → Prop
  | [] => True
  | i :: is => i.Fits t ∧ Follows (t.influence i) is

/-- Time went on and signals were raised, and the settings stayed the same. -/
structure Onward (w u : Traffic) : Prop where
  layers : u.layers = w.layers
  forward : w.now ≤ u.now
  raised : w.signals.raised ⊆ u.signals.raised

theorem Onward.refl (u : Traffic) : Onward u u := ⟨rfl, Nat.le_refl _, List.Subset.refl _⟩

theorem Onward.trans {w x u : Traffic} (one : Onward w x) (two : Onward x u) : Onward w u :=
  ⟨two.layers.trans one.layers, Nat.le_trans one.forward two.forward, List.Subset.trans one.raised two.raised⟩

theorem Still.onward {w u : Traffic} (still : Still w u) : Onward w u :=
  ⟨still.layers, still.now ▸ Nat.le_refl _, still.signals ▸ List.Subset.refl _⟩

theorem Onward.done {w u : Traffic} (onward : Onward w u) {c : Context} {m : Moment} (later : w.now ≤ m)
    (done : c.error? w.signals w.now ≠ none) : c.error? u.signals m ≠ none := by
  have canceled (set : c.isCanceled w.signals = true) : c.isCanceled u.signals = true := by
    unfold Context.isCanceled at set ⊢
    cases signal : c.signal with
    | none => rw [signal] at set; cases set
    | some n =>
      rw [signal] at set
      exact List.contains_iff_mem.mpr (onward.raised (List.contains_iff_mem.mp set))
  have due (past : c.deadline.any (· ≤ w.now) = true) : c.deadline.any (· ≤ m) = true := by
    cases deadline : c.deadline with
    | none => rw [deadline] at past; cases past
    | some d =>
      rw [deadline] at past
      exact decide_eq_true (Nat.le_trans (of_decide_eq_true past) later)
  unfold Context.error? at done ⊢
  split
  · exact nofun
  next live =>
    rw [if_neg fun set => live (canceled set)] at done
    rw [if_pos (due _)]
    · exact nofun
    · exact Decidable.byContradiction fun early => done (if_neg early)

theorem settle_of_unqueued {t : Traffic} (unqueued : ∀ q ∈ t.calls, ∀ giveUpAt, q.2 ≠ .queued giveUpAt) :
    t.settle = t := by
  have none : takeQueued t.calls = none := by
    cases taken : takeQueued t.calls with
    | none => rfl
    | some r =>
      obtain ⟨⟨giveUpAt, there⟩, -⟩ := mem_of_takeQueued taken
      exact absurd rfl (unqueued _ there giveUpAt)
  unfold settle
  cases t.calls.length with
  | zero => rfl
  | succ fuel =>
    unfold serve
    rw [none]
    split <;> rfl

/-- A call on its own is stopped, goes on or is left alone. -/
theorem visitAll_one {t : Traffic} {c : Call} {p : Phase} (calls : t.calls = [(c, p)])
    (unqueued : ∀ giveUpAt, p ≠ .queued giveUpAt) :
    t.visitAll = match t.wokenBy? c p with
      | some why => ((t.among []).interrupt c p why).settle
      | none => if t.isDue (Phase.wakeAt? p) then ((t.among []).resume c p).settle else t := by
  have looked : t.visitAll = if t.rests c p then t else ((t.among []).visit c p).settle := by
    rw [visitAll_eq, calls]
    by_cases resting : t.rests c p = true
    · have same : (t.among []).among ([(c, p)] ++ (t.among []).calls) = t := by
        rw [among_among, among_calls, List.append_nil, ← calls]
        rfl
      simp only [List.filter_cons, List.filter_nil, Function.comp, resting, Bool.not_true, Bool.false_eq_true,
        if_true, if_false, List.foldl_nil, same]
      refine settle_of_unqueued fun q member => ?_
      rw [calls] at member
      rw [List.mem_singleton.mp member]
      exact unqueued
    · simp only [List.filter_cons, List.filter_nil, Function.comp, resting, Bool.not_false, if_true,
        List.foldl_cons, List.foldl_nil]
      rfl
  have woken : (t.among []).wokenBy? c p = t.wokenBy? c p := rfl
  have due : (t.among []).isDue (Phase.wakeAt? p) = t.isDue (Phase.wakeAt? p) := rfl
  rw [looked, rests, visit, woken, due]
  cases t.wokenBy? c p with
  | some why => rfl
  | none => cases t.isDue (Phase.wakeAt? p) <;> rfl

theorem visitAll_none {t : Traffic} (idle : t.calls = []) : t.visitAll = t := by
  have same : (t.among []).among [] = t := by
    rw [among_among, ← idle]
    rfl
  rw [visitAll_eq, idle]
  simp only [List.filter_nil, List.foldl_nil, among_calls, List.append_nil, same]
  refine settle_of_unqueued fun q member => ?_
  rw [idle] at member
  cases member

namespace Journey
variable (j : Journey)

/-- The first attempts, and when they began. -/
def trace (count : Nat) : List (Moment × Event) :=
  (List.range count).map fun n => (j.begunAt n, .invoked j.call.id (n + 1) j.call.principal)

theorem trace_succ (count : Nat) :
    j.trace (count + 1) = j.trace count ++ [(j.begunAt count, .invoked j.call.id (count + 1) j.call.principal)] := by
  rw [trace, List.range_succ, List.map_append]
  rfl

/-- The first attempts end with failures of the operation itself. -/
def Failed (count : Nat) : Prop := ∀ n < count, (j.call.script (n + 1)).after ≠ none ∧
  ∃ reason, (j.call.script (n + 1)).result = .failure (.failed reason)

/-- The result of a call whose last attempt came after this many failed ones. -/
inductive Returns (failed : Nat) : Except CallError Nat → Prop
  | succeeded (reply : (j.call.script (failed + 1)).result = .success) : Returns failed (.ok (failed + 1))
  | refused {e : CallError} (reply : (j.call.script (failed + 1)).result = .failure e)
    (final : e.isRetryable = false) : Returns failed (.error e)
  | exhausted {reason : String} (reply : (j.call.script (failed + 1)).result = .failure (.failed reason))
    (last : failed + 1 = j.attempts) : Returns failed (.error (.exhausted j.attempts (.failed reason)))

/-- Since when there was no attempt under way, after this many failed ones. -/
def idleFrom : Nat → Moment
  | 0 => j.start
  | failed + 1 => j.endedAt failed

/-- How far a call is, and what is told of it. All attempts that it made but the last one failed. `halted` is what is
known of a time at which it was stopped, and of the reason. -/
inductive Way (u : Traffic) (halted : Moment → ContextError → Prop) : List (Moment × Event) → Prop
  /-- An attempt is under way until the backend replies, if it ever does. -/
  | working {failed : Nat} {finishAt : Option Moment} (left : failed < j.attempts) (before : j.Failed failed)
    (own : u.calls = [(j.call, .attempting (failed + 1) none finishAt)])
    (replies : finishAt = (j.call.script (failed + 1)).after.map fun _ => j.endedAt failed)
    (begun : j.begunAt failed ≤ u.now) (early : ∀ m, finishAt = some m → u.now < m) :
    Way u halted (j.trace (failed + 1))
  /-- The next attempt waits for the end of a pause, and the context is not done. -/
  | pausing {failed : Nat} (left : failed + 1 < j.attempts) (before : j.Failed (failed + 1))
    (own : u.calls = [(j.call, .pausing (failed + 1) (j.begunAt (failed + 1)))])
    (ended : j.endedAt failed ≤ u.now) (early : u.now < j.begunAt (failed + 1))
    (live : j.call.context.isCanceled u.signals = false)
    (inTime : ∀ d, j.call.context.deadline = some d → u.now < d.tick) : Way u halted (j.trace (failed + 1))
  /-- The last attempt ended, and with it the call. -/
  | returned {failed : Nat} {result : Except CallError Nat} (left : failed < j.attempts) (before : j.Failed failed)
    (own : u.calls = []) (replied : (j.call.script (failed + 1)).after ≠ none) (returns : j.Returns failed result)
    (past : j.endedAt failed ≤ u.now) :
    Way u halted (j.trace (failed + 1) ++ [(j.endedAt failed, .done j.call.id result)])
  /-- The last attempt died without a result. -/
  | crashed {failed : Nat} (left : failed < j.attempts) (before : j.Failed failed) (own : u.calls = [])
    (reply : (j.call.script (failed + 1)).result = .crash) : Way u halted (j.trace (failed + 1))
  /-- Instead of a further attempt the call was stopped, by its deadline at the first tick. -/
  | stopped {failed : Nat} {m : Moment} {why : ContextError} (left : failed < j.attempts)
    (before : j.Failed failed) (own : u.calls = []) (since : j.idleFrom failed ≤ m) (upTo : m ≤ j.begunAt failed)
    (soon : m = j.idleFrom failed ∨ ∀ d, j.call.context.deadline = some d → m ≤ d.tick) (past : m ≤ u.now)
    (halts : halted m why) : Way u halted (j.trace failed ++ [(m, .done j.call.id (.error (.stopped why)))])

/-- An event is new in a step, and at its time the context was like this. -/
structure New (w u : Traffic) (noted : List (Moment × Event)) (m : Moment) (e : Event)
    (condition : Option ContextError) : Prop where
  noted : (m, e) ∈ noted
  since : w.now ≤ m
  upTo : m ≤ u.now
  context : j.call.context.error? u.signals m = condition

/-- What a step adds to the way of a call: it is stopped only if its context is done, and invokes the backend only if
it is not. -/
structure Step (halted : Moment → ContextError → Prop) (w u : Traffic) (events noted : List (Moment × Event)) :
    Prop where
  log : u.log = w.log ++ noted
  onward : Onward w u
  way : j.Way u (fun m why => halted m why ∨
    j.New w u noted m (.done j.call.id (.error (.stopped why))) (some why)) (events ++ noted)
  invoked : ∀ m n who, (m, .invoked j.call.id n who) ∈ noted → j.New w u noted m (.invoked j.call.id n who) none

end Journey

namespace Journey
variable {j : Journey} {t u w x : Traffic} {halted : Moment → ContextError → Prop}
  {events first noted : List (Moment × Event)}

theorem Way.mono {known : Moment → ContextError → Prop} (way : j.Way u halted events)
    (more : ∀ m why, halted m why → known m why) : j.Way u known events := by
  cases way with
  | working left before own replies begun early => exact .working left before own replies begun early
  | pausing left before own ended early live inTime => exact .pausing left before own ended early live inTime
  | returned left before own replied returns past => exact .returned left before own replied returns past
  | crashed left before own reply => exact .crashed left before own reply
  | stopped left before own since upTo soon past halts =>
    exact .stopped left before own since upTo soon past (more _ _ halts)

theorem New.widen {m : Moment} {e : Event} {condition : Option ContextError} (new : j.New x u noted m e condition)
    (forward : w.now ≤ x.now) : j.New w u (first ++ noted) m e condition :=
  ⟨List.mem_append_right _ new.noted, Nat.le_trans forward new.since, new.upTo, new.context⟩

theorem Step.after {known : Moment → ContextError → Prop} (step : j.Step known x u (events ++ first) noted)
    (log : x.log = w.log ++ first) (onward : Onward w x)
    (halts : ∀ m why, known m why → halted m why ∨
      j.New w u first m (.done j.call.id (.error (.stopped why))) (some why))
    (invoked : ∀ m n who, (m, .invoked j.call.id n who) ∈ first → j.New w u first m (.invoked j.call.id n who) none) :
    j.Step halted w u events (first ++ noted) where
  log := by rw [step.log, log, List.append_assoc]
  onward := onward.trans step.onward
  way := by
    rw [← List.append_assoc]
    refine step.way.mono fun m why either => ?_
    rcases either with old | new
    · exact (halts m why old).imp_right fun new =>
        ⟨List.mem_append_left _ new.noted, new.since, new.upTo, new.context⟩
    · exact .inr (new.widen onward.forward)
  invoked m n who member := by
    rcases List.mem_append.mp member with old | new
    · obtain ⟨there, since, upTo, context⟩ := invoked m n who old
      exact ⟨List.mem_append_left _ there, since, upTo, context⟩
    · exact (step.invoked m n who new).widen onward.forward

theorem Step.trans (one : j.Step halted w x events first)
    (two : j.Step (fun m why => halted m why ∨
      j.New w x first m (.done j.call.id (.error (.stopped why))) (some why)) x u (events ++ first) noted)
    (signals : u.signals = x.signals) : j.Step halted w u events (first ++ noted) := by
  have later {m : Moment} {e : Event} {condition : Option ContextError} (new : j.New w x first m e condition) :
      j.New w u first m e condition :=
    ⟨new.noted, new.since, Nat.le_trans new.upTo two.onward.forward, signals ▸ new.context⟩
  exact two.after one.log one.onward (fun m why known => known.imp_right later)
    fun m n who member => later (one.invoked m n who member)

theorem Way.alone (way : j.Way u halted events) :
    u.calls = [] ∨ ∃ p, u.calls = [(j.call, p)] ∧ ∀ giveUpAt, p ≠ .queued giveUpAt := by
  cases way with
  | working _ _ own | pausing _ _ own => exact .inr ⟨_, own, fun _ => Phase.noConfusion⟩
  | returned _ _ own | crashed _ _ own | stopped _ _ own => exact .inl own

theorem Way.settled (way : j.Way u halted events) : u.settle = u := by
  refine settle_of_unqueued fun q member => ?_
  rcases way.alone with own | ⟨p, own, unqueued⟩
  · rw [own] at member
    cases member
  · rw [own] at member
    rw [List.mem_singleton.mp member]
    exact unqueued

/-- How an attempt ends, given how many failed before. -/
inductive Concludes (j : Journey) (u : Traffic) (failed : Nat) : Traffic → Next → Prop
  | crashed (reply : (j.call.script (failed + 1)).result = .crash) : Concludes j u failed u .ended
  | returned {result : Except CallError Nat} (returns : j.Returns failed result) :
    Concludes j u failed (u.note (.done j.call.id result)) .ended
  | stopped {why : ContextError} (left : failed + 1 < j.attempts) (before : j.Failed (failed + 1))
    (done : u.errorOf? j.call = some why) :
    Concludes j u failed (u.note (.done j.call.id (.error (.stopped why)))) .ended
  | again (left : failed + 1 < j.attempts) (before : j.Failed (failed + 1)) (going : u.errorOf? j.call = none) :
    Concludes j u failed u (.again (j.retry.backoff (failed + 1)))

theorem failed_succ {failed : Nat} (before : j.Failed failed) (replied : (j.call.script (failed + 1)).after ≠ none)
    {reason : String} (reply : (j.call.script (failed + 1)).result = .failure (.failed reason)) :
    j.Failed (failed + 1) := by
  intro n earlier
  rcases Nat.lt_succ_iff_lt_or_eq.mp earlier with old | rfl
  · exact before n old
  · exact ⟨replied, reason, reply⟩

/-- The settings: retries and nothing else, and a call without a permit. -/
structure Bare (j : Journey) (u : Traffic) : Prop where
  layers : u.layers = ⟨none, some j.retry, none⟩
  permit : j.call.holdsPermit = false

theorem Bare.attempts (bare : j.Bare u) : u.attempts = j.attempts := by
  rw [Traffic.attempts, bare.layers]
  rfl

theorem Bare.finish (bare : j.Bare u) (result : Except CallError Nat) :
    u.finish j.call result = u.note (.done j.call.id result) := by
  rw [Traffic.finish, release, bare.permit]
  rfl

theorem Bare.concludes (bare : j.Bare u) {failed : Nat} (left : failed < j.attempts) (before : j.Failed failed)
    (replied : (j.call.script (failed + 1)).after ≠ none) {next : Next}
    (concluded : u.conclude j.call (failed + 1) (j.attempts - (failed + 1)) none
      (j.call.script (failed + 1)).result = (w, next)) : j.Concludes u failed w next := by
  cases reply : (j.call.script (failed + 1)).result with
  | crash =>
    simp only [reply, conclude, record, release, bare.permit] at concluded
    cases concluded
    exact .crashed reply
  | success =>
    simp only [reply, conclude, record, bare.finish] at concluded
    cases concluded
    exact .returned (.succeeded reply)
  | failure e =>
    simp only [reply, conclude, record, bare.layers, stop, bare.finish] at concluded
    cases e with
    | failed reason =>
      by_cases spent : j.attempts - (failed + 1) = 0
      · simp only [CallError.isRetryable, spent, Bool.not_true, Bool.false_eq_true, if_true, if_false] at concluded
        cases concluded
        have last : failed + 1 = j.attempts := by omega
        rw [last]
        exact .returned (.exhausted reply last)
      · have more : failed + 1 < j.attempts := by omega
        have before := failed_succ before replied reply
        simp only [CallError.isRetryable, spent, Bool.not_true, Bool.false_eq_true, if_false] at concluded
        cases done : u.errorOf? j.call with
        | some why =>
          rw [done] at concluded
          cases concluded
          exact .stopped more before done
        | none =>
          rw [done] at concluded
          cases concluded
          exact .again more before done
    | _ =>
      simp only [CallError.isRetryable, Bool.not_false, if_true] at concluded
      cases concluded
      exact .returned (.refused reply rfl)

theorem Bare.note (bare : j.Bare u) (e : Event) : j.Bare (u.note e) := ⟨bare.layers, bare.permit⟩

theorem Bare.ask (bare : j.Bare u) : u.ask j.call = (.ok none, u) := by
  rw [Traffic.ask, bare.layers]

theorem New.present {e : Event} {condition : Option ContextError} (still : Still u w) (member : (u.now, e) ∈ noted)
    (found : u.errorOf? j.call = condition) : j.New u w noted u.now e condition where
  noted := member
  since := Nat.le_refl _
  upTo := still.now ▸ Nat.le_refl _
  context := still.signals ▸ found

structure Ready (j : Journey) (u : Traffic) (failed : Nat) : Prop where
  left : failed < j.attempts
  before : j.Failed failed
  idle : u.calls = []
  now : u.now = j.begunAt failed
  asked : failed = 0 ∨ u.errorOf? j.call = none

theorem endedAt_of_instant {failed : Nat} (instant : (j.call.script (failed + 1)).after = some .zero) :
    j.endedAt failed = j.begunAt failed := by
  simp [endedAt, repliedAt, instant]

/-- What it comes to that an attempt begins. A reply that takes no time is dealt with as any other. -/
theorem Bare.begin_eq (bare : j.Bare u) {failed : Nat} (left : failed < j.attempts) (before : j.Failed failed) :
    begin j.call (j.attempts - (failed + 1)) (failed + 1) u =
      match u.errorOf? j.call with
      | some why => u.note (.done j.call.id (.error (.stopped why)))
      | none =>
        let v := u.note (.invoked j.call.id (failed + 1) j.call.principal)
        if (j.call.script (failed + 1)).after = some .zero then
          v.resume j.call (.attempting (failed + 1) none none)
        else
          v.hold j.call
            (.attempting (failed + 1) none ((j.call.script (failed + 1)).after.map fun d => (v.now.add d).tick)) := by
  have asks : (u.layers.retry.isSome || u.layers.breaker.isSome) = true := by
    rw [bare.layers]
    rfl
  rw [begin.eq_def]
  simp only [asks, if_true, bare.ask, stop, bare.finish]
  cases u.errorOf? j.call with
  | some why => rfl
  | none =>
    simp only
    split
    next instant =>
      have noted := bare.note (.invoked j.call.id (failed + 1) j.call.principal)
      simp only [resume, noted.attempts]
      cases concluded : (u.note (.invoked j.call.id (failed + 1) j.call.principal)).conclude j.call (failed + 1)
          (j.attempts - (failed + 1)) none (j.call.script (failed + 1)).result with
      | mk w next =>
        have concludes := noted.concludes left before (Option.ne_none_iff_exists'.mpr ⟨_, instant⟩) concluded
        cases concludes with
        | crashed | returned | stopped => rfl
        | again more =>
          obtain ⟨rest, spare⟩ : ∃ rest, j.attempts - (failed + 1) = rest + 1 :=
            ⟨j.attempts - (failed + 1) - 1, by omega⟩
          have same : rest = j.attempts - (failed + 1 + 1) := by omega
          simp only [spare, same, noted.attempts]
    next => rfl

theorem Step.silent (log : u.log = w.log) (onward : Onward w u) (way : j.Way u halted events) :
    j.Step halted w u events [] where
  log := by rw [log, List.append_nil]
  onward := onward
  way := by
    rw [List.append_nil]
    exact way.mono fun _ _ => .inl
  invoked _ _ _ none := absurd none List.not_mem_nil

theorem Step.stops {failed : Nat} {why : ContextError} (left : failed < j.attempts) (before : j.Failed failed)
    (idle : u.calls = []) (since : j.idleFrom failed ≤ u.now) (upTo : u.now ≤ j.begunAt failed)
    (soon : u.now = j.idleFrom failed ∨ ∀ d, j.call.context.deadline = some d → u.now ≤ d.tick)
    (done : u.errorOf? j.call = some why) :
    j.Step halted u (u.note (.done j.call.id (.error (.stopped why)))) (j.trace failed)
        [(u.now, .done j.call.id (.error (.stopped why)))] ∧
      Still u (u.note (.done j.call.id (.error (.stopped why)))) := by
  have still : Still u (u.note (.done j.call.id (.error (.stopped why)))) := ⟨rfl, rfl, rfl⟩
  refine ⟨⟨rfl, still.onward, ?_, by simp⟩, still⟩
  refine .stopped left before idle since upTo soon (Nat.le_refl _) (.inr ?_)
  exact .present still (List.mem_singleton_self _) done

/-- How a call goes on when an attempt has ended, if the next one would begin as it should. -/
theorem Bare.replied (bare : j.Bare u) {failed : Nat} (left : failed < j.attempts) (before : j.Failed failed)
    (idle : u.calls = []) (now : u.now = j.endedAt failed) (replies : (j.call.script (failed + 1)).after ≠ none)
    (finishAt : Option Moment)
    (next : j.Ready u (failed + 1) → ∃ noted,
      j.Step halted u (begin j.call (j.attempts - (failed + 1 + 1)) (failed + 1 + 1) u) (j.trace (failed + 1)) noted ∧
        Still u (begin j.call (j.attempts - (failed + 1 + 1)) (failed + 1 + 1) u)) :
    ∃ noted, j.Step halted u (u.resume j.call (.attempting (failed + 1) none finishAt)) (j.trace (failed + 1)) noted ∧
      Still u (u.resume j.call (.attempting (failed + 1) none finishAt)) := by
  simp only [resume, bare.attempts]
  cases concluded : u.conclude j.call (failed + 1) (j.attempts - (failed + 1)) none
      (j.call.script (failed + 1)).result with
  | mk w outcome =>
    cases bare.concludes left before replies concluded with
    | crashed reply =>
      exact ⟨[], .silent rfl (.refl u) (.crashed left before idle reply), .refl u⟩
    | @returned result returns =>
      have still : Still u (u.note (.done j.call.id result)) := ⟨rfl, rfl, rfl⟩
      refine ⟨[(u.now, .done j.call.id result)], ⟨rfl, still.onward, ?_, by simp⟩, still⟩
      rw [now]
      exact .returned left before idle replies returns (now ▸ Nat.le_refl _)
    | stopped more before' done =>
      exact ⟨_, Step.stops more before' idle (now ▸ Nat.le_refl _) (now ▸ j.endedAt_le failed) (.inl now) done⟩
    | again more before' going =>
      simp only [bare.attempts]
      have resumed : j.begunAt (failed + 1) = j.resumedAt (failed + 1) u.now := by rw [begunAt, ← endedAt, now]
      rw [resumedAt] at resumed
      rw [← resumed]
      split
      next soon =>
        have since : u.now ≤ j.begunAt (failed + 1) := now ▸ j.endedAt_le failed
        exact next ⟨more, before', idle, Moment.eq_of_le_of_le since soon, .inr going⟩
      next lasts =>
        have early : u.now < j.begunAt (failed + 1) := Nat.lt_of_not_le lasts
        have rests := rests_watching (calm_of_going going)
        have still : Still u (u.hold j.call (.pausing (failed + 1) (j.begunAt (failed + 1)))) := ⟨rfl, rfl, rfl⟩
        refine ⟨[], .silent rfl still.onward (.pausing more before' ?_ (now ▸ Nat.le_refl _) early rests.live
          rests.before), still⟩
        rw [hold, idle]
        rfl

theorem Ready.works {failed : Nat} (ready : j.Ready u failed) (going : u.errorOf? j.call = none)
    (lasts : (j.call.script (failed + 1)).after ≠ some .zero) :
    let v := (u.note (.invoked j.call.id (failed + 1) j.call.principal)).hold j.call (.attempting (failed + 1) none
      ((j.call.script (failed + 1)).after.map fun d => (u.now.add d).tick))
    j.Step halted u v (j.trace failed) [(u.now, .invoked j.call.id (failed + 1) j.call.principal)] ∧ Still u v := by
  intro v
  have still : Still u v := ⟨rfl, rfl, rfl⟩
  refine ⟨⟨rfl, still.onward, ?_, fun m n who member => ?_⟩, still⟩
  · have replies : (j.call.script (failed + 1)).after.map (fun d => (u.now.add d).tick) =
        (j.call.script (failed + 1)).after.map fun _ => j.endedAt failed := by
      refine Option.map_congr fun d after => ?_
      have lasting : d ≠ .zero := fun instant => lasts (instant ▸ after)
      simp only [endedAt, repliedAt, after, if_neg lasting, ready.now]
    rw [ready.now, ← trace_succ, ← ready.now]
    refine .working ready.left ready.before (congrArg (· ++ _) ready.idle) replies (ready.now ▸ Nat.le_refl _) ?_
    intro m timer
    obtain ⟨d, after, rfl⟩ := Option.map_eq_some_iff.mp timer
    exact Moment.lt_tick_add u.now fun instant => lasts (instant ▸ after)
  · cases List.mem_singleton.mp member
    exact .present still member going

theorem Bare.begins (bare : j.Bare u) {failed : Nat} (ready : j.Ready u failed) :
    ∃ noted, j.Step halted u (begin j.call (j.attempts - (failed + 1)) (failed + 1) u) (j.trace failed) noted ∧
      Still u (begin j.call (j.attempts - (failed + 1)) (failed + 1) u) := by
  -- The induction is on the attempts that are left.
  obtain ⟨spare, left⟩ : ∃ spare, spare = j.attempts - failed := ⟨_, rfl⟩
  induction spare generalizing u failed with
  | zero => exact absurd ready.left (by omega)
  | succ spare ih =>
    rw [bare.begin_eq ready.left ready.before]
    cases context : u.errorOf? j.call with
    | some why =>
      have first : failed = 0 := ready.asked.resolve_right (Option.ne_none_iff_exists'.mpr ⟨_, context⟩)
      have soon : u.now = j.idleFrom failed := by
        rw [ready.now, first]
        rfl
      exact ⟨_, Step.stops ready.left ready.before ready.idle (soon ▸ Nat.le_refl _) (ready.now ▸ Nat.le_refl _)
        (.inl soon) context⟩
    | none =>
      simp only
      split
      next instant =>
        have now : u.now = j.endedAt failed := ready.now.trans (endedAt_of_instant instant).symm
        have noted := bare.note (.invoked j.call.id (failed + 1) j.call.principal)
        obtain ⟨more, step, still⟩ := noted.replied ready.left ready.before ready.idle now
          (Option.ne_none_iff_exists'.mpr ⟨_, instant⟩) none fun next => ih noted next (by omega)
        have begun : Still u (u.note (.invoked j.call.id (failed + 1) j.call.principal)) := ⟨rfl, rfl, rfl⟩
        have still' := begun.trans still
        rw [trace_succ, ← ready.now] at step
        refine ⟨_, step.after rfl begun.onward (fun m why => .inl) fun m n who member => ?_, still'⟩
        cases List.mem_singleton.mp member
        exact .present still' member context
      next lasts => exact ⟨_, ready.works context lasts⟩

theorem Step.since (step : j.Step halted x u events noted) (log : x.log = w.log) (onward : Onward w x) :
    j.Step halted w u events noted where
  log := step.log.trans (congrArg (· ++ noted) log)
  onward := onward.trans step.onward
  way := step.way.mono fun m why => Or.imp_right fun new =>
    ⟨new.noted, Nat.le_trans onward.forward new.since, new.upTo, new.context⟩
  invoked m n who member := by
    have new := step.invoked m n who member
    exact ⟨new.noted, Nat.le_trans onward.forward new.since, new.upTo, new.context⟩

/-- Time goes on, but not past a timer. Signals may be raised. -/
structure Later (w v : Traffic) : Prop extends Onward w v where
  calls : v.calls = w.calls
  log : v.log = w.log
  first : ∀ q ∈ w.calls, ∀ m, w.wakeAt? q.1 q.2 = some m → v.now ≤ m

theorem Bare.later (bare : j.Bare w) (later : Later w u) : j.Bare u := ⟨later.layers.trans bare.layers, bare.permit⟩

theorem Bare.wokenBy? (bare : j.Bare u) (attempt : Nat) (ticket : Option Ticket) (finishAt : Option Moment) :
    u.wokenBy? j.call (.attempting attempt ticket finishAt) = none := by
  rw [Traffic.wokenBy?, heedsContext, bare.layers]
  rfl

theorem Bare.wakeAt? (bare : j.Bare u) (attempt : Nat) (ticket : Option Ticket) (finishAt : Option Moment) :
    u.wakeAt? j.call (.attempting attempt ticket finishAt) = finishAt := by
  rw [Traffic.wakeAt?, heedsContext, bare.layers]
  cases finishAt <;> rfl

theorem isDue_eq_false_iff {timer : Option Moment} :
    u.isDue timer = false ↔ ∀ m, timer = some m → u.now < m := by
  cases timer <;> simp [isDue, Moment.le_def, Moment.lt_def]

theorem Bare.among (bare : j.Bare u) (rest : List (Call × Phase)) : j.Bare (u.among rest) := ⟨bare.layers, bare.permit⟩

theorem Later.among (later : Later w u) : Onward w (u.among []) := ⟨later.layers, later.forward, later.raised⟩

theorem Bare.visited_working (bare : j.Bare w) (later : Later w u) {failed : Nat} {finishAt : Option Moment}
    (left : failed < j.attempts) (before : j.Failed failed)
    (own : w.calls = [(j.call, .attempting (failed + 1) none finishAt)])
    (replies : finishAt = (j.call.script (failed + 1)).after.map fun _ => j.endedAt failed)
    (begun : j.begunAt failed ≤ w.now) :
    ∃ noted, j.Step halted w u.visitAll (j.trace (failed + 1)) noted ∧ Still u u.visitAll := by
  have bare' := bare.later later
  have own' : u.calls = _ := later.calls.trans own
  rw [visitAll_one own' fun _ => Phase.noConfusion, bare'.wokenBy?]
  by_cases due : u.isDue finishAt = true
  · obtain ⟨m, timer, past⟩ := isDue_iff.mp due
    obtain ⟨d, after, ended⟩ := Option.map_eq_some_iff.mp (replies.symm.trans timer)
    have first : u.now ≤ m := by
      refine later.first (j.call, .attempting (failed + 1) none finishAt) ?_ m ((bare.wakeAt? ..).trans timer)
      rw [own]
      exact List.mem_singleton_self _
    have now : u.now = j.endedAt failed := by
      rw [ended]
      exact Moment.eq_of_le_of_le first past
    have replied : (j.call.script (failed + 1)).after ≠ none := Option.ne_none_iff_exists'.mpr ⟨_, after⟩
    obtain ⟨noted, step, still⟩ := (bare'.among []).replied left before rfl now replied finishAt
      fun next => (bare'.among []).begins next
    have goesOn : u.isDue (Phase.wakeAt? (.attempting (failed + 1) none finishAt)) = true := due
    simp only [goesOn, if_true]
    rw [step.way.settled]
    exact ⟨noted, step.since later.log later.among, ⟨still.layers, still.now, still.signals⟩⟩
  · have early := isDue_eq_false_iff.mp (Bool.eq_false_iff.mpr due)
    have rests : ¬ u.isDue (Phase.wakeAt? (.attempting (failed + 1) none finishAt)) = true := due
    simp only [rests]
    refine ⟨[], .silent later.log later.toOnward ?_, .refl u⟩
    exact .working left before own' replies (Nat.le_trans begun later.forward) early

theorem Later.bounds (later : Later w u) {attempt : Nat} {resumeAt : Moment}
    (own : w.calls = [(j.call, .pausing attempt resumeAt)]) :
    u.now ≤ resumeAt ∧ ∀ d, j.call.context.deadline = some d → u.now ≤ d.tick := by
  have first (m : Moment) (either : FiresBy (some resumeAt) m ∨ FiresBy j.call.context.wakeAt? m) : u.now ≤ m := by
    obtain ⟨soonest, timer, sooner⟩ := firesBy_earlier either
    refine Nat.le_trans (later.first (j.call, .pausing attempt resumeAt) ?_ soonest timer) sooner
    rw [own]
    exact List.mem_singleton_self _
  refine ⟨first _ (.inl ⟨_, rfl, Nat.le_refl _⟩), fun d deadline => ?_⟩
  exact first _ (.inr ⟨_, congrArg (Option.map Moment.tick) deadline, Nat.le_refl _⟩)

theorem Bare.visited_pausing (bare : j.Bare w) (later : Later w u) {failed : Nat} (left : failed + 1 < j.attempts)
    (before : j.Failed (failed + 1))
    (own : w.calls = [(j.call, .pausing (failed + 1) (j.begunAt (failed + 1)))])
    (ended : j.endedAt failed ≤ w.now) :
    ∃ noted, j.Step halted w u.visitAll (j.trace (failed + 1)) noted ∧ Still u u.visitAll := by
  have alone := (bare.later later).among []
  have own' : u.calls = _ := later.calls.trans own
  obtain ⟨inTime, soon⟩ := later.bounds own
  have past : j.idleFrom (failed + 1) ≤ u.now := Nat.le_trans ended later.forward
  have listens : u.wokenBy? j.call (.pausing (failed + 1) (j.begunAt (failed + 1))) = u.wakes? j.call := rfl
  rw [visitAll_one own' fun _ => Phase.noConfusion, listens]
  cases context : u.wakes? j.call with
  | some why =>
    obtain ⟨step, still⟩ := Step.stops (u := u.among []) left before rfl past inTime (.inr soon)
      (errorOf?_of_wakes? context)
    simp only [interrupt, stop, alone.finish]
    rw [step.way.settled]
    exact ⟨_, step.since later.log later.among, ⟨still.layers, still.now, still.signals⟩⟩
  | none =>
    by_cases due : u.isDue (some (j.begunAt (failed + 1))) = true
    · obtain ⟨m, timer, reached⟩ := isDue_iff.mp due
      cases timer
      have now : u.now = j.begunAt (failed + 1) := Moment.eq_of_le_of_le inTime reached
      have isTick : u.now.tick = u.now := by rw [now, begunAt, resumedAt, Moment.tick_tick]
      have going : u.errorOf? j.call = none := (wakes?_of_tick isTick j.call).symm.trans context
      obtain ⟨noted, step, still⟩ := alone.begins ⟨left, before, rfl, now, .inr going⟩
      simp only [Phase.wakeAt?, due, if_true, resume, alone.attempts]
      rw [step.way.settled]
      exact ⟨noted, step.since later.log later.among, ⟨still.layers, still.now, still.signals⟩⟩
    · have early := isDue_eq_false_iff.mp (Bool.eq_false_iff.mpr due)
      simp only [Phase.wakeAt?, due]
      have rests := rests_watching context
      refine ⟨[], .silent later.log later.toOnward ?_, .refl u⟩
      exact .pausing left before own' past (early _ rfl) rests.live rests.before

/-- Whatever a call waits for, it is looked at and goes on if it has to. -/
theorem Way.visited (way : j.Way w halted events) (bare : j.Bare w) (later : Later w u) :
    ∃ noted, j.Step halted w u.visitAll events noted ∧ Still u u.visitAll := by
  have ended (idle : w.calls = []) (way : j.Way u halted events) :
      ∃ noted, j.Step halted w u.visitAll events noted ∧ Still u u.visitAll := by
    rw [visitAll_none (later.calls.trans idle)]
    exact ⟨[], .silent later.log later.toOnward way, .refl u⟩
  cases way with
  | working left before own replies begun early => exact bare.visited_working later left before own replies begun
  | pausing left before own since => exact bare.visited_pausing later left before own since
  | returned left before own replied returns past =>
    exact ended own (.returned left before (later.calls.trans own) replied returns (Nat.le_trans past later.forward))
  | crashed left before own reply => exact ended own (.crashed left before (later.calls.trans own) reply)
  | stopped left before own since upTo soon past halts =>
    exact ended own (.stopped left before (later.calls.trans own) since upTo soon
      (Nat.le_trans past later.forward) halts)

theorem Way.next (way : j.Way w halted events) : ∀ q ∈ w.calls, w.wakeAt? q.1 q.2 = w.nextAt? := by
  intro q member
  rcases way.alone with own | ⟨p, own, -⟩
  · rw [own] at member
    cases member
  · rw [own] at member
    rw [nextAt?, own, List.mem_singleton.mp member]
    rfl

theorem Way.alarm (way : j.Way w halted events) (bare : j.Bare w) {m : Moment} (timer : w.nextAt? = some m) :
    w.now < m ∧ m.tick = m := by
  have idle (none : w.calls = []) : w.now < m ∧ m.tick = m := by
    rw [nextAt?, none] at timer
    cases timer
  have fires := way.next
  rw [timer] at fires
  cases way with
  | @working failed _ _ _ own replies begun early =>
    have own := (bare.wakeAt? ..).symm.trans (fires _ (own ▸ List.mem_singleton_self _))
    obtain ⟨d, after, ended⟩ := Option.map_eq_some_iff.mp (replies.symm.trans own)
    have later := early m own
    refine ⟨later, ?_⟩
    -- A reply that takes no time would be here already.
    have lasts : d ≠ .zero := fun none => by
      rw [← ended, endedAt_of_instant (none ▸ after)] at later
      exact Nat.not_le_of_lt later begun
    rw [← ended, endedAt, repliedAt, after]
    simp only [if_neg lasts, Moment.tick_tick]
  | @pausing failed _ _ own ended early live inTime =>
    rcases earlier_some (fires _ (own ▸ List.mem_singleton_self _)) with pause | deadline
    · obtain rfl := Option.some.inj pause
      exact ⟨early, Moment.tick_tick _⟩
    · obtain ⟨d, set, rfl⟩ := Option.map_eq_some_iff.mp deadline
      exact ⟨inTime d set, Moment.tick_tick d⟩
  | returned _ _ own => exact idle own
  | crashed _ _ own => exact idle own
  | stopped _ _ own => exact idle own

theorem Way.waits (way : j.Way w halted events) (bare : j.Bare w) {finish : Moment} (forward : w.now ≤ finish)
    (first : ∀ m, w.nextAt? = some m → finish < m) : j.Way { w with now := finish } halted events := by
  have fires := way.next
  cases way with
  | working left before own replies begun early =>
    refine .working left before own replies (Nat.le_trans begun forward) fun m timer => first m ?_
    rw [← fires _ (own ▸ List.mem_singleton_self _)]
    exact (bare.wakeAt? ..).trans timer
  | @pausing failed left before own ended early live inTime =>
    have fires := fires _ (own ▸ List.mem_singleton_self _)
    have within (m : Moment)
        (either : FiresBy (some (j.begunAt (failed + 1))) m ∨ FiresBy j.call.context.wakeAt? m) : finish < m := by
      obtain ⟨soonest, timer, sooner⟩ := firesBy_earlier either
      exact Nat.lt_of_lt_of_le (first soonest (fires.symm.trans timer)) sooner
    refine .pausing left before own (Nat.le_trans ended forward) ?_ live fun d set => ?_
    · exact within _ (.inl ⟨_, rfl, Nat.le_refl _⟩)
    · exact within _ (.inr ⟨_, congrArg (Option.map Moment.tick) set, Nat.le_refl _⟩)
  | returned left before own replied returns past =>
    exact .returned left before own replied returns (Nat.le_trans past forward)
  | crashed left before own reply => exact .crashed left before own reply
  | stopped left before own since upTo soon past halts =>
    exact .stopped left before own since upTo soon (Nat.le_trans past forward) halts

theorem Way.runs (way : j.Way w halted events) (bare : j.Bare w) {finish : Moment} (forward : w.now ≤ finish)
    {fuel : Nat} (enough : finish.millis - w.now.millis < fuel) :
    ∃ noted, j.Step halted w (runTo finish fuel w) events noted ∧ (runTo finish fuel w).signals = w.signals := by
  -- The induction is on the fuel. Each instant is a tick after the last one.
  fun_induction Traffic.runTo finish fuel w generalizing halted events with
  | case1 => exact absurd enough (Nat.not_lt_zero _)
  | case2 fuel w none =>
    have waits := way.waits bare forward fun m timer => by rw [none] at timer; cases timer
    exact ⟨[], .silent rfl ⟨rfl, forward, List.Subset.refl _⟩ waits, rfl⟩
  | case3 fuel w next soonest past =>
    have waits := way.waits bare forward fun m timer => by
      rw [soonest] at timer
      exact Option.some.inj timer ▸ past
    exact ⟨[], .silent rfl ⟨rfl, forward, List.Subset.refl _⟩ waits, rfl⟩
  | case4 fuel w next soonest within ih =>
    obtain ⟨later, isTick⟩ := way.alarm bare soonest
    have inTime : next ≤ finish := Nat.le_of_not_lt within
    have goesOn : Later w { w with now := next } := by
      refine ⟨⟨rfl, Nat.le_of_lt later, List.Subset.refl _⟩, rfl, rfl, fun q member m timer => ?_⟩
      rw [way.next q member, soonest] at timer
      exact Option.some.inj timer ▸ Nat.le_refl _
    obtain ⟨first, one, still⟩ := way.visited bare goesOn
    have bounded : next.millis ≤ finish.millis := Nat.div_le_div_right inTime
    have less := Moment.millis_lt later isTick
    obtain ⟨noted, two, signals⟩ := ih one.way ⟨one.onward.layers.trans bare.layers, bare.permit⟩
      (by rw [still.now]; exact inTime) (by rw [still.now]; show finish.millis - next.millis < fuel; omega)
    exact ⟨first ++ noted, one.trans two signals, signals.trans still.signals⟩

theorem Way.passes (way : j.Way w halted events) (bare : j.Bare w) {finish : Moment} (forward : w.now ≤ finish) :
    ∃ noted, j.Step halted w (w.pass finish) events noted := by
  have enough : finish.millis - w.now.millis < (finish.since w.now).nanos / Duration.nanosPerMilli + 2 := by
    simp only [Moment.millis, Moment.since, Duration.nanosPerMilli]
    omega
  obtain ⟨noted, step, -⟩ := way.runs bare forward enough
  exact ⟨noted, step⟩

/-- What befalls a call that is on its way. -/
theorem Way.influenced (way : j.Way w halted events) (bare : j.Bare w) {i : Influence} (fits : i.Fits w) :
    ∃ noted, j.Step halted w (w.influence i) events noted := by
  cases i with
  | start c => exact fits.elim
  | pass finish => exact way.passes bare fits
  | cancel time signal =>
    obtain ⟨forward, first⟩ := fits
    have raised : Later w { w with now := time, signals := w.signals.raise signal } :=
      ⟨⟨rfl, forward, List.subset_cons_self ..⟩, rfl, rfl, first⟩
    obtain ⟨noted, step, -⟩ := way.visited bare raised
    exact ⟨noted, step⟩

theorem Bare.starts (bare : j.Bare t) (idle : t.calls = []) (now : t.now = j.start) :
    ∃ noted, j.Step halted t (t.start j.call) [] noted := by
  have ready : j.Ready t 0 := ⟨Nat.le_max_right .., fun n none => absurd none n.not_lt_zero, idle, now, .inl rfl⟩
  obtain ⟨noted, step, -⟩ := bare.begins ready
  have first : t.start j.call = begin j.call (j.attempts - 1) 1 t := by
    rw [← bare.attempts]
    simp only [Traffic.start, onBreaker, bare.layers]
    rfl
  rw [first]
  exact ⟨noted, step⟩

/-- At some time of a run an event happens, and the context is like this then. -/
def Noted (j : Journey) (t : Traffic) (run : List Influence) (m : Moment) (e : Event)
    (condition : Option ContextError) : Prop :=
  ∃ before i after, run = before ++ i :: after ∧
    let w := t.undergo before
    ∃ noted, (w.influence i).log = w.log ++ noted ∧ j.New w (w.influence i) noted m e condition

/-- What a run tells of a call. The backend is invoked only while the context is not done, and so never again once it
is done. -/
structure Told (j : Journey) (t : Traffic) (run : List Influence) (events : List (Moment × Event)) : Prop where
  log : (t.undergo run).log = t.log ++ events
  onward : ∀ before after, run = before ++ after → Onward (t.undergo before) (t.undergo run)
  invoked : ∀ m n who, (m, .invoked j.call.id n who) ∈ events → j.Noted t run m (.invoked j.call.id n who) none
  settled : ∀ before after, run = before ++ after → (t.undergo before).errorOf? j.call ≠ none →
    ∀ m n who, (m, .invoked j.call.id n who) ∈ events → (m, .invoked j.call.id n who) ∈ (t.undergo before).log

/-- The events of a run are those of the call's way. If it is stopped, then at a time at which its context is done. -/
structure Traced (j : Journey) (t : Traffic) (run : List Influence) (events : List (Moment × Event)) : Prop
    extends Told j t run events where
  way : j.Way (t.undergo run)
    (fun m why => j.Noted t run m (.done j.call.id (.error (.stopped why))) (some why)) events

theorem undergo_append (t : Traffic) (run : List Influence) (i : Influence) :
    t.undergo (run ++ [i]) = (t.undergo run).influence i := List.foldl_append ..

theorem append_singleton_eq {run before after : List Influence} {i : Influence} (split : run ++ [i] = before ++ after) :
    before = run ++ [i] ∨ ∃ rest, run = before ++ rest := by
  obtain rfl | ⟨rest, last, rfl⟩ := after.eq_nil_or_concat
  · exact .inl (split.trans (List.append_nil _)).symm
  · rw [List.concat_eq_append, ← List.append_assoc] at split
    exact .inr ⟨rest, (List.append_inj' split rfl).1⟩

theorem Noted.longer {run : List Influence} {m : Moment} {e : Event} {condition : Option ContextError}
    (known : j.Noted t run m e condition) (i : Influence) : j.Noted t (run ++ [i]) m e condition := by
  obtain ⟨before, first, after, rfl, known⟩ := known
  exact ⟨before, first, after ++ [i], by rw [List.append_assoc, List.cons_append], known⟩

theorem told_nil (j : Journey) (t : Traffic) : j.Told t [] [] where
  log := (List.append_nil _).symm
  onward before after split := by
    obtain ⟨rfl, -⟩ := List.append_eq_nil_iff.mp split.symm
    exact .refl t
  invoked _ _ _ none := absurd none List.not_mem_nil
  settled _ _ _ _ _ _ _ none := absurd none List.not_mem_nil

theorem Told.step {run : List Influence} {i : Influence} (told : j.Told t run events)
    (step : j.Step halted (t.undergo run) ((t.undergo run).influence i) events noted) :
    j.Told t (run ++ [i]) (events ++ noted) := by
  have log : (t.undergo (run ++ [i])).log = t.log ++ (events ++ noted) := by
    rw [undergo_append, step.log, told.log, List.append_assoc]
  refine ⟨log, fun before after split => ?_, fun m n who member => ?_, fun before after split done m n who member => ?_⟩
  · rcases append_singleton_eq split with rfl | ⟨rest, earlier⟩
    · exact .refl _
    · rw [undergo_append]
      exact (told.onward before rest earlier).trans step.onward
  · rcases List.mem_append.mp member with old | new
    · exact (told.invoked m n who old).longer i
    · exact ⟨run, i, [], rfl, noted, step.log, step.invoked m n who new⟩
  · rcases append_singleton_eq split with rfl | ⟨rest, earlier⟩
    · rw [log]
      exact List.mem_append_right _ member
    · rcases List.mem_append.mp member with old | new
      · exact told.settled before rest earlier done m n who old
      · have onward := told.onward before rest earlier
        obtain ⟨-, since, -, context⟩ := step.invoked m n who new
        exact absurd context ((onward.trans step.onward).done (Nat.le_trans onward.forward since) done)

theorem Told.traced {run : List Influence} {i : Influence} (told : j.Told t run events)
    (step : j.Step (fun m why => j.Noted t run m (.done j.call.id (.error (.stopped why))) (some why))
      (t.undergo run) ((t.undergo run).influence i) events noted) : j.Traced t (run ++ [i]) (events ++ noted) where
  toTold := told.step step
  way := by
    rw [undergo_append]
    refine step.way.mono fun m why known => known.elim (·.longer i) fun new => ?_
    exact ⟨run, i, [], rfl, noted, step.log, new⟩

/-- A run goes on as it began. -/
theorem Traced.longer {run is : List Influence} (traced : j.Traced t run events) (bare : j.Bare t)
    (follows : Follows (t.undergo run) is) : ∃ events, j.Traced t (run ++ is) events := by
  induction is generalizing run events with
  | nil => exact ⟨events, (List.append_nil run).symm ▸ traced⟩
  | cons i is ih =>
    obtain ⟨fits, rest⟩ := follows
    have same : (t.undergo run).layers = t.layers := (traced.onward [] run rfl).layers
    obtain ⟨noted, step⟩ := traced.way.influenced ⟨same.trans bare.layers, bare.permit⟩ fits
    have further := ih (traced.toTold.traced step) (by rw [undergo_append]; exact rest)
    rw [List.append_assoc] at further
    exact further

end Journey

/-- Whatever befalls a call on its own, a run tells the way of the call as far as it has come. So there is at least one
attempt unless the context is done at the start, there are no more than allowed, each but the last one failed, and each
begins when the pause after the one before is over. A call whose context is done before an attempt or in a pause is
stopped, at that time or when the timer of its deadline fires, and no other call is; else the last outcome is the
result, which says so if the attempts are spent. -/
theorem attempts_traced (j : Journey) {t : Traffic} (layers : t.layers = ⟨none, some j.retry, none⟩)
    (idle : t.calls = []) (now : t.now = j.start) (permit : j.call.holdsPermit = false) {is : List Influence}
    (follows : Follows (t.start j.call) is) : ∃ events, j.Traced t (.start j.call :: is) events := by
  have bare : j.Bare t := ⟨layers, permit⟩
  obtain ⟨noted, step⟩ := bare.starts idle now
  exact ((j.told_nil t).traced step).longer bare follows

/-- A call that starts between two ticks, fails at once and is to go on without a pause waits for the next tick, and is
canceled before it comes. -/
theorem attempts_of_canceled_pause :
    let retry : Config.Retry := { maxInterval := .zero }
    let c : Call := { id := "a", context := { signal := some 0 }, script := fun _ =>
      ⟨some .zero, .failure (.failed "busy")⟩ }
    let j : Journey := ⟨c, ⟨500000⟩, retry, {}, 0⟩
    let t := { ofLayers ⟨none, some retry, none⟩ with now := ⟨500000⟩ }
    let run := [.start c, .pass ⟨600000⟩, .cancel ⟨700000⟩ 0]
    ∃ events, j.Traced t run events ∧ events.map Prod.fst = [⟨500000⟩, ⟨700000⟩] := by
  intro retry c j t run
  have early : (t.start c).now ≤ ⟨600000⟩ := by decide +kernel
  let w := (t.start c).pass ⟨600000⟩
  have first : w.now ≤ ⟨700000⟩ ∧ ∀ q ∈ w.calls, ∀ m ∈ w.wakeAt? q.1 q.2, ⟨700000⟩ ≤ m := by decide +kernel
  have follows : Follows (t.start c) [.pass ⟨600000⟩, .cancel ⟨700000⟩ 0] := ⟨early, first, trivial⟩
  obtain ⟨events, traced⟩ := attempts_traced j rfl rfl rfl rfl follows
  have times : (t.undergo run).log.map Prod.fst = [⟨500000⟩, ⟨700000⟩] := by decide +kernel
  rw [traced.log] at times
  exact ⟨events, traced, times⟩

end Gatehouse.Resilience.Traffic
