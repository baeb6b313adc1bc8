import Gatehouse.Proofs.Context
import Gatehouse.Proofs.Resilience.Origin

/-!
The turns of calls. Between two instants calls are moved on one at a time, and a turn of a call is one of a few
things: it is interrupted by its context, a layer that looks finds its context done, it gets a permit or is turned
away, it is rejected by the breaker or invokes the backend, and its attempt ends, for good or before a
pause. Whatever is done with traffic that has breakers amounts to such turns. A deadline that has passed interrupts
a call at its tick only; until then a permit may still come to it, but no attempt begins.
-/
namespace Gatehouse.Resilience.Traffic

def among (t : Traffic) (calls : List (Call × Phase)) : Traffic := { t with calls }

section
variable (t : Traffic) (cs ds : List (Call × Phase)) (c : Call)

@[simp] theorem among_calls : (t.among cs).calls = cs := rfl

@[simp] theorem among_among : (t.among cs).among ds = t.among ds := rfl

theorem among_release : (t.among cs).release c = (t.release c).among cs := by
  unfold release
  split <;> rfl

theorem among_finish (result : Except CallError Nat) :
    (t.among cs).finish c result = (t.finish c result).among cs :=
  among_release (t.note (.done c.id result)) cs c

theorem among_setBreaker (name : String) (b : Breaker) (change : Option Change) :
    (t.among cs).setBreaker name b change = (t.setBreaker name b change).among cs := by
  cases change <;> rfl

theorem among_record (ticket : Option Ticket) (v : Verdict) :
    (t.among cs).record c ticket v = (t.record c ticket v).among cs := by
  obtain ⟨⟨_, _, breaker⟩, _⟩ := t
  cases ticket with
  | none => rfl
  | some ticket =>
    cases breaker with
    | none => rfl
    | some config => exact among_setBreaker ..

theorem among_ask : (t.among cs).ask c = ((t.ask c).1, (t.ask c).2.among cs) := by
  obtain ⟨⟨_, _, breaker⟩, _⟩ := t
  cases breaker with
  | none => rfl
  | some config => exact congrArg _ (among_setBreaker ..)

theorem among_interrupt (p : Phase) (why : ContextError) :
    (t.among cs).interrupt c p why = (t.interrupt c p why).among cs := by
  cases p with
  | watching => rfl
  | attempting _ ticket _ => simp only [interrupt, stop, among_record, among_finish]
  | _ => exact among_finish ..

/-- The error of a call whose attempt failed, unless it may go on after a pause. -/
def lastError? (attempt : Nat) (e : CallError) : Option CallError :=
  match t.layers.retry with
  | none => some e
  | some _ =>
    if !e.isRetryable then some e
    else if t.attempts - attempt = 0 then some (.exhausted attempt e)
    else none

def pauseEnd (attempt : Nat) : Moment :=
  match t.layers.retry with
  | none => t.now
  | some retry => (t.now.add (retry.backoff attempt)).tick

def replyAt? (attempt : Nat) : Option Moment :=
  (c.script attempt).after.map fun d => if d = .zero then t.now else (t.now.add d).tick

end

/-- One turn of a call: what becomes of the traffic, and in which phase the call goes on, if it does. -/
inductive Turn (t : Traffic) : Call × Phase → Traffic → Option (Call × Phase) → Prop
  | interrupted {c : Call} {p : Phase} {why : ContextError} (done : t.wokenBy? c p = some why) :
    Turn t (c, p) (t.interrupt c p why) none
  | permitted {c : Call} {giveUpAt : Option Moment} (calm : t.wakes? c = none) (room : 0 < t.free) :
    Turn t (c, .queued giveUpAt) { t with free := t.free - 1 }
      (some ({ c with holdsPermit := true }, .pausing 0 t.now))
  | turnedAway {c : Call} {giveUpAt : Moment} (going : t.errorOf? c = none) (due : giveUpAt ≤ t.now)
    (full : t.free = 0) : Turn t (c, .queued (some giveUpAt))
      (t.finish c (.error (.bulkheadFull ((t.layers.bulkhead.map (·.name)).getD "")))) none
  | barred {c : Call} {giveUpAt : Option Moment} {why : ContextError} (done : t.errorOf? c = some why) :
    Turn t (c, .queued giveUpAt) (t.stop c why) none
  | stopped {c : Call} {attempt : Nat} {finish : Moment} {why : ContextError} (due : finish ≤ t.now)
    (done : t.errorOf? c = some why) : Turn t (c, .pausing attempt finish) (t.stop c why) none
  | rejected {c : Call} {attempt : Nat} {finish : Moment} {e : CallError} (going : t.errorOf? c = none)
    (due : finish ≤ t.now) (asked : (t.ask c).1 = .error e) :
    Turn t (c, .pausing attempt finish) ((t.ask c).2.finish c (.error e)) none
  | invoked {c : Call} {attempt : Nat} {finish : Moment} {ticket : Option Ticket}
    (going : t.errorOf? c = none) (due : finish ≤ t.now) (asked : (t.ask c).1 = .ok ticket) :
    Turn t (c, .pausing attempt finish) ((t.ask c).2.note (.invoked c.id (attempt + 1) c.principal))
      (some (c, .attempting (attempt + 1) ticket (t.replyAt? c (attempt + 1))))
  | crashed {c : Call} {attempt : Nat} {ticket : Option Ticket} {finishAt : Moment}
    (going : t.errorOf? c = none) (due : finishAt ≤ t.now) (reply : (c.script attempt).result = .crash) :
    Turn t (c, .attempting attempt ticket (some finishAt)) ((t.record c ticket .abandoned).release c) none
  | succeeded {c : Call} {attempt : Nat} {ticket : Option Ticket} {finishAt : Moment}
    (going : t.errorOf? c = none) (due : finishAt ≤ t.now) (reply : (c.script attempt).result = .success) :
    Turn t (c, .attempting attempt ticket (some finishAt))
      ((t.record c ticket .success).finish c (.ok attempt)) none
  | failed {c : Call} {attempt : Nat} {ticket : Option Ticket} {finishAt : Moment} {e last : CallError}
    (going : t.errorOf? c = none) (due : finishAt ≤ t.now) (reply : (c.script attempt).result = .failure e)
    (final : t.lastError? attempt e = some last) :
    Turn t (c, .attempting attempt ticket (some finishAt))
      ((t.record c ticket .failure).finish c (.error last)) none
  | paused {c : Call} {attempt : Nat} {ticket : Option Ticket} {finishAt : Moment} {e : CallError}
    (going : t.errorOf? c = none) (due : finishAt ≤ t.now) (reply : (c.script attempt).result = .failure e)
    (more : t.lastError? attempt e = none) :
    Turn t (c, .attempting attempt ticket (some finishAt)) (t.record c ticket .failure)
      (some (c, .pausing attempt (t.pauseEnd attempt)))

/-- Calls take turns, in any order. -/
inductive Moves : Traffic → Traffic → Prop
  | settled {t : Traffic} {calls : List (Call × Phase)} (same : t.calls.Perm calls) : Moves t (t.among calls)
  | turn {t u v : Traffic} {call : Call × Phase} {others : List (Call × Phase)} {next : Option (Call × Phase)}
    (there : t.calls.Perm (others ++ [call])) (turn : Turn t call u next)
    (after : Moves (u.among (others ++ next.toList)) v) : Moves t v

structure Still (t u : Traffic) : Prop where
  layers : u.layers = t.layers
  now : u.now = t.now
  signals : u.signals = t.signals

theorem Still.refl (t : Traffic) : Still t t := ⟨rfl, rfl, rfl⟩

theorem Still.trans {t u v : Traffic} (first : Still t u) (second : Still u v) : Still t v :=
  ⟨second.layers.trans first.layers, second.now.trans first.now, second.signals.trans first.signals⟩

theorem Quiet.still {t u : Traffic} (quiet : Quiet t u) : Still t u ∧ u.calls = t.calls :=
  ⟨⟨quiet.layers, quiet.now, quiet.signals⟩, quiet.calls⟩

theorem Still.attempts {t u : Traffic} (still : Still t u) : u.attempts = t.attempts := by
  rw [Traffic.attempts, Traffic.attempts, still.layers]

theorem Still.errorOf? {t u : Traffic} (still : Still t u) (c : Call) : u.errorOf? c = t.errorOf? c := by
  rw [Traffic.errorOf?, Traffic.errorOf?, still.signals, still.now]

/-- Who is woken finds the context done, for the same reason. -/
theorem errorOf?_of_wakes? {t : Traffic} {c : Call} {why : ContextError} (woken : t.wakes? c = some why) :
    t.errorOf? c = some why := Context.errorAt?_of_rounded (s := ⟨t.now, t.signals⟩) woken

theorem calm_of_going {t : Traffic} {c : Call} (going : t.errorOf? c = none) : t.wakes? c = none :=
  Option.eq_none_iff_forall_not_mem.mpr fun _ woken => nomatch going.symm.trans (errorOf?_of_wakes? woken)

/-- At a tick there is no difference between a deadline and its timer. -/
theorem wakes?_of_tick {t : Traffic} (isTick : t.now.tick = t.now) (c : Call) : t.wakes? c = t.errorOf? c :=
  Context.errorAt?_rounded (s := ⟨t.now, t.signals⟩) isTick

section
variable {t u v : Traffic} {call : Call × Phase} {next : Option (Call × Phase)}

theorem quiet_interrupt (t : Traffic) (c : Call) (p : Phase) (why : ContextError) :
    Quiet t (t.interrupt c p why) := by
  cases p with
  | watching => exact quiet_note _ fun _ _ _ => Event.noConfusion
  | attempting _ ticket _ => exact (quiet_record ..).trans (quiet_finish ..)
  | _ => exact quiet_finish ..

theorem Turn.still (turn : Turn t call u next) : Still t u ∧ u.calls = t.calls := by
  cases turn with
  | interrupted => exact (quiet_interrupt ..).still
  | permitted => exact ⟨⟨rfl, rfl, rfl⟩, rfl⟩
  | turnedAway | barred | stopped => exact (quiet_finish ..).still
  | rejected => exact ((quiet_ask ..).trans (quiet_finish ..)).still
  | @invoked c =>
    obtain ⟨still, calls⟩ := (quiet_ask t c).still
    exact ⟨{ still with }, calls⟩
  | crashed => exact ((quiet_record ..).trans (quiet_release ..)).still
  | succeeded => exact ((quiet_record ..).trans (quiet_finish ..)).still
  | failed => exact ((quiet_record ..).trans (quiet_finish ..)).still
  | paused => exact (quiet_record ..).still

theorem Turn.same_id (turn : Turn t call u next) : ∀ q ∈ next, q.1.id = call.1.id := by
  intro q own
  cases turn <;> cases own <;> rfl

theorem Turn.among (turn : Turn t call u next) (cs : List (Call × Phase)) :
    Turn (t.among cs) call (u.among cs) next := by
  have asked (c : Call) : ((t.among cs).ask c).1 = (t.ask c).1 := by
    rw [among_ask]
  cases turn with
  | interrupted done =>
    rw [← among_interrupt]
    exact .interrupted done
  | permitted calm room => exact .permitted calm room
  | turnedAway going due full =>
    rw [← among_finish]
    exact .turnedAway going due full
  | barred done =>
    rw [stop, ← among_finish]
    exact .barred done
  | stopped due done =>
    rw [stop, ← among_finish]
    exact .stopped due done
  | @rejected c _ _ _ going due rejection =>
    have withheld : (t.ask c).2.among cs = ((t.among cs).ask c).2 := by rw [among_ask]
    rw [← among_finish, withheld]
    exact .rejected going due ((asked c).trans rejection)
  | @invoked c attempt _ _ going due admission =>
    have given : ((t.ask c).2.note (.invoked c.id (attempt + 1) c.principal)).among cs =
        ((t.among cs).ask c).2.note (.invoked c.id (attempt + 1) c.principal) := by rw [among_ask]; rfl
    rw [given]
    exact .invoked going due ((asked c).trans admission)
  | crashed going due reply =>
    rw [← among_release, ← among_record]
    exact .crashed going due reply
  | succeeded going due reply =>
    rw [← among_finish, ← among_record]
    exact .succeeded going due reply
  | failed going due reply final =>
    rw [← among_finish, ← among_record]
    exact .failed going due reply final
  | paused going due reply more =>
    rw [← among_record]
    exact .paused going due reply more

theorem Moves.refl (t : Traffic) : Moves t t := .settled (.refl t.calls)

theorem Moves.still {t u : Traffic} (moves : Moves t u) : Still t u := by
  induction moves with
  | settled => exact ⟨rfl, rfl, rfl⟩
  | turn _ turn _ ih =>
    obtain ⟨layers, now, signals⟩ := ih
    exact turn.still.1.trans ⟨layers, now, signals⟩

theorem Moves.reordered {t : Traffic} {calls : List (Call × Phase)} (same : t.calls.Perm calls)
    (moves : Moves (t.among calls) v) : Moves t v := by
  generalize reordered : t.among calls = u at moves
  cases moves with
  | settled same' =>
    subst reordered
    exact .settled (same.trans same')
  | turn there turn after =>
    subst reordered
    exact .turn (same.trans there) (turn.among t.calls) after

theorem Moves.trans (first : Moves t u) (second : Moves u v) : Moves t v := by
  induction first with
  | settled same => exact second.reordered same
  | turn there turn _ ih => exact .turn there turn (ih second)

theorem Moves.beside (moves : Moves t u) (calls : List (Call × Phase)) :
    Moves (t.among (t.calls ++ calls)) (u.among (u.calls ++ calls)) := by
  induction moves with
  | settled same => exact .settled (same.append_right calls)
  | @turn t u v call others next there turn after ih =>
    have there' : (t.calls ++ calls).Perm ((calls ++ others) ++ [call]) := by
      rw [List.append_assoc]
      exact (there.append_right calls).trans List.perm_append_comm
    have same : ((calls ++ others) ++ next.toList).Perm (others ++ next.toList ++ calls) := by
      rw [List.append_assoc calls]
      exact List.perm_append_comm
    exact .turn there' (turn.among _) (.reordered (t := u.among (calls ++ others ++ next.toList)) same ih)

end

section
variable {t u : Traffic} {c : Call}

theorem pauseEnd_of_retry {retry : Config.Retry} (layer : t.layers.retry = some retry) (attempt : Nat) :
    t.pauseEnd attempt = (t.now.add (retry.backoff attempt)).tick := by
  unfold pauseEnd
  rw [layer]

/-- An attempt ends in one turn, and then the call has ended or pauses. -/
theorem turn_of_conclude {attempt : Nat} {ticket : Option Ticket} {finishAt : Moment}
    (going : t.errorOf? c = none) (due : finishAt ≤ t.now) {next : Next}
    (concluded : t.conclude c attempt (t.attempts - attempt) ticket (c.script attempt).result = (u, next)) :
    (next = .ended ∧ Turn t (c, .attempting attempt ticket (some finishAt)) u none) ∨
    ∃ pause, next = .again pause ∧ t.attempts - attempt ≠ 0 ∧
      t.pauseEnd attempt = (t.now.add pause).tick ∧
      Turn t (c, .attempting attempt ticket (some finishAt)) u
        (some (c, .pausing attempt (t.pauseEnd attempt))) := by
  cases reply : (c.script attempt).result with
  | crash =>
    rw [reply] at concluded
    cases concluded
    exact .inl ⟨rfl, .crashed going due reply⟩
  | success =>
    rw [reply] at concluded
    cases concluded
    exact .inl ⟨rfl, .succeeded going due reply⟩
  | failure e =>
    have recorded := (quiet_record t c ticket .failure).still.1
    simp only [reply, conclude, recorded.layers, recorded.errorOf?, going] at concluded
    have failed {last : CallError} (final : t.lastError? attempt e = some last) :
        Turn t (c, .attempting attempt ticket (some finishAt))
          ((t.record c ticket .failure).finish c (.error last)) none := .failed going due reply final
    cases layer : t.layers.retry with
    | none =>
      simp only [layer] at concluded
      cases concluded
      exact .inl ⟨rfl, failed (by simp only [lastError?, layer])⟩
    | some retry =>
      simp only [layer] at concluded
      by_cases retryable : e.isRetryable = true
      · by_cases spent : t.attempts - attempt = 0
        · simp only [retryable, spent, Bool.not_true, Bool.false_eq_true, if_true, if_false] at concluded
          cases concluded
          exact .inl ⟨rfl, failed (by simp [lastError?, layer, retryable, spent])⟩
        · simp only [retryable, spent, Bool.not_true, Bool.false_eq_true, if_false] at concluded
          cases concluded
          refine .inr ⟨_, rfl, spent, pauseEnd_of_retry layer attempt, ?_⟩
          exact .paused going due reply (by simp [lastError?, layer, retryable, spent])
      · simp only [retryable, Bool.not_false, if_true] at concluded
        cases concluded
        exact .inl ⟨rfl, failed (by simp [lastError?, layer, retryable])⟩

/-- A call that rests: its context is not done, as far as the timer tells, and its own timer is to fire later. -/
structure Rests (t : Traffic) (call : Call × Phase) : Prop where
  live : call.1.context.isCanceled t.signals = false
  before : ∀ d, call.1.context.deadline = some d → t.now < d.tick
  ahead : ∀ m, Phase.wakeAt? call.2 = some m → t.now < m ∧ m.tick = m

theorem rests_of_calm (calm : t.wakes? c = none) {p : Phase}
    (ahead : ∀ m, Phase.wakeAt? p = some m → t.now < m ∧ m.tick = m) : Rests t (c, p) := by
  unfold wakes? Context.wakes? at calm
  split at calm
  · cases calm
  next live =>
    split at calm
    · cases calm
    next before =>
      refine ⟨Bool.eq_false_iff.mpr live, fun d deadline => ?_, ahead⟩
      have timer : c.context.wakeAt? = some d.tick := by rw [Context.wakeAt?, deadline, Option.map_some]
      rw [timer, Option.any_some, decide_eq_true_eq] at before
      exact Nat.lt_of_not_le before

theorem rests_watching (calm : t.wakes? c = none) : Rests t (c, .watching) := rests_of_calm calm nofun

theorem Still.rests (still : Still t u) {call : Call × Phase} (rests : Rests t call) : Rests u call := by
  obtain ⟨live, before, ahead⟩ := rests
  rw [← still.now] at before ahead
  rw [← still.signals] at live
  exact ⟨live, before, ahead⟩

theorem none_left {α : Type} {P : α → Prop} (a : α) (left : a ∈ (none : Option α)) : P a :=
  absurd left (Option.not_mem_none a)

/-- A call that is taken up goes on until it has ended or rests. -/
structure Taken (t : Traffic) (call : Call × Phase) (u : Traffic) : Prop where
  moves : Moves (t.among (t.calls ++ [call])) u
  calls : ∃ next : Option (Call × Phase), u.calls = t.calls ++ next.toList ∧ ∀ q ∈ next, Rests t q

theorem Turn.taken {call : Call × Phase} {next : Option (Call × Phase)} (turn : Turn t call u next)
    (rests : ∀ q ∈ next, Rests t q) : Taken t call (u.among (t.calls ++ next.toList)) :=
  ⟨.turn (.refl _) (turn.among _) (.refl _), next, rfl, rests⟩

theorem Turn.ended {call : Call × Phase} (turn : Turn t call u none) : Taken t call u := by
  have taken := turn.taken none_left
  rw [Option.toList_none, List.append_nil, ← turn.still.2] at taken
  exact taken

theorem Turn.held {c' : Call} {p p' : Phase} (turn : Turn t (c, p) u (some (c', p')))
    (rests : Rests t (c', p')) : Taken t (c, p) (u.hold c' p') := by
  have taken := turn.taken fun q member => Option.mem_some.mp member ▸ rests
  rw [Option.toList_some, ← turn.still.2] at taken
  exact taken

theorem Turn.continued {v : Traffic} {call next : Call × Phase} (turn : Turn t call u (some next))
    (taken : Taken u next v) : Taken t call v := by
  obtain ⟨moves, next, calls, rests⟩ := taken
  rw [turn.still.2] at moves calls
  have back : Still u t := ⟨turn.still.1.layers.symm, turn.still.1.now.symm, turn.still.1.signals.symm⟩
  exact ⟨.turn (.refl _) (turn.among _) moves, next, calls, fun q member => back.rests (rests q member)⟩

theorem going_of_checked (guarded : t.layers.breaker.isSome = true) {o : Option ContextError}
    (checked : (if (t.layers.retry.isSome || t.layers.breaker.isSome) = true then t.errorOf? c else none) = o) :
    t.errorOf? c = o := by
  rw [guarded, Bool.or_true, if_pos rfl] at checked
  exact checked

section
variable {attempt : Nat} {ticket : Option Ticket} {finishAt : Moment} (going : t.errorOf? c = none)
  (due : finishAt ≤ t.now)
include going due

theorem taken_ended
    (concluded : t.conclude c attempt (t.attempts - attempt) ticket (c.script attempt).result = (u, .ended)) :
    Taken t (c, .attempting attempt ticket (some finishAt)) u := by
  rcases turn_of_conclude going due concluded with ⟨-, turn⟩ | ⟨_, again, -⟩
  · exact turn.ended
  · cases again

variable {pause : Duration}
  (concluded : t.conclude c attempt (t.attempts - attempt) ticket (c.script attempt).result = (u, .again pause))
include concluded

theorem taken_paused (lasts : ¬ (u.now.add pause).tick ≤ u.now) :
    Taken t (c, .attempting attempt ticket (some finishAt))
      (u.hold c (.pausing attempt (u.now.add pause).tick)) := by
  rcases turn_of_conclude going due concluded with ⟨ended, -⟩ | ⟨_, again, -, pauseEnd, turn⟩
  · cases ended
  · cases again
    rw [pauseEnd] at turn
    rw [turn.still.1.now] at lasts ⊢
    refine turn.held (rests_of_calm (calm_of_going going) fun m timer => ?_)
    cases timer
    exact ⟨Nat.lt_of_not_le lasts, Moment.tick_tick _⟩

theorem taken_again {v : Traffic} (taken : Taken u (c, .pausing attempt (u.now.add pause).tick) v) :
    Taken t (c, .attempting attempt ticket (some finishAt)) v := by
  rcases turn_of_conclude going due concluded with ⟨ended, -⟩ | ⟨_, again, -, pauseEnd, turn⟩
  · cases ended
  · cases again
    rw [← turn.still.1.now] at pauseEnd
    rw [pauseEnd] at turn
    exact turn.continued taken

end

theorem turn_of_ask (going : t.errorOf? c = none) {finish : Moment} (due : finish ≤ t.now) (attempt : Nat)
    {ticket : Option Ticket} (asked : t.ask c = (.ok ticket, u)) :
    Turn t (c, .pausing attempt finish) (u.note (.invoked c.id (attempt + 1) c.principal))
      (some (c, .attempting (attempt + 1) ticket (t.replyAt? c (attempt + 1)))) := by
  have turn : Turn t (c, .pausing attempt finish) _ _ := .invoked going due (congrArg Prod.fst asked)
  rw [asked] at turn
  exact turn

section
variable {attempt : Nat} {ticket : Option Ticket} {finish : Moment}
  (due : finish ≤ t.now) (guarded : t.layers.breaker.isSome = true)
  (checked : (if (t.layers.retry.isSome || t.layers.breaker.isSome) = true then t.errorOf? c else none) = none)
  (asked : t.ask c = (.ok ticket, u))
include due guarded checked asked

theorem taken_replied {v : Traffic} (atOnce : (c.script (attempt + 1)).after = some .zero)
    (concluded : let w := u.note (.invoked c.id (attempt + 1) c.principal)
      Still t w → w.errorOf? c = none → Taken w (c, .attempting (attempt + 1) ticket (some w.now)) v) :
    Taken t (c, .pausing attempt finish) v := by
  have going := going_of_checked guarded checked
  have turn := turn_of_ask going due attempt asked
  have still := turn.still.1
  have reply : t.replyAt? c (attempt + 1) = some (u.note (.invoked c.id (attempt + 1) c.principal)).now := by
    rw [replyAt?, atOnce, Option.map_some, if_pos rfl, still.now]
  rw [reply] at turn
  exact turn.continued (concluded still ((still.errorOf? c).trans going))

theorem taken_invoked (later : (c.script (attempt + 1)).after ≠ some .zero) :
    let w := u.note (.invoked c.id (attempt + 1) c.principal)
    Taken t (c, .pausing attempt finish) (w.hold c (.attempting (attempt + 1) ticket
      ((c.script (attempt + 1)).after.map fun d => (w.now.add d).tick))) := by
  intro w
  have going := going_of_checked guarded checked
  have turn := turn_of_ask going due attempt asked
  have still := turn.still.1
  have timer : t.replyAt? c (attempt + 1) = (c.script (attempt + 1)).after.map fun d => (w.now.add d).tick := by
    rw [replyAt?]
    cases set : (c.script (attempt + 1)).after with
    | none => simp only [Option.map_none]
    | some d =>
      have lasts : d ≠ .zero := fun none => later (none ▸ set)
      simp only [Option.map_some, if_neg lasts, ← still.now, w]
  rw [timer] at turn
  refine turn.held (rests_of_calm (calm_of_going going) fun m fires => ?_)
  obtain ⟨d, set, rfl⟩ := Option.map_eq_some_iff.mp fires
  have lasts : d ≠ .zero := fun none => later (none ▸ set)
  exact ⟨still.now ▸ Moment.lt_tick_add w.now lasts, Moment.tick_tick _⟩

end

/-- An attempt that begins, and those that follow it at once, are turns. -/
theorem taken_begin (guarded : t.layers.breaker.isSome = true) {left attempt : Nat} (first : 0 < attempt)
    (remaining : left = t.attempts - attempt) {finish : Moment} (due : finish ≤ t.now) :
    Taken t (c, .pausing (attempt - 1) finish) (begin c left attempt t) := by
  fun_induction Traffic.begin c left attempt t generalizing finish with
  | case1 left attempt t asks why done => exact Turn.ended (.stopped due (going_of_checked guarded done))
  | case2 left attempt t asks checked e u asked =>
    have turn : Turn t (c, .pausing (attempt - 1) finish) _ none :=
      .rejected (going_of_checked guarded checked) due (congrArg Prod.fst asked)
    rw [asked] at turn
    exact turn.ended
  | case3 left attempt t asks checked ticket u asked w reply atOnce v concluded =>
    obtain ⟨earlier, rfl⟩ := Nat.exists_eq_add_one.mpr first
    refine taken_replied due guarded checked asked atOnce fun still going => ?_
    simp only [concluded]
    rw [remaining, ← still.attempts] at concluded
    exact taken_ended going (Nat.le_refl _) concluded
  | case4 attempt t asks checked ticket u asked w reply atOnce v pause concluded =>
    obtain ⟨earlier, rfl⟩ := Nat.exists_eq_add_one.mpr first
    refine taken_replied due guarded checked asked atOnce fun still going => ?_
    rw [remaining, ← still.attempts] at concluded
    rcases turn_of_conclude going (Nat.le_refl _) concluded with ⟨ended, -⟩ | ⟨_, -, more, -⟩
    · cases ended
    · exact absurd (still.attempts ▸ remaining.symm) more
  | case5 attempt t asks checked ticket u asked w reply atOnce v pause left soon concluded ih =>
    obtain ⟨earlier, rfl⟩ := Nat.exists_eq_add_one.mpr first
    refine taken_replied due guarded checked asked atOnce fun still going => ?_
    simp only [concluded]
    rw [if_pos soon]
    have after := (quiet_conclude w c (earlier + 1) (left + 1) ticket reply.result).still.1
    rw [concluded] at after
    have same := still.trans after
    have next : left = v.attempts - (earlier + 1 + 1) := by
      rw [same.attempts]
      omega
    rw [remaining, ← still.attempts] at concluded
    exact taken_again going (Nat.le_refl _) concluded
      (ih (by rw [same.layers]; exact guarded) (Nat.succ_pos _) next soon)
  | case6 attempt t asks checked ticket u asked w reply atOnce v pause left lasts concluded =>
    obtain ⟨earlier, rfl⟩ := Nat.exists_eq_add_one.mpr first
    refine taken_replied due guarded checked asked atOnce fun still going => ?_
    simp only [concluded]
    rw [if_neg lasts]
    rw [remaining, ← still.attempts] at concluded
    exact taken_paused going (Nat.le_refl _) concluded lasts
  | case7 left attempt t asks checked ticket u asked w reply later =>
    obtain ⟨earlier, rfl⟩ := Nat.exists_eq_add_one.mpr first
    exact taken_invoked due guarded checked asked later

theorem taken_enter (guarded : t.layers.breaker.isSome = true) (calm : t.wakes? c = none) (room : 0 < t.free)
    (giveUpAt : Option Moment) :
    Taken t (c, .queued giveUpAt) ({ t with free := t.free - 1 }.enter { c with holdsPermit := true }) := by
  refine (Turn.permitted calm room).continued ?_
  exact taken_begin (t := { t with free := t.free - 1 }) guarded Nat.one_pos rfl (Nat.le_refl _)

/-- The timer of a call is set to a tick that is not past. -/
def Ticks (now : Moment) (p : Phase) : Prop := ∀ m, Phase.wakeAt? p = some m → m.tick = m ∧ now ≤ m

theorem wokenBy?_eq (guarded : t.layers.breaker.isSome = true) (c : Call) (p : Phase) :
    t.wokenBy? c p = t.wakes? c := by
  cases p with
  | attempting => exact if_pos guarded
  | _ => rfl

theorem isDue_iff {timer : Option Moment} : t.isDue timer = true ↔ ∃ m, timer = some m ∧ m ≤ t.now := by
  cases timer with
  | none => exact iff_of_false Bool.false_ne_true nofun
  | some m => simp [isDue]

theorem taken_resume (guarded : t.layers.breaker.isSome = true) {p : Phase} (calm : t.wakes? c = none)
    (ticks : Ticks t.now p) (fires : t.isDue (Phase.wakeAt? p) = true) : Taken t (c, p) (t.resume c p) := by
  obtain ⟨m, timer, due⟩ := isDue_iff.mp fires
  have going : t.errorOf? c = none := by
    obtain ⟨isTick, ahead⟩ := ticks m timer
    rw [Moment.eq_of_le_of_le due ahead] at isTick
    rw [← wakes?_of_tick isTick, calm]
  cases p with
  | watching => cases timer
  | queued giveUpAt =>
    simp only [resume]
    split
    next room => exact taken_enter guarded calm room giveUpAt
    next full =>
      obtain rfl : giveUpAt = some m := timer
      exact (Turn.turnedAway going due (Nat.eq_zero_of_not_pos full)).ended
  | pausing attempt finish =>
    cases timer
    exact taken_begin guarded (Nat.succ_pos attempt) rfl due
  | attempting attempt ticket finishAt =>
    obtain rfl : finishAt = some m := timer
    simp only [resume]
    split
    next u concluded => exact taken_ended going due concluded
    next u pause concluded =>
      split
      next soon =>
        have after := (quiet_conclude t c attempt (t.attempts - attempt) ticket (c.script attempt).result).still.1
        rw [concluded] at after
        refine taken_again going due concluded ?_
        exact taken_begin (after.layers ▸ guarded) (Nat.succ_pos attempt) rfl soon
      next lasts => exact taken_paused going due concluded lasts

theorem taken_visit (guarded : t.layers.breaker.isSome = true) {p : Phase} (ticks : Ticks t.now p) :
    Taken t (c, p) (t.visit c p) := by
  unfold visit
  split
  next why woken => exact Turn.ended (.interrupted woken)
  next unwoken =>
    rw [wokenBy?_eq guarded] at unwoken
    split
    next due => exact taken_resume guarded unwoken ticks due
    next early =>
      refine ⟨.refl _, some (c, p), rfl, fun q member => Option.mem_some.mp member ▸ ?_⟩
      refine rests_of_calm unwoken fun m timer => ⟨?_, (ticks m timer).1⟩
      exact Nat.lt_of_not_le fun due => early (isDue_iff.mpr ⟨m, timer, due⟩)

end

end Gatehouse.Resilience.Traffic
