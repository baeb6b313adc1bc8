import Gatehouse.Proofs.Resilience.Balance

/-!
Calls whose context is done. The turn that ends such a call makes the error of the context its result, gives back its
permit and its trial, and no breaker counts a success or a failure. Whatever else is going on, the turns of a call can
be followed up to its last one.
-/
namespace Gatehouse.Resilience

theorem Breaker.record_abandoned (b : Breaker) (k : Ticket) (now : Moment) :
    b.record k .abandoned now =
      ({ b with trials := b.trials - [k].countP fun k => k.generation = b.generation ∧ k.isTrial = true },
        none) := by
  unfold record
  obtain ⟨generation, isTrial⟩ := k
  by_cases current : b.generation = generation
  · subst current
    cases isTrial <;> simp
  · simp [current, Ne.symm current]

namespace Traffic

/-- What the interruption of a call does: it tells the error of the context, gives back the permit and a trial, and
leaves the breakers as they are otherwise. -/
structure Interrupted (config : Config.Breaker) (t : Traffic) (q : Call × Phase) (why : ContextError) (u : Traffic) :
    Prop where
  log : u.log = t.log ++ [(t.now, .done q.1.id (.error (.stopped why)))]
  free : u.free = t.free + (isServed q).toNat
  breakers : ∀ name, let b := t.breakers.get config t.now name
    u.breakers.get config t.now name =
      { b with trials := b.trials - (ticketFor name q).toList.countP fun k =>
          k.generation = b.generation ∧ k.isTrial = true }

section
variable {t u : Traffic} {config : Config.Breaker} {q : Call × Phase} {next : Option (Call × Phase)}

theorem log_abandoned (t : Traffic) (c : Call) (ticket : Option Ticket) :
    (t.record c ticket .abandoned).log = t.log := by
  cases ticket with
  | none => rfl
  | some k =>
    unfold record onBreaker
    simp only [Breaker.record_abandoned]
    split <;> rfl

theorem log_finish (t : Traffic) (c : Call) (result : Except CallError Nat) :
    (t.finish c result).log = t.log ++ [(t.now, .done c.id result)] := by
  unfold finish release
  split <;> rfl

theorem interrupted_stop (t : Traffic) {c : Call} {p : Phase} (held : c.holdsPermit = isServed (c, p))
    (idle : ∀ name, ticketFor name (c, p) = none) (why : ContextError) :
    Interrupted config t (c, p) why (t.stop c why) := by
  refine ⟨log_finish .., ?_, fun name => ?_⟩
  · exact (free_finish ..).trans (congrArg (fun held => t.free + Bool.toNat held) held)
  · rw [stop, breakers_finish, idle]
    rfl

/-- If its context is done a call ends by nothing else, even if something else is due for it at the same time. -/
theorem Turn.interrupted_of_done (layer : t.layers.breaker = some config) (held : q.1.holdsPermit = isServed q)
    (called : q.2 ≠ .watching) {why : ContextError} (done : t.errorOf? q.1 = some why) (turn : Turn t q u none) :
    Interrupted config t q why u := by
  have guarded : t.layers.breaker.isSome = true := by rw [layer]; rfl
  cases turn with
  | @interrupted c p why' woken =>
    rw [wokenBy?_eq guarded] at woken
    cases (errorOf?_of_wakes? woken).symm.trans done
    cases p with
    | watching => exact absurd rfl called
    | attempting attempt ticket finishAt =>
      have now := (quiet_record t c ticket .abandoned).now
      refine ⟨?_, ?_, fun name => ?_⟩
      · simp only [interrupt, stop, log_finish, log_abandoned, now]
      · simp only [interrupt, stop, free_finish, free_record]
        rw [show c.holdsPermit = _ from held]
      · simp only [interrupt, stop, breakers_finish, ticketFor]
        cases ticket with
        | none => simp [record]
        | some k =>
          rw [get_record layer, Breaker.record_abandoned]
          by_cases own : name = c.backend
          · simp [own]
          · simp [own, Ne.symm own]
    | queued | pausing => exact interrupted_stop t held (fun _ => rfl) why
  | barred done' =>
    cases done'.symm.trans done
    exact interrupted_stop t held (fun _ => rfl) why
  | stopped _ done' =>
    cases done'.symm.trans done
    exact interrupted_stop t held (fun _ => rfl) why
  | turnedAway going | rejected going | crashed going | succeeded going | failed going =>
    cases going.symm.trans done

theorem Interrupted.told {why : ContextError} (interrupted : Interrupted config t q why u) :
    u.told q.1.id = t.told q.1.id ++ [(t.now, .done q.1.id (.error (.stopped why)))] := by
  unfold Traffic.told noted
  rw [interrupted.log, List.filter_append]
  simp [Event.call?]

def IsCall (c : Call) (q : Call × Phase) : Prop := q.1.id = c.id ∧ q.1.context = c.context ∧ q.2 ≠ .watching

theorem Turn.isCall {c : Call} (turn : Turn t q u next) (call : IsCall c q) : ∀ p ∈ next, IsCall c p := by
  obtain ⟨id, context, -⟩ := call
  intro p own
  cases turn <;> cases own <;> exact ⟨id, context, Phase.noConfusion⟩

def Attempts (c : Call) (signals : Signals) (events : List (Moment × Event)) : Prop :=
  ∀ e ∈ events, c.context.error? signals e.1 = none ∧ ∃ n who, e.2 = .invoked c.id n who

/-- A call that goes on after its turn has begun an attempt at most. -/
theorem Turn.attempts {c : Call} {p : Call × Phase} (turn : Turn t q u (some p)) (call : IsCall c q) :
    ∃ events, u.told c.id = t.told c.id ++ events ∧ Attempts c t.signals events := by
  obtain ⟨id, context, -⟩ := call
  cases turn with
  | permitted => exact ⟨[], (List.append_nil _).symm, fun _ none => absurd none List.not_mem_nil⟩
  | @invoked d attempt finish ticket going =>
    refine ⟨[(t.now, .invoked d.id (attempt + 1) d.principal)], ?_, fun e member => ?_⟩
    · have named : (Event.invoked d.id (attempt + 1) d.principal).call? = some c.id := congrArg some id
      rw [told_note, told_ask, (quiet_ask t d).now, if_pos named]
    · rw [List.mem_singleton.mp member, ← id, ← context]
      exact ⟨going, attempt + 1, _, rfl⟩
  | paused =>
    exact ⟨[], (told_record ..).trans (List.append_nil _).symm, fun _ none => absurd none List.not_mem_nil⟩

end

/-- The last turn of a call on a path. -/
structure LastTurn (aborts : String → Prop) (c : Call) (t w v u : Traffic) (q : Call × Phase) : Prop where
  before : Path aborts t w
  turn : Turn w q v none
  after : ∃ others, w.calls.Perm (others ++ [q]) ∧ Path aborts (v.among others) u
  call : IsCall c q
  inTime : ∀ d, c.context.deadline = some d → w.now ≤ d.tick
  silent : u.told c.id = v.told c.id

theorem LastTurn.between {aborts : String → Prop} {c : Call} {t w v u : Traffic} {q : Call × Phase}
    (last : LastTurn aborts c t w v u q) : t.now ≤ w.now ∧ w.now ≤ u.now := by
  obtain ⟨others, -, after⟩ := last.after
  have later : v.now ≤ u.now := after.onward.2.2
  rw [last.turn.still.1.now] at later
  exact ⟨last.before.onward.2.2, later⟩

/-- What becomes of a call on a path: it began some attempts, and is still under way or took its last turn. -/
def Fate (aborts : String → Prop) (c : Call) (t u : Traffic) : Prop :=
  ∃ events, Attempts c t.signals events ∧
    ((∃ q ∈ u.calls, IsCall c q) ∧ u.told c.id = t.told c.id ++ events ∨
      ∃ w v q, LastTurn aborts c t w v u q ∧ w.told c.id = t.told c.id ++ events)

theorem certain_told (id : String) (events : List (Moment × Event)) :
    Certain (·.1.id ≠ id) fun t own => own = none ∧ t.told id = events where
  bare _ kept := kept
  turn _ kept := nomatch kept.1
  other kind turn kept :=
    ⟨⟨kept.1, (turn.noted (about_call id) kind).trans kept.2⟩, fun p own => (turn.same_id p own).symm ▸ kind⟩
  dropped _ kept := ⟨kept.1, (noted_dropped (about_call id) ..).trans kept.2⟩
  later _ kept _ := kept

section
variable {aborts : String → Prop} {c : Call} {t u v : Traffic}

theorem Path.silent (path : Path aborts t u) (beside : Beside (·.1.id ≠ c.id) t none) :
    u.told c.id = t.told c.id := by
  obtain ⟨_, -, -, told⟩ := (certain_told c.id (t.told c.id)).path path beside none_left ⟨rfl, rfl⟩
  exact told

theorem Fate.back (fate : Fate aborts c u v) (onward : ∀ w, Path aborts u w → Path aborts t w)
    (signals : u.signals = t.signals) {events : List (Moment × Event)} (attempts : Attempts c t.signals events)
    (told : u.told c.id = t.told c.id ++ events) : Fate aborts c t v := by
  obtain ⟨later, attempts', rest⟩ := fate
  rw [signals] at attempts'
  refine ⟨events ++ later, fun e member => ?_, ?_⟩
  · exact (List.mem_append.mp member).elim (attempts e) (attempts' e)
  · rw [told, List.append_assoc] at rest
    refine rest.imp_right fun ⟨w, v, q, last, log⟩ => ⟨w, v, q, ?_, log⟩
    exact { last with before := onward w last.before }

/-- A call that is not dropped can be followed to its last turn. -/
theorem Path.fate (path : Path aborts t u) (spared : ¬ aborts c.id) {q : Call × Phase} (call : IsCall c q)
    (beside : Beside (·.1.id ≠ c.id) t (some q)) (inTime : ∀ d, c.context.deadline = some d → t.now ≤ d.tick) :
    Fate aborts c t u := by
  have listed {t : Traffic} {q : Call × Phase} (beside : Beside (·.1.id ≠ c.id) t (some q)) : q ∈ t.calls := by
    obtain ⟨others, calls, -⟩ := beside
    exact calls.mem_iff.mpr (List.mem_append_right _ List.mem_cons_self)
  have idle {signals : Signals} : Attempts c signals [] := fun _ none => absurd none List.not_mem_nil
  induction path generalizing q with
  | settled same =>
    exact ⟨[], idle, .inl ⟨⟨q, same.mem_iff.mp (listed beside), call⟩, (List.append_nil _).symm⟩⟩
  | @turn t u v p others next there turn after ih =>
    have still := turn.still.1
    have onward (w : Traffic) (path : Path aborts (u.among (others ++ next.toList)) w) : Path aborts t w :=
      .turn there turn path
    rcases beside.turn there u next with ⟨other, apart⟩ | ⟨own, mine⟩
    · have apart' := apart fun r left => (turn.same_id r left).symm ▸ other
      have fate := ih call apart' (by rw [← still.now] at inTime; exact inTime)
      exact fate.back onward still.signals idle ((turn.noted (about_call c.id) other).trans (List.append_nil _).symm)
    · obtain rfl := Option.some.inj own
      cases next with
      | none =>
        rw [Option.toList_none, List.append_nil] at after mine
        have silent : v.told c.id = u.told c.id := after.silent mine
        have last : LastTurn aborts c t t u v _ := ⟨.refl t, turn, ⟨others, there, after⟩, call, inTime, silent⟩
        exact ⟨[], idle, .inr ⟨t, u, _, last, (List.append_nil _).symm⟩⟩
      | some r =>
        obtain ⟨events, told, attempts⟩ := turn.attempts call
        have fate := ih (turn.isCall call r rfl) mine (by rw [← still.now] at inTime; exact inTime)
        exact fate.back onward still.signals attempts told
  | @drop t v p others there named _ ih =>
    have still := (quiet_dropped t p).still.1
    rcases beside.turn there (t.dropped p) none with ⟨-, apart⟩ | ⟨own, -⟩
    · have left := apart none_left
      rw [Option.toList_none, List.append_nil] at left
      have fate := ih call left (by rw [← still.now] at inTime; exact inTime)
      refine fate.back (fun w path => .drop there named path) still.signals idle ?_
      exact (noted_dropped (about_call c.id) ..).trans (List.append_nil _).symm
    · cases own
      exact absurd (call.1 ▸ named) spared
  | @lapse t _ m later first _ ih =>
    have fate := ih call beside fun d deadline => by
      refine first q (listed beside) d.tick (.inr ?_)
      rw [call.2.1]
      exact Option.map_eq_some_iff.mpr ⟨d, deadline, rfl⟩
    refine fate.back (fun w path => .lapse later first path) rfl idle ?_
    exact (List.append_nil _).symm

/-- No name is used twice at a time. -/
def Distinct (t : Traffic) : Prop := (t.calls.map fun q => q.1.id).Nodup

theorem Distinct.apart {q : Call × Phase} {others : List (Call × Phase)}
    (distinct : Distinct (t.among (others ++ [q]))) : ∀ p ∈ others, p.1.id ≠ q.1.id := by
  intro p member shared
  unfold Distinct at distinct
  rw [among_calls, List.map_append, List.map_singleton] at distinct
  exact (List.nodup_append.mp distinct).2.2 _ (List.mem_map_of_mem member) _ List.mem_cons_self shared

theorem Distinct.perm (distinct : Distinct t) {calls : List (Call × Phase)} (same : t.calls.Perm calls) :
    Distinct (t.among calls) := (same.map _).nodup_iff.mp distinct

theorem Distinct.beside (distinct : Distinct t) {q : Call × Phase} (there : q ∈ t.calls) :
    Beside (·.1.id ≠ q.1.id) t (some q) := by
  obtain ⟨front, back, calls⟩ := List.append_of_mem there
  have same : t.calls.Perm (front ++ back ++ [q]) := by
    rw [calls]
    exact List.perm_middle.trans (List.perm_append_singleton q _).symm
  exact ⟨front ++ back, same, (distinct.perm same).apart⟩

theorem Distinct.next {q : Call × Phase} {next : Option (Call × Phase)} {others : List (Call × Phase)}
    (distinct : Distinct (t.among (others ++ [q]))) (same : ∀ p ∈ next, p.1.id = q.1.id) :
    Distinct (u.among (others ++ next.toList)) := by
  refine List.Nodup.sublist ?_ distinct
  show ((others ++ next.toList).map _).Sublist ((others ++ [q]).map _)
  rw [List.map_append, List.map_append]
  refine (List.Sublist.refl _).append ?_
  cases next with
  | none => exact List.nil_sublist _
  | some p => simp only [Option.toList_some, List.map_singleton, same p rfl, List.Sublist.refl]

theorem Distinct.hold (distinct : Distinct t) (d : Call) (p : Phase) (fresh : ∀ q ∈ t.calls, q.1.id ≠ d.id) :
    Distinct (t.hold d p) := by
  show ((t.calls ++ [(d, p)]).map fun q => q.1.id).Nodup
  rw [List.map_append, List.map_singleton]
  refine List.nodup_append.mpr ⟨distinct, by simp, fun x old y new => ?_⟩
  obtain ⟨q, member, rfl⟩ := List.mem_map.mp old
  rw [List.mem_singleton.mp new]
  exact fresh q member

theorem Path.distinct (path : Path aborts t u) (distinct : Distinct t) : Distinct u := by
  induction path with
  | settled same => exact distinct.perm same
  | turn there turn _ ih => exact ih ((distinct.perm there).next turn.same_id)
  | @drop t _ q others there _ _ ih =>
    have left : Distinct ((t.dropped q).among (others ++ none.toList)) := (distinct.perm there).next none_left
    rw [Option.toList_none, List.append_nil] at left
    exact ih left
  | lapse _ _ _ ih => exact ih distinct

theorem LastTurn.interrupted {config : Config.Breaker} {w v : Traffic} {q : Call × Phase} {total : Nat}
    (last : LastTurn aborts c t w v u q) (layer : t.layers.breaker = some config)
    (balanced : Balanced total config t) {why : ContextError} (done : c.context.error? t.signals w.now = some why) :
    Interrupted config w q why v ∧
      u.told c.id = w.told c.id ++ [(w.now, .done c.id (.error (.stopped why)))] := by
  obtain ⟨layers, same, -⟩ := last.before.onward
  obtain ⟨others, calls, -⟩ := last.after
  have held := (balanced.path layer last.before).held q
    (calls.mem_iff.mpr (List.mem_append_right _ List.mem_cons_self))
  have done' : w.errorOf? q.1 = some why := by
    rw [Traffic.errorOf?, last.call.2.1, same]
    exact done
  have interrupted := last.turn.interrupted_of_done (layers ▸ layer) held last.call.2.2 done'
  have told := interrupted.told
  rw [last.call.1] at told
  exact ⟨interrupted, last.silent.trans told⟩

theorem isCanceled_raise {context : Context} {n : Nat} (own : context.signal = some n) (signals : Signals) :
    context.isCanceled (signals.raise n) = true := by
  rw [Context.isCanceled, own]
  simp [Signals.isRaised, Signals.raise]

/-- A call or a watch that joins has a name that is not in use. -/
def Act.Fresh (t : Traffic) : Act → Prop
  | .start c => ∀ q ∈ t.calls, q.1.id ≠ c.id
  | .watch id _ => ∀ q ∈ t.calls, q.1.id ≠ id
  | _ => True

theorem Distinct.primed (distinct : Distinct t) {a : Act} (fresh : a.Fresh t) : Distinct (t.primed a) := by
  have same {u : Traffic} (calls : u.calls = t.calls) : Distinct u := by
    unfold Distinct
    rw [calls]
    exact distinct
  cases a with
  | start c =>
    have calls := (still_known t c).2
    exact (same calls).hold c _ (calls ▸ fresh)
  | watch id context =>
    show Distinct (t.watch id context)
    exact watch_cases t id context (fun _ => same rfl) fun _ => distinct.hold _ _ fresh
  | look => exact same (quiet_lookAll t).calls
  | reset breaker => exact same (quiet_onBreaker t breaker fun b => b.reset t.now).calls
  | _ => exact same rfl

/-- A call that is canceled is interrupted at once, even if timers fire at the same time, its own or that of its
deadline. -/
theorem interrupted_cancel {config : Config.Breaker} {total : Nat} (layer : t.layers.breaker = some config)
    (balanced : Balanced total config t) (distinct : Distinct t) (ticking : Ticking t) {p : Phase}
    (there : (c, p) ∈ t.calls) (called : p ≠ .watching)
    (inTime : ∀ d, c.context.deadline = some d → t.now ≤ d.tick) {n : Nat} (own : c.context.signal = some n) :
    let u := t.cancel n
    Balanced total config u ∧
    (∃ w v q, LastTurn (fun _ => False) c (t.primed (.cancel n)) w v u q ∧ Interrupted config w q .canceled v) ∧
      u.told c.id = t.told c.id ++ [(t.now, .done c.id (.error (.stopped .canceled)))] := by
  intro u
  have primed : Balanced total config (t.primed (.cancel n)) := balanced.primed layer trivial
  have distinct : Distinct (t.primed (.cancel n)) := distinct.primed trivial
  have guarded : t.layers.breaker.isSome = true := by rw [layer]; rfl
  obtain ⟨moves, timely⟩ := visitAll_timely (t := t.primed (.cancel n)) guarded ticking
  have path : Path (fun _ => False) (t.primed (.cancel n)) u := moves.path
  have canceled : c.context.isCanceled (t.primed (.cancel n)).signals = true := isCanceled_raise own t.signals
  have done (m : Moment) : c.context.error? (t.primed (.cancel n)).signals m = some .canceled := if_pos canceled
  obtain ⟨events, attempts, rest⟩ := path.fate id ⟨rfl, rfl, called⟩ (distinct.beside there) inTime
  have none : events = [] := by
    refine List.eq_nil_iff_forall_not_mem.mpr fun e member => ?_
    cases (attempts e member).1.symm.trans (done e.1)
  rw [none, List.append_nil] at rest
  rcases rest with ⟨⟨q, left, -, context, -⟩, -⟩ | ⟨w, v, q, last, log⟩
  · have live := (timely q left).live
    rw [context, moves.still.signals] at live
    cases canceled.symm.trans live
  · obtain ⟨interrupted, ended⟩ := last.interrupted layer primed (done w.now)
    obtain ⟨since, soon⟩ := last.between
    rw [show u.now = t.now from moves.still.now] at soon
    have atOnce : w.now = t.now := Moment.eq_of_le_of_le soon since
    rw [log, atOnce] at ended
    exact ⟨Balanced.path (t := t.primed (.cancel n)) layer primed path, ⟨w, v, q, last, interrupted⟩, ended⟩

end

end Traffic
end Gatehouse.Resilience
