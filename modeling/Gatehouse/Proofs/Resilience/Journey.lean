import Gatehouse.Proofs.Resilience.Balance

/-!
The way of a call through retries and breaker. Three counts decide how it ends: the attempts that it has, the
failures after which the circuit opens and those after which the backend succeeds. Each turn of the call leads to
its next stage.
-/
namespace Gatehouse.Resilience

namespace Breaker

variable {b : Breaker}

theorem ask_closed (closed : b.state = .closed) (now : Moment) :
    b.ask now = (some ⟨b.generation, false⟩, b, none) := by
  simp [ask, refresh, closed]

theorem refresh_early {now : Moment}
    (early : b.state = .closed ∨ b.state = .opened ∧ now.since b.changedAt < b.config.resetTimeout) :
    b.refresh now = (b, none) := by
  unfold refresh
  rw [if_neg]
  rintro ⟨opened, due⟩
  rcases early with closed | ⟨-, cooling⟩
  · cases closed.symm.trans opened
  · exact Nat.not_le_of_lt cooling due

theorem ask_opened (opened : b.state = .opened) {now : Moment}
    (early : now.since b.changedAt < b.config.resetTimeout) : b.ask now = (none, b, none) := by
  simp only [ask, refresh_early (.inr ⟨opened, early⟩), opened]

theorem record_success (closed : b.state = .closed) (now : Moment) :
    b.record ⟨b.generation, false⟩ .success now = ({ b with failures := 0 }, none) := by
  simp [record, closed]

theorem record_failure (closed : b.state = .closed) (below : b.failures + 1 < b.config.failureThreshold)
    (now : Moment) :
    b.record ⟨b.generation, false⟩ .failure now = ({ b with failures := b.failures + 1 }, none) := by
  simp [record, closed, Nat.not_le_of_lt below]

theorem record_last_failure (closed : b.state = .closed) (reached : b.config.failureThreshold ≤ b.failures + 1)
    (now : Moment) :
    (b.record ⟨b.generation, false⟩ .failure now).1.state = .opened ∧
    (b.record ⟨b.generation, false⟩ .failure now).1.changedAt = now ∧
    (b.record ⟨b.generation, false⟩ .failure now).1.config = b.config := by
  simp [record, closed, reached, moveTo]

end Breaker

def Failing (failures : Option Nat) (n : Nat) : Prop := ∀ f, failures = some f → n ≤ f

/-- A backend that fails this many times and then succeeds; it never does if there is no number. -/
structure FailsFirst (script : Nat → Reply) (failures : Option Nat) : Prop where
  replies : ∀ n, Failing failures n → (script (n + 1)).after ≠ none
  fails : ∀ n, Failing failures (n + 1) → ∃ reason, (script (n + 1)).result = .failure (.failed reason)
  succeeds : ∀ f, failures = some f → (script (f + 1)).result = .success

theorem FailsFirst.next {script : Nat → Reply} {failures : Option Nat} (first : FailsFirst script failures) {n : Nat}
    (failing : Failing failures n) :
    (Failing failures (n + 1) ∧ ∃ reason, (script (n + 1)).result = .failure (.failed reason)) ∨
    failures = some n ∧ (script (n + 1)).result = .success := by
  by_cases lucky : failures = some n
  · exact .inr ⟨lucky, first.succeeds n lucky⟩
  · have further : Failing failures (n + 1) := fun f some =>
      Nat.lt_of_le_of_ne (failing f some) fun same => lucky (same ▸ some)
    exact .inl ⟨further, first.fails n further⟩

namespace Traffic

/-- A call that has its permit, and what it meets: the settings of the layers, and the failures that the breaker
of its backend has counted before. -/
structure Journey where
  call : Call
  start : Moment
  retry : Config.Retry
  config : Config.Breaker
  counted : Nat

namespace Journey
variable (j : Journey)

def attempts : Nat := Nat.max j.retry.maxAttempts 1

/-- After how many failures the circuit opens. -/
def patience : Nat := j.config.failureThreshold - j.counted

def repliedAt (attempt : Nat) (begun : Moment) : Moment :=
  match (j.call.script attempt).after with
  | none => begun
  | some d => if d = .zero then begun else (begun.add d).tick

def resumedAt (attempt : Nat) (ended : Moment) : Moment := (ended.add (j.retry.backoff attempt)).tick

/-- When the attempt after so many failed ones begins. -/
def begunAt : Nat → Moment
  | 0 => j.start
  | failed + 1 => j.resumedAt (failed + 1) (j.repliedAt (failed + 1) (begunAt failed))

def endedAt (failed : Nat) : Moment := j.repliedAt (failed + 1) (j.begunAt failed)

theorem begunAt_le (failed : Nat) : j.begunAt failed ≤ j.endedAt failed := by
  unfold endedAt repliedAt
  split
  · exact Nat.le_refl _
  · split
    · exact Nat.le_refl _
    next lasts => exact Nat.le_of_lt (Moment.lt_tick_add _ lasts)

theorem endedAt_le (failed : Nat) : j.endedAt failed ≤ j.begunAt (failed + 1) := by
  rw [begunAt, ← endedAt, resumedAt]
  exact Nat.le_trans (Nat.le_add_right ..) (Moment.le_tick _)

theorem endedAt_mono {a b : Nat} (order : a ≤ b) : j.endedAt a ≤ j.endedAt b := by
  induction order with
  | refl => exact Nat.le_refl _
  | @step b _ ih =>
    have paused := j.endedAt_le b
    have replied := j.begunAt_le (b + 1)
    simp only [Moment.le_def] at ih paused replied ⊢
    exact Nat.le_trans ih (Nat.le_trans paused replied)

def invocations (count : Nat) : List Event :=
  (List.range count).map fun n => .invoked j.call.id (n + 1) j.call.principal

theorem invocations_succ (count : Nat) :
    j.invocations (count + 1) = j.invocations count ++ [.invoked j.call.id (count + 1) j.call.principal] := by
  rw [invocations, List.range_succ, List.map_append]
  rfl

/-- How the call ends: what is told of it, and the breaker that it leaves. -/
structure Outcome (failures : Option Nat) (events : List Event) (b : Breaker) : Prop where
  success : ∀ f, failures = some f → f < min j.attempts j.patience →
    events = j.invocations (f + 1) ++ [.done j.call.id (.ok (f + 1))] ∧ b.state = .closed ∧ b.failures = 0
  rejected : Failing failures (min j.attempts j.patience) → j.patience < j.attempts →
    events = j.invocations j.patience ++ [.done j.call.id (.error (.circuitOpen j.call.backend))]
  exhausted : Failing failures (min j.attempts j.patience) → j.attempts ≤ j.patience →
    ∃ reason, (j.call.script j.attempts).result = .failure (.failed reason) ∧
      events = j.invocations j.attempts ++ [.done j.call.id (.error (.exhausted j.attempts (.failed reason)))]
  opened : Failing failures (min j.attempts j.patience) → j.patience ≤ j.attempts → b.state = .opened
  closed : Failing failures (min j.attempts j.patience) → j.attempts < j.patience →
    b.state = .closed ∧ b.failures = j.counted + j.attempts

/-- The breaker after some failed attempts: it has counted them, and the last one it bears opened it. -/
def Broken (failed : Nat) (b : Breaker) : Prop :=
  failed < j.patience ∧ b.state = .closed ∧ b.failures = j.counted + failed ∨
  failed = j.patience ∧ b.state = .opened ∧ ∃ last, failed = last + 1 ∧ b.changedAt = j.endedAt last

/-- How far the call is: what was told of it, its phase, and the breaker. -/
inductive Stage (failures : Option Nat) : List Event → Option (Call × Phase) → Breaker → Prop
  | pausing {b : Breaker} (failed : Nat) (left : failed < j.attempts) (failing : Failing failures failed)
    (broken : j.Broken failed b) :
    Stage failures (j.invocations failed) (some (j.call, .pausing failed (j.begunAt failed))) b
  | attempting {b : Breaker} (failed : Nat) (left : failed < j.attempts) (failing : Failing failures failed)
    (below : failed < j.patience) (closed : b.state = .closed) (counted : b.failures = j.counted + failed) :
    Stage failures (j.invocations (failed + 1))
      (some (j.call, .attempting (failed + 1) (some ⟨b.generation, false⟩) (some (j.endedAt failed)))) b
  | ended {events : List Event} {b : Breaker} (outcome : j.Outcome failures events b) : Stage failures events none b

/-- What the call relies on: its context is not done before it ends, and every pause after a failure is over before
an open breaker has cooled down. -/
structure Setting (failures : Option Nat) : Prop where
  script : FailsFirst j.call.script failures
  unhurried : ∀ d, j.call.context.deadline = some d → j.endedAt (j.attempts - 1) < d
  below : j.counted < j.config.failureThreshold
  patient : ∀ failed, failed + 1 < j.attempts →
    (j.begunAt (failed + 1)).since (j.endedAt failed) < j.config.resetTimeout

/-- The traffic while the call is on its way. -/
structure Underway (failures : Option Nat) (told : List Event) (t : Traffic) (own : Option (Call × Phase)) :
    Prop where
  retry : t.layers.retry = some j.retry
  layer : t.layers.breaker = some j.config
  live : j.call.context.isCanceled t.signals = false
  stage : ∃ b events, t.breakers.lookup j.call.backend = some b ∧ b.config = j.config ∧
    (t.told j.call.id).map Prod.snd = told ++ events ∧ j.Stage failures events own b
  inTime : ∀ q ∈ own, ∀ m, Phase.wakeAt? q.2 = some m → t.now ≤ m

def Other (q : Call × Phase) : Prop := q.1.id ≠ j.call.id ∧ Apart j.call.backend q

end Journey

namespace Journey
variable {j : Journey} {failures : Option Nat} {told events : List Event} {t u : Traffic} {b : Breaker}
  {own next : Option (Call × Phase)}

theorem Stage.timer {q : Call × Phase} (stage : j.Stage failures events (some q) b) :
    q.1 = j.call ∧ ∃ m, Phase.wakeAt? q.2 = some m ∧ m ≤ j.endedAt (j.attempts - 1) := by
  cases stage with
  | pausing failed left =>
    refine ⟨rfl, _, rfl, Nat.le_trans (j.begunAt_le failed) (j.endedAt_mono ?_)⟩
    omega
  | attempting failed left => exact ⟨rfl, _, rfl, j.endedAt_mono (by omega)⟩

theorem Underway.lastError (underway : j.Underway failures told t own) (attempt : Nat) (reason : String) :
    t.lastError? attempt (.failed reason) =
      if j.attempts - attempt = 0 then some (.exhausted attempt (.failed reason)) else none := by
  have attempts : t.attempts = j.attempts := by
    rw [Traffic.attempts, underway.retry]
    rfl
  simp [lastError?, underway.retry, attempts, CallError.isRetryable]

theorem outcome_success {failed : Nat} (lucky : failures = some failed) (left : failed < j.attempts)
    (below : failed < j.patience) (closed : b.state = .closed) (forgiven : b.failures = 0) :
    j.Outcome failures (j.invocations (failed + 1) ++ [.done j.call.id (.ok (failed + 1))]) b where
  success f some _ := by
    cases lucky.symm.trans some
    exact ⟨rfl, closed, forgiven⟩
  rejected failing _ := absurd (failing failed lucky) (by omega)
  exhausted failing _ := absurd (failing failed lucky) (by omega)
  opened failing _ := absurd (failing failed lucky) (by omega)
  closed failing _ := absurd (failing failed lucky) (by omega)

theorem outcome_rejected {failed : Nat} (spent : failed = j.patience) (left : failed < j.attempts)
    (failing : Failing failures failed) (opened : b.state = .opened) :
    j.Outcome failures (j.invocations failed ++ [.done j.call.id (.error (.circuitOpen j.call.backend))]) b where
  success f some _ := absurd (failing f some) (by omega)
  rejected _ _ := by rw [spent]
  exhausted _ _ := absurd left (by omega)
  opened _ _ := opened
  closed _ _ := absurd left (by omega)

theorem outcome_exhausted {failed : Nat} (last : j.attempts = failed + 1) (below : failed < j.patience)
    (failing : Failing failures (failed + 1)) {reason : String}
    (reply : (j.call.script (failed + 1)).result = .failure (.failed reason)) (broken : j.Broken (failed + 1) b) :
    j.Outcome failures
      (j.invocations (failed + 1) ++ [.done j.call.id (.error (.exhausted (failed + 1) (.failed reason)))]) b where
  success f some _ := absurd (failing f some) (by omega)
  rejected _ _ := absurd below (by omega)
  exhausted _ _ := ⟨reason, by rw [last, reply], by rw [last]⟩
  opened _ _ := by
    rcases broken with ⟨fewer, -⟩ | ⟨-, opened, -⟩
    · exact absurd fewer (by omega)
    · exact opened
  closed _ _ := by
    rcases broken with ⟨-, closed, counted⟩ | ⟨spent, -⟩
    · exact ⟨closed, by rw [last, counted]⟩
    · exact absurd spent (by omega)

variable (setting : j.Setting failures)
include setting

theorem Underway.going {q : Call × Phase} (underway : j.Underway failures told t (some q)) :
    t.errorOf? j.call = none := by
  obtain ⟨_, _, -, -, -, stage⟩ := underway.stage
  obtain ⟨-, m, timer, soon⟩ := stage.timer
  have before (d : Moment) (deadline : j.call.context.deadline = some d) : ¬ d ≤ t.now := by
    have late := setting.unhurried d deadline
    have now := underway.inTime q rfl m timer
    exact Nat.not_le_of_lt (Nat.lt_of_le_of_lt (Nat.le_trans now soon) late)
  cases deadline : j.call.context.deadline with
  | none => simp [errorOf?, Context.error?, underway.live, deadline]
  | some d => simp [errorOf?, Context.error?, underway.live, deadline, before d deadline]

theorem Setting.replyAt? {failed : Nat} (failing : Failing failures failed) (now : t.now = j.begunAt failed) :
    t.replyAt? j.call (failed + 1) = some (j.endedAt failed) := by
  unfold Traffic.replyAt? endedAt repliedAt
  cases after : (j.call.script (failed + 1)).after with
  | none => exact absurd after (setting.script.replies _ failing)
  | some d => rw [Option.map_some, now]

theorem Setting.broken {failed : Nat} (below : failed < j.patience) (closed : b.state = .closed)
    (counted : b.failures = j.counted + failed) (config : b.config = j.config) :
    let b' := (b.record ⟨b.generation, false⟩ .failure (j.endedAt failed)).1
    b'.config = j.config ∧ j.Broken (failed + 1) b' := by
  have limit : j.counted + j.patience = j.config.failureThreshold :=
    Nat.add_sub_cancel' (Nat.le_of_lt setting.below)
  intro b'
  by_cases more : failed + 1 < j.patience
  · have recorded := Breaker.record_failure closed (by rw [config, counted]; omega) (j.endedAt failed)
    have same : b' = { b with failures := b.failures + 1 } := congrArg Prod.fst recorded
    rw [same]
    exact ⟨config, .inl ⟨more, closed, by rw [counted, Nat.add_assoc]⟩⟩
  · obtain ⟨opened, changedAt, same⟩ :=
      Breaker.record_last_failure closed (by rw [config, counted]; omega) (j.endedAt failed)
    exact ⟨same.trans config, .inr ⟨by omega, opened, failed, rfl, changedAt⟩⟩

/-- A breaker that the last failure opened still cools down when the pause after it is over. -/
theorem Setting.cooling {failed : Nat} (left : failed < j.attempts) (broken : j.Broken failed b)
    (config : b.config = j.config) {now : Moment} (soon : now ≤ j.begunAt failed) :
    b.state = .closed ∨ b.state = .opened ∧ now.since b.changedAt < b.config.resetTimeout := by
  rcases broken with ⟨-, closed, -⟩ | ⟨-, opened, last, rfl, changedAt⟩
  · exact .inl closed
  · refine .inr ⟨opened, ?_⟩
    rw [changedAt, config]
    exact Nat.lt_of_le_of_lt (Nat.sub_le_sub_right soon _) (setting.patient last left)

/-- The breaker admits the next attempt if it is still closed, and rejects it if the last failure opened it. -/
theorem Setting.answer {failed : Nat} (layer : t.layers.breaker = some j.config)
    (found : t.breakers.lookup j.call.backend = some b) (config : b.config = j.config)
    (broken : j.Broken failed b) (left : failed < j.attempts) (now : t.now = j.begunAt failed) :
    (t.ask j.call).2.breakers.lookup j.call.backend = some b ∧
    ((t.ask j.call).1 = .ok (some ⟨b.generation, false⟩) ∧ failed < j.patience ∧ b.state = .closed ∧
        b.failures = j.counted + failed ∨
      (t.ask j.call).1 = .error (.circuitOpen j.call.backend) ∧ failed = j.patience ∧ b.state = .opened) := by
  have same := get_of_lookup found j.config t.now
  have soon : t.now ≤ j.begunAt failed := by
    rw [now]
    exact Nat.le_refl _
  have cooling := setting.cooling left broken config soon
  rw [lookup_ask layer, if_pos rfl, ask_answer layer, same]
  rcases broken with ⟨below, closed, counted⟩ | ⟨reached, opened, -⟩
  · rw [Breaker.ask_closed closed]
    exact ⟨rfl, .inl ⟨rfl, below, closed, counted⟩⟩
  · rw [Breaker.ask_opened opened (cooling.resolve_left fun closed => nomatch opened.symm.trans closed).2]
    exact ⟨rfl, .inr ⟨rfl, reached, opened⟩⟩

theorem Underway.turn_pausing {failed : Nat}
    (turn : Turn t (j.call, .pausing failed (j.begunAt failed)) u next)
    (underway : j.Underway failures told t (some (j.call, .pausing failed (j.begunAt failed)))) :
    j.Underway failures told u next := by
  have going := underway.going setting
  have still := turn.still.1
  obtain ⟨retry, layer, live, ⟨b, _, found, config, log, stage⟩, inTime⟩ := underway
  rw [← still.layers] at retry
  rw [← still.signals] at live
  have layer' : u.layers.breaker = some j.config := still.layers ▸ layer
  cases stage with
  | pausing _ left failing broken =>
    have now (due : j.begunAt failed ≤ t.now) : t.now = j.begunAt failed :=
      Moment.eq_of_le_of_le (inTime _ rfl _ rfl) due
    cases turn with
    | interrupted woken => cases going.symm.trans (errorOf?_of_wakes? woken)
    | stopped _ done => cases going.symm.trans done
    | rejected _ due asked =>
      obtain ⟨found', ⟨admitted, -⟩ | ⟨rejected, spent, opened⟩⟩ :=
        setting.answer layer found config broken left (now due)
      · cases admitted.symm.trans asked
      · cases rejected.symm.trans asked
        have outcome := outcome_rejected spent left failing opened
        refine ⟨retry, layer', live, ⟨b, _, ?_, config, ?_, .ended outcome⟩, none_left⟩
        · rw [breakers_finish]
          exact found'
        · rw [told_finish, if_pos rfl, told_ask, List.map_append, log, List.append_assoc]
          rfl
    | invoked _ due asked =>
      obtain ⟨found', ⟨admitted, below, closed, counted⟩ | ⟨rejected, -⟩⟩ :=
        setting.answer layer found config broken left (now due)
      · cases admitted.symm.trans asked
        rw [setting.replyAt? failing (now due)]
        have stage := Stage.attempting failed left failing below closed counted
        refine ⟨retry, layer', live, ⟨b, _, found', config, ?_, stage⟩, fun q own m timer => ?_⟩
        · rw [told_note, told_ask, List.map_append, log, j.invocations_succ, List.append_assoc]
          simp [Event.call?]
        · cases own
          cases timer
          rw [still.now, now due]
          exact j.begunAt_le failed
      · cases rejected.symm.trans asked

theorem Underway.turn_attempting {failed : Nat} {ticket : Option Ticket}
    (turn : Turn t (j.call, .attempting (failed + 1) ticket (some (j.endedAt failed))) u next)
    (underway : j.Underway failures told t
      (some (j.call, .attempting (failed + 1) ticket (some (j.endedAt failed))))) :
    j.Underway failures told u next := by
  have going := underway.going setting
  have lastError := underway.lastError (failed + 1)
  have still := turn.still.1
  obtain ⟨retry, layer, live, ⟨b, _, found, config, log, stage⟩, inTime⟩ := underway
  have pauseEnd := pauseEnd_of_retry retry (failed + 1)
  rw [← still.layers] at retry
  rw [← still.signals] at live
  have layer' : u.layers.breaker = some j.config := still.layers ▸ layer
  cases stage with
  | attempting _ left failing below closed counted =>
    have now (due : j.endedAt failed ≤ t.now) : t.now = j.endedAt failed :=
      Moment.eq_of_le_of_le (inTime _ rfl _ rfl) due
    have recorded (v : Verdict) :
        (t.record j.call (some ⟨b.generation, false⟩) v).breakers.lookup j.call.backend =
          some (b.record ⟨b.generation, false⟩ v t.now).1 := by
      rw [lookup_record layer, if_pos rfl, get_of_lookup found]
    have finished (v : Verdict) (result : Except CallError Nat) :
        (((t.record j.call (some ⟨b.generation, false⟩) v).finish j.call result).told j.call.id).map Prod.snd =
          told ++ (j.invocations (failed + 1) ++ [.done j.call.id result]) := by
      rw [told_finish, if_pos rfl, told_record, List.map_append, log, List.append_assoc]
      rfl
    have broken := setting.broken below closed counted config
    have replied := setting.script.next failing
    cases turn with
    | interrupted woken =>
      rw [wokenBy?_eq (by rw [layer]; rfl)] at woken
      cases going.symm.trans (errorOf?_of_wakes? woken)
    | crashed _ _ reply =>
      rw [reply] at replied
      rcases replied with ⟨-, _, other⟩ | ⟨-, other⟩ <;> cases other
    | succeeded _ _ reply =>
      rw [reply] at replied
      rcases replied with ⟨-, _, other⟩ | ⟨lucky, -⟩
      · cases other
      · have outcome := outcome_success (b := { b with failures := 0 }) lucky left below closed rfl
        refine ⟨retry, layer', live,
          ⟨{ b with failures := 0 }, _, ?_, config, finished .success _, .ended outcome⟩, none_left⟩
        rw [breakers_finish, recorded, Breaker.record_success closed]
    | failed _ due reply final =>
      rw [reply] at replied
      rcases replied with ⟨further, reason, same⟩ | ⟨-, other⟩
      · cases same
        rw [lastError] at final
        split at final
        next spent =>
          cases final
          rw [← now due] at broken
          have outcome := outcome_exhausted (by omega) below further reply broken.2
          refine ⟨retry, layer', live, ⟨_, _, ?_, broken.1, finished .failure _, .ended outcome⟩, none_left⟩
          rw [breakers_finish, recorded]
        next => cases final
      · cases other
    | paused _ due reply more =>
      rw [reply] at replied
      rcases replied with ⟨further, reason, same⟩ | ⟨-, other⟩
      · cases same
        rw [lastError] at more
        split at more
        next => cases more
        next remaining =>
          have resumed : t.pauseEnd (failed + 1) = j.begunAt (failed + 1) := by
            rw [pauseEnd, now due, begunAt, ← endedAt, resumedAt]
          rw [resumed]
          rw [← now due] at broken
          refine ⟨retry, layer', live, ⟨_, _, recorded .failure, broken.1, ?_,
            .pausing (failed + 1) (by omega) further broken.2⟩, fun q own m timer => ?_⟩
          · rw [told_record, log]
          · cases own
            obtain rfl : j.begunAt (failed + 1) = m := Option.some.inj timer
            rw [still.now, now due]
            exact j.endedAt_le failed
      · cases other

/-- Each turn of the call leads to the next stage. -/
theorem Underway.turn {q : Call × Phase} (turn : Turn t q u next)
    (underway : j.Underway failures told t (some q)) : j.Underway failures told u next := by
  obtain ⟨_, _, -, -, -, stage⟩ := underway.stage
  cases stage with
  | pausing => exact underway.turn_pausing setting turn
  | attempting => exact underway.turn_attempting setting turn

end Journey

end Traffic
end Gatehouse.Resilience
