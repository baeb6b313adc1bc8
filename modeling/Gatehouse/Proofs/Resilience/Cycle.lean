import Gatehouse.Proofs.Resilience.Periods
import Gatehouse.Resilience.Traffic

/-!
The cycle of a circuit: it opens after a streak of failures, cools down, admits a few trials, and closes
with the first that succeeds or opens anew.
-/
namespace Gatehouse.Resilience

namespace Session
variable {config : Config.Breaker} {start : Moment} {s : Session}

theorem step_look_steady (steady : s.breaker.state ≠ .opened) : s.step .look = s := by
  change s.update (s.breaker.refresh s.now) = s
  rw [Breaker.refresh, if_neg fun due => steady due.1]
  rfl

theorem Follows.ticket (follows : Follows config start s) {call : Nat}
    (current : call ∈ s.log.unfinished) :
    ∃ ticket, s.pending.lookup call = some ticket ∧ s.breaker.generation = ticket.generation := by
  have kept := current
  rw [follows.unfinished] at kept
  obtain ⟨p, member, rfl⟩ := List.mem_map.mp kept
  have listed : (s.pending.lookup p.1).isSome :=
    List.lookup_isSome_iff.mpr ⟨p, (List.mem_filter.mp member).1, beq_self_eq_true _⟩
  obtain ⟨ticket, found⟩ := Option.isSome_iff_exists.mp listed
  exact ⟨ticket, found, (follows.mem_unfinished found).mp current⟩

theorem Follows.finish_ignored (follows : Follows config start s) {call : Nat}
    (apart : call ∉ s.log.unfinished) (verdict : Verdict) :
    (s.step (.finish call verdict)).breaker = s.breaker ∧
      (s.step (.finish call verdict)).log.circuit = s.log.circuit := by
  cases found : s.pending.lookup call with
  | none => simp [step_finish_unknown found]
  | some ticket =>
    have other : s.breaker.generation ≠ ticket.generation := fun same =>
      apart ((follows.mem_unfinished found).mpr same)
    rw [step_finish_stale found verdict other]
    exact ⟨rfl, rfl⟩

theorem Follows.finish_counted (follows : Follows config start s) {call : Nat}
    (current : call ∈ s.log.unfinished) (verdict : Verdict) :
    ∃ ticket, (s.step (.finish call verdict)).breaker =
      ((s.breaker.count ticket verdict).follow s.now
        ((s.breaker.count ticket verdict).target? verdict)).1 := by
  obtain ⟨ticket, found, same⟩ := follows.ticket current
  refine ⟨ticket, ?_⟩
  rw [step_finish_current found verdict same, update_breaker]

theorem Sound.closed_asks (sound : Sound config start s) (closed : s.log.circuit = .closed) :
    (s.step .ask).log = (s.now, .admitted s.admissions) :: s.log := by
  have state : s.breaker.state = .closed := sound.circuit.trans closed
  have steady : s.step .look = s := step_look_steady (by simp [state])
  rw [step_ask, steady, Breaker.grant_closed state]
  rfl

/-- A closed circuit opens with the failure that completes the streak, and changes by nothing else. -/
theorem Sound.closed_step (sound : Sound config start s) (positive : 1 ≤ config.failureThreshold)
    (closed : s.log.circuit = .closed) (action : Action) :
    ((s.step action).log.circuit = .opened ↔
      ∃ call ∈ s.log.unfinished, action = .finish call .failure ∧
        s.log.streak + 1 = config.failureThreshold) ∧
    ((s.step action).log.circuit = .opened ∨ (s.step action).log.circuit = .closed) := by
  have state : s.breaker.state = .closed := sound.circuit.trans closed
  have steady : s.step .look = s := step_look_steady (by simp [state])
  rw [← (sound.step positive action).circuit]
  cases action with
  | ask => simp [step_ask, steady, Breaker.grant_closed state, state]
  | look => simp [steady, state]
  | wait span => simp [Session.step, state]
  | reset => simp [Session.step, Breaker.reset]
  | finish call verdict =>
    by_cases current : call ∈ s.log.unfinished
    · obtain ⟨ticket, result⟩ := sound.finish_counted current verdict
      rw [result]
      have below := sound.below state
      have streak := sound.failures state
      cases verdict with
      | success => simp [Breaker.count, Breaker.target?, Breaker.follow, state]
      | abandoned => simp [Breaker.count, Breaker.target?, Breaker.follow, state]
      | failure =>
        by_cases reached : config.failureThreshold ≤ s.breaker.failures + 1
        · have complete : s.log.streak + 1 = config.failureThreshold := by omega
          simp [Breaker.count, Breaker.target?, Breaker.follow, state, sound.settings, reached,
            current, complete]
        · have short : ¬ s.log.streak + 1 = config.failureThreshold := by omega
          simp [Breaker.count, Breaker.target?, Breaker.follow, state, sound.settings, reached,
            short]
    · rw [(sound.finish_ignored current verdict).1, state]
      refine ⟨⟨fun opened => absurd opened (by decide), ?_⟩, .inr rfl⟩
      rintro ⟨n, member, same, -⟩
      cases same
      exact absurd member current

theorem Sound.opened_finish (sound : Sound config start s) (positive : 1 ≤ config.failureThreshold)
    (opened : s.log.circuit = .opened) (call : Nat) (verdict : Verdict) :
    (s.step (.finish call verdict)).log.circuit = .opened ∧
      (s.step (.finish call verdict)).log.since start = s.log.since start := by
  have state : s.breaker.state = .opened := sound.circuit.trans opened
  have next := sound.step positive (.finish call verdict)
  rw [← next.circuit, ← next.since, ← sound.since]
  by_cases current : call ∈ s.log.unfinished
  · obtain ⟨ticket, result⟩ := sound.finish_counted current verdict
    rw [result]
    cases verdict <;> simp [Breaker.count, Breaker.target?, Breaker.follow, state]
  · rw [(sound.finish_ignored current verdict).1]
    exact ⟨state, rfl⟩

/-- An open circuit that has not cooled down rejects calls and stays open unless it is reset. -/
theorem Sound.opened_step (sound : Sound config start s) (positive : 1 ≤ config.failureThreshold)
    (opened : s.log.circuit = .opened)
    (early : s.now < (s.log.since start).add config.resetTimeout) :
    s.step .ask = s.note .rejected ∧
    ∀ action, action ≠ .reset →
      (s.step action).log.circuit = .opened ∧
        (s.step action).log.since start = s.log.since start := by
  have state : s.breaker.state = .opened := sound.circuit.trans opened
  have steady : s.step .look = s := by
    have cold : ¬ s.breaker.config.resetTimeout ≤ s.now.since s.breaker.changedAt := by
      have order := sound.past
      rw [sound.since] at order ⊢
      rw [sound.settings]
      simp only [Moment.lt_def, Moment.le_def, Duration.le_def, Moment.add, Moment.since] at early order ⊢
      omega
    change s.update (s.breaker.refresh s.now) = s
    rw [Breaker.refresh, if_neg fun due => cold due.2]
    rfl
  have rejected : s.step .ask = s.note .rejected := by
    rw [step_ask, steady, Breaker.grant_opened state]
    rfl
  refine ⟨rejected, fun action other => ?_⟩
  have next := sound.step positive action
  rw [← next.circuit, ← next.since, ← sound.since]
  cases action with
  | ask =>
    rw [rejected]
    exact ⟨state, rfl⟩
  | look =>
    rw [steady]
    exact ⟨state, rfl⟩
  | wait span => exact ⟨state, rfl⟩
  | reset => exact absurd rfl other
  | finish call verdict =>
    have finished := sound.opened_finish positive opened call verdict
    rw [← next.circuit, ← next.since, ← sound.since] at finished
    exact finished

theorem step_now_le (s : Session) (action : Action) : s.now ≤ (s.step action).now := by
  cases action with
  | ask => simp [step, Moment.le_def]
  | look => simp [step, Moment.le_def]
  | reset => simp [step, note, Moment.le_def]
  | wait span => exact Nat.le_add_right _ _
  | finish call verdict =>
    cases found : s.pending.lookup call <;> simp [step, found, drop, note, Moment.le_def]

theorem run_now_le (s : Session) (actions : List Action) : s.now ≤ (s.run actions).now := by
  induction actions generalizing s with
  | nil => exact Nat.le_refl _
  | cons action rest ih => exact Nat.le_trans (step_now_le s action) (ih _)

theorem Sound.opened_run (sound : Sound config start s) (positive : 1 ≤ config.failureThreshold)
    (opened : s.log.circuit = .opened) (actions : List Action) (unreset : .reset ∉ actions)
    (early : (s.run actions).now < (s.log.since start).add config.resetTimeout) :
    (s.run actions).log.circuit = .opened ∧
      (s.run actions).step .ask = (s.run actions).note .rejected := by
  induction actions generalizing s with
  | nil => exact ⟨opened, (sound.opened_step positive opened early).1⟩
  | cons action rest ih =>
    have order : s.now ≤ ((s.step action).run rest).now :=
      Nat.le_trans (step_now_le s action) (run_now_le _ rest)
    have still := (sound.opened_step positive opened (Nat.lt_of_le_of_lt order early)).2 action
      fun same => unreset (same ▸ List.mem_cons_self)
    refine ih (sound.step positive action) still.1
      (fun member => unreset (List.mem_cons_of_mem _ member)) ?_
    rw [still.2]
    exact early

/-- From the end of the cooldown on, an open circuit is half-open for who looks or asks, and a call is
admitted if fewer trials than the limit are unfinished. -/
theorem Sound.trial_asks (sound : Sound config start s) (positive : 1 ≤ config.failureThreshold)
    (cooled : s.log.circuit = .halfOpen ∨
      s.log.circuit = .opened ∧ (s.log.since start).add config.resetTimeout ≤ s.now) :
    let looked := s.step .look
    looked.log.circuit = .halfOpen ∧
      (s.step .ask).log =
        (s.now, if looked.log.unfinished.length < config.halfOpenLimit then .admitted s.admissions
          else .rejected) :: looked.log := by
  intro looked
  have kept : Sound config start looked := sound.step positive .look
  have same : looked.now = s.now ∧ looked.admissions = s.admissions := by
    refine ⟨update_now .., ?_⟩
    change (s.update _).admissions = _
    unfold update
    split <;> rfl
  have half : looked.breaker.state = .halfOpen := by
    rcases cooled with half | ⟨opened, cool⟩
    · have state := sound.circuit.trans half
      have steady : looked = s := step_look_steady (by simp [state])
      rw [steady, state]
    · have state := sound.circuit.trans opened
      have due : s.breaker.config.resetTimeout ≤ s.now.since s.breaker.changedAt := by
        rw [sound.settings, sound.since]
        simp only [Moment.le_def, Duration.le_def, Moment.add, Moment.since] at cool ⊢
        omega
      change (s.update (s.breaker.refresh s.now)).breaker.state = .halfOpen
      rw [update_breaker, Breaker.refresh, if_pos ⟨state, due⟩, Breaker.moveTo_state]
  refine ⟨kept.circuit.symm.trans half, ?_⟩
  rw [step_ask, ← kept.trials half, ← kept.settings, ← same.1, ← same.2]
  by_cases room : looked.breaker.trials < looked.breaker.config.halfOpenLimit
  · rw [if_pos room]
    rw [Breaker.grant_trial half room]
    rfl
  · rw [if_neg room, Breaker.grant_full half room]
    rfl

/-- A success of a trial closes the circuit, any failure of one opens it anew. -/
theorem Sound.trial_ends (sound : Sound config start s) (positive : 1 ≤ config.failureThreshold)
    (half : s.log.circuit = .halfOpen) {call : Nat} (current : call ∈ s.log.unfinished) :
    (s.step (.finish call .success)).log.circuit = .closed ∧
    (s.step (.finish call .failure)).log.circuit = .opened ∧
    (s.step (.finish call .failure)).log.since start = s.now ∧
    (s.step (.finish call .abandoned)).log.circuit = .halfOpen := by
  have state : s.breaker.state = .halfOpen := sound.circuit.trans half
  have after (verdict : Verdict) := sound.step positive (.finish call verdict)
  obtain ⟨_, success⟩ := sound.finish_counted current .success
  obtain ⟨ticket, failure⟩ := sound.finish_counted current .failure
  obtain ⟨_, abandoned⟩ := sound.finish_counted current .abandoned
  have leads : (s.breaker.count ticket .failure).target? .failure = some .opened := by
    simp [Breaker.count, Breaker.target?, state]
  rw [leads] at failure
  refine ⟨?_, ?_, ?_, ?_⟩
  · rw [← (after .success).circuit, success]
    simp [Breaker.count, Breaker.target?, Breaker.follow, state]
  · rw [← (after .failure).circuit, failure]
    exact Breaker.moveTo_state ..
  · rw [← (after .failure).since, failure]
    exact Breaker.moveTo_changedAt (Breaker.target?_apart leads) _
  · rw [← (after .abandoned).circuit, abandoned]
    simp [Breaker.count, Breaker.target?, Breaker.follow, state]

/-- A half-open circuit changes only by the end of a trial or a reset. -/
theorem Sound.trial_lasts (sound : Sound config start s) (positive : 1 ≤ config.failureThreshold)
    (half : s.log.circuit = .halfOpen) (action : Action) (unreset : action ≠ .reset)
    (open' : ∀ call ∈ s.log.unfinished, action ≠ .finish call .success ∧
      action ≠ .finish call .failure) : (s.step action).log.circuit = .halfOpen := by
  have state : s.breaker.state = .halfOpen := sound.circuit.trans half
  have steady : s.step .look = s := step_look_steady (by simp [state])
  cases action with
  | ask =>
    rw [← (sound.step positive .ask).circuit, step_ask, steady, answer_breaker]
    by_cases room : s.breaker.trials < s.breaker.config.halfOpenLimit
    · simp [Breaker.grant_trial state room, state]
    · simp [Breaker.grant_full state room, state]
  | look =>
    rw [steady]
    exact half
  | wait span => exact half
  | reset => exact absurd rfl unreset
  | finish call verdict =>
    by_cases current : call ∈ s.log.unfinished
    · cases verdict with
      | success => exact absurd rfl (open' call current).1
      | failure => exact absurd rfl (open' call current).2
      | abandoned => exact (sound.trial_ends positive half current).2.2.2
    · exact (sound.finish_ignored current verdict).2.trans half

theorem rejected_ask (rejected : (s.step .ask).log.head? = some (s.now, .rejected)) :
    (s.breaker.ask s.now).1 = none := by
  cases ticket : (s.breaker.ask s.now).1 with
  | none => rfl
  | some t => simp [step, ticket, answer, note] at rejected

end Session

namespace Traffic

theorem look_eq {t : Traffic} {config : Config.Breaker} (layer : t.layers.breaker = some config)
    (name : String) :
    t.look name = t.setBreaker name ((t.breakers.get config t.now name).refresh t.now).1
      ((t.breakers.get config t.now name).refresh t.now).2 := by
  simp [look, onBreaker, layer]

theorem begin_rejected {t : Traffic} {c : Call} {config : Config.Breaker}
    (layer : t.layers.breaker = some config) (going : t.errorOf? c = none)
    (rejected : ((t.breakers.get config t.now c.backend).ask t.now).1 = none) (left attempt : Nat) :
    begin c left attempt t = (t.look c.backend).finish c (.error (.circuitOpen c.backend)) := by
  have asked : t.ask c = (.error (.circuitOpen c.backend), t.look c.backend) := by
    rw [Breaker.ask_eq] at rejected
    rw [look_eq layer]
    simp only [ask, layer, Breaker.ask_eq, Breaker.grant_rejected rejected]
  unfold begin
  simp only [layer, Option.isSome_some, Bool.or_true, if_true, going, asked]

theorem mem_log_finish {t : Traffic} {c : Call} {result : Except CallError Nat}
    {e : Moment × Event} (member : e ∈ (t.finish c result).log) :
    e ∈ t.log ∨ e.2 = .done c.id result := by
  have parts : e ∈ t.log ∨ e = (t.now, .done c.id result) := by
    unfold finish release at member
    split at member <;> simpa [note] using member
  exact parts.imp_right (congrArg Prod.snd)

theorem mem_log_look {t : Traffic} {name : String} {e : Moment × Event} (member : e ∈ (t.look name).log) :
    e ∈ t.log ∨ ∃ change, e.2 = .changed name change := by
  unfold look onBreaker at member
  cases layer : t.layers.breaker with
  | none => exact .inl (by simpa [layer] using member)
  | some config =>
    cases change : ((t.breakers.get config t.now name).refresh t.now).2 with
    | none => exact .inl (by simpa [layer, change, setBreaker] using member)
    | some change' =>
      have parts : e ∈ t.log ∨ e = (t.now, .changed name change') := by
        simpa [layer, change, setBreaker, note] using member
      rcases parts with old | rfl
      · exact .inl old
      · exact .inr ⟨change', rfl⟩

end Traffic

namespace Session

/-- A breaker at work is a function of the log of its use, in every interleaving of calls with resets,
reads and the passing of time. While it is closed its counter is the streak of failures, below the
threshold, every call is admitted, and it opens when a failure completes the streak. Once open it rejects
every call, without invoking it, until it has cooled down or is reset. Then a call is admitted if fewer trials than the limit
are unfinished; the first success of a trial closes the circuit and any failure of one opens it anew. Calls
that were admitted in an earlier period end without an effect. -/
theorem breaker_follows_log (config : Config.Breaker) (start : Moment)
    (positive : 1 ≤ config.failureThreshold) (actions : List Action) :
    let s := (fresh config start).run actions
    (s.breaker.state = s.log.circuit ∧
      (s.log.circuit = .closed →
        s.breaker.failures = s.log.streak ∧ s.log.streak < config.failureThreshold)) ∧
    (s.log.circuit = .closed → (s.step .ask).log = (s.now, .admitted s.admissions) :: s.log ∧ ∀ action,
      ((s.step action).log.circuit = .opened ↔
        ∃ call ∈ s.log.unfinished, action = .finish call .failure ∧
          s.log.streak + 1 = config.failureThreshold) ∧
      ((s.step action).log.circuit = .opened ∨ (s.step action).log.circuit = .closed)) ∧
    (s.log.circuit = .opened → ∀ more, .reset ∉ more →
      (s.run more).now < (s.log.since start).add config.resetTimeout →
      (s.run more).log.circuit = .opened ∧ (s.run more).step .ask = (s.run more).note .rejected) ∧
    (s.log.circuit = .halfOpen ∨
        s.log.circuit = .opened ∧ (s.log.since start).add config.resetTimeout ≤ s.now →
      let looked := s.step .look
      looked.log.circuit = .halfOpen ∧
        (s.step .ask).log =
          (s.now, if looked.log.unfinished.length < config.halfOpenLimit then .admitted s.admissions
            else .rejected) :: looked.log) ∧
    (∀ (t : Traffic) (c : Call) (left attempt : Nat), t.layers.breaker = some config →
      t.now = s.now → t.breakers.get config t.now c.backend = s.breaker → t.errorOf? c = none →
      (s.step .ask).log.head? = some (s.now, .rejected) →
      let ended := Traffic.begin c left attempt t
      ended = (t.look c.backend).finish c (.error (.circuitOpen c.backend)) ∧
        ∀ e ∈ ended.log, e ∈ t.log ∨ ∀ id n who, e.2 ≠ .invoked id n who) ∧
    (s.log.circuit = .halfOpen →
      (∀ call ∈ s.log.unfinished,
        (s.step (.finish call .success)).log.circuit = .closed ∧
        (s.step (.finish call .failure)).log.circuit = .opened ∧
        (s.step (.finish call .failure)).log.since start = s.now) ∧
      ∀ action, action ≠ .reset →
        (∀ call ∈ s.log.unfinished, action ≠ .finish call .success ∧ action ≠ .finish call .failure) →
        (s.step action).log.circuit = .halfOpen) ∧
    (∀ call verdict, call ∉ s.log.unfinished →
      (s.step (.finish call verdict)).breaker = s.breaker) := by
  intro s
  have sound : Sound config start s := sound_run config start positive actions
  refine ⟨⟨sound.circuit, ?_⟩, ?_, ?_, ?_, ?_, ?_, ?_⟩
  · intro closed
    have state := sound.circuit.trans closed
    exact ⟨sound.failures state, sound.failures state ▸ sound.below state⟩
  · exact fun closed => ⟨sound.closed_asks closed, sound.closed_step positive closed⟩
  · exact fun opened more unreset early => sound.opened_run positive opened more unreset early
  · exact fun cooled => sound.trial_asks positive cooled
  · intro t c left attempt layer now breaker going rejected
    have refused : ((t.breakers.get config t.now c.backend).ask t.now).1 = none := by
      rw [breaker, now]
      exact rejected_ask rejected
    have ended := Traffic.begin_rejected layer going refused left attempt
    refine ⟨ended, fun e member => ?_⟩
    rw [ended] at member
    rcases Traffic.mem_log_finish member with old | done
    · rcases Traffic.mem_log_look old with old | ⟨change, changed⟩
      · exact .inl old
      · exact .inr fun id n who => by simp [changed]
    · exact .inr fun id n who => by simp [done]
  · intro half
    refine ⟨fun call current => ?_, fun action unreset waits =>
      sound.trial_lasts positive half action unreset waits⟩
    obtain ⟨success, failure, again, -⟩ := sound.trial_ends positive half current
    exact ⟨success, failure, again⟩
  · exact fun call verdict apart => (sound.finish_ignored apart verdict).1

/-- A circuit that opened at its fifth nanosecond still rejects calls at the fourteenth. -/
theorem open_circuit_rejects :
    let config : Config.Breaker := { failureThreshold := 1, resetTimeout := ⟨10⟩, halfOpenLimit := 1 }
    let s := (fresh config .start).run [.ask, .wait ⟨5⟩, .finish 0 .failure]
    1 ≤ config.failureThreshold ∧ (s.run [.wait ⟨9⟩]).step .ask = (s.run [.wait ⟨9⟩]).note .rejected := by
  refine ⟨Nat.le_refl _, ?_⟩
  exact ((breaker_follows_log { failureThreshold := 1, resetTimeout := ⟨10⟩, halfOpenLimit := 1 } .start
    (Nat.le_refl _) [.ask, .wait ⟨5⟩, .finish 0 .failure]).2.2.1 rfl [.wait ⟨9⟩] (by decide) (by decide)).2

end Session
end Gatehouse.Resilience
