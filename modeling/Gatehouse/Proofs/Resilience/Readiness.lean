import Gatehouse.Proofs.Resilience.Cycle
import Gatehouse.Proofs.Resilience.Permits

/-!
When a call gets through. A breaker opens after failures only, and lets the next call in once it has cooled down; a
call that starts reaches the backend at once if nothing in its layers holds it up.
-/
namespace Gatehouse.Resilience

namespace Session
variable {config : Config.Breaker} {start : Moment} {s : Session}

/-- A call that asks now is admitted. -/
def Admits (s : Session) : Prop := (s.step .ask).log = (s.now, .admitted s.admissions) :: (s.step .look).log

theorem update_log (s : Session) (r : Breaker × Option Change) :
    (s.update r).log = (r.2.map fun change => (s.now, Entry.changed change)).toList ++ s.log := by
  obtain ⟨b, _ | change⟩ := r <;> rfl

theorem finish_log {call : Nat} {ticket : Ticket} (found : s.pending.lookup call = some ticket) (verdict : Verdict) :
    ∃ noted, (s.step (.finish call verdict)).log = noted ++ (s.now, .ended call verdict) :: s.log := by
  simp only [step, found, update_log]
  exact ⟨_, rfl⟩

theorem step_log (s : Session) (action : Action) : ∃ noted, (s.step action).log = noted ++ s.log := by
  cases action with
  | ask =>
    cases ticket : (s.breaker.ask s.now).1 <;>
      simp only [step, ticket, answer, note, update_log, ← List.cons_append] <;> exact ⟨_, rfl⟩
  | finish call verdict =>
    cases found : s.pending.lookup call with
    | none => exact ⟨[], by rw [step_finish_unknown found, List.nil_append]⟩
    | some ticket =>
      obtain ⟨noted, log⟩ := finish_log found verdict
      exact ⟨noted ++ [_], log.trans (List.append_cons ..)⟩
  | reset =>
    simp only [step, update_log]
    exact ⟨_ ++ [_], List.append_cons ..⟩
  | look => exact ⟨_, update_log ..⟩
  | wait span => exact ⟨[], rfl⟩

theorem run_log (s : Session) (actions : List Action) : ∃ noted, (s.run actions).log = noted ++ s.log := by
  induction actions generalizing s with
  | nil => exact ⟨[], rfl⟩
  | cons action rest ih =>
    obtain ⟨first, log⟩ := s.step_log action
    obtain ⟨others, log'⟩ := ih (s.step action)
    exact ⟨others ++ first, by rw [List.append_assoc, ← log]; exact log'⟩

/-- A breaker opens only after a failure. -/
theorem Sound.opened_of_failure (sound : Sound config start s) (positive : 1 ≤ config.failureThreshold)
    (closed : s.log.circuit = .closed) (actions : List Action) :
    (s.run actions).log.circuit = .closed ∨ ∃ m call, (m, .ended call .failure) ∈ (s.run actions).log := by
  induction actions generalizing s with
  | nil => exact .inl closed
  | cons action rest ih =>
    obtain ⟨opens, either⟩ := sound.closed_step positive closed action
    rcases either with opened | closed'
    · obtain ⟨call, current, rfl, -⟩ := opens.mp opened
      obtain ⟨ticket, found, -⟩ := sound.ticket current
      obtain ⟨noted, log⟩ := finish_log found .failure
      obtain ⟨more, log'⟩ := run_log (s.step (.finish call .failure)) rest
      refine .inr ⟨s.now, call, ?_⟩
      show _ ∈ ((s.step (.finish call .failure)).run rest).log
      simp [log', log]
    · exact ih (sound.step positive action) closed'

/-- No call of the present period is unfinished, and the circuit is not open. -/
structure Idle (s : Session) : Prop where
  unfinished : s.log.unfinished = []
  unopened : s.log.circuit ≠ .opened

theorem idle_of_changed {now : Moment} {change : Change} {past : History} (log : s.log = (now, .changed change) :: past)
    (unopened : change.after ≠ .opened) : Idle s := by
  constructor
  · rw [log]
    rfl
  · rw [log]
    exact unopened

theorem idle_reset (follows : Follows config start s) (before : s.log.circuit = .closed → s.log.unfinished = []) :
    Idle (s.step .reset) := by
  rw [step_reset]
  by_cases closed : s.breaker.state = .closed
  · have circuit : s.log.circuit = .closed := follows.circuit.symm.trans closed
    rw [Breaker.moveTo, if_pos closed]
    refine ⟨before circuit, fun opened => ?_⟩
    cases circuit.symm.trans opened
  · rw [Breaker.moveTo, if_neg closed]
    exact idle_of_changed rfl Circuit.noConfusion

theorem Idle.step (idle : Idle s) (follows : Follows config start s) {action : Action} (other : action ≠ .ask) :
    Idle (s.step action) := by
  obtain ⟨none, unopened⟩ := idle
  cases action with
  | ask => exact absurd rfl other
  | wait span => exact ⟨none, unopened⟩
  | look =>
    rw [step_look_steady (by rw [follows.circuit]; exact unopened)]
    exact ⟨none, unopened⟩
  | reset => exact idle_reset follows fun _ => none
  | finish call verdict =>
    have apart : call ∉ s.log.unfinished := by
      rw [none]
      exact List.not_mem_nil
    refine ⟨?_, (follows.finish_ignored apart verdict).2 ▸ unopened⟩
    cases found : s.pending.lookup call with
    | none => rw [step_finish_unknown found, none]
    | some ticket =>
      have stale : s.breaker.generation ≠ ticket.generation := fun same =>
        apart ((follows.mem_unfinished found).mpr same)
      have log : (s.drop call verdict).log.unfinished = s.log.unfinished.filter (· ≠ call) := rfl
      rw [step_finish_stale found verdict stale, log, none]
      rfl

theorem Idle.run (idle : Idle s) (follows : Follows config start s) {actions : List Action}
    (unasked : .ask ∉ actions) : Idle (s.run actions) := by
  induction actions generalizing s with
  | nil => exact idle
  | cons action rest ih =>
    obtain ⟨other, later⟩ := not_or.mp fun member => unasked (List.mem_cons.mpr member)
    exact ih (idle.step follows (Ne.symm other)) (follows.step action) later

theorem Idle.admits (idle : Idle s) (sound : Sound config start s) (positive : 1 ≤ config.failureThreshold)
    (limit : 0 < config.halfOpenLimit) : Admits s := by
  obtain ⟨none, unopened⟩ := idle
  have steady : s.step .look = s := step_look_steady (by rw [sound.circuit]; exact unopened)
  unfold Admits
  cases circuit : s.log.circuit with
  | opened => exact absurd circuit unopened
  | closed =>
    rw [step_ask, steady, Breaker.grant_closed (sound.circuit.trans circuit)]
    rfl
  | halfOpen =>
    obtain ⟨-, asked⟩ := sound.trial_asks positive (.inl circuit)
    rw [steady, none, List.length_nil, if_pos limit] at asked
    rw [steady]
    exact asked

/-- A breaker that opened at a time and was not asked since. -/
def Rested (start opened : Moment) (s : Session) : Prop :=
  s.log.circuit = .opened ∧ s.log.since start = opened ∨ Idle s

theorem rested_look (sound : Sound config start s) (opened : s.log.circuit = .opened) :
    Rested start (s.log.since start) (s.step .look) ∧
      ((s.log.since start).add config.resetTimeout ≤ s.now → Idle (s.step .look)) := by
  have state : s.breaker.state = .opened := sound.circuit.trans opened
  have look : s.step .look = s.update (s.breaker.refresh s.now) := rfl
  by_cases due : s.breaker.config.resetTimeout ≤ s.now.since s.breaker.changedAt
  · have idle : Idle (s.step .look) := by
      rw [look, Breaker.refresh, if_pos ⟨state, due⟩, Breaker.moveTo, if_neg (state ▸ Circuit.noConfusion)]
      exact idle_of_changed rfl Circuit.noConfusion
    exact ⟨.inr idle, fun _ => idle⟩
  · rw [look, Breaker.refresh, if_neg fun both => due both.2]
    refine ⟨.inl ⟨opened, rfl⟩, fun late => absurd ?_ due⟩
    rw [sound.settings, sound.since]
    simp only [Moment.le_def, Duration.le_def, Moment.add, Moment.since] at late ⊢
    omega

theorem Rested.step {opened : Moment} (rested : Rested start opened s) (sound : Sound config start s)
    (positive : 1 ≤ config.failureThreshold) {action : Action} (other : action ≠ .ask) :
    Rested start opened (s.step action) := by
  rcases rested with ⟨circuit, rfl⟩ | idle
  · cases action with
    | ask => exact absurd rfl other
    | wait span => exact .inl ⟨circuit, rfl⟩
    | look => exact (rested_look sound circuit).1
    | reset =>
      refine .inr (idle_reset sound.toFollows fun closed => ?_)
      cases closed.symm.trans circuit
    | finish call verdict => exact .inl (sound.opened_finish positive circuit call verdict)
  · exact .inr (idle.step sound.toFollows other)

theorem Rested.run {opened : Moment} (rested : Rested start opened s) (sound : Sound config start s)
    (positive : 1 ≤ config.failureThreshold) {actions : List Action} (unasked : .ask ∉ actions) :
    Rested start opened (s.run actions) := by
  induction actions generalizing s with
  | nil => exact rested
  | cons action rest ih =>
    obtain ⟨other, later⟩ := not_or.mp fun member => unasked (List.mem_cons.mpr member)
    exact ih (rested.step sound positive (Ne.symm other)) (sound.step positive action) later

/-- Once it has cooled down, a breaker that was not asked since it opened admits a call. -/
theorem Rested.admits {opened : Moment} (rested : Rested start opened s) (sound : Sound config start s)
    (positive : 1 ≤ config.failureThreshold) (limit : 0 < config.halfOpenLimit)
    (late : opened.add config.resetTimeout ≤ s.now) : Admits s := by
  rcases rested with ⟨circuit, rfl⟩ | idle
  · obtain ⟨-, asked⟩ := sound.trial_asks positive (.inr ⟨circuit, late⟩)
    rw [((rested_look sound circuit).2 late).unfinished, List.length_nil, if_pos limit] at asked
    exact asked
  · exact idle.admits sound positive limit

end Session

namespace Traffic
variable {t u : Traffic} {c : Call}

/-- The backend is invoked for a call as soon as the call starts. -/
def Invokes (t : Traffic) (c : Call) : Prop :=
  ∃ first rest, (t.start c).log = t.log ++ first ++ (t.now, .invoked c.id 1 c.principal) :: rest

def Passable (t : Traffic) (c : Call) : Prop := ∃ ticket, ((t.known c).ask c).1 = .ok ticket

theorem passable_of_unguarded (unguarded : t.layers.breaker = none) (c : Call) : t.Passable c := by
  refine ⟨none, ?_⟩
  rw [ask, (still_known t c).1.layers, unguarded]

theorem Works.grows (works : Works c t u) : t.log <+: u.log := by
  obtain ⟨noted, log, -⟩ := works.adds
  exact ⟨noted, log.symm⟩

theorem log_release (t : Traffic) (c : Call) : (t.release c).log = t.log := by
  unfold release
  split <;> rfl

theorem grows_finish (t : Traffic) (c : Call) (result : Except CallError Nat) : t.log <+: (t.finish c result).log :=
  ⟨_, (log_finish ..).symm⟩

theorem grows_conclude {attempt left : Nat} {ticket : Option Ticket} {r : End} {next : Next}
    (concluded : t.conclude c attempt left ticket r = (u, next)) : t.log <+: u.log := by
  rcases works_of_conclude concluded with ⟨-, w, works, rfl⟩ | ⟨_, -, -, works⟩
  · rw [log_release]
    exact works.grows
  · exact works.grows

theorem grows_invoke {answer : Except CallError (Option Ticket)} (asked : t.ask c = (answer, u)) (attempt : Nat) :
    t.log <+: (u.note (.invoked c.id attempt c.principal)).log :=
  ((works_of_ask asked).trans (works_invoke u c attempt)).grows

theorem grows_begin (c : Call) (left attempt : Nat) (t : Traffic) : t.log <+: (begin c left attempt t).log := by
  fun_induction Traffic.begin c left attempt t with
  | case1 => exact grows_finish ..
  | case2 left attempt t _ _ e u asked => exact (works_of_ask asked).grows.trans (grows_finish ..)
  | case3 left attempt t _ _ ticket u asked _ _ _ v concluded =>
    simp only [concluded]
    exact (grows_invoke asked attempt).trans (grows_conclude concluded)
  | case4 attempt t _ _ ticket u asked _ _ _ v pause concluded =>
    simp only [concluded]
    exact (grows_invoke asked attempt).trans (grows_conclude concluded)
  | case5 attempt t _ _ ticket u asked _ _ _ v pause left soon concluded ih =>
    simp only [concluded]
    rw [if_pos soon]
    exact ((grows_invoke asked attempt).trans (grows_conclude concluded)).trans ih
  | case6 attempt t _ _ ticket u asked _ _ _ v pause left lasts concluded =>
    simp only [concluded]
    rw [if_neg lasts]
    have grows := (grows_invoke asked attempt).trans (grows_conclude concluded)
    exact grows
  | case7 left attempt t _ _ ticket u asked => exact grows_invoke asked attempt

theorem begin_invokes {ticket : Option Ticket} (left attempt : Nat) (going : t.errorOf? c = none)
    (asked : t.ask c = (.ok ticket, u)) :
    (u.note (.invoked c.id attempt c.principal)).log <+: (begin c left attempt t).log := by
  rw [begin.eq_def]
  simp only [going, ite_self, asked]
  split
  next instant =>
    cases concluded : (u.note (.invoked c.id attempt c.principal)).conclude c attempt left ticket
        (c.script attempt).result with
    | mk v next =>
      have grows := grows_conclude concluded
      cases next with
      | ended => exact grows
      | again pause =>
        cases left with
        | zero => exact grows
        | succ left =>
          simp only
          split
          · exact grows.trans (grows_begin ..)
          · exact grows
  next => exact List.prefix_refl _

theorem grows_serve (fuel : Nat) (t : Traffic) : t.log <+: (serve fuel t).log := by
  fun_induction Traffic.serve fuel t with
  | case1 | case2 | case3 => exact List.prefix_refl _
  | case4 fuel t _ c rest _ w why done ih => exact (grows_finish w c _).trans ih
  | case5 fuel t _ c rest _ w going ih =>
    exact (grows_begin { c with holdsPermit := true } _ 1 { w with free := w.free - 1 }).trans ih

theorem enter_invokes {ticket : Option Ticket} (going : t.errorOf? c = none) (asked : (t.ask c).1 = .ok ticket) :
    ∃ first, t.log ++ first ++ [(t.now, .invoked c.id 1 c.principal)] <+: (t.enter c).log := by
  have answer : t.ask c = (.ok ticket, (t.ask c).2) := Prod.ext asked rfl
  have works := works_of_ask answer
  obtain ⟨first, log, -⟩ := works.adds
  have begun := begin_invokes (t.attempts - 1) 1 going answer
  rw [note, log, works.still.now] at begun
  exact ⟨first, begun⟩

/-- A call whose context is not done reaches its backend at once, if no breaker rejects it and there is a permit for
it. -/
theorem invokes_of_start (going : t.errorOf? c = none) (passable : t.Passable c)
    (room : t.layers.bulkhead = none ∨ 0 < t.free) : t.Invokes c := by
  obtain ⟨still, -⟩ := still_known t c
  obtain ⟨ticket, asked⟩ := passable
  have going' : (t.known c).errorOf? c = none := (still.errorOf? c).trans going
  suffices first : ∃ first, t.log ++ first ++ [(t.now, .invoked c.id 1 c.principal)] <+: (t.start c).log by
    obtain ⟨first, rest, log⟩ := first
    exact ⟨first, rest, by rw [← log, List.append_assoc, List.singleton_append]⟩
  rw [← log_known t c, ← still.now]
  unfold start
  rw [← known]
  cases layer : (t.known c).layers.bulkhead with
  | none =>
    simp only [layer]
    exact enter_invokes going' asked
  | some bulkhead =>
    have room : 0 < (t.known c).free := by
      rw [known, free_onBreaker]
      exact room.resolve_left (Option.ne_none_iff_exists'.mpr ⟨_, still.layers ▸ layer⟩)
    let w := ({ t.known c with free := (t.known c).free - 1 } : Traffic)
    have asked' : (w.ask { c with holdsPermit := true }).1 = .ok ticket := by
      rw [← asked]
      unfold ask
      cases (t.known c).layers.breaker <;> rfl
    obtain ⟨first, entered⟩ := enter_invokes (t := w) (c := { c with holdsPermit := true }) going' asked'
    simp only [layer, going', if_pos room]
    exact ⟨first, entered.trans (grows_serve ..)⟩

theorem free_of_unheld {bulkhead : BulkheadLayer} {retry : Option Config.Retry} {breaker : Option Config.Breaker}
    (leads : Leads (ofLayers ⟨some bulkhead, retry, breaker⟩) t) (unheld : ∀ q ∈ t.calls, q.1.holdsPermit = false) :
    t.free = bulkhead.config.maxConcurrent := by
  let layers : Layers := ⟨some bulkhead, retry, breaker⟩
  have conserves : Conserves bulkhead.config.maxConcurrent t := Leads.conserves leads (conserves_ofLayers layers)
  have held : t.calls.countP (·.1.holdsPermit) = 0 :=
    List.countP_eq_zero.mpr fun q member => by simp [unheld q member]
  have permits := conserves.permits
  omega

end Traffic
end Gatehouse.Resilience
