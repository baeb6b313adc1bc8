import Gatehouse.Resilience.Breaker

/-!
What the operations of a breaker do, case by case: admission once due changes are applied, and a result
that is counted first and may then lead to another state.
-/
namespace Gatehouse.Resilience

namespace Breaker

/-- What the admission of one call does once due changes are applied. -/
def grant (b : Breaker) : Option Ticket × Breaker :=
  match b.state with
  | .closed => (some ⟨b.generation, false⟩, b)
  | .opened => (none, b)
  | .halfOpen =>
    if b.trials < b.config.halfOpenLimit then
      (some ⟨b.generation, true⟩, { b with trials := b.trials + 1 })
    else (none, b)

theorem ask_eq (b : Breaker) (now : Moment) :
    b.ask now = ((b.refresh now).1.grant.1, (b.refresh now).1.grant.2, (b.refresh now).2) := by
  unfold ask grant
  cases state : (b.refresh now).1.state with
  | closed => simp [state]
  | opened => simp [state]
  | halfOpen => by_cases room : (b.refresh now).1.trials < (b.refresh now).1.config.halfOpenLimit <;>
      simp [state, room]

theorem grant_closed {b : Breaker} (state : b.state = .closed) :
    b.grant = (some ⟨b.generation, false⟩, b) := by
  simp [grant, state]

theorem grant_opened {b : Breaker} (state : b.state = .opened) : b.grant = (none, b) := by
  simp [grant, state]

theorem grant_trial {b : Breaker} (state : b.state = .halfOpen)
    (room : b.trials < b.config.halfOpenLimit) :
    b.grant = (some ⟨b.generation, true⟩, { b with trials := b.trials + 1 }) := by
  simp [grant, state, room]

theorem grant_full {b : Breaker} (state : b.state = .halfOpen)
    (full : ¬ b.trials < b.config.halfOpenLimit) : b.grant = (none, b) := by
  simp [grant, state, full]

theorem grant_rejected {b : Breaker} (rejected : b.grant.1 = none) : b.grant = (none, b) := by
  cases state : b.state with
  | closed => simp [grant_closed state] at rejected
  | opened => exact grant_opened state
  | halfOpen =>
    by_cases room : b.trials < b.config.halfOpenLimit
    · simp [grant_trial state room] at rejected
    · exact grant_full state room

/-- Counts a result of the present period. -/
def count (b : Breaker) (ticket : Ticket) (verdict : Verdict) : Breaker :=
  { b with
    trials := if ticket.isTrial then b.trials - 1 else b.trials
    failures :=
      match b.state, verdict with
      | .closed, .success => 0
      | .closed, .failure => b.failures + 1
      | _, _ => b.failures }

def target? (b : Breaker) : Verdict → Option Circuit
  | .abandoned => none
  | .success => if b.state = .halfOpen then some .closed else none
  | .failure =>
    if b.state = .halfOpen ∨ b.state = .closed ∧ b.config.failureThreshold ≤ b.failures then
      some .opened
    else none

theorem target?_apart {b : Breaker} {verdict : Verdict} {state : Circuit}
    (target : b.target? verdict = some state) : b.state ≠ state := by
  cases verdict with
  | abandoned => cases target
  | success =>
    by_cases half : b.state = .halfOpen
    · obtain rfl : Circuit.closed = state := by simpa [target?, half] using target
      simp [half]
    · simp [target?, half] at target
  | failure =>
    by_cases leaves : b.state = .halfOpen ∨ b.state = .closed ∧ b.config.failureThreshold ≤ b.failures
    · obtain rfl : Circuit.opened = state := by simpa [target?, leaves] using target
      rcases leaves with half | ⟨closed, -⟩
      · simp [half]
      · simp [closed]
    · simp [target?, leaves] at target

def follow (b : Breaker) (now : Moment) : Option Circuit → Breaker × Option Change
  | none => (b, none)
  | some state => b.moveTo state now

@[simp] theorem moveTo_state (b : Breaker) (state : Circuit) (now : Moment) :
    (b.moveTo state now).1.state = state := by
  unfold moveTo
  split
  next same => exact same
  next => rfl

theorem moveTo_changedAt {b : Breaker} {state : Circuit} (apart : b.state ≠ state) (now : Moment) :
    (b.moveTo state now).1.changedAt = now := by
  rw [moveTo, if_neg apart]

theorem record_stale {b : Breaker} {ticket : Ticket} (other : b.generation ≠ ticket.generation)
    (verdict : Verdict) (now : Moment) : b.record ticket verdict now = (b, none) := by
  simp [record, other]

theorem record_current {b : Breaker} {ticket : Ticket} (same : b.generation = ticket.generation)
    (verdict : Verdict) (now : Moment) :
    b.record ticket verdict now =
      (b.count ticket verdict).follow now ((b.count ticket verdict).target? verdict) := by
  obtain ⟨config, state, failures, trials, changedAt, generation⟩ := b
  obtain ⟨_, isTrial⟩ := ticket
  cases same
  by_cases reached : config.failureThreshold ≤ failures + 1 <;>
    cases state <;> cases verdict <;> cases isTrial <;>
    simp [record, count, target?, follow, reached]

end Breaker

end Gatehouse.Resilience
