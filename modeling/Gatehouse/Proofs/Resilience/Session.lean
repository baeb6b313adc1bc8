import Gatehouse.Proofs.Resilience.Breaker

/-!
A breaker in use. Calls ask for admission and end in any order, late or never; in between the breaker is
reset and looked at, and time passes. The log says what was seen from outside; it alone tells in which
period the circuit is, which calls were admitted in it and how many of them failed in a row.
-/
namespace Gatehouse.Resilience

namespace Session

/-- What is done with a breaker. Calls are numbered as they are admitted. -/
inductive Action where
  | ask
  | finish (call : Nat) (verdict : Verdict)
  | reset
  | look
  | wait (span : Duration)
  deriving DecidableEq, Repr

inductive Entry where
  | admitted (call : Nat)
  | rejected
  | ended (call : Nat) (verdict : Verdict)
  | reset
  | changed (change : Change)
  deriving DecidableEq, Repr

/-- What happened and when, the latest first. -/
abbrev History := List (Moment × Entry)

namespace History

/-- The state that the last change led to. -/
def circuit : History → Circuit
  | [] => .closed
  | (_, .changed change) :: _ => change.after
  | _ :: past => circuit past

/-- When the present period began. -/
def since (start : Moment) : History → Moment
  | [] => start
  | (now, .changed _) :: _ => now
  | _ :: past => since start past

/-- The calls of the present period that have not ended, the latest first. -/
def unfinished : History → List Nat
  | [] => []
  | (_, .changed _) :: _ => []
  | (_, .admitted call) :: past => call :: unfinished past
  | (_, .ended call _) :: past => (unfinished past).filter (· ≠ call)
  | _ :: past => unfinished past

/-- The failures in the present period since its last success and the last reset. Only calls that were
admitted in the period count. -/
def streak : History → Nat
  | [] => 0
  | (_, .changed _) :: _ => 0
  | (_, .reset) :: _ => 0
  | (_, .ended call .success) :: past => if call ∈ unfinished past then 0 else streak past
  | (_, .ended call .failure) :: past => if call ∈ unfinished past then streak past + 1 else streak past
  | _ :: past => streak past

end History
end Session

structure Session where
  now : Moment
  breaker : Breaker
  /-- The calls that have not ended and what they were admitted with, the latest first. -/
  pending : List (Nat × Ticket) := []
  admissions : Nat := 0
  log : Session.History := []

namespace Session

def fresh (config : Config.Breaker) (start : Moment) : Session :=
  { now := start, breaker := { config, changedAt := start } }

def note (s : Session) (e : Entry) : Session := { s with log := (s.now, e) :: s.log }

def update (s : Session) (r : Breaker × Option Change) : Session :=
  match r.2 with
  | none => { s with breaker := r.1 }
  | some change => { s.note (.changed change) with breaker := r.1 }

def answer (s : Session) : Option Ticket → Session
  | none => s.note .rejected
  | some ticket =>
    { s.note (.admitted s.admissions) with
      pending := (s.admissions, ticket) :: s.pending, admissions := s.admissions + 1 }

def drop (s : Session) (call : Nat) (verdict : Verdict) : Session :=
  { s.note (.ended call verdict) with pending := s.pending.filter (·.1 ≠ call) }

def step (s : Session) : Action → Session
  | .ask =>
    let (ticket, r) := s.breaker.ask s.now
    (s.update r).answer ticket
  | .finish call verdict =>
    match s.pending.lookup call with
    | none => s
    | some ticket => (s.drop call verdict).update (s.breaker.record ticket verdict s.now)
  | .reset => (s.note .reset).update (s.breaker.reset s.now)
  | .look => s.update (s.breaker.refresh s.now)
  | .wait span => { s with now := s.now.add span }

def run (s : Session) (actions : List Action) : Session := actions.foldl step s

variable {s : Session}

@[simp] theorem update_breaker (s : Session) (r : Breaker × Option Change) :
    (s.update r).breaker = r.1 := by
  unfold update
  split <;> rfl

@[simp] theorem update_now (s : Session) (r : Breaker × Option Change) : (s.update r).now = s.now := by
  unfold update
  split <;> rfl

@[simp] theorem update_pending (s : Session) (r : Breaker × Option Change) : (s.update r).pending = s.pending := by
  unfold update
  split <;> rfl

@[simp] theorem update_admissions (s : Session) (r : Breaker × Option Change) :
    (s.update r).admissions = s.admissions := by
  unfold update
  split <;> rfl

/-- What a breaker becomes does not depend on the one that is replaced. -/
theorem update_replaced (s : Session) (b : Breaker) (r : Breaker × Option Change) :
    { s with breaker := b }.update r = s.update r := by
  unfold update
  split <;> rfl

theorem update_admitted (s : Session) (b : Breaker) (r : Breaker × Option Change) :
    s.update (b, r.2) = { s.update r with breaker := b } := by
  obtain ⟨-, _ | change⟩ := r <;> rfl

@[simp] theorem answer_breaker (s : Session) (ticket : Option Ticket) :
    (s.answer ticket).breaker = s.breaker := by
  cases ticket <;> rfl

@[simp] theorem answer_now (s : Session) (ticket : Option Ticket) : (s.answer ticket).now = s.now := by
  cases ticket <;> rfl

theorem step_ask (s : Session) :
    s.step .ask =
      { s.step .look with breaker := (s.step .look).breaker.grant.2 }.answer
        (s.step .look).breaker.grant.1 := by
  simp only [step, Breaker.ask_eq, update_breaker]
  rw [update_admitted]

theorem step_finish_unknown {call : Nat} (unknown : s.pending.lookup call = none)
    (verdict : Verdict) : s.step (.finish call verdict) = s := by
  simp [step, unknown]

theorem step_finish_stale {call : Nat} {ticket : Ticket}
    (found : s.pending.lookup call = some ticket) (verdict : Verdict)
    (other : s.breaker.generation ≠ ticket.generation) :
    s.step (.finish call verdict) = s.drop call verdict := by
  simp only [step, found, Breaker.record_stale other]
  rfl

theorem step_finish_current {call : Nat} {ticket : Ticket}
    (found : s.pending.lookup call = some ticket) (verdict : Verdict)
    (same : s.breaker.generation = ticket.generation) :
    s.step (.finish call verdict) =
      { s.drop call verdict with breaker := s.breaker.count ticket verdict }.update
        ((s.breaker.count ticket verdict).follow s.now
          ((s.breaker.count ticket verdict).target? verdict)) := by
  simp only [step, found, Breaker.record_current same]
  exact (update_replaced ..).symm

end Session
end Gatehouse.Resilience
