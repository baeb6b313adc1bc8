import Gatehouse.Limiter

/-!
Runs of a limiter: calls one after the other, each at its own instant, with the answers they get.
-/
namespace Gatehouse.Limiter

inductive Call where
  | allow (key : String)
  | remaining (key : String)
  | reset (key : String)
  | purge (idle : Duration)
  deriving DecidableEq, Repr

inductive Answer where
  | allowed (r : Except Exceeded Unit)
  | remaining (n : Nat)
  /-- The number of keys that were forgotten. -/
  | purged (n : Nat)
  | done

structure Event where
  moment : Moment
  call : Call
  answer : Answer

def Event.requests (key : String) (e : Event) : Bool := e.call = .allow key

def Event.admits (key : String) (e : Event) : Bool :=
  match e.answer with
  | .allowed (.ok _) => e.requests key
  | _ => false

theorem Event.admits_of_unasked {key : String} {e : Event} (unasked : e.requests key = false) :
    e.admits key = false := by
  unfold admits
  split
  · exact unasked
  · rfl

def step (l : Limiter) (now : Moment) : Call → Answer × Limiter
  | .allow key =>
    let (r, l) := l.allow now key
    (.allowed r, l)
  | .remaining key => (.remaining (l.remaining now key), l)
  | .reset key => (.done, l.reset key)
  | .purge idle =>
    let m := l.purge now idle
    (.purged (l.tracked - m.tracked), m)

def run (l : Limiter) : List (Moment × Call) → Limiter
  | [] => l
  | (now, call) :: rest => (l.step now call).2.run rest

def trace (l : Limiter) : List (Moment × Call) → List Event
  | [] => []
  | (now, call) :: rest => ⟨now, call, (l.step now call).1⟩ :: (l.step now call).2.trace rest

theorem run_append (l : Limiter) (earlier later : List (Moment × Call)) :
    l.run (earlier ++ later) = (l.run earlier).run later := by
  induction earlier generalizing l with
  | nil => rfl
  | cons call rest ih => exact ih _

@[simp] theorem trace_append (l : Limiter) (earlier later : List (Moment × Call)) :
    l.trace (earlier ++ later) = l.trace earlier ++ (l.run earlier).trace later := by
  induction earlier generalizing l with
  | nil => rfl
  | cons call rest ih => exact congrArg _ (ih _)

@[simp] theorem length_trace (l : Limiter) (calls : List (Moment × Call)) :
    (l.trace calls).length = calls.length := by
  induction calls generalizing l with
  | nil => rfl
  | cons call rest ih => exact congrArg (· + 1) (ih _)

theorem trace_prefix {l : Limiter} {calls : List (Moment × Call)} {past rest : List Event}
    (split : l.trace calls = past ++ rest) :
    ∃ earlier later, calls = earlier ++ later ∧ past = l.trace earlier ∧
      rest = (l.run earlier).trace later := by
  refine ⟨calls.take past.length, calls.drop past.length, (List.take_append_drop ..).symm, ?_⟩
  have parts := l.trace_append (calls.take past.length) (calls.drop past.length)
  rw [List.take_append_drop, split] at parts
  have enough : past.length ≤ calls.length := by
    have := congrArg List.length split
    simp at this
    omega
  exact List.append_inj parts (by simp [enough])

theorem trace_at {l : Limiter} {calls : List (Moment × Call)} {past rest : List Event}
    {now : Moment} {call : Call} {answer : Answer}
    (split : l.trace calls = past ++ ⟨now, call, answer⟩ :: rest) :
    ∃ earlier later, calls = earlier ++ (now, call) :: later ∧ past = l.trace earlier ∧
      answer = ((l.run earlier).step now call).1 := by
  obtain ⟨earlier, later, parts, before, after⟩ := trace_prefix split
  cases later with
  | nil => cases after
  | cons c later =>
    cases (List.cons.inj after).1
    exact ⟨earlier, later, parts, before, rfl⟩

end Gatehouse.Limiter
