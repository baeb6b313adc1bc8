import Gatehouse.Gateway

/-!
The stages before the backends. A request comes in, and later the token store answers for it; in between its context
may end. Each of the two parts is decided by the stages in their order, and whatever else happens to the gateway, a
request that waits either goes on waiting or is turned away with the error of its context.
-/
namespace Gatehouse.Gateway
open Resilience (Traffic)

/-- What happens to a gateway. Its authority, policies and limiter are shared with others, who may change
them at any time. -/
inductive Step where
  | arrive (a : Arrival)
  | answer (wall : Instant) (id : String)
  | pass (wall : Instant) (freshKey : Nat → Key) (finish : Moment)
  | jump (wall : Instant) (freshKey : Nat → Key) (now : Moment)
  /-- A new context that can be canceled. -/
  | signal
  | cancel (signal : Nat)
  | abort (id : String)
  | watch (id : String) (context : Context)
  | look
  | resetBreaker (name : String)
  | startMaintenance
  | share (authority : Authority) (authorizer : Authorizer) (limiter : Limiter)

def step (g : Gateway) : Step → Gateway
  | .arrive a => g.arrive a
  | .answer wall id => g.answer wall id
  | .pass wall freshKey finish => g.pass wall freshKey finish
  | .jump wall freshKey now => g.jump wall freshKey now
  | .signal => { g with traffic := { g.traffic with signals := g.traffic.signals.fresh.2 } }
  | .cancel signal => g.cancel signal
  | .abort id => g.abort id
  | .watch id context => { g with traffic := g.traffic.watch id context }
  | .look => { g with traffic := g.traffic.lookAll }
  | .resetBreaker name => { g with traffic := g.traffic.resetBreaker name }
  | .startMaintenance => g.startMaintenance
  | .share authority authorizer limiter => { g with authority, authorizer, limiter }

def run (g : Gateway) (steps : List Step) : Gateway := steps.foldl step g

@[simp] theorem run_append (g : Gateway) (earlier later : List Step) :
    g.run (earlier ++ later) = (g.run earlier).run later := List.foldl_append

/-- A step after which timers and signals have had their effect. -/
def Step.Wakes : Step → Prop
  | .pass _ _ _ | .jump _ _ _ | .cancel _ => True
  | _ => False

/-- A gateway with the same parts that has not handled anything yet. -/
def unused (g : Gateway) (layers : Resilience.Layers) : Gateway :=
  { g with traffic := .ofLayers layers, arrivals := [], refusals := [] }

section Contexts
variable (g : Gateway) (a : Arrival)

def Canceled : Prop := ∃ n, a.context.signal = some n ∧ n ∈ g.traffic.signals.raised

def Expired : Prop := ∃ d, a.context.deadline = some d ∧ d ≤ g.traffic.now

/-- The timer of its deadline has fired. -/
def Overdue : Prop := ∃ d, a.context.deadline = some d ∧ d.tick ≤ g.traffic.now

/-- What is found out about a context, where `late` tells whether the deadline counts. -/
inductive Finding (late : Prop) : Option ContextError → Prop
  | canceled (canceled : g.Canceled a) : Finding late (some .canceled)
  | expired (live : ¬ g.Canceled a) (isLate : late) : Finding late (some .deadlineExceeded)
  | going (live : ¬ g.Canceled a) (early : ¬ late) : Finding late none

theorem isCanceled_iff : a.context.isCanceled g.traffic.signals = true ↔ g.Canceled a := by
  rw [Context.isCanceled, Option.any_eq_true]
  exact exists_congr fun n => and_congr_right fun _ => List.contains_iff_mem

theorem finding_of_timer (timer : Option Moment) :
    g.Finding a (∃ m, timer = some m ∧ m ≤ g.traffic.now)
      (if a.context.isCanceled g.traffic.signals then some .canceled
        else if timer.any (· ≤ g.traffic.now) then some .deadlineExceeded else none) := by
  have late : timer.any (· ≤ g.traffic.now) = true ↔ ∃ m, timer = some m ∧ m ≤ g.traffic.now := by
    simp only [Option.any_eq_true, decide_eq_true_eq]
  split
  next set => exact .canceled ((g.isCanceled_iff a).mp set)
  next unset =>
    have live := mt (g.isCanceled_iff a).mpr unset
    split
    next fired => exact .expired live (late.mp fired)
    next early => exact .going live (mt late.mpr early)

theorem error?_finding : g.Finding a (g.Expired a) (a.context.error? g.traffic.signals g.traffic.now) :=
  g.finding_of_timer a a.context.deadline

theorem wakes?_finding : g.Finding a (g.Overdue a) (g.wakes? a) := by
  have same : g.Overdue a = ∃ m, a.context.wakeAt? = some m ∧ m ≤ g.traffic.now := by
    refine propext ⟨fun ⟨d, set, fired⟩ => ?_, fun ⟨m, set, fired⟩ => ?_⟩
    · exact ⟨d.tick, congrArg (Option.map Moment.tick) set, fired⟩
    · obtain ⟨d, deadline, rfl⟩ := Option.map_eq_some_iff.mp set
      exact ⟨d, deadline, fired⟩
  rw [same]
  exact g.finding_of_timer a a.context.wakeAt?

variable {g a} {late : Prop} {found : Option ContextError} (finding : g.Finding a late found)
include finding

theorem Finding.of_canceled (canceled : g.Canceled a) : found = some .canceled := by
  cases finding with
  | canceled => rfl
  | expired live | going live => exact absurd canceled live

theorem Finding.of_late (live : ¬ g.Canceled a) (isLate : late) : found = some .deadlineExceeded := by
  cases finding with
  | canceled canceled => exact absurd canceled live
  | expired => rfl
  | going _ early => exact absurd isLate early

theorem Finding.of_going (live : ¬ g.Canceled a) (early : ¬ late) : found = none := by
  cases finding with
  | canceled canceled => exact absurd canceled live
  | expired _ isLate => exact absurd isLate early
  | going => rfl

theorem Finding.going_iff : found = none ↔ ¬ g.Canceled a ∧ ¬ late := by
  refine ⟨fun going => ?_, fun ⟨live, early⟩ => finding.of_going live early⟩
  subst going
  cases finding with
  | going live early => exact ⟨live, early⟩

end Contexts

def charged (g : Gateway) (r : Request) : Gateway :=
  { g with limiter := (g.limiter.allow g.traffic.now r.caller).2 }

def left (g : Gateway) (id : String) : Gateway := { g with arrivals := g.arrivals.eraseP (·.id = id) }

section
variable {g : Gateway} {a : Arrival} {wall : Instant}

theorem arrive_stopped {why : ContextError} (done : a.context.error? g.traffic.signals g.traffic.now = some why) :
    g.arrive a = g.refuse a.id (.stopped why) := by
  simp only [arrive, done]

theorem arrive_limited (going : a.context.error? g.traffic.signals g.traffic.now = none) {e : Limiter.Exceeded}
    (refused : (g.limiter.allow g.traffic.now a.request.caller).1 = .error e) :
    g.arrive a = (g.charged a.request).refuse a.id (.limited e) := by
  simp only [arrive, going, charged]
  generalize g.limiter.allow g.traffic.now a.request.caller = charge at refused ⊢
  obtain ⟨_, limiter⟩ := charge
  cases refused
  rfl

theorem arrive_within (going : a.context.error? g.traffic.signals g.traffic.now = none)
    (within : (g.limiter.allow g.traffic.now a.request.caller).1 = .ok ()) :
    g.arrive a = { g.charged a.request with arrivals := g.arrivals ++ [a] } := by
  simp only [arrive, going, charged]
  generalize g.limiter.allow g.traffic.now a.request.caller = charge at within ⊢
  obtain ⟨_, limiter⟩ := charge
  cases within
  rfl

theorem judge_awake (calm : g.wakes? a = none) (wall : Instant) : g.judge wall a =
    match g.authority.authenticate wall a.request.bearer a.request.requirement with
    | .error e => .error (.unauthenticated e)
    | .ok token =>
      if (g.principalOf a.request token).decision.allowed then .ok (g.principalOf a.request token)
      else .error (.forbidden (g.principalOf a.request token).decision) := by
  cases authentic : g.authority.authenticate wall a.request.bearer a.request.requirement with
  | error | ok => simp only [judge, calm, authentic]

theorem answer_none (wall : Instant) {id : String} (unknown : g.arrivals.find? (·.id = id) = none) :
    g.answer wall id = g := by
  simp only [answer, unknown]

variable {id : String} (found : g.arrivals.find? (·.id = id) = some a)
include found

theorem answer_refused {e : Error} (judged : g.judge wall a = .error e) :
    g.answer wall id = (g.left id).refuse id e := by
  simp only [answer, found, judged]
  rfl

theorem answer_passed {p : Principal} (judged : g.judge wall a = .ok p) :
    g.answer wall id = { g.left id with traffic := g.traffic.start (a.call p) } := by
  simp only [answer, found, judged]
  rfl

end

/-- A request that came in: its context was not done, and its caller was within the limit. -/
structure Enters (g : Gateway) (a : Arrival) : Prop where
  live : ¬ g.Canceled a
  early : ¬ g.Expired a
  within : (g.limiter.allow g.traffic.now a.request.caller).1 = .ok ()

/-- A request that waits passes the other stages: it was not woken, and its principal is allowed to pass. -/
structure Passes (g : Gateway) (wall : Instant) (a : Arrival) (p : Principal) : Prop where
  waits : g.arrivals.find? (·.id = a.id) = some a
  live : ¬ g.Canceled a
  early : ¬ g.Overdue a
  authentic : g.authority.authenticate wall a.request.bearer a.request.requirement = .ok p.token
  principal : p = g.principalOf a.request p.token
  allowed : p.decision.allowed = true

inductive Arrives (g : Gateway) (a : Arrival) : Gateway → Prop
  | stopped {why : ContextError} (done : a.context.error? g.traffic.signals g.traffic.now = some why) :
    Arrives g a (g.refuse a.id (.stopped why))
  | limited {e : Limiter.Exceeded} : Arrives g a ((g.charged a.request).refuse a.id (.limited e))
  | waits (enters : g.Enters a) : Arrives g a { g.charged a.request with arrivals := g.arrivals ++ [a] }

theorem arrives (g : Gateway) (a : Arrival) : Arrives g a (g.arrive a) := by
  cases context : a.context.error? g.traffic.signals g.traffic.now with
  | some why =>
    rw [arrive_stopped context]
    exact .stopped context
  | none =>
    obtain ⟨live, early⟩ := (g.error?_finding a).going_iff.mp context
    cases charge : (g.limiter.allow g.traffic.now a.request.caller).1 with
    | error e =>
      rw [arrive_limited context charge]
      exact .limited
    | ok =>
      rw [arrive_within context charge]
      exact .waits ⟨live, early, charge⟩

inductive Answers (g : Gateway) (wall : Instant) (id : String) : Gateway → Prop
  | nobody : Answers g wall id g
  | refused {a : Arrival} {e : Error} (waits : g.arrivals.find? (·.id = id) = some a)
    (early : e.isEarly = true ∨ ∃ why, e = .stopped why) : Answers g wall id ((g.left id).refuse id e)
  | passed {a : Arrival} {p : Principal} (own : a.id = id) (passes : g.Passes wall a p) :
    Answers g wall id { g.left id with traffic := g.traffic.start (a.call p) }

theorem answers (g : Gateway) (wall : Instant) (id : String) : Answers g wall id (g.answer wall id) := by
  cases found : g.arrivals.find? (·.id = id) with
  | none =>
    rw [answer_none wall found]
    exact .nobody
  | some a =>
    have named := List.find?_some found
    have own : a.id = id := of_decide_eq_true named
    cases context : g.wakes? a with
    | some why =>
      have judged : g.judge wall a = .error (.stopped why) := by simp only [judge, context]
      rw [answer_refused found judged]
      exact .refused found (.inr ⟨why, rfl⟩)
    | none =>
      have judge := judge_awake context wall
      cases authentic : g.authority.authenticate wall a.request.bearer a.request.requirement with
      | error e =>
        rw [authentic] at judge
        rw [answer_refused found judge]
        exact .refused found (.inl rfl)
      | ok token =>
        rw [authentic] at judge
        cases allowed : (g.principalOf a.request token).decision.allowed with
        | false =>
          simp only [allowed, Bool.false_eq_true, if_false] at judge
          rw [answer_refused found judge]
          exact .refused found (.inl rfl)
        | true =>
          simp only [allowed, if_true] at judge
          rw [answer_passed found judge]
          obtain ⟨live, early⟩ := (g.wakes?_finding a).going_iff.mp context
          exact .passed own ⟨own ▸ found, live, early, authentic, rfl, allowed⟩

/-- Nothing differs in the traffic and in front of it. -/
structure Alike (g h : Gateway) : Prop where
  traffic : h.traffic = g.traffic
  arrivals : h.arrivals = g.arrivals
  refusals : h.refusals = g.refusals

theorem Alike.trans {g h k : Gateway} (first : Alike g h) (second : Alike h k) : Alike g k :=
  ⟨second.traffic.trans first.traffic, second.arrivals.trans first.arrivals, second.refusals.trans first.refusals⟩

/-- Tasks in the background leave requests alone. -/
theorem alike_runJob (g : Gateway) (wall : Instant) (freshKey : Key) (now : Moment) (job : Job) :
    Alike g (g.runJob wall freshKey now job) := by
  unfold runJob
  split
  · exact ⟨rfl, rfl, rfl⟩
  · split <;> exact ⟨rfl, rfl, rfl⟩
  · exact ⟨rfl, rfl, rfl⟩

theorem alike_runJobs (g : Gateway) (wall : Instant) (freshKey : Nat → Key) (job : Job) (events : List Task.Event) :
    Alike g (g.runJobs wall freshKey job events) := by
  unfold runJobs
  simp only
  generalize (events.filterMap _).zipIdx = starts
  induction starts generalizing g with
  | nil => exact ⟨rfl, rfl, rfl⟩
  | cons start rest ih => exact (alike_runJob ..).trans (ih _)

theorem alike_runTasks (g : Gateway) (wall : Instant) (freshKey : Nat → Key) (go : Task → Task × List Task.Event) :
    Alike g (g.runTasks wall freshKey go) := by
  unfold runTasks
  have base : Alike g { g with tasks := [] } := ⟨rfl, rfl, rfl⟩
  generalize ({ g with tasks := [] } : Gateway) = h at base ⊢
  generalize g.tasks = tasks
  induction tasks generalizing h with
  | nil => exact base
  | cons task rest ih =>
    obtain ⟨traffic, arrivals, refusals⟩ := alike_runJobs h wall freshKey task.1 (go task.2).2
    exact ih _ (base.trans ⟨traffic, arrivals, refusals⟩)

theorem alike_pass (g : Gateway) (wall : Instant) (freshKey : Nat → Key) (finish : Moment) :
    Alike { g with traffic := g.traffic.pass finish }.attend (g.pass wall freshKey finish) :=
  alike_runTasks { g with traffic := g.traffic.pass finish }.attend wall freshKey (·.pass g.traffic.now finish)

theorem alike_jump (g : Gateway) (wall : Instant) (freshKey : Nat → Key) (now : Moment) :
    Alike { g with traffic := { g.traffic with now } }.attend (g.jump wall freshKey now) :=
  alike_runTasks { g with traffic := { g.traffic with now } }.attend wall freshKey (·.wake now [])

/-- Of the requests that wait, those that are woken are turned away. -/
theorem kept_or_refused {g : Gateway} {a : Arrival} (waits : a ∈ g.arrivals) :
    a ∈ g.attend.arrivals ∧ g.wakes? a = none ∨
      ∃ why, g.wakes? a = some why ∧ (a.id, .stopped why) ∈ g.attend.refusals := by
  cases context : g.wakes? a with
  | none => exact .inl ⟨List.mem_filter.mpr ⟨waits, by rw [context]; rfl⟩, rfl⟩
  | some why =>
    refine .inr ⟨why, rfl, List.mem_append_right _ (List.mem_filterMap.mpr ⟨a, waits, ?_⟩)⟩
    rw [context, Option.map_some]

/-- What becomes of a request that waits. -/
def Awaits (h : Gateway) (a : Arrival) (wakes : Prop) : Prop :=
  a ∈ h.arrivals ∧ (wakes → ¬ h.Canceled a ∧ ¬ h.Overdue a) ∨
    h.Canceled a ∧ (a.id, .stopped .canceled) ∈ h.refusals ∨
    ¬ h.Canceled a ∧ h.Overdue a ∧ (a.id, .stopped .deadlineExceeded) ∈ h.refusals

theorem step_awaits {g : Gateway} {a : Arrival} (waits : a ∈ g.arrivals) (s : Step)
    (unanswered : ∀ wall, s ≠ .answer wall a.id) (kept : s ≠ .abort a.id) : Awaits (g.step s) a s.Wakes := by
  have stays {h : Gateway} {wakes : Prop} (there : a ∈ h.arrivals) (unwoken : ¬ wakes) : Awaits h a wakes :=
    .inl ⟨there, fun woken => absurd woken unwoken⟩
  have attended {t : Traffic} {h : Gateway} {wakes : Prop} (alike : Alike { g with traffic := t }.attend h) :
      Awaits h a wakes := by
    obtain ⟨traffic, arrivals, refusals⟩ := alike
    have finding := wakes?_finding { g with traffic := t } a
    have same : (∃ n, a.context.signal = some n ∧ n ∈ t.signals.raised) = h.Canceled a := by
      rw [Canceled, traffic]
      rfl
    have same' : (∃ d, a.context.deadline = some d ∧ d.tick ≤ t.now) = h.Overdue a := by
      rw [Overdue, traffic]
      rfl
    unfold Awaits
    rw [← same, ← same', arrivals, refusals]
    rcases kept_or_refused (g := { g with traffic := t }) waits with ⟨there, calm⟩ | ⟨why, woken, listed⟩
    · exact .inl ⟨there, fun _ => finding.going_iff.mp calm⟩
    · rw [woken] at finding
      cases finding with
      | canceled canceled => exact .inr (.inl ⟨canceled, listed⟩)
      | expired live late => exact .inr (.inr ⟨live, late, listed⟩)
  cases s with
  | arrive b =>
    have arrives := g.arrives b
    refine stays ?_ False.elim
    show a ∈ (g.arrive b).arrivals
    generalize g.arrive b = h at arrives ⊢
    cases arrives with
    | stopped | limited => exact waits
    | waits => exact List.mem_append_left _ waits
  | answer wall id =>
    have other : ¬ decide (a.id = id) = true := fun own => unanswered wall (of_decide_eq_true own ▸ rfl)
    have there : a ∈ g.arrivals.eraseP (·.id = id) := (List.mem_eraseP_of_neg (p := (·.id = id)) other).mpr waits
    have answers := g.answers wall id
    refine stays ?_ False.elim
    show a ∈ (g.answer wall id).arrivals
    generalize g.answer wall id = h at answers ⊢
    cases answers with
    | nobody => exact waits
    | refused | passed => exact there
  | pass wall freshKey finish => exact attended (alike_pass ..)
  | jump wall freshKey now => exact attended (alike_jump ..)
  | cancel signal => exact attended (t := g.traffic.cancel signal) ⟨rfl, rfl, rfl⟩
  | abort id =>
    have other : a.id ≠ id := fun own => kept (own ▸ rfl)
    exact stays (List.mem_filter.mpr ⟨waits, decide_eq_true other⟩) False.elim
  | _ => exact stays waits False.elim

end Gatehouse.Gateway
