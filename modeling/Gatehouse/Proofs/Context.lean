import Gatehouse.Context.Wait
import Gatehouse.Proofs.Duration.Ticks

/-!
Polling contexts and waiting for them, whatever happens to their signals as time goes on. A context that is done stays
done, and a wait comes out as polling does from the tick of the deadline on, although it stops listening to a signal
whose handle was dropped.
-/
namespace Gatehouse

namespace Signals
variable (s : Signals) (n m : Nat)

@[simp] theorem isRaised_raise : (s.raise n).isRaised m = (m == n || s.isRaised m) := List.contains_cons

@[simp] theorem isDropped_raise : (s.raise n).isDropped m = s.isDropped m := rfl

@[simp] theorem isRaised_drop : (s.drop n).isRaised m = s.isRaised m := rfl

@[simp] theorem isDropped_drop : (s.drop n).isDropped m = (m == n || s.isDropped m) := List.contains_cons

@[simp] theorem isRaised_fresh : s.fresh.2.isRaised m = s.isRaised m := rfl

@[simp] theorem isDropped_fresh : s.fresh.2.isDropped m = s.isDropped m := rfl

end Signals

namespace Context

/-- One more limit for a context. -/
inductive Limit where
  | timeout (now : Moment) (span : Duration)
  | deadline (m : Moment)

def Limit.moment : Limit → Moment
  | .timeout now span => now.add span
  | .deadline m => m

def limit (c : Context) : Limit → Context
  | .timeout now span => c.withTimeout now span
  | .deadline m => c.withDeadline m

def limited (c : Context) (limits : List Limit) : Context := limits.foldl limit c

/-- The deadline that a context has and those of further limits. -/
def given (c : Context) (limits : List Limit) : List Moment := c.deadline.toList ++ limits.map Limit.moment

/-- One of these, and none of them is before it. -/
def Earliest (m : Moment) (ms : List Moment) : Prop := m ∈ ms ∧ ∀ n ∈ ms, m ≤ n

theorem earliest_skip {a b : Moment} (order : a ≤ b) (m : Moment) (ms : List Moment) :
    Earliest m (a :: b :: ms) ↔ Earliest m (a :: ms) := by
  constructor
  · rintro ⟨member, first⟩
    have least := first a List.mem_cons_self
    refine ⟨?_, fun n other => first n (List.mem_cons.mpr ((List.mem_cons.mp other).imp_right
      (List.mem_cons_of_mem _)))⟩
    rcases List.mem_cons.mp member with rfl | later
    · exact List.mem_cons_self
    · rcases List.mem_cons.mp later with rfl | rest
      · exact Moment.eq_of_le_of_le least order ▸ List.mem_cons_self
      · exact List.mem_cons_of_mem _ rest
  · rintro ⟨member, first⟩
    have least := first a List.mem_cons_self
    refine ⟨?_, fun n other => ?_⟩
    · exact List.mem_cons.mpr ((List.mem_cons.mp member).imp_right (List.mem_cons_of_mem _))
    · rcases List.mem_cons.mp other with rfl | later
      · exact least
      · rcases List.mem_cons.mp later with rfl | rest
        · exact Nat.le_trans least order
        · exact first n (List.mem_cons_of_mem _ rest)

theorem earliest_perm {ms ns : List Moment} (same : ms.Perm ns) (m : Moment) : Earliest m ms ↔ Earliest m ns :=
  and_congr same.mem_iff (forall_congr' fun _ => imp_congr_left same.mem_iff)

section
variable (c : Context) (limits : List Limit)

theorem limit_eq (l : Limit) : c.limit l = c.withDeadline l.moment := by
  cases l <;> rfl

theorem signal_limited : (c.limited limits).signal = c.signal := by
  induction limits generalizing c with
  | nil => rfl
  | cons l rest ih =>
    refine (ih (c.limit l)).trans ?_
    rw [limit_eq]
    rfl

/-- Of two deadlines the earlier one counts. -/
theorem earliest_limit (l : Limit) (m : Moment) :
    Earliest m ((c.limit l).given limits) ↔ Earliest m (c.given (l :: limits)) := by
  rw [limit_eq]
  unfold given withDeadline
  cases c.deadline with
  | none => exact Iff.rfl
  | some e =>
    by_cases order : e ≤ l.moment
    · simp only [if_pos order]
      exact (earliest_skip order m _).symm
    · simp only [if_neg order]
      refine (earliest_skip (Nat.le_of_not_le order) m _).symm.trans ?_
      exact earliest_perm (.swap ..) m

/-- The deadline of a context is the earliest of all that it was given. -/
theorem deadline_limited (m : Moment) : (c.limited limits).deadline = some m ↔ Earliest m (c.given limits) := by
  induction limits generalizing c with
  | nil =>
    show c.deadline = some m ↔ Earliest m (c.deadline.toList ++ [])
    cases c.deadline with
    | none => exact iff_of_false nofun fun first => nomatch first.1
    | some e =>
      refine ⟨?_, fun first => congrArg some (List.mem_singleton.mp first.1).symm⟩
      rintro ⟨⟩
      exact ⟨List.mem_cons_self, fun n own => List.mem_singleton.mp own ▸ Nat.le_refl _⟩
  | cons l rest ih => exact (ih (c.limit l)).trans (c.earliest_limit rest l m)

end
end Context

/-- What contexts depend on. -/
structure Scene where
  now : Moment
  signals : Signals

namespace Scene

/-- What is done with contexts at some time. -/
inductive Change where
  /-- One that can be canceled is made. -/
  | signal
  | cancel (signal : Nat)
  /-- The handle of a signal is dropped. -/
  | drop (signal : Nat)

/-- A signal can be raised as long as its handle is there. -/
def change (s : Scene) : Change → Scene
  | .signal => { s with signals := s.signals.fresh.2 }
  | .cancel n => if s.signals.isDropped n then s else { s with signals := s.signals.raise n }
  | .drop n => { s with signals := s.signals.drop n }

/-- Some time, and what is done at the end of it. -/
structure Spell where
  span : Duration := .zero
  changes : List Change := []

def spend (s : Scene) (x : Spell) : Scene := x.changes.foldl change { s with now := s.now.add x.span }

def spendAll (s : Scene) (spells : List Spell) : Scene := spells.foldl spend s

/-- The scene at the end of each spell. -/
def trace (s : Scene) : List Spell → List Scene
  | [] => []
  | x :: rest => s.spend x :: (s.spend x).trace rest

/-- The clock goes from one tick to the next. -/
def Spell.millisecond : Spell := { span := .ofMillis 1 }

theorem now_change (s : Scene) (x : Change) : (s.change x).now = s.now := by
  cases x with
  | cancel n =>
    simp only [change]
    split <;> rfl
  | _ => rfl

theorem now_spend (s : Scene) (x : Spell) : (s.spend x).now = s.now.add x.span := by
  have changed (changes : List Change) (u : Scene) : (changes.foldl change u).now = u.now := by
    induction changes generalizing u with
    | nil => rfl
    | cons y rest ih => exact (ih _).trans (now_change u y)
  exact changed x.changes _

theorem trace_append (s : Scene) (spells more : List Spell) :
    s.trace (spells ++ more) = s.trace spells ++ (s.spendAll spells).trace more := by
  induction spells generalizing s with
  | nil => rfl
  | cons x rest ih => exact congrArg (s.spend x :: ·) (ih _)

theorem spendAll_milliseconds (s : Scene) (n : Nat) :
    s.spendAll (List.replicate n .millisecond) = { s with now := s.now.add (.ofMillis n) } := by
  induction n generalizing s with
  | zero =>
    rw [Duration.ofMillis, Nat.zero_mul]
    rfl
  | succ n ih =>
    refine (ih (s.spend .millisecond)).trans ?_
    simp only [spend, Spell.millisecond, List.foldl_nil, Moment.add, Duration.ofMillis, Nat.add_mul]
    rw [Nat.add_assoc, Nat.add_comm (1 * _)]

/-- Time does not run backwards, and a signal is not raised after its handle was dropped. -/
structure Leads (s u : Scene) : Prop where
  later : s.now ≤ u.now
  raised : ∀ n, s.signals.isRaised n = true → u.signals.isRaised n = true
  dropped : ∀ n, s.signals.isDropped n = true →
    u.signals.isDropped n = true ∧ u.signals.isRaised n = s.signals.isRaised n

variable {s u v : Scene}

theorem Leads.refl (s : Scene) : Leads s s := ⟨Nat.le_refl _, fun _ => id, fun _ dropped => ⟨dropped, rfl⟩⟩

theorem Leads.trans (first : Leads s u) (second : Leads u v) : Leads s v where
  later := Nat.le_trans first.later second.later
  raised n := second.raised n ∘ first.raised n
  dropped n gone := by
    obtain ⟨still, same⟩ := first.dropped n gone
    exact (second.dropped n still).imp_right (·.trans same)

theorem leads_change (s : Scene) (x : Change) : Leads s (s.change x) := by
  cases x with
  | signal => exact ⟨Nat.le_refl _, fun _ => id, fun _ gone => ⟨gone, rfl⟩⟩
  | drop n => exact ⟨Nat.le_refl _, fun _ => id, fun m gone => by simp [change, gone]⟩
  | cancel n =>
    by_cases handled : s.signals.isDropped n = true
    · rw [change, if_pos handled]
      exact .refl s
    · rw [change, if_neg handled]
      refine ⟨Nat.le_refl _, fun m raised => by simp [raised], fun m gone => ⟨gone, ?_⟩⟩
      -- A signal whose handle is gone is another one.
      have other : m ≠ n := fun same => handled (same ▸ gone)
      simp [other]

theorem leads_spend (s : Scene) (x : Spell) : Leads s (s.spend x) := by
  have changed (changes : List Change) (u : Scene) : Leads u (changes.foldl change u) := by
    induction changes generalizing u with
    | nil => exact .refl u
    | cons y rest ih => exact (leads_change u y).trans (ih _)
  have passed : Leads s { s with now := s.now.add x.span } :=
    ⟨Nat.le_add_right .., fun _ => id, fun _ gone => ⟨gone, rfl⟩⟩
  exact passed.trans (changed x.changes _)

theorem leads_trace {spells : List Spell} (there : u ∈ s.trace spells) : Leads s u := by
  induction spells generalizing s with
  | nil => cases there
  | cons x rest ih =>
    rcases List.mem_cons.mp there with rfl | later
    · exact leads_spend s x
    · exact (leads_spend s x).trans (ih later)

end Scene

namespace Context

/-- What polling comes to. -/
def errorAt? (c : Context) (s : Scene) : Option ContextError := c.error? s.signals s.now

/-- The context with the tick of its deadline instead. -/
def rounded (c : Context) : Context := { c with deadline := c.deadline.map Moment.tick }

/-- The context as if it could not be canceled. -/
def uncancelable (c : Context) : Context := { c with signal := none }

def isExpired (c : Context) (now : Moment) : Bool := c.deadline.any (· ≤ now)

section
variable {c : Context} {s u : Scene}

theorem errorAt?_eq (c : Context) (s : Scene) : c.errorAt? s =
    if c.isCanceled s.signals then some .canceled
    else if c.isExpired s.now then some .deadlineExceeded
    else none := rfl

theorem errorAt?_rounded_eq (c : Context) (s : Scene) : c.rounded.errorAt? s =
    if c.isCanceled s.signals then some .canceled
    else if c.rounded.isExpired s.now then some .deadlineExceeded
    else none := rfl

theorem isSome_errorAt? (c : Context) (s : Scene) :
    (c.errorAt? s).isSome = (c.isCanceled s.signals || c.isExpired s.now) := by
  rw [errorAt?_eq]
  cases c.isCanceled s.signals
  · cases c.isExpired s.now <;> rfl
  · rfl

theorem isExpired_iff {now : Moment} : c.isExpired now = true ↔ ∃ d, c.deadline = some d ∧ d ≤ now := by
  cases deadline : c.deadline <;> simp [isExpired, deadline]

theorem isCanceled_iff {signals : Signals} :
    c.isCanceled signals = true ↔ ∃ n, c.signal = some n ∧ signals.isRaised n = true := by
  cases signal : c.signal <;> simp [isCanceled, signal]

/-- A context that is done stays done. -/
theorem done_of_leads (leads : Scene.Leads s u) (done : (c.errorAt? s).isSome = true) :
    (c.errorAt? u).isSome = true := by
  rw [isSome_errorAt?, Bool.or_eq_true, isCanceled_iff, isExpired_iff] at done ⊢
  refine done.imp ?_ ?_
  · rintro ⟨n, own, raised⟩
    exact ⟨n, own, leads.raised n raised⟩
  · rintro ⟨d, deadline, reached⟩
    exact ⟨d, deadline, Nat.le_trans reached leads.later⟩

theorem done_limited (done : (c.errorAt? s).isSome = true) (limits : List Limit) :
    ((c.limited limits).errorAt? s).isSome = true := by
  induction limits generalizing c with
  | nil => exact done
  | cons l rest ih =>
    refine ih (c := c.limit l) ?_
    rw [isSome_errorAt?, Bool.or_eq_true] at done ⊢
    rw [limit_eq]
    refine done.imp_right fun expired => ?_
    obtain ⟨d, deadline, reached⟩ := isExpired_iff.mp expired
    simp only [isExpired, withDeadline, deadline, Option.any_some, decide_eq_true_eq]
    split
    · exact reached
    next sooner => exact Nat.le_trans (Nat.le_of_not_le sooner) reached

theorem expired_of_live (live : c.isCanceled s.signals = false) {why : ContextError}
    (done : c.errorAt? s = some why) : why = .deadlineExceeded ∧ ∃ d, c.deadline = some d ∧ d ≤ s.now := by
  rw [errorAt?_eq, live] at done
  simp only [Bool.false_eq_true, if_false] at done
  split at done
  next expired =>
    cases done
    exact ⟨rfl, isExpired_iff.mp expired⟩
  next => cases done

/-- From the tick of the deadline on a context is done too, for the same reason. -/
theorem errorAt?_of_rounded {why : ContextError} (done : c.rounded.errorAt? s = some why) :
    c.errorAt? s = some why := by
  rw [errorAt?_rounded_eq] at done
  rw [errorAt?_eq]
  split at done
  next canceled => rw [if_pos canceled, done]
  next live =>
    rw [if_neg live]
    split at done
    next fired =>
      obtain ⟨_, tick, reached⟩ := isExpired_iff.mp fired
      obtain ⟨d, deadline, rfl⟩ := Option.map_eq_some_iff.mp tick
      rw [if_pos (isExpired_iff.mpr ⟨d, deadline, Nat.le_trans d.le_tick reached⟩), done]
    next => cases done

/-- At a tick polling does not tell a deadline from its tick. -/
theorem errorAt?_rounded (whole : s.now.tick = s.now) : c.rounded.errorAt? s = c.errorAt? s := by
  have same : c.rounded.isExpired s.now = c.isExpired s.now := by
    rw [isExpired, isExpired, rounded, Option.any_map]
    simp only [Moment.tick_le_iff whole]
  rw [errorAt?_rounded_eq, errorAt?_eq, same]

/-- A wait that does not listen to its signal misses nothing. -/
def Wait.Attends (w : Wait) (s : Scene) : Prop := w.deaf = true →
  ∀ n, w.context.signal = some n → s.signals.isDropped n = true ∧ s.signals.isRaised n = false

theorem Wait.Attends.later {w : Wait} (attends : w.Attends s) (leads : Scene.Leads s u) : w.Attends u := by
  intro deaf n own
  obtain ⟨gone, unraised⟩ := attends deaf n own
  obtain ⟨still, same⟩ := leads.dropped n gone
  exact ⟨still, same.trans unraised⟩

/-- Who looks at both sides of the race finds out what polling comes to. -/
theorem Wait.Attends.poll {w : Wait} (attends : w.Attends s) :
    (∀ why, w.context.rounded.errorAt? s = some why → w.poll s.signals s.now = .error why) ∧
    (w.context.rounded.errorAt? s = none → ∃ v : Wait, w.poll s.signals s.now = .ok v ∧ v.context = w.context ∧
      v.Attends s) := by
  have heard : (!w.deaf && w.context.isCanceled s.signals) = w.context.isCanceled s.signals := by
    cases deaf : w.deaf with
    | false => rfl
    | true =>
      symm
      refine Bool.eq_false_iff.mpr fun canceled => ?_
      obtain ⟨n, own, raised⟩ := isCanceled_iff.mp canceled
      cases raised.symm.trans (attends deaf n own).2
  have fires : w.context.wakeAt?.any (· ≤ s.now) = w.context.rounded.isExpired s.now := rfl
  unfold Wait.poll
  rw [heard, fires, errorAt?_rounded_eq]
  by_cases canceled : w.context.isCanceled s.signals = true
  · simp [canceled]
  · by_cases fired : w.context.rounded.isExpired s.now = true
    · simp [canceled, fired]
    · simp only [canceled, fired, Bool.false_eq_true, if_false]
      refine ⟨nofun, fun _ => ⟨_, rfl, rfl, fun deaf n own => ?_⟩⟩
      have unraised : s.signals.isRaised n = false :=
        Bool.eq_false_iff.mpr fun raised => canceled (isCanceled_iff.mpr ⟨n, own, raised⟩)
      rcases Bool.or_eq_true_iff.mp deaf with before | found
      · exact ⟨(attends before n own).1, unraised⟩
      · rw [show w.context.signal = some n from own] at found
        exact ⟨found, unraised⟩

/-- When a wait is over and why, if it looks at both sides of the race in each of these scenes. -/
def Wait.run (w : Wait) : List Scene → Option (Moment × ContextError)
  | [] => none
  | s :: rest =>
    match w.poll s.signals s.now with
    | .error why => some (s.now, why)
    | .ok w => w.run rest

/-- When a wait that begins in a scene is over and why, if it goes on through others. -/
def await (c : Context) (s : Scene) (later : List Scene) : Option (Moment × ContextError) :=
  match c.wait s.signals s.now with
  | .error why => some (s.now, why)
  | .ok w => w.run later

/-- When a context that is polled in each of these scenes is done and why. -/
def firstError? (c : Context) (scenes : List Scene) : Option (Moment × ContextError) :=
  scenes.findSome? fun s => (c.errorAt? s).map (s.now, ·)

theorem firstError?_append (scenes more : List Scene) :
    c.firstError? (scenes ++ more) = (c.firstError? scenes).or (c.firstError? more) := List.findSome?_append

theorem firstError?_singleton (c : Context) (s : Scene) : c.firstError? [s] = (c.errorAt? s).map (s.now, ·) := by
  rw [firstError?, List.findSome?_singleton]

theorem firstError?_congr {d : Context} {scenes : List Scene} (same : ∀ s ∈ scenes, c.errorAt? s = d.errorAt? s) :
    c.firstError? scenes = d.firstError? scenes := by
  induction scenes with
  | nil => rfl
  | cons s rest ih =>
    rw [firstError?, firstError?, List.findSome?_cons, List.findSome?_cons, same s List.mem_cons_self]
    rw [firstError?, firstError?] at ih
    rw [ih fun u there => same u (List.mem_cons_of_mem _ there)]

theorem Wait.Attends.run {w : Wait} (attends : w.Attends s) (spells : List Scene.Spell) :
    w.run (s.trace spells) = w.context.rounded.firstError? (s.trace spells) := by
  induction spells generalizing s w with
  | nil => rfl
  | cons x rest ih =>
    obtain ⟨ends, goes⟩ := (attends.later (Scene.leads_spend s x)).poll
    rw [Scene.trace, Wait.run, firstError?, List.findSome?_cons]
    cases done : w.context.rounded.errorAt? (s.spend x) with
    | some why => rw [ends why done, Option.map_some]
    | none =>
      obtain ⟨v, polled, same, attends'⟩ := goes done
      rw [polled, Option.map_none, ← same]
      exact ih attends'

/-- A wait comes out as polling does, from the tick of the deadline on if the context is not done at once. -/
theorem await_eq (c : Context) (s : Scene) (spells : List Scene.Spell) : c.await s (s.trace spells) =
    ((c.errorAt? s).map (s.now, ·)).or (c.rounded.firstError? (s.trace spells)) := by
  unfold await wait
  rw [← errorAt?]
  cases done : c.errorAt? s with
  | some why => rfl
  | none =>
    have undone : c.rounded.errorAt? s = none :=
      Option.eq_none_iff_forall_not_mem.mpr fun why early => nomatch done.symm.trans (errorAt?_of_rounded early)
    have attends : Wait.Attends ⟨c, false⟩ s := nofun
    obtain ⟨v, polled, same, attends'⟩ := attends.poll.2 undone
    simp only [polled, Option.map_none, Option.none_or, attends'.run, same]

/-- A context that is not canceled when its handle is dropped never will be. -/
theorem errorAt?_uncancelable {n : Nat} (own : c.signal = some n) (gone : s.signals.isDropped n = true)
    (unraised : s.signals.isRaised n = false) (leads : Scene.Leads s u) :
    c.errorAt? u = c.uncancelable.errorAt? u := by
  have live : c.isCanceled u.signals = false := by
    rw [isCanceled, own, Option.any_some, (leads.dropped n gone).2, unraised]
  rw [errorAt?_eq, live]
  rfl

/-- If nobody cancels a context, it is done as soon as the clock reaches the tick of its deadline. -/
theorem firstError?_milliseconds (whole : s.now.tick = s.now) (live : c.isCanceled s.signals = false)
    (ahead : ∀ d, c.deadline = some d → s.now < d.tick) (n : Nat) :
    let finish := s.now.add (.ofMillis n)
    let first := c.rounded.firstError? (s.trace (List.replicate n .millisecond))
    ((∀ d, c.deadline = some d → finish < d.tick) → first = none) ∧
    ∀ d, c.deadline = some d → d.tick ≤ finish → first = some (d.tick, .deadlineExceeded) := by
  induction n generalizing s with
  | zero =>
    refine ⟨fun _ => rfl, fun d deadline reached => ?_⟩
    have early := ahead d deadline
    rw [Duration.ofMillis, Nat.zero_mul] at reached
    exact absurd early (Moment.not_lt.mpr reached)
  | succ n ih =>
    have next : s.spend .millisecond = { s with now := s.now.add (.ofMillis 1) } := rfl
    have whole' := Moment.tick_add whole 1
    have finish : (s.now.add (.ofMillis 1)).add (.ofMillis n) = s.now.add (.ofMillis (n + 1)) := by
      simp only [Moment.add, Duration.ofMillis, Nat.add_mul]
      rw [Nat.add_assoc, Nat.add_comm (1 * _)]
    have step : c.rounded.firstError? (s.trace (List.replicate (n + 1) .millisecond)) =
        ((c.rounded.errorAt? (s.spend .millisecond)).map (s.now.add (.ofMillis 1), ·)).or
          (c.rounded.firstError? ((s.spend .millisecond).trace (List.replicate n .millisecond))) := by
      rw [List.replicate_succ, Scene.trace, ← List.singleton_append, firstError?_append, firstError?_singleton]
      rfl
    have live' : c.rounded.isCanceled (s.spend .millisecond).signals = false := live
    rw [errorAt?_eq, live', next] at step
    by_cases fires : c.rounded.isExpired (s.now.add (.ofMillis 1)) = true
    · obtain ⟨_, tick, reached⟩ := isExpired_iff.mp fires
      obtain ⟨d, deadline, rfl⟩ := Option.map_eq_some_iff.mp tick
      have same : s.now.add (.ofMillis 1) = d.tick :=
        Moment.eq_of_le_of_le (Moment.add_le_tick whole (ahead d deadline)) reached
      simp only [fires, Bool.false_eq_true, if_false, if_true, Option.map_some, Option.some_or] at step
      refine ⟨fun later => ?_, fun e deadline' _ => ?_⟩
      · have past := later d deadline
        rw [← finish, same, Moment.lt_def] at past
        exact absurd past (Nat.not_lt_of_le (Nat.le_add_right ..))
      · cases deadline.symm.trans deadline'
        rw [step, same]
    · simp only [fires, Bool.false_eq_true, if_false, Option.map_none, Option.none_or] at step
      have ahead' (d : Moment) (deadline : c.deadline = some d) : s.now.add (.ofMillis 1) < d.tick := by
        refine Decidable.of_not_not fun reached => fires (isExpired_iff.mpr ⟨d.tick, ?_, Moment.not_lt.mp reached⟩)
        exact Option.map_eq_some_iff.mpr ⟨d, deadline, rfl⟩
      have rest := ih (s := { s with now := s.now.add (.ofMillis 1) }) whole' live ahead'
      rw [finish, ← step] at rest
      exact rest

theorem await_uncancelable {n : Nat} (own : c.signal = some n) (gone : s.signals.isDropped n = true)
    (unraised : s.signals.isRaised n = false) (spells : List Scene.Spell) :
    c.await s (s.trace spells) = c.uncancelable.await s (s.trace spells) := by
  rw [await_eq, await_eq, errorAt?_uncancelable own gone unraised (.refl s)]
  refine congrArg _ (firstError?_congr fun u there => ?_)
  exact errorAt?_uncancelable (c := c.rounded) own gone unraised (Scene.leads_trace there)

end

end Context
end Gatehouse
