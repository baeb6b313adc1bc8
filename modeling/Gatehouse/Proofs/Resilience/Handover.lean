import Gatehouse.Proofs.Resilience.Interruption
import Mathlib.Logic.Relation

/-!
What may happen around the bulkhead, in whatever order. A free permit is handed to a call that waits, and the call
goes on some time after: meanwhile its context may end, its wait may be over and it may be dropped, while others
come, work and end. What a call does behind the bulkhead is left open, but it does it with its permit. No permit is
lost or made on the way, and nothing is invoked for a call that was not admitted.
-/
namespace Gatehouse.Resilience.Traffic

/-- The call waits for a permit. One that holds a permit already was handed it and has not gone on yet. -/
def isWaiting (q : Call × Phase) : Bool :=
  match q.2 with
  | .queued _ => true
  | _ => false

/-- The log goes on, and backends are invoked for some calls only. -/
def Adds (ids : String → Prop) (t u : Traffic) : Prop :=
  ∃ noted, u.log = t.log ++ noted ∧ ∀ e ∈ noted, ∀ id n who, e.2 = .invoked id n who → ids id

theorem unserved_of_waiting {q : Call × Phase} (waits : isWaiting q = true) : isServed q = false := by
  obtain ⟨c, p⟩ := q
  cases p with
  | queued => rfl
  | _ => cases waits

/-- What a call does once it was admitted: it may invoke its backend and touch breakers, but no permit. -/
structure Works (c : Call) (t u : Traffic) : Prop where
  still : Still t u
  calls : u.calls = t.calls
  free : u.free = t.free
  adds : Adds (· = c.id) t u

/-- What can happen to a call: what becomes of the traffic, and how the call goes on, if it does. -/
inductive Deed (t : Traffic) : Call × Phase → Traffic → Option (Call × Phase) → Prop
  | handed {c : Call} {giveUpAt : Option Moment} (bare : c.holdsPermit = false) (room : 0 < t.free) :
    Deed t (c, .queued giveUpAt) { t with free := t.free - 1 }
      (some ({ c with holdsPermit := true }, .queued giveUpAt))
  | admitted {c : Call} {giveUpAt : Option Moment} (handed : c.holdsPermit = true) (calm : t.wakes? c = none) :
    Deed t (c, .queued giveUpAt) t (some (c, .pausing 0 t.now))
  | stopped {c : Call} {giveUpAt : Option Moment} {why : ContextError} (done : t.errorOf? c = some why) :
    Deed t (c, .queued giveUpAt) (t.stop c why) none
  | turnedAway {c : Call} {giveUpAt : Moment} (bare : c.holdsPermit = false) (due : giveUpAt ≤ t.now) :
    Deed t (c, .queued (some giveUpAt))
      (t.finish c (.error (.bulkheadFull ((t.layers.bulkhead.map (·.name)).getD "")))) none
  | worked {c : Call} {p p' : Phase} {u : Traffic} (served : isServed (c, p) = true) (works : Works c t u)
    (on : isServed (c, p') = true) : Deed t (c, p) u (some (c, p'))
  | left {c : Call} {p : Phase} {u : Traffic} (served : isServed (c, p) = true) (works : Works c t u) :
    Deed t (c, p) (u.release c) none
  | dropped {q : Call × Phase} : Deed t q (t.dropped q) none
  | woken {c : Call} {why : ContextError} (done : t.errorOf? c = some why) :
    Deed t (c, .watching) (t.note (.woken c.id why)) none

/-- No call or event has this name yet. -/
def Unused (t : Traffic) (id : String) : Prop :=
  (∀ q ∈ t.calls, q.1.id ≠ id) ∧ ∀ e ∈ t.log, e.2.call? ≠ some id

/-- What can happen next. The clock and the signals may show anything. -/
inductive Step (t : Traffic) : Traffic → Prop
  | reordered {calls : List (Call × Phase)} (same : t.calls.Perm calls) : Step t (t.among calls)
  | deed {q : Call × Phase} {others : List (Call × Phase)} {u : Traffic} {next : Option (Call × Phase)}
    (there : t.calls.Perm (others ++ [q])) (deed : Deed t q u next) : Step t (u.among (others ++ next.toList))
  | joined {c : Call} (giveUpAt : Option Moment) (bare : c.holdsPermit = false) (unused : t.Unused c.id) :
    Step t (t.hold c (.queued giveUpAt))
  | watched {c : Call} (bare : c.holdsPermit = false) (unused : ∀ q ∈ t.calls, q.1.id ≠ c.id) :
    Step t (t.hold c .watching)
  /-- Breakers are looked at or reset, or someone is told that a context is done. -/
  | aside {u : Traffic} (quiet : Quiet t u) (free : u.free = t.free) : Step t u
  | signaled (signals : Signals) : Step t { t with signals }
  | lapsed (now : Moment) : Step t { t with now }

abbrev Leads : Traffic → Traffic → Prop := Relation.ReflTransGen Step

variable {t u v : Traffic} {q : Call × Phase} {next : Option (Call × Phase)} {others : List (Call × Phase)}

theorem Adds.refl (ids : String → Prop) (t : Traffic) : Adds ids t t :=
  ⟨[], (List.append_nil _).symm, fun _ none => absurd none List.not_mem_nil⟩

theorem Adds.trans {ids : String → Prop} (first : Adds ids t u) (second : Adds ids u v) : Adds ids t v := by
  obtain ⟨noted, log, own⟩ := first
  obtain ⟨more, log', own'⟩ := second
  refine ⟨noted ++ more, by rw [log', log, List.append_assoc], fun e member => ?_⟩
  exact (List.mem_append.mp member).elim (own e) (own' e)

theorem Quiet.adds (quiet : Quiet t u) (ids : String → Prop) : Adds ids t u := by
  obtain ⟨noted, log, silent⟩ := quiet.log
  exact ⟨noted, log, fun e member id n who invoked => absurd invoked (silent e member id n who)⟩

theorem Adds.mono {ids wider : String → Prop} (adds : Adds ids t u) (more : ∀ id, ids id → wider id) :
    Adds wider t u := by
  obtain ⟨noted, log, own⟩ := adds
  exact ⟨noted, log, fun e member id n who invoked => more id (own e member id n who invoked)⟩

@[simp] theorem free_dropped (t : Traffic) (q : Call × Phase) :
    (t.dropped q).free = t.free + q.1.holdsPermit.toNat := by
  obtain ⟨c, p⟩ := q
  cases p <;> simp [dropped]

/-- What happens to a call changes no other call, and a backend is invoked by a call that was admitted. -/
theorem Deed.effect (deed : Deed t q u next) :
    Still t u ∧ u.calls = t.calls ∧ Adds (fun id => isServed q = true ∧ id = q.1.id) t u := by
  have quietly {u : Traffic} (quiet : Quiet t u) :
      Still t u ∧ u.calls = t.calls ∧ Adds (fun id => isServed q = true ∧ id = q.1.id) t u :=
    ⟨quiet.still.1, quiet.calls, quiet.adds _⟩
  cases deed with
  | handed => exact ⟨⟨rfl, rfl, rfl⟩, rfl, [], (List.append_nil _).symm, fun _ none => absurd none List.not_mem_nil⟩
  | admitted => exact quietly (.refl t)
  | stopped | turnedAway => exact quietly (quiet_finish ..)
  | worked served works => exact ⟨works.still, works.calls, works.adds.mono fun _ own => ⟨served, own⟩⟩
  | @left c p w served works =>
    have given := quiet_release w c
    refine ⟨works.still.trans given.still.1, given.calls.trans works.calls, ?_⟩
    exact (works.adds.mono fun _ own => ⟨served, own⟩).trans (given.adds _)
  | dropped => exact quietly (quiet_dropped t q)
  | woken => exact quietly (quiet_note t fun _ _ _ => Event.noConfusion)

theorem Deed.among (deed : Deed t q u next) (cs : List (Call × Phase)) :
    Deed (t.among cs) q (u.among cs) next := by
  have worked {c : Call} {u : Traffic} (works : Works c t u) : Works c (t.among cs) (u.among cs) :=
    ⟨⟨works.still.layers, works.still.now, works.still.signals⟩, rfl, works.free, works.adds⟩
  cases deed with
  | handed bare room => exact .handed bare room
  | admitted handed calm => exact .admitted handed calm
  | stopped done =>
    rw [stop, ← among_finish]
    exact .stopped done
  | turnedAway bare due =>
    rw [← among_finish]
    exact .turnedAway bare due
  | worked served works on => exact .worked served (worked works) on
  | left served works =>
    rw [← among_release]
    exact .left served (worked works)
  | dropped =>
    rw [← among_dropped]
    exact .dropped
  | woken done => exact .woken done

theorem Deed.same_id (deed : Deed t q u next) : ∀ p ∈ next, p.1.id = q.1.id := by
  intro p own
  cases deed <;> cases own <;> rfl

/-- A call that goes on is served with a permit, or it waits as before. -/
theorem Deed.onward (deed : Deed t q u next) (held : isServed q = true → q.1.holdsPermit = true) :
    ∀ p ∈ next, isServed p = true ∧ p.1.holdsPermit = true ∨ isWaiting p = true ∧ isWaiting q = true := by
  intro p own
  cases deed with
  | handed =>
    cases own
    exact .inr ⟨rfl, rfl⟩
  | admitted handed =>
    cases own
    exact .inl ⟨rfl, handed⟩
  | worked served _ on =>
    cases own
    exact .inl ⟨on, held served⟩
  | _ => cases own

def Uninvoked (t : Traffic) (id : String) : Prop := ∀ e ∈ t.log, ∀ n who, e.2 ≠ .invoked id n who

theorem Adds.uninvoked {ids : String → Prop} (adds : Adds ids t u) {id : String} (uninvoked : t.Uninvoked id)
    (other : ¬ ids id) : u.Uninvoked id := by
  obtain ⟨noted, log, own⟩ := adds
  intro e member n who invoked
  rw [log] at member
  rcases List.mem_append.mp member with old | new
  · exact uninvoked e old n who invoked
  · exact other (own e new id n who invoked)

/-- Every permit is free or with a call, a call that was admitted has one, and the backend was not invoked for a
call that waits. -/
structure Conserves (total : Nat) (t : Traffic) : Prop where
  permits : t.free + t.calls.countP (·.1.holdsPermit) = total
  served : ∀ q ∈ t.calls, isServed q = true → q.1.holdsPermit = true
  watching : ∀ q ∈ t.calls, q.2 = .watching → q.1.holdsPermit = false
  distinct : Distinct t
  uninvoked : ∀ q ∈ t.calls, isWaiting q = true → t.Uninvoked q.1.id

variable {total : Nat}

theorem Conserves.perm (conserves : Conserves total t) {calls : List (Call × Phase)} (same : t.calls.Perm calls) :
    Conserves total (t.among calls) where
  permits := by
    rw [among_calls, ← same.countP_eq]
    exact conserves.permits
  served q member := conserves.served q (same.mem_iff.mpr member)
  watching q member := conserves.watching q (same.mem_iff.mpr member)
  distinct := conserves.distinct.perm same
  uninvoked q member := conserves.uninvoked q (same.mem_iff.mpr member)

theorem Conserves.same (conserves : Conserves total t) (calls : u.calls = t.calls) (free : u.free = t.free)
    (adds : Adds (fun _ => False) t u) : Conserves total u := by
  obtain ⟨permits, served, watching, distinct, uninvoked⟩ := conserves
  rw [← calls, ← free] at permits
  rw [← calls] at served watching uninvoked
  unfold Distinct at distinct
  rw [← calls] at distinct
  exact ⟨permits, served, watching, distinct, fun q member waits => adds.uninvoked (uninvoked q member waits) id⟩

theorem Conserves.hold (conserves : Conserves total t) {c : Call} {p : Phase} (bare : c.holdsPermit = false)
    (unserved : isServed (c, p) = false) (fresh : ∀ q ∈ t.calls, q.1.id ≠ c.id)
    (uninvoked : isWaiting (c, p) = true → t.Uninvoked c.id) : Conserves total (t.hold c p) := by
  have each {motive : Call × Phase → Prop} (old : ∀ q ∈ t.calls, motive q) (new : motive (c, p)) :
      ∀ q ∈ (t.hold c p).calls, motive q := by
    intro q member
    rcases List.mem_append.mp member with there | own
    · exact old q there
    · exact List.mem_singleton.mp own ▸ new
  refine ⟨?_, ?_, ?_, conserves.distinct.hold c p fresh, ?_⟩
  · show t.free + (t.calls ++ [(c, p)]).countP _ = total
    rw [List.countP_append, List.countP_singleton, bare]
    exact conserves.permits
  · exact each conserves.served fun served => by simp [unserved] at served
  · exact each conserves.watching fun _ => bare
  · exact each (motive := fun q => isWaiting q = true → t.Uninvoked q.1.id) conserves.uninvoked uninvoked

/-- A permit is with a call before and after whatever happens to it, or it is free. -/
theorem Deed.permits (deed : Deed t q u next) (watching : q.2 = .watching → q.1.holdsPermit = false) :
    u.free + next.toList.countP (·.1.holdsPermit) = t.free + q.1.holdsPermit.toNat := by
  cases deed with
  | handed bare room => simpa [bare] using Nat.sub_add_cancel room
  | admitted handed => simp [handed]
  | stopped => simp [stop]
  | turnedAway => simp
  | @worked c _ _ _ _ works =>
    rw [works.free]
    cases held : c.holdsPermit <;> simp [held]
  | left _ works => simp [works.free]
  | dropped => simp
  | @woken c =>
    have bare : c.holdsPermit = false := watching rfl
    simp [note, bare]

theorem Conserves.deed (conserves : Conserves total t) (there : t.calls.Perm (others ++ [q]))
    (deed : Deed t q u next) : Conserves total (u.among (others ++ next.toList)) := by
  obtain ⟨permits, served, watching, distinct, uninvoked⟩ := conserves.perm there
  have own : q ∈ others ++ [q] := List.mem_append_right _ List.mem_cons_self
  have other (p : Call × Phase) (member : p ∈ others) : p ∈ others ++ [q] := List.mem_append_left _ member
  have onward := deed.onward (served q own)
  have adds := deed.effect.2.2
  have each {motive : Call × Phase → Prop} (old : ∀ p ∈ others, motive p) (new : ∀ p ∈ next, motive p) :
      ∀ p ∈ others ++ next.toList, motive p := by
    intro p member
    rcases List.mem_append.mp member with there | here
    · exact old p there
    · exact new p (Option.mem_toList.mp here)
  constructor
  case permits =>
    have before : t.free + (others ++ [q]).countP (·.1.holdsPermit) = total := permits
    have same := deed.permits (watching q own)
    show u.free + (others ++ next.toList).countP (·.1.holdsPermit) = total
    rw [List.countP_append, List.countP_singleton] at before
    rw [List.countP_append]
    cases held : q.1.holdsPermit <;> simp only [held, Bool.toNat_false, Bool.toNat_true, if_true,
      Bool.false_eq_true, if_false] at same before <;> omega
  case served =>
    refine each (fun p member => served p (other p member)) fun p here on => ?_
    rcases onward p here with ⟨-, held⟩ | ⟨waits, -⟩
    · exact held
    · cases on.symm.trans (unserved_of_waiting waits)
  case watching =>
    -- nothing turns into a watcher: who goes on is served or waits
    refine each (fun p member => watching p (other p member)) fun p here watches => ?_
    obtain ⟨c, _⟩ := p
    cases watches
    rcases onward _ here with ⟨served, -⟩ | ⟨waits, -⟩
    · cases served
    · cases waits
  case distinct => exact distinct.next deed.same_id
  case uninvoked =>
    -- the backend is invoked for `q` alone, and then `q` is served: the others have other names
    refine each (motive := fun p => isWaiting p = true → Uninvoked _ p.1.id) (fun p member waits => ?_)
      fun p here waits => ?_
    · exact adds.uninvoked (uninvoked p (other p member) waits) fun invoked => distinct.apart p member invoked.2
    · rcases onward p here with ⟨on, -⟩ | ⟨-, waited⟩
      · cases on.symm.trans (unserved_of_waiting waits)
      · rw [deed.same_id p here]
        refine adds.uninvoked (uninvoked q own waited) fun invoked => ?_
        cases invoked.1.symm.trans (unserved_of_waiting waited)

theorem Step.conserves (step : Step t u) (conserves : Conserves total t) : Conserves total u := by
  cases step with
  | reordered same => exact conserves.perm same
  | deed there deed => exact conserves.deed there deed
  | joined giveUpAt bare unused =>
    refine conserves.hold bare rfl unused.1 fun _ e member n who invoked => unused.2 e member ?_
    rw [invoked]
    rfl
  | watched bare unused => exact conserves.hold bare rfl unused nofun
  | aside quiet free => exact conserves.same quiet.calls free (quiet.adds _)
  | signaled | lapsed => exact conserves.same rfl rfl (.refl ..)

theorem conserves_ofLayers (layers : Layers) : Conserves (ofLayers layers).free (ofLayers layers) :=
  ⟨rfl, List.forall_mem_nil _, List.forall_mem_nil _, List.nodup_nil, List.forall_mem_nil _⟩

theorem Leads.conserves (leads : Leads t u) (conserves : Conserves total t) : Conserves total u := by
  induction leads with
  | refl => exact conserves
  | tail _ step ih => exact step.conserves ih

/-- A call that waits goes on with the permit that it was handed. It was not canceled, and the timer of its deadline
has not fired. -/
def Admission (c : Call) (t u : Traffic) : Prop :=
  ∃ others giveUpAt, t.calls.Perm (others ++ [(c, .queued giveUpAt)]) ∧ c.holdsPermit = true ∧
    t.wakes? c = none ∧ u = t.among (others ++ [(c, .pausing 0 t.now)])

/-- A call of this name was admitted on the way, and the backend was not invoked for it before. -/
def AdmittedBy (origin t : Traffic) (id : String) : Prop :=
  ∃ v w c, Leads origin v ∧ Admission c v w ∧ Leads w t ∧ c.id = id ∧ v.Uninvoked id

theorem AdmittedBy.step {origin : Traffic} {id : String} (admitted : AdmittedBy origin t id) (step : Step t u) :
    AdmittedBy origin u id := by
  obtain ⟨v, w, c, before, admission, after, own, uninvoked⟩ := admitted
  exact ⟨v, w, c, before, admission, after.tail step, own, uninvoked⟩

theorem mem_of_perm {others : List (Call × Phase)} (there : t.calls.Perm (others ++ [q])) : q ∈ t.calls :=
  there.mem_iff.mpr (List.mem_append_right _ List.mem_cons_self)

theorem Step.adds (step : Step t u) : Adds (fun id => ∃ q ∈ t.calls, isServed q = true ∧ q.1.id = id) t u := by
  cases step with
  | deed there deed =>
    exact deed.effect.2.2.mono fun id own => ⟨_, mem_of_perm there, own.1, own.2.symm⟩
  | aside quiet => exact quiet.adds _
  | reordered | joined | watched | signaled | lapsed => exact .refl ..

/-- Who is served after a step was served before or is admitted by it. -/
theorem Step.served (step : Step t u) {p : Call × Phase} (member : p ∈ u.calls) (served : isServed p = true) :
    (∃ q ∈ t.calls, isServed q = true ∧ q.1.id = p.1.id) ∨ ∃ c, Admission c t u ∧ c.id = p.1.id := by
  cases step with
  | reordered same => exact .inl ⟨p, same.mem_iff.mpr member, served, rfl⟩
  | @deed q others w next there deed =>
    rcases List.mem_append.mp member with other | own
    · exact .inl ⟨p, there.mem_iff.mpr (List.mem_append_left _ other), served, rfl⟩
    · have here := Option.mem_toList.mp own
      cases deed with
      | handed =>
        cases here
        cases served
      | admitted handed calm =>
        cases here
        exact .inr ⟨_, ⟨others, _, there, handed, calm, rfl⟩, rfl⟩
      | worked before =>
        cases here
        exact .inl ⟨_, mem_of_perm there, before, rfl⟩
      | _ => cases here
  | joined | watched =>
    rcases List.mem_append.mp member with old | new
    · exact .inl ⟨p, old, served, rfl⟩
    · cases List.mem_singleton.mp new
      cases served
  | aside quiet => exact .inl ⟨p, quiet.calls ▸ member, served, rfl⟩
  | signaled | lapsed => exact .inl ⟨p, member, served, rfl⟩

/-- Who is served and whose backend was invoked was admitted. -/
structure Traced (origin t : Traffic) : Prop where
  served : ∀ q ∈ t.calls, isServed q = true → AdmittedBy origin t q.1.id
  invoked : ∀ e ∈ t.log, ∀ id n who, e.2 = .invoked id n who → AdmittedBy origin t id

theorem Leads.traced {origin : Traffic} (leads : Leads origin t) (conserves : Conserves total origin)
    (calls : origin.calls = []) (log : origin.log = []) : Traced origin t := by
  induction leads with
  | refl =>
    refine ⟨fun q member => ?_, fun e member => ?_⟩
    · rw [calls] at member
      cases member
    · rw [log] at member
      cases member
  | @tail t u leads step ih =>
    refine ⟨fun p member served => ?_, fun e member id n who invoked => ?_⟩
    · rcases step.served member served with ⟨q, there, before, same⟩ | ⟨c, admission, same⟩
      · exact same ▸ (ih.served q there before).step step
      · -- it is admitted just now, so it waited until now
        have admission' := admission
        obtain ⟨others, giveUpAt, there, -⟩ := admission'
        have silent := (Leads.conserves leads conserves).uninvoked _ (mem_of_perm there) rfl
        exact ⟨t, u, c, leads, admission, .refl, same, same ▸ silent⟩
    · obtain ⟨noted, grown, own⟩ := step.adds
      rw [grown] at member
      rcases List.mem_append.mp member with old | new
      · exact (ih.invoked e old id n who invoked).step step
      · obtain ⟨q, there, served, same⟩ := own e new id n who invoked
        exact same ▸ (ih.served q there served).step step

/-- A call is rejected by the bulkhead: while it waits its context is done, or its wait is over. -/
inductive Rejection (c : Call) (t : Traffic) : Traffic → Prop
  | stopped {others : List (Call × Phase)} {giveUpAt : Option Moment} {why : ContextError}
    (there : t.calls.Perm (others ++ [(c, .queued giveUpAt)])) (done : t.errorOf? c = some why) :
    Rejection c t ((t.stop c why).among others)
  | turnedAway {others : List (Call × Phase)} {giveUpAt : Moment}
    (there : t.calls.Perm (others ++ [(c, .queued (some giveUpAt))])) (bare : c.holdsPermit = false)
    (due : giveUpAt ≤ t.now) :
    Rejection c t
      ((t.finish c (.error (.bulkheadFull ((t.layers.bulkhead.map (·.name)).getD "")))).among others)

/-- The call of this name is over, and its backend was never invoked. -/
structure Spent (id : String) (t : Traffic) : Prop where
  calls : ∀ q ∈ t.calls, q.2 = .watching ∨ q.1.id ≠ id
  told : ∃ e ∈ t.log, e.2.call? = some id
  uninvoked : t.Uninvoked id

theorem spent_finish {c : Call} {giveUpAt : Option Moment} (conserves : Conserves total t)
    (there : t.calls.Perm (others ++ [(c, .queued giveUpAt)])) (result : Except CallError Nat) :
    Spent c.id ((t.finish c result).among others) where
  calls q member := .inr ((conserves.perm there).distinct.apart q member)
  told := by
    refine ⟨(t.now, .done c.id result), ?_, rfl⟩
    show _ ∈ (t.finish c result).log
    rw [log_finish]
    exact List.mem_append_right _ List.mem_cons_self
  uninvoked := ((quiet_finish t c result).adds fun _ => False).uninvoked
    (conserves.uninvoked _ (mem_of_perm there) rfl) id

theorem Rejection.spent {c : Call} (rejection : Rejection c t u) (conserves : Conserves total t) : Spent c.id u := by
  cases rejection with
  | stopped there => exact spent_finish conserves there _
  | turnedAway there => exact spent_finish conserves there _

theorem Step.spent {id : String} (step : Step t u) (spent : Spent id t) : Spent id u := by
  obtain ⟨calls, ⟨e, member, call⟩, uninvoked⟩ := spent
  obtain ⟨noted, grown, -⟩ := step.adds
  refine ⟨?_, ⟨e, ?_, call⟩, ?_⟩
  · cases step with
    | reordered same => exact fun q there => calls q (same.mem_iff.mpr there)
    | @deed q others w next there deed =>
      intro p member
      rcases List.mem_append.mp member with other | own
      · exact calls p (there.mem_iff.mpr (List.mem_append_left _ other))
      · have here := Option.mem_toList.mp own
        rcases calls q (mem_of_perm there) with watching | apart
        · cases deed with
          | dropped | woken | left => cases here
          | worked served =>
            cases watching
            cases served
          | _ => cases watching
        · exact .inr ((deed.same_id p here).symm ▸ apart)
    | joined giveUpAt bare unused =>
      intro p member
      rcases List.mem_append.mp member with old | new
      · exact calls p old
      · cases List.mem_singleton.mp new
        -- the log already tells of the one that is over, so no other joins under its name
        exact .inr fun same => unused.2 e ‹_› (same ▸ call)
    | watched =>
      intro p member
      rcases List.mem_append.mp member with old | new
      · exact calls p old
      · exact .inl (List.mem_singleton.mp new ▸ rfl)
    | aside quiet =>
      rw [quiet.calls]
      exact calls
    | signaled | lapsed => exact calls
  · rw [grown]
    exact List.mem_append_left _ member
  · refine step.adds.uninvoked uninvoked ?_
    rintro ⟨⟨c, p⟩, there, served, rfl⟩
    rcases calls _ there with watching | other
    · cases watching
      cases served
    · exact other rfl

theorem Leads.spent {id : String} (leads : Leads t u) (spent : Spent id t) : Spent id u := by
  induction leads with
  | refl => exact spent
  | tail _ step ih => exact step.spent ih

end Gatehouse.Resilience.Traffic
