import Mathlib.Data.List.Permutation
import Gatehouse.Proofs.Resilience.Handover

/-!
The permits of the bulkhead. Whatever is done with traffic comes about by steps that may happen around the bulkhead
in any order, so no permit is ever lost or made: calls that were admitted hold theirs, the others are free, and the
backend is invoked for no call that was not admitted. Who waits is woken by the timer of its deadline and no longer
looks at the deadline itself, so a permit that is free between the two still admits it.
-/
namespace Gatehouse.Resilience.Traffic

variable {origin t u v : Traffic} {c : Call} {p : Phase} {others : List (Call × Phase)}

theorem Quiet.works (quiet : Quiet t u) (free : u.free = t.free) (c : Call) : Works c t u :=
  ⟨quiet.still.1, quiet.calls, free, quiet.adds _⟩

theorem Works.trans (first : Works c t u) (second : Works c u v) : Works c t v :=
  ⟨first.still.trans second.still, second.calls.trans first.calls, second.free.trans first.free,
    first.adds.trans second.adds⟩

theorem works_record (t : Traffic) (c : Call) (ticket : Option Ticket) (v : Verdict) :
    Works c t (t.record c ticket v) :=
  (quiet_record ..).works (free_record ..) c

theorem works_done (t : Traffic) (c : Call) (result : Except CallError Nat) : Works c t (t.note (.done c.id result)) :=
  (quiet_note t fun _ _ _ => Event.noConfusion).works rfl c

theorem works_of_ask {answer : Except CallError (Option Ticket)} (asked : t.ask c = (answer, u)) : Works c t u := by
  have works : Works c t (t.ask c).2 := (quiet_ask t c).works (free_ask t c) c
  rw [asked] at works
  exact works

theorem works_invoke (t : Traffic) (c : Call) (attempt : Nat) :
    Works c t (t.note (.invoked c.id attempt c.principal)) := by
  refine ⟨⟨rfl, rfl, rfl⟩, rfl, rfl, [(t.now, .invoked c.id attempt c.principal)], rfl, fun e member => ?_⟩
  intro id n who invoked
  rw [List.mem_singleton.mp member] at invoked
  exact (Event.invoked.inj invoked).1.symm

theorem works_of_conclude {attempt left : Nat} {ticket : Option Ticket} {r : End} {next : Next}
    (concluded : t.conclude c attempt left ticket r = (u, next)) :
    (next = .ended ∧ ∃ w, Works c t w ∧ u = w.release c) ∨
      ∃ pause, next = .again pause ∧ left ≠ 0 ∧ Works c t u := by
  have finished (v : Verdict) (result : Except CallError Nat) :
      ∃ w, Works c t w ∧ (t.record c ticket v).finish c result = w.release c :=
    ⟨_, (works_record t c ticket v).trans (works_done _ c result), rfl⟩
  cases r with
  | crash =>
    cases concluded
    exact .inl ⟨rfl, _, works_record t c ticket .abandoned, rfl⟩
  | success =>
    cases concluded
    exact .inl ⟨rfl, finished ..⟩
  | failure e =>
    unfold conclude at concluded
    simp only at concluded
    repeat' split at concluded
    all_goals cases concluded
    all_goals first
      | exact .inl ⟨rfl, finished ..⟩
      | exact .inr ⟨_, rfl, ‹_›, works_record t c ticket .failure⟩

/-- Traffic that came about step by step, with some of its calls set aside, in which no call that waits was handed
a permit. -/
structure Comes (origin : Traffic) (others : List (Call × Phase)) (t : Traffic) : Prop where
  leads : Leads origin (t.among (others ++ t.calls))
  bare : ∀ q ∈ others ++ t.calls, isWaiting q = true → q.1.holdsPermit = false

theorem Comes.perm (comes : Comes origin others t) {aside calls : List (Call × Phase)}
    (same : (others ++ t.calls).Perm (aside ++ calls)) : Comes origin aside (t.among calls) where
  leads := comes.leads.tail (.reordered (t := t.among (others ++ t.calls)) same)
  bare q member := comes.bare q (same.mem_iff.mpr member)

theorem Leads.deed {q : Call × Phase} {next : Option (Call × Phase)} (leads : Leads origin (t.among (others ++ [q])))
    (deed : Deed t q u next) : Leads origin (u.among (others ++ next.toList)) :=
  leads.tail (.deed (u := u.among (others ++ [q])) (.refl _) (deed.among _))

theorem Comes.apart (comes : Comes origin others (t.hold c p)) :
    Leads origin (t.among ((others ++ t.calls) ++ [(c, p)])) := by
  rw [List.append_assoc]
  exact comes.leads

theorem Comes.follow {next : Option (Call × Phase)} (comes : Comes origin others (t.hold c p))
    (leads : Leads origin (u.among ((others ++ t.calls) ++ next.toList)))
    (unwaiting : ∀ q ∈ next, isWaiting q = false) : Comes origin others (u.among (t.calls ++ next.toList)) := by
  rw [List.append_assoc] at leads
  refine ⟨leads, fun q member waits => ?_⟩
  rw [among_calls, ← List.append_assoc] at member
  rcases List.mem_append.mp member with other | own
  · refine comes.bare q ?_ waits
    show q ∈ others ++ (t.calls ++ [(c, p)])
    rw [← List.append_assoc]
    exact List.mem_append_left _ other
  · cases (unwaiting q (Option.mem_toList.mp own)).symm.trans waits

theorem Comes.ended (comes : Comes origin others (t.hold c p)) (deed : Deed t (c, p) u none) :
    Comes origin others u := by
  have after := comes.follow (comes.apart.deed deed) none_left
  rw [Option.toList_none, List.append_nil, ← deed.effect.2.1] at after
  exact after

theorem Comes.held {c' : Call} {p' : Phase} (comes : Comes origin others (t.hold c p))
    (deed : Deed t (c, p) u (some (c', p'))) (unwaiting : isWaiting (c', p') = false) :
    Comes origin others (u.hold c' p') := by
  have after := comes.follow (comes.apart.deed deed) fun q own => Option.mem_some.mp own ▸ unwaiting
  rw [Option.toList_some, ← deed.effect.2.1] at after
  exact after

/-- Such traffic with a call apart that was admitted and is on its way. -/
def Serving (origin : Traffic) (others : List (Call × Phase)) (c : Call) (t : Traffic) : Prop :=
  ∃ p, isServed (c, p) = true ∧ Comes origin others (t.hold c p)

theorem unwaiting_of_served {q : Call × Phase} (served : isServed q = true) : isWaiting q = false :=
  Bool.eq_false_iff.mpr fun waits => by cases served.symm.trans (unserved_of_waiting waits)

theorem Serving.works (serving : Serving origin others c t) (works : Works c t u) : Serving origin others c u := by
  obtain ⟨p, served, comes⟩ := serving
  exact ⟨p, served, comes.held (.worked served works served) (unwaiting_of_served served)⟩

theorem Serving.hold (serving : Serving origin others c t) (on : isServed (c, p) = true) :
    Comes origin others (t.hold c p) := by
  obtain ⟨p', served, comes⟩ := serving
  exact comes.held (.worked served ((Quiet.refl t).works rfl c) on) (unwaiting_of_served on)

theorem Serving.release (serving : Serving origin others c t) : Comes origin others (t.release c) := by
  obtain ⟨p, served, comes⟩ := serving
  exact comes.ended (.left served ((Quiet.refl t).works rfl c))

theorem Serving.finish (serving : Serving origin others c t) (result : Except CallError Nat) :
    Comes origin others (t.finish c result) := (serving.works (works_done t c result)).release

theorem Serving.concluded (serving : Serving origin others c t) {attempt left : Nat} {ticket : Option Ticket}
    {r : End} (concluded : t.conclude c attempt left ticket r = (u, .ended)) : Comes origin others u := by
  rcases works_of_conclude concluded with ⟨-, w, works, rfl⟩ | ⟨_, again, -⟩
  · exact (serving.works works).release
  · cases again

theorem Serving.again (serving : Serving origin others c t) {attempt left : Nat} {ticket : Option Ticket}
    {r : End} {pause : Duration} (concluded : t.conclude c attempt left ticket r = (u, .again pause)) :
    left ≠ 0 ∧ Serving origin others c u := by
  rcases works_of_conclude concluded with ⟨ended, -⟩ | ⟨_, -, more, works⟩
  · cases ended
  · exact ⟨more, serving.works works⟩

theorem Serving.invoke (serving : Serving origin others c t) {ticket : Except CallError (Option Ticket)}
    (asked : t.ask c = (ticket, u)) (attempt : Nat) :
    Serving origin others c (u.note (.invoked c.id attempt c.principal)) :=
  serving.works ((works_of_ask asked).trans (works_invoke u c attempt))

theorem Serving.begin (serving : Serving origin others c t) (left attempt : Nat) :
    Comes origin others (begin c left attempt t) := by
  fun_induction Traffic.begin c left attempt t with
  | case1 => exact serving.finish _
  | case2 left attempt t _ _ e u asked => exact (serving.works (works_of_ask asked)).finish _
  | case3 left attempt t _ _ ticket u asked _ _ _ v concluded =>
    simp only [concluded]
    exact (serving.invoke asked attempt).concluded concluded
  | case4 attempt t _ _ ticket u asked _ _ _ v pause concluded =>
    exact absurd rfl ((serving.invoke asked attempt).again concluded).1
  | case5 attempt t _ _ ticket u asked _ _ _ v pause left soon concluded ih =>
    simp only [concluded]
    rw [if_pos soon]
    exact ih ((serving.invoke asked attempt).again concluded).2
  | case6 attempt t _ _ ticket u asked _ _ _ v pause left lasts concluded =>
    simp only [concluded]
    rw [if_neg lasts]
    exact ((serving.invoke asked attempt).again concluded).2.hold rfl
  | case7 left attempt t _ _ ticket u asked => exact (serving.invoke asked attempt).hold rfl

theorem Comes.bare_queued {giveUpAt : Option Moment} (comes : Comes origin others (t.hold c (.queued giveUpAt))) :
    c.holdsPermit = false :=
  comes.bare (c, .queued giveUpAt) (List.mem_append_right _ (List.mem_append_right _ List.mem_cons_self)) rfl

/-- Who waits gets a free permit and goes on with it at once. -/
theorem Comes.permitted {giveUpAt : Option Moment} (comes : Comes origin others (t.hold c (.queued giveUpAt)))
    (calm : t.wakes? c = none) (room : 0 < t.free) :
    Comes origin others ({ t with free := t.free - 1 }.enter { c with holdsPermit := true }) := by
  have handed := comes.apart.deed (.handed comes.bare_queued room)
  have admitted := handed.deed (.admitted rfl calm)
  exact Serving.begin ⟨.pausing 0 t.now, rfl, comes.follow admitted fun q own => Option.mem_some.mp own ▸ rfl⟩ _ _

theorem Comes.takeOut (comes : Comes origin others t) {rest : List (Call × Phase)}
    (there : t.calls.Perm (rest ++ [(c, p)])) : Comes origin others ((t.among rest).hold c p) :=
  comes.perm (there.append_left others)

theorem Comes.serve (comes : Comes origin others t) (fuel : Nat) : Comes origin others (serve fuel t) := by
  fun_induction Traffic.serve fuel t with
  | case1 | case2 | case3 => exact comes
  | case4 fuel t _ c rest taken w why woken ih =>
    obtain ⟨giveUpAt, there⟩ := perm_of_takeQueued taken
    exact ih ((comes.takeOut there).ended (.stopped (errorOf?_of_wakes? woken)))
  | case5 fuel t room c rest taken w calm ih =>
    obtain ⟨giveUpAt, there⟩ := perm_of_takeQueued taken
    exact ih ((comes.takeOut there).permitted calm (Nat.pos_of_ne_zero room))

theorem Comes.settle (comes : Comes origin others t) : Comes origin others t.settle := comes.serve _

theorem Comes.visit (comes : Comes origin others (t.hold c p)) : Comes origin others (t.visit c p) := by
  unfold Traffic.visit
  split
  next why woken =>
    cases p with
    | watching => exact comes.ended (.woken (errorOf?_of_wakes? woken))
    | attempting attempt ticket finishAt =>
      have serving : Serving origin others c t := ⟨_, rfl, comes⟩
      exact (serving.works (works_record t c ticket .abandoned)).finish _
    | queued => exact comes.ended (.stopped (errorOf?_of_wakes? woken))
    | pausing => exact Serving.finish ⟨_, rfl, comes⟩ _
  next unwoken =>
    split
    next fires =>
      obtain ⟨m, timer, due⟩ := isDue_iff.mp fires
      cases p with
      | watching => cases timer
      | queued giveUpAt =>
        obtain rfl : giveUpAt = some m := timer
        simp only [resume]
        split
        next room => exact comes.permitted unwoken room
        next => exact comes.ended (.turnedAway comes.bare_queued due)
      | pausing attempt finish => exact Serving.begin ⟨_, rfl, comes⟩ _ _
      | attempting attempt ticket finishAt =>
        have serving : Serving origin others c t := ⟨_, rfl, comes⟩
        simp only [resume]
        split
        next u concluded => exact serving.concluded concluded
        next u pause concluded =>
          have paused := (serving.again concluded).2
          split
          · exact paused.begin _ _
          · exact paused.hold rfl
    next => exact comes

theorem Comes.visitEach (due : List (Call × Phase)) (comes : Comes origin (others ++ due) t) :
    Comes origin others (due.foldl (fun (u : Traffic) call => u.visit call.1 call.2) t) := by
  induction due generalizing t with
  | nil => exact List.append_nil others ▸ comes
  | cons q rest ih =>
    have one : ((others ++ q :: rest) ++ t.calls).Perm ((others ++ rest) ++ (t.calls ++ [q])) := by
      rw [← List.append_assoc]
      refine (List.Perm.append_right t.calls List.perm_middle).trans ?_
      exact (List.perm_append_singleton q _).symm
    exact ih (Comes.visit (comes.perm one))

theorem Comes.visitAll (comes : Comes origin [] t) : Comes origin [] t.visitAll := by
  rw [visitAll_eq]
  refine Comes.settle ?_
  have begun : Comes origin
      (t.calls.filter (fun call => t.rests call.1 call.2) ++
        t.calls.filter (Bool.not ∘ fun call => t.rests call.1 call.2)) (t.among []) := by
    refine comes.perm ?_
    rw [List.nil_append, List.append_nil]
    exact (List.filter_append_perm _ t.calls).symm
  exact begun.visitEach.perm (.refl _)

theorem Comes.runTo (comes : Comes origin [] t) (finish : Moment) (fuel : Nat) :
    Comes origin [] (runTo finish fuel t) := by
  have lapsed {t : Traffic} (comes : Comes origin [] t) (m : Moment) : Comes origin [] { t with now := m } :=
    ⟨comes.leads.tail (.lapsed m), comes.bare⟩
  fun_induction Traffic.runTo finish fuel t with
  | case1 | case2 | case3 => exact lapsed comes finish
  | case4 fuel t next _ _ ih => exact ih (lapsed comes next).visitAll

theorem Comes.aside (comes : Comes origin [] t) (quiet : Quiet t u) (free : u.free = t.free) : Comes origin [] u := by
  refine ⟨comes.leads.tail (.aside quiet free), ?_⟩
  rw [List.nil_append, quiet.calls]
  exact comes.bare

theorem Comes.join (comes : Comes origin [] t) {c : Call} {p : Phase} (step : Step t (t.hold c p))
    (bare : c.holdsPermit = false) : Comes origin [] (t.hold c p) := by
  refine ⟨comes.leads.tail step, fun q (member : q ∈ t.calls ++ [(c, p)]) waits => ?_⟩
  rcases List.mem_append.mp member with old | new
  · exact comes.bare q old waits
  · exact List.mem_singleton.mp new ▸ bare

theorem log_known (t : Traffic) (c : Call) : (t.known c).log = t.log := by
  unfold known onBreaker
  split <;> rfl

theorem Comes.start (comes : Comes origin [] t) {bulkhead : BulkheadLayer}
    (layer : t.layers.bulkhead = some bulkhead) (bare : c.holdsPermit = false) (unused : t.Unused c.id) :
    Comes origin [] (t.start c) := by
  obtain ⟨still, calls⟩ := still_known t c
  have known : Comes origin [] (t.known c) := comes.aside (quiet_onBreaker ..) (free_onBreaker ..)
  have unused : (t.known c).Unused c.id := ⟨calls ▸ unused.1, log_known t c ▸ unused.2⟩
  rw [← still.layers] at layer
  unfold Traffic.start
  rw [← Traffic.known]
  generalize t.known c = w at known unused layer ⊢
  have joined (giveUpAt : Option Moment) : Comes origin [] (w.hold c (.queued giveUpAt)) :=
    known.join (.joined giveUpAt bare unused) bare
  simp only [layer]
  split
  next why done => exact (joined none).ended (.stopped done)
  next going =>
    split
    next room => exact ((joined none).permitted (calm_of_going going) room).settle
    next =>
      split
      next =>
        have full := (joined (some w.now)).ended (.turnedAway bare (Nat.le_refl _))
        simpa only [layer, Option.map_some, Option.getD_some] using full
      next => exact joined _

theorem Drops.leads {id : String} (drops : Drops id t u) : Leads t u := by
  induction drops with
  | settled same => exact .single (.reordered same)
  | drop there _ _ ih =>
    have step := Step.deed there .dropped
    rw [Option.toList_none, List.append_nil] at step
    exact .head step ih

theorem Comes.abort (comes : Comes origin [] t) (id : String) : Comes origin [] (t.abort id) := by
  obtain ⟨u, drops, others, same⟩ := abort_drops t id
  rw [same]
  refine Comes.settle ⟨Relation.ReflTransGen.trans comes.leads drops.leads, fun q member => ?_⟩
  exact comes.bare q (others q member).1

theorem Comes.watch (comes : Comes origin [] t) {id : String} (unused : ∀ q ∈ t.calls, q.1.id ≠ id)
    (context : Context) : Comes origin [] (t.watch id context) := by
  refine watch_cases t id context (fun why => ?_) fun _ => comes.join (.watched rfl unused) rfl
  exact comes.aside (quiet_note t fun _ _ _ => Event.noConfusion) rfl

theorem free_lookAll (t : Traffic) : t.lookAll.free = t.free := by
  unfold lookAll
  generalize t.breakers.names = names
  induction names generalizing t with
  | nil => rfl
  | cons name rest ih => exact (ih _).trans (free_onBreaker ..)

/-- No call or watch takes a name that is in use, and no call one that was used before. -/
def Act.Unused (t : Traffic) : Act → Prop
  | .start c => t.Unused c.id
  | .watch id _ => ∀ q ∈ t.calls, q.1.id ≠ id
  | _ => True

/-- Whatever is done with traffic. -/
theorem Comes.act (comes : Comes origin [] t) {bulkhead : BulkheadLayer} (layer : t.layers.bulkhead = some bulkhead)
    {a : Act} (orderly : a.Orderly t) (unused : a.Unused t) : Comes origin [] (t.act a) := by
  cases a with
  | start c => exact comes.start layer orderly unused
  | pass finish => exact comes.runTo ..
  | cancel signal =>
    have raised : Comes origin [] { t with signals := t.signals.raise signal } :=
      ⟨comes.leads.tail (.signaled _), comes.bare⟩
    exact raised.visitAll
  | abort id => exact comes.abort id
  | watch id context => exact comes.watch unused context
  | look => exact comes.aside (quiet_lookAll t) (free_lookAll t)
  | reset breaker =>
    exact comes.aside (quiet_onBreaker t breaker fun b => b.reset t.now) (free_onBreaker ..)
  | signal => exact ⟨comes.leads.tail (.signaled _), comes.bare⟩

theorem Step.layers (step : Step t u) : u.layers = t.layers := by
  cases step with
  | deed _ deed => exact deed.effect.1.layers
  | aside quiet => exact quiet.layers
  | _ => rfl

theorem Leads.layers (leads : Leads t u) : u.layers = t.layers := by
  induction leads with
  | refl => rfl
  | tail _ step ih => exact step.layers.trans ih

/-- Traffic that comes about, in which each call has a name of its own. -/
inductive Arises (layers : Layers) : Traffic → Prop
  | bare : Arises layers (ofLayers layers)
  | act {t : Traffic} {a : Act} (arises : Arises layers t) (orderly : a.Orderly t) (unused : a.Unused t) :
    Arises layers (t.act a)

theorem Arises.comes {layers : Layers} {bulkhead : BulkheadLayer} (layer : layers.bulkhead = some bulkhead)
    (arises : Arises layers t) : Comes (ofLayers layers) [] t := by
  induction arises with
  | bare => exact ⟨.refl, List.forall_mem_nil _⟩
  | act _ orderly unused ih =>
    have same := Leads.layers ih.leads
    exact ih.act (by rw [← layer]; exact congrArg Layers.bulkhead same) orderly unused

/-- A timer that fires at ticks leaves no room between a deadline and itself if the time or the deadline is a tick. -/
theorem going_of_calm (calm : t.wakes? c = none)
    (sharp : t.now.tick = t.now ∨ ∀ d, c.context.deadline = some d → d.tick = d) : t.errorOf? c = none := by
  rcases sharp with whole | whole
  · rw [← wakes?_of_tick whole, calm]
  · have timer : c.context.wakeAt? = c.context.deadline := by
      rw [Context.wakeAt?]
      cases set : c.context.deadline with
      | none => rfl
      | some d => exact congrArg some (whole d set)
    rw [wakes?, Context.wakes?, timer] at calm
    exact calm

/-- Permits are conserved. Whatever is done with traffic comes about step by step, and whatever comes about step by
step, at every moment and in any order: no more operations run than there are permits; the permits that are free
and those that calls were handed are as many as there ever were; who runs has a permit; the backend is only invoked
for a call that was admitted, and never for one that the bulkhead rejects; and when no call is left all permits are
free. A call is admitted with its permit, not canceled and before the timer of its deadline. -/
theorem permits_conserved (bulkhead : BulkheadLayer) (retry : Option Config.Retry) (breaker : Option Config.Breaker) :
    let layers : Layers := ⟨some bulkhead, retry, breaker⟩
    (∀ t, Arises layers t →
      Leads (ofLayers layers) t ∧ ∀ q ∈ t.calls, isWaiting q = true → q.1.holdsPermit = false) ∧
    ∀ t, Leads (ofLayers layers) t →
      t.calls.countP isServed ≤ bulkhead.config.maxConcurrent ∧
      t.free + t.calls.countP (·.1.holdsPermit) = bulkhead.config.maxConcurrent ∧
      (∀ q ∈ t.calls, isServed q = true → q.1.holdsPermit = true) ∧
      (∀ e ∈ t.log, ∀ id n who, e.2 = .invoked id n who → AdmittedBy (ofLayers layers) t id) ∧
      (∀ c u, Admission c t u → c.holdsPermit = true ∧ c.context.isCanceled t.signals = false ∧
        (∀ d, c.context.deadline = some d → t.now < d.tick) ∧
        (t.now.tick = t.now ∨ (∀ d, c.context.deadline = some d → d.tick = d) → t.errorOf? c = none)) ∧
      (∀ c u, Rejection c t u → ∀ v, Leads u v → v.Uninvoked c.id) ∧
      ((∀ q ∈ t.calls, q.2 = .watching) → t.free = bulkhead.config.maxConcurrent) := by
  intro layers
  refine ⟨fun t arises => ?_, fun t leads => ?_⟩
  · have comes := arises.comes rfl
    exact ⟨comes.leads, comes.bare⟩
  · have conserves : Conserves bulkhead.config.maxConcurrent t := Leads.conserves leads (conserves_ofLayers layers)
    have traced := Leads.traced leads (conserves_ofLayers layers) rfl rfl
    have run : t.calls.countP isServed ≤ t.calls.countP (·.1.holdsPermit) :=
      List.countP_mono_left conserves.served
    have permits := conserves.permits
    refine ⟨by omega, permits, conserves.served, traced.invoked, fun c u admission => ?_,
      fun c u rejection v after => ?_, fun none => ?_⟩
    · obtain ⟨others, giveUpAt, -, held, calm, -⟩ := admission
      have rests := rests_watching calm
      exact ⟨held, rests.live, rests.before, going_of_calm calm⟩
    · exact (Leads.spent after (rejection.spent conserves)).uninvoked
    · have held : t.calls.countP (·.1.holdsPermit) = 0 :=
        List.countP_eq_zero.mpr fun q member => by simp [conserves.watching q member (none q member)]
      omega

namespace HandedOver

def layers : Layers := ⟨some ⟨"backend", { maxConcurrent := 1 }⟩, none, none⟩

def holder : Call := { id := "a", script := fun _ => ⟨none, .success⟩ }

def waiter : Call := { id := "b", context := { signal := some 0 }, script := fun _ => ⟨none, .success⟩ }

def busy : Traffic := (((ofLayers layers).act .signal).act (.start holder)).act (.start waiter)

/-- The call that ran is gone, and its permit was handed to the one that waits, whose context ends. -/
def canceled : Traffic :=
  { layers, signals := ⟨1, [0], []⟩, calls := [({ waiter with holdsPermit := true }, .queued none)],
    log := [(.start, .invoked "a" 1 none)] }

theorem busy_eq : busy = { canceled with
    signals := ⟨1, [], []⟩
    calls := [({ holder with holdsPermit := true }, .attempting 1 none none), (waiter, .queued none)] } := by
  cbv

theorem arises_busy : Arises layers busy := by
  have signaled : Arises layers ((ofLayers layers).act .signal) := .act .bare trivial trivial
  have held : Arises layers (((ofLayers layers).act .signal).act (.start holder)) :=
    .act signaled rfl ⟨by decide, by decide⟩
  exact .act held rfl ⟨by decide +kernel, by decide +kernel⟩

/-- A permit that was handed to a call as its context ends is free again, and the call never runs. -/
theorem free_after_rejection :
    Leads (ofLayers layers) canceled ∧
      ∃ u, Rejection { waiter with holdsPermit := true } canceled u ∧ u.Uninvoked "b" ∧ u.free = 1 := by
  have conserved := permits_conserved ⟨"backend", { maxConcurrent := 1 }⟩ none none
  have leads : Leads (ofLayers layers) busy := (conserved.1 busy arises_busy).1
  rw [busy_eq] at leads
  let running : Call × Phase := ({ holder with holdsPermit := true }, .attempting 1 none none)
  let first : Call × Phase := (waiter, .queued none)
  have there : [running, first].Perm ([first] ++ [running]) := .swap ..
  have dropped := leads.tail (.deed there .dropped)
  have handed := dropped.tail (.deed (.refl ([] ++ [first])) (.handed rfl (by decide)))
  have raised : Leads (ofLayers layers) canceled := handed.tail (.signaled _)
  have waits : canceled.calls.Perm ([] ++ [({ waiter with holdsPermit := true }, .queued none)]) := .refl _
  have done : canceled.errorOf? { waiter with holdsPermit := true } = some .canceled := rfl
  have rejection := Rejection.stopped waits done
  exact ⟨raised, _, rejection, (conserved.2 canceled raised).2.2.2.2.2.1 _ _ rejection _ .refl, rfl⟩

def late : Call := { waiter with context := { deadline := some ⟨5300000⟩ } }

/-- A call waits for the only permit as its deadline passes, and the timer of the deadline is yet to fire. -/
def full : Traffic := (((ofLayers layers).act (.start holder)).act (.start late)).act (.pass ⟨5500000⟩)

theorem arises_full : Arises layers full := by
  have held : Arises layers ((ofLayers layers).act (.start holder)) := .act .bare rfl ⟨by decide, by decide⟩
  have joined : Arises layers (((ofLayers layers).act (.start holder)).act (.start late)) :=
    .act held rfl ⟨by decide +kernel, by decide +kernel⟩
  refine .act joined ?_ trivial
  show Moment.nanos _ ≤ 5500000
  decide +kernel

/-- A call that waited is admitted after its deadline, as it gets the permit before the timer fires. -/
theorem admitted_after_its_deadline :
    Arises layers (full.act (.abort "a")) ∧ full.free = 0 ∧ full.errorOf? late = some .deadlineExceeded ∧
      (full.now, .invoked "b" 1 none) ∈ (full.act (.abort "a")).log := by
  refine ⟨.act arises_full trivial trivial, by decide +kernel, by decide +kernel, ?_⟩
  have invoked : (full.act (.abort "a")).log.any (fun
      | (m, .invoked "b" 1 none) => m = full.now
      | _ => false) = true := by decide +kernel
  obtain ⟨⟨m, e⟩, member, shape⟩ := List.any_eq_true.mp invoked
  split at shape
  next m same =>
    obtain ⟨rfl, rfl⟩ := Prod.mk.inj same
    obtain rfl := of_decide_eq_true shape
    exact member
  next => cases shape

end HandedOver

end Gatehouse.Resilience.Traffic
