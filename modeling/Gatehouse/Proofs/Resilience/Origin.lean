import Gatehouse.Resilience.Traffic

/-!
Where the attempts of the traffic come from. Between its invocations of a backend a call touches breakers,
permits and the log only, and a backend is invoked for a call that was started and for no other.
-/
namespace Gatehouse.Resilience.Traffic

/-- Nothing differs but breakers, permits and notes, and none of these says that a backend was invoked. -/
structure Quiet (t u : Traffic) : Prop where
  layers : u.layers = t.layers
  now : u.now = t.now
  signals : u.signals = t.signals
  calls : u.calls = t.calls
  log : ∃ noted, u.log = t.log ++ noted ∧ ∀ e ∈ noted, ∀ id n who, e.2 ≠ .invoked id n who

theorem Quiet.refl (t : Traffic) : Quiet t t :=
  ⟨rfl, rfl, rfl, rfl, [], by simp, fun _ none => absurd none List.not_mem_nil⟩

theorem Quiet.trans {t u v : Traffic} (first : Quiet t u) (second : Quiet u v) : Quiet t v := by
  obtain ⟨noted, log, silent⟩ := first.log
  obtain ⟨more, log', silent'⟩ := second.log
  refine ⟨second.layers.trans first.layers, second.now.trans first.now,
    second.signals.trans first.signals, second.calls.trans first.calls,
    noted ++ more, by rw [log', log, List.append_assoc], fun e member => ?_⟩
  rcases List.mem_append.mp member with old | new
  · exact silent e old
  · exact silent' e new

theorem quiet_note (t : Traffic) {e : Event} (silent : ∀ id n who, e ≠ .invoked id n who) :
    Quiet t (t.note e) :=
  ⟨rfl, rfl, rfl, rfl, [(t.now, e)], rfl, fun e' member => by
    obtain rfl := List.mem_singleton.mp member
    exact silent⟩

theorem quiet_setBreaker (t : Traffic) (name : String) (b : Breaker) (change : Option Change) :
    Quiet t (t.setBreaker name b change) := by
  have stored : Quiet t { t with breakers := Json.setEntry name b t.breakers } :=
    { Quiet.refl t with }
  cases change with
  | none => exact stored
  | some c => exact stored.trans (quiet_note _ fun _ _ _ => Event.noConfusion)

theorem quiet_onBreaker (t : Traffic) (name : String) (f : Breaker → Breaker × Option Change) :
    Quiet t (t.onBreaker name f) := by
  unfold onBreaker
  split
  · exact .refl t
  · exact quiet_setBreaker ..

theorem quiet_record (t : Traffic) (c : Call) (ticket : Option Ticket) (v : Verdict) :
    Quiet t (t.record c ticket v) := by
  unfold record
  split
  · exact .refl t
  · exact quiet_onBreaker ..

theorem quiet_release (t : Traffic) (c : Call) : Quiet t (t.release c) := by
  unfold release
  split
  · exact { Quiet.refl t with }
  · exact .refl t

theorem quiet_finish (t : Traffic) (c : Call) (result : Except CallError Nat) :
    Quiet t (t.finish c result) :=
  (quiet_note t fun _ _ _ => Event.noConfusion).trans (quiet_release _ c)

theorem quiet_ask (t : Traffic) (c : Call) : Quiet t (t.ask c).2 := by
  unfold ask
  split
  · exact .refl t
  · exact quiet_setBreaker ..

theorem quiet_conclude (t : Traffic) (c : Call) (attempt left : Nat) (ticket : Option Ticket)
    (r : End) : Quiet t (t.conclude c attempt left ticket r).1 := by
  cases r with
  | crash => exact (quiet_record ..).trans (quiet_release ..)
  | success => exact (quiet_record ..).trans (quiet_finish ..)
  | failure e =>
    have recorded := quiet_record t c ticket .failure
    have finished (result : Except CallError Nat) :=
      recorded.trans (quiet_finish (t.record c ticket .failure) c result)
    unfold conclude
    simp only
    split
    · exact finished _
    · split
      · exact finished _
      · split
        · exact finished _
        · split
          · exact finished _
          · exact recorded

theorem quiet_lookAll (t : Traffic) : Quiet t t.lookAll := by
  unfold lookAll
  generalize t.breakers.names = names
  induction names generalizing t with
  | nil => exact .refl t
  | cons name rest ih => exact (quiet_onBreaker ..).trans (ih _)

/-- Backends were and will be invoked for some calls and principals only. Who only waits for a context invokes
none. -/
structure Within (may : String → Option Gateway.Principal → Prop) (t : Traffic) : Prop where
  calls : ∀ p ∈ t.calls, p.2 = .watching ∨ may p.1.id p.1.principal
  log : ∀ e ∈ t.log, ∀ id n who, e.2 = .invoked id n who → may id who

variable {may : String → Option Gateway.Principal → Prop} {t : Traffic}

theorem within_ofLayers (may : String → Option Gateway.Principal → Prop) (layers : Layers) :
    Within may (ofLayers layers) :=
  ⟨fun _ none => absurd none List.not_mem_nil, fun _ none => absurd none List.not_mem_nil⟩

theorem Within.mono {wider : String → Option Gateway.Principal → Prop} (within : Within may t)
    (more : ∀ id who, may id who → wider id who) : Within wider t :=
  ⟨fun p member => (within.calls p member).imp_right (more _ _),
    fun e member id n who invoked => more id who (within.log e member id n who invoked)⟩

theorem Within.quiet (within : Within may t) {u : Traffic} (quiet : Quiet t u) : Within may u := by
  obtain ⟨noted, log, silent⟩ := quiet.log
  refine ⟨?_, fun e member id n who invoked => ?_⟩
  · rw [quiet.calls]
    exact within.calls
  · rw [log] at member
    rcases List.mem_append.mp member with old | new
    · exact within.log e old id n who invoked
    · exact absurd invoked (silent e new id n who)

theorem Within.fewer (within : Within may t) (calls : List (Call × Phase))
    (old : ∀ p ∈ calls, p ∈ t.calls) : Within may { t with calls } :=
  ⟨fun p member => within.calls p (old p member), within.log⟩

theorem Within.hold (within : Within may t) {c : Call} {p : Phase}
    (allowed : p = .watching ∨ may c.id c.principal) : Within may (t.hold c p) := by
  refine ⟨fun q member => ?_, within.log⟩
  rcases List.mem_append.mp member with old | new
  · exact within.calls q old
  · obtain rfl := List.mem_singleton.mp new
    exact allowed

theorem Within.invoke (within : Within may t) {c : Call} (allowed : may c.id c.principal) (attempt : Nat) :
    Within may (t.note (.invoked c.id attempt c.principal)) := by
  refine ⟨within.calls, fun e member id n who invoked => ?_⟩
  rcases List.mem_append.mp member with old | new
  · exact within.log e old id n who invoked
  · obtain rfl := List.mem_singleton.mp new
    obtain ⟨rfl, -, rfl⟩ := Event.invoked.inj invoked
    exact allowed

theorem Within.attempt (within : Within may t) {c : Call} (allowed : may c.id c.principal) (attempt : Nat)
    {ticket : Except CallError (Option Ticket)} {u : Traffic} (asked : t.ask c = (ticket, u)) :
    Within may (u.note (.invoked c.id attempt c.principal)) := by
  have quiet := quiet_ask t c
  rw [asked] at quiet
  exact (within.quiet quiet).invoke allowed attempt

theorem Within.conclude (within : Within may t) {c : Call} {attempt left : Nat}
    {ticket : Option Ticket} {r : End} {u : Traffic} {next : Next}
    (concluded : t.conclude c attempt left ticket r = (u, next)) : Within may u := by
  have quiet := quiet_conclude t c attempt left ticket r
  rw [concluded] at quiet
  exact within.quiet quiet

theorem Within.begin (within : Within may t) {c : Call} (allowed : may c.id c.principal) (left attempt : Nat) :
    Within may (begin c left attempt t) := by
  fun_induction Traffic.begin c left attempt t with
  | case1 => exact within.quiet (quiet_finish ..)
  | case2 left attempt t _ _ e u asked =>
    have quiet := quiet_ask t c
    rw [asked] at quiet
    exact within.quiet (quiet.trans (quiet_finish ..))
  | case3 left attempt t _ _ ticket u asked _ _ _ v concluded =>
    simp only [concluded]
    exact (within.attempt allowed attempt asked).conclude concluded
  | case4 attempt t _ _ ticket u asked _ _ _ v pause concluded =>
    simp only [concluded]
    exact (within.attempt allowed attempt asked).conclude concluded
  | case5 attempt t _ _ ticket u asked _ _ _ v pause left soon concluded ih =>
    simp only [concluded]
    rw [if_pos soon]
    exact ih ((within.attempt allowed attempt asked).conclude concluded)
  | case6 attempt t _ _ ticket u asked _ _ _ v pause left lasts concluded =>
    simp only [concluded]
    rw [if_neg lasts]
    exact ((within.attempt allowed attempt asked).conclude concluded).hold (.inr allowed)
  | case7 left attempt t _ _ ticket u asked =>
    exact (within.attempt allowed attempt asked).hold (.inr allowed)

theorem Within.enter (within : Within may t) {c : Call} (allowed : may c.id c.principal) :
    Within may (t.enter c) := within.begin allowed ..

/-- Who gets a permit was waiting for one. -/
theorem mem_of_takeQueued {calls rest : List (Call × Phase)} {c : Call}
    (taken : takeQueued calls = some (c, rest)) :
    (∃ giveUpAt, (c, .queued giveUpAt) ∈ calls) ∧ ∀ p ∈ rest, p ∈ calls := by
  induction calls generalizing rest with
  | nil => cases taken
  | cons first others ih =>
    obtain ⟨d, p⟩ := first
    cases p with
    | queued giveUpAt =>
      cases taken
      exact ⟨⟨giveUpAt, List.mem_cons_self⟩, fun p member => List.mem_cons_of_mem _ member⟩
    | _ =>
      obtain ⟨⟨e, left⟩, found, same⟩ := Option.map_eq_some_iff.mp taken
      cases same
      obtain ⟨⟨giveUpAt, there⟩, within⟩ := ih found
      refine ⟨⟨giveUpAt, List.mem_cons_of_mem _ there⟩, fun p member => ?_⟩
      rcases List.mem_cons.mp member with rfl | member
      · exact List.mem_cons_self
      · exact List.mem_cons_of_mem _ (within p member)

theorem Within.taken (within : Within may t) {c : Call} {rest : List (Call × Phase)}
    (taken : takeQueued t.calls = some (c, rest)) : may c.id c.principal ∧ Within may { t with calls := rest } := by
  obtain ⟨⟨giveUpAt, waited⟩, others⟩ := mem_of_takeQueued taken
  refine ⟨?_, within.fewer rest others⟩
  rcases within.calls _ waited with watching | allowed
  · cases watching
  · exact allowed

theorem Within.serve (within : Within may t) (fuel : Nat) : Within may (serve fuel t) := by
  fun_induction Traffic.serve fuel t with
  | case1 => exact within
  | case2 => exact within
  | case3 => exact within
  | case4 fuel t _ c rest taken _ why _ ih =>
    exact ih ((within.taken taken).2.quiet (quiet_finish ..))
  | case5 fuel t _ c rest taken _ _ ih =>
    obtain ⟨allowed, left⟩ := within.taken taken
    have permitted : Within may { t with calls := rest, free := t.free - 1 } := { left with }
    exact ih (permitted.enter (c := { c with holdsPermit := true }) allowed)

theorem Within.settle (within : Within may t) : Within may t.settle := within.serve _

theorem Within.start (within : Within may t) {c : Call} (allowed : may c.id c.principal) :
    Within may (t.start c) := by
  have known : Within may (t.onBreaker c.backend fun b => (b, none)) :=
    within.quiet (quiet_onBreaker ..)
  unfold Traffic.start
  simp only
  split
  · exact known.enter allowed
  · split
    · exact known.quiet (quiet_finish ..)
    · split
      · have permitted : Within may
            { t.onBreaker c.backend fun b => (b, none) with
              free := (t.onBreaker c.backend fun b => (b, none)).free - 1 } := { known with }
        exact (permitted.enter (c := { c with holdsPermit := true }) allowed).settle
      · split
        · exact known.quiet (quiet_finish ..)
        · exact known.hold (.inr allowed)

theorem Within.visit (within : Within may t) {c : Call} {p : Phase}
    (allowed : p = .watching ∨ may c.id c.principal) : Within may (t.visit c p) := by
  unfold Traffic.visit
  split
  next why _ =>
    cases p with
    | watching => exact within.quiet (quiet_note _ fun _ _ _ => Event.noConfusion)
    | attempting _ ticket _ => exact within.quiet ((quiet_record ..).trans (quiet_finish ..))
    | queued _ => exact within.quiet (quiet_finish ..)
    | pausing _ _ => exact within.quiet (quiet_finish ..)
  next =>
    split
    · cases p with
      | watching => exact within.hold (.inl rfl)
      | queued giveUpAt =>
        have permitted : Within may { t with free := t.free - 1 } := { within with }
        have called : may c.id c.principal := allowed.resolve_left Phase.noConfusion
        simp only [resume]
        split
        · exact permitted.enter (c := { c with holdsPermit := true }) called
        · exact within.quiet (quiet_finish ..)
      | pausing attempt finish => exact within.begin (allowed.resolve_left Phase.noConfusion) ..
      | attempting attempt ticket finishAt =>
        have called : may c.id c.principal := allowed.resolve_left Phase.noConfusion
        simp only [resume]
        split
        next u concluded => exact within.conclude concluded
        next u pause concluded =>
          have after := within.conclude concluded
          split
          · exact after.begin called ..
          · exact after.hold (.inr called)
    · exact within.hold allowed

theorem Within.visitAll (within : Within may t) : Within may t.visitAll := by
  have visits (due : List (Call × Phase)) (listed : ∀ p ∈ due, p.2 = .watching ∨ may p.1.id p.1.principal)
      {u : Traffic} (started : Within may u) :
      Within may (due.foldl (fun (u : Traffic) call => u.visit call.1 call.2) u) := by
    induction due generalizing u with
    | nil => exact started
    | cons p rest ih =>
      exact ih (fun q member => listed q (List.mem_cons_of_mem _ member))
        (started.visit (listed p List.mem_cons_self))
  unfold Traffic.visitAll
  simp only [List.partition_eq_filter_filter]
  have visited := visits (t.calls.filter (Bool.not ∘ fun call => t.rests call.1 call.2))
    (fun p member => within.calls p (List.mem_filter.mp member).1)
    (within.fewer [] fun _ none => absurd none List.not_mem_nil)
  refine Within.settle ⟨fun p member => ?_, visited.log⟩
  rcases List.mem_append.mp member with resting | held
  · exact within.calls p (List.mem_filter.mp resting).1
  · exact visited.calls p held

theorem Within.runTo (within : Within may t) (finish : Moment) (fuel : Nat) :
    Within may (runTo finish fuel t) := by
  fun_induction Traffic.runTo finish fuel t with
  | case1 => exact { within with }
  | case2 => exact { within with }
  | case3 => exact { within with }
  | case4 fuel t next _ _ ih =>
    have moved : Within may { t with now := next } := { within with }
    exact ih moved.visitAll

theorem Within.pass (within : Within may t) (finish : Moment) : Within may (t.pass finish) :=
  within.runTo ..

theorem Within.cancel (within : Within may t) (signal : Nat) : Within may (t.cancel signal) := by
  have raised : Within may { t with signals := t.signals.raise signal } := { within with }
  exact raised.visitAll

theorem Within.watch (within : Within may t) (id : String) (context : Context) :
    Within may (t.watch id context) := by
  unfold Traffic.watch
  simp only
  split
  · exact within.quiet (quiet_note _ fun _ _ _ => Event.noConfusion)
  · exact within.hold (.inl rfl)

theorem Within.abort (within : Within may t) (id : String) : Within may (t.abort id) := by
  unfold Traffic.abort
  simp only
  refine Within.settle ?_
  have begun : Within may { t with calls := [] } :=
    within.fewer [] fun _ none => absurd none List.not_mem_nil
  have listed := within.calls
  generalize { t with calls := [] } = u at begun
  generalize t.calls = calls at listed
  induction calls generalizing u with
  | nil => exact begun
  | cons p rest ih =>
    refine ih _ ?_ fun q member => listed q (List.mem_cons_of_mem _ member)
    simp only
    split
    · exact begun.hold (listed p List.mem_cons_self)
    · split
      · exact begun.quiet ((quiet_record ..).trans (quiet_release ..))
      · exact begun.quiet (quiet_release ..)

end Gatehouse.Resilience.Traffic
