import Gatehouse.Proofs.Resilience.Turns

/-!
Traffic over time. At every instant at which a timer fires all calls take the turns that are due, and when they
have, every call rests: its own timer and that of its deadline are to fire later, and it is not canceled. So no
timer is ever missed while time passes.
-/
namespace Gatehouse.Resilience.Traffic

def Timely (t : Traffic) : Prop := ∀ q ∈ t.calls, Rests t q

/-- Calls took turns, and those that took any rest. -/
structure Proceeds (t u : Traffic) : Prop where
  moves : Moves t u
  calls : ∀ q ∈ u.calls, q ∈ t.calls ∨ Rests t q

variable {t u v : Traffic}

theorem Still.back (still : Still t u) : Still u t :=
  ⟨still.layers.symm, still.now.symm, still.signals.symm⟩

theorem Proceeds.refl (t : Traffic) : Proceeds t t := ⟨.refl t, fun _ => .inl⟩

theorem Proceeds.trans (first : Proceeds t u) (second : Proceeds u v) : Proceeds t v := by
  refine ⟨first.moves.trans second.moves, fun q member => ?_⟩
  rcases second.calls q member with old | rests
  · exact first.calls q old
  · exact .inr (first.moves.still.back.rests rests)

theorem Proceeds.timely (proceeds : Proceeds t u) (timely : Timely t) : Timely u := by
  intro q member
  exact proceeds.moves.still.rests ((proceeds.calls q member).elim (timely q) id)

theorem Taken.still {call : Call × Phase} (taken : Taken t call u) : Still t u := by
  obtain ⟨layers, now, signals⟩ := taken.moves.still
  exact ⟨layers, now, signals⟩

theorem Taken.proceeds {call : Call × Phase} {others : List (Call × Phase)}
    (there : t.calls.Perm (others ++ [call])) (taken : Taken (t.among others) call u) : Proceeds t u := by
  obtain ⟨moves, next, calls, rests⟩ := taken
  refine ⟨moves.reordered there, fun q member => ?_⟩
  rw [calls] at member
  rcases List.mem_append.mp member with other | own
  · exact .inl (there.mem_iff.mpr (List.mem_append_left _ other))
  · obtain ⟨live, before, ahead⟩ := rests q (Option.mem_toList.mp own)
    exact .inr ⟨live, before, ahead⟩

theorem perm_of_takeQueued {calls rest : List (Call × Phase)} {c : Call}
    (taken : takeQueued calls = some (c, rest)) : ∃ giveUpAt, calls.Perm (rest ++ [(c, .queued giveUpAt)]) := by
  induction calls generalizing rest with
  | nil => cases taken
  | cons first others ih =>
    obtain ⟨d, p⟩ := first
    cases p with
    | queued giveUpAt =>
      cases taken
      exact ⟨giveUpAt, (List.perm_append_singleton _ _).symm⟩
    | _ =>
      obtain ⟨⟨e, left⟩, found, same⟩ := Option.map_eq_some_iff.mp taken
      cases same
      obtain ⟨giveUpAt, same⟩ := ih found
      exact ⟨giveUpAt, same.cons _⟩

theorem proceeds_serve (guarded : t.layers.breaker.isSome = true) (fuel : Nat) : Proceeds t (serve fuel t) := by
  fun_induction Traffic.serve fuel t with
  | case1 | case2 | case3 => exact .refl _
  | case4 fuel t _ c rest taken w why done ih =>
    obtain ⟨giveUpAt, there⟩ := perm_of_takeQueued taken
    have turn := Turn.interrupted (t := t.among rest) (c := c) (p := .queued giveUpAt) done
    exact (turn.ended.proceeds there).trans (ih (turn.still.1.layers ▸ guarded))
  | case5 fuel t room c rest taken w calm ih =>
    obtain ⟨giveUpAt, there⟩ := perm_of_takeQueued taken
    have entered := taken_enter (t := w) guarded calm (Nat.pos_of_ne_zero room) giveUpAt
    exact (entered.proceeds there).trans (ih (by rw [entered.still.layers]; exact guarded))

theorem proceeds_settle (guarded : t.layers.breaker.isSome = true) : Proceeds t t.settle :=
  proceeds_serve guarded _

def Ticking (t : Traffic) : Prop := ∀ q ∈ t.calls, Ticks t.now q.2

theorem Timely.ticking (timely : Timely t) : Ticking t := fun q member m timer =>
  ((timely q member).ahead m timer).symm.imp_right Nat.le_of_lt

theorem rests_of_rests (guarded : t.layers.breaker.isSome = true) {q : Call × Phase}
    (resting : t.rests q.1 q.2 = true) (ticks : Ticks t.now q.2) : Rests t q := by
  rw [rests, Bool.and_eq_true, Option.isNone_iff_eq_none, wokenBy?_eq guarded, Bool.not_eq_true'] at resting
  refine rests_of_calm resting.1 fun m timer => ⟨?_, (ticks m timer).1⟩
  exact Nat.lt_of_not_le fun due => Bool.false_ne_true (resting.2.symm.trans (isDue_iff.mpr ⟨m, timer, due⟩))

theorem visit_each (guarded : t.layers.breaker.isSome = true) (due : List (Call × Phase))
    (ticks : ∀ q ∈ due, Ticks t.now q.2) :
    let u := due.foldl (fun (u : Traffic) call => u.visit call.1 call.2) t
    Moves (t.among (t.calls ++ due)) u ∧ ∀ q ∈ u.calls, q ∈ t.calls ∨ Rests t q := by
  induction due generalizing t with
  | nil =>
    rw [List.append_nil]
    exact ⟨.refl t, fun _ => .inl⟩
  | cons first rest ih =>
    have taken : Taken t first (t.visit first.1 first.2) :=
      taken_visit guarded (ticks first List.mem_cons_self)
    obtain ⟨moves, calls⟩ := ih (t := t.visit first.1 first.2) (taken.still.layers ▸ guarded)
      fun q member => taken.still.now.symm ▸ ticks q (List.mem_cons_of_mem _ member)
    refine ⟨?_, fun q member => ?_⟩
    · rw [List.append_cons]
      exact (taken.moves.beside rest).trans moves
    · rcases calls q member with old | rests
      · obtain ⟨next, appended, rests⟩ := taken.calls
        rw [appended] at old
        exact (List.mem_append.mp old).imp_right fun own => rests q (Option.mem_toList.mp own)
      · exact .inr (taken.still.back.rests rests)

theorem visitAll_eq (t : Traffic) :
    t.visitAll =
      let w := (t.calls.filter (Bool.not ∘ fun call => t.rests call.1 call.2)).foldl
        (fun (u : Traffic) call => u.visit call.1 call.2) (t.among [])
      (w.among ((t.calls.filter fun call => t.rests call.1 call.2) ++ w.calls)).settle := by
  unfold visitAll
  simp only [List.partition_eq_filter_filter]
  rfl

/-- Once every call was looked at all of them rest. -/
theorem visitAll_timely (guarded : t.layers.breaker.isSome = true) (ticks : Ticking t) :
    Moves t t.visitAll ∧ Timely t.visitAll := by
  rw [visitAll_eq]
  obtain ⟨visited, calls⟩ := visit_each (t := t.among []) guarded
    (t.calls.filter (Bool.not ∘ fun call => t.rests call.1 call.2))
    fun q member => ticks q (List.mem_filter.mp member).1
  have moves := visited.beside (t.calls.filter fun call => t.rests call.1 call.2)
  generalize (t.calls.filter _).foldl _ _ = w at moves calls ⊢
  have looked : Moves t (w.among ((t.calls.filter fun call => t.rests call.1 call.2) ++ w.calls)) := by
    refine .trans (.reordered ?_ moves) (.settled List.perm_append_comm)
    exact (List.filter_append_perm _ t.calls).symm.trans List.perm_append_comm
  have settled := proceeds_settle (looked.still.layers ▸ guarded)
  refine ⟨looked.trans settled.moves, settled.timely fun q member => ?_⟩
  refine looked.still.rests ?_
  rcases List.mem_append.mp member with resting | held
  · obtain ⟨old, resting⟩ := List.mem_filter.mp resting
    exact rests_of_rests guarded resting (ticks q old)
  · obtain ⟨live, before, ahead⟩ := (calls q held).resolve_left List.not_mem_nil
    exact ⟨live, before, ahead⟩

/-- A timer of a call: its own, or that of its deadline. -/
def Fires (call : Call × Phase) (m : Moment) : Prop :=
  Phase.wakeAt? call.2 = some m ∨ call.1.context.wakeAt? = some m

theorem Rests.fires {call : Call × Phase} (rests : Rests t call) {m : Moment} (fires : Fires call m) :
    t.now < m ∧ m.tick = m := by
  rcases fires with own | deadline
  · exact rests.ahead m own
  · obtain ⟨d, set, rfl⟩ := Option.map_eq_some_iff.mp deadline
    exact ⟨rests.before d set, Moment.tick_tick d⟩

theorem Rests.later {call : Call × Phase} (rests : Rests t call) {later : Moment}
    (none : ∀ m, Fires call m → later < m) : Rests { t with now := later } call where
  live := rests.live
  before d set := none d.tick (.inr (Option.map_eq_some_iff.mpr ⟨d, set, rfl⟩))
  ahead m own := ⟨none m (.inl own), (rests.ahead m own).2⟩

theorem earlier_some {a b : Option Moment} {m : Moment} (first : earlier a b = some m) :
    a = some m ∨ b = some m := by
  unfold earlier at first
  split at first
  · exact .inr first
  · exact .inl first
  · split at first
    · exact .inl first
    · exact .inr first

def FiresBy (timer : Option Moment) (m : Moment) : Prop := ∃ first, timer = some first ∧ first ≤ m

theorem firesBy_earlier {a b : Option Moment} {m : Moment} (either : FiresBy a m ∨ FiresBy b m) :
    FiresBy (earlier a b) m := by
  cases a with
  | none => exact either.resolve_left nofun
  | some x =>
    cases b with
    | none => exact either.resolve_right nofun
    | some y =>
      by_cases order : x ≤ y
      · refine ⟨x, by rw [earlier, if_pos order], ?_⟩
        rcases either with ⟨_, set, le⟩ | ⟨_, set, le⟩ <;> cases set
        · exact le
        · exact Nat.le_trans order le
      · refine ⟨y, by rw [earlier, if_neg order], ?_⟩
        rcases either with ⟨_, set, le⟩ | ⟨_, set, le⟩ <;> cases set
        · exact Nat.le_trans (Nat.le_of_not_le order) le
        · exact le

theorem wakeAt?_eq (guarded : t.layers.breaker.isSome = true) (q : Call × Phase) :
    t.wakeAt? q.1 q.2 = earlier (Phase.wakeAt? q.2) q.1.context.wakeAt? := by
  have heeds : t.heedsContext q.2 = true := by
    unfold heedsContext
    split
    · exact guarded
    · rfl
  rw [wakeAt?, if_pos heeds]

theorem Fires.by {q : Call × Phase} {m : Moment} (fires : Fires q m) :
    FiresBy (earlier (Phase.wakeAt? q.2) q.1.context.wakeAt?) m :=
  firesBy_earlier (fires.imp (fun own => ⟨m, own, Nat.le_refl _⟩) fun deadline => ⟨m, deadline, Nat.le_refl _⟩)

theorem nextAt?_spec (guarded : t.layers.breaker.isSome = true) :
    (∀ m, t.nextAt? = some m → ∃ q ∈ t.calls, Fires q m) ∧
    ∀ q ∈ t.calls, ∀ m, Fires q m → FiresBy t.nextAt? m := by
  have scan (calls : List (Call × Phase)) (found : Option Moment) :
      let next := calls.foldl (fun next call => earlier next (t.wakeAt? call.1 call.2)) found
      (∀ m, next = some m → found = some m ∨ ∃ q ∈ calls, Fires q m) ∧
      ∀ m, (FiresBy found m ∨ ∃ q ∈ calls, Fires q m) → FiresBy next m := by
    induction calls generalizing found with
    | nil => exact ⟨fun m => .inl, fun m there => there.resolve_right fun ⟨_, member, _⟩ => List.not_mem_nil member⟩
    | cons q rest ih =>
      obtain ⟨sound, complete⟩ := ih (earlier found (t.wakeAt? q.1 q.2))
      rw [wakeAt?_eq guarded] at sound complete
      simp only [List.foldl_cons, wakeAt?_eq guarded q]
      refine ⟨fun m next => ?_, fun m either => ?_⟩
      · rcases sound m next with first | ⟨p, member, fires⟩
        · rcases earlier_some first with old | own
          · exact .inl old
          · exact .inr ⟨q, List.mem_cons_self, earlier_some own⟩
        · exact .inr ⟨p, List.mem_cons_of_mem _ member, fires⟩
      · rcases either with old | ⟨p, member, fires⟩
        · exact complete m (.inl (firesBy_earlier (.inl old)))
        · rcases List.mem_cons.mp member with rfl | member
          · exact complete m (.inl (firesBy_earlier (.inr fires.by)))
          · exact complete m (.inr ⟨p, member, fires⟩)
  obtain ⟨sound, complete⟩ := scan t.calls none
  exact ⟨fun m next => (sound m next).resolve_left nofun, fun q member m fires =>
    complete m (.inr ⟨q, member, fires⟩)⟩

/-- Time passes up to `finish`, from one instant at which a timer fires to the next. -/
inductive Course (finish : Moment) : Traffic → Traffic → Prop
  | arrived {t : Traffic} (early : t.now ≤ finish) (none : ∀ q ∈ t.calls, ∀ m, Fires q m → finish < m) :
    Course finish t { t with now := finish }
  | instant {t u v : Traffic} {next : Moment} (later : t.now < next) (inTime : next ≤ finish)
    (isTick : next.tick = next) (first : ∀ q ∈ t.calls, ∀ m, Fires q m → next ≤ m)
    (moves : Moves { t with now := next } u) (timely : Timely u) (after : Course finish u v) :
    Course finish t v

theorem course_runTo (guarded : t.layers.breaker.isSome = true) (timely : Timely t) {finish : Moment}
    (early : t.now ≤ finish) {fuel : Nat} (enough : finish.millis - t.now.millis < fuel) :
    Course finish t (runTo finish fuel t) := by
  -- Each instant is a tick after the last one, so there are no more of them than milliseconds.
  fun_induction Traffic.runTo finish fuel t with
  | case1 => exact absurd enough (Nat.not_lt_zero _)
  | case2 fuel t none =>
    refine .arrived early fun q member m fires => ?_
    obtain ⟨_, next, -⟩ := (nextAt?_spec guarded).2 q member m fires
    cases none.symm.trans next
  | case3 fuel t next soonest past =>
    refine .arrived early fun q member m fires => ?_
    obtain ⟨_, next', sooner⟩ := (nextAt?_spec guarded).2 q member m fires
    cases soonest.symm.trans next'
    exact Nat.lt_of_lt_of_le past sooner
  | case4 fuel t next soonest within ih =>
    obtain ⟨sound, complete⟩ := nextAt?_spec (t := t) guarded
    obtain ⟨q, member, fires⟩ := sound next soonest
    obtain ⟨later, isTick⟩ := (timely q member).fires fires
    have inTime : next ≤ finish := Nat.le_of_not_lt within
    have first (p : Call × Phase) (there : p ∈ t.calls) (m : Moment) (set : Fires p m) : next ≤ m := by
      obtain ⟨_, next', sooner⟩ := complete p there m set
      cases soonest.symm.trans next'
      exact sooner
    have ticking : Ticking { t with now := next } := fun p there m own =>
      ⟨((timely p there).ahead m own).2, first p there m (.inl own)⟩
    obtain ⟨moves, rests⟩ := visitAll_timely (t := { t with now := next }) guarded ticking
    have still := moves.still
    refine .instant later inTime isTick first moves rests (ih (by rw [still.layers]; exact guarded) rests ?_ ?_)
    · rw [still.now]
      exact inTime
    · have forward := Moment.millis_lt later isTick
      have bounded : next.millis ≤ finish.millis := Nat.div_le_div_right inTime
      rw [still.now]
      show finish.millis - next.millis < fuel
      omega

/-- No timer is missed while time passes. -/
theorem course_pass (guarded : t.layers.breaker.isSome = true) (timely : Timely t) {finish : Moment}
    (early : t.now ≤ finish) : Course finish t (t.pass finish) := by
  refine course_runTo guarded timely early ?_
  simp only [Moment.millis, Moment.since, Duration.nanosPerMilli]
  omega

theorem pass_early (guarded : t.layers.breaker.isSome = true) {finish : Moment}
    (none : ∀ q ∈ t.calls, ∀ m, Fires q m → finish < m) : t.pass finish = { t with now := finish } := by
  unfold pass runTo
  split
  next => rfl
  next next soonest =>
    obtain ⟨q, member, fires⟩ := (nextAt?_spec guarded).1 next soonest
    exact if_pos (none q member next fires)

theorem Course.still {finish : Moment} (course : Course finish t u) :
    u.layers = t.layers ∧ u.signals = t.signals ∧ u.now = finish := by
  induction course with
  | arrived => exact ⟨rfl, rfl, rfl⟩
  | instant _ _ _ _ moves _ _ ih =>
    obtain ⟨layers, signals, now⟩ := ih
    exact ⟨layers.trans moves.still.layers, signals.trans moves.still.signals, now⟩

theorem Course.timely {finish : Moment} (course : Course finish t u) (timely : Timely t) : Timely u := by
  induction course with
  | arrived _ none => exact fun q member => (timely q member).later (none q member)
  | instant _ _ _ _ _ rests _ ih => exact ih rests

def known (t : Traffic) (c : Call) : Traffic := t.onBreaker c.backend fun b => (b, none)

def giveUpAt? (t : Traffic) : Option Moment :=
  (t.layers.bulkhead.bind (·.config.maxWait)).map fun d => (t.now.add d).tick

theorem still_known (t : Traffic) (c : Call) : Still t (t.known c) ∧ (t.known c).calls = t.calls :=
  (quiet_onBreaker t c.backend fun b => (b, none)).still

theorem start_taken (guarded : t.layers.breaker.isSome = true) {bulkhead : BulkheadLayer}
    (layer : t.layers.bulkhead = some bulkhead) (c : Call) :
    ∃ u, Taken (t.known c) (c, .queued (t.known c).giveUpAt?) u ∧ Proceeds u (t.start c) := by
  have still := (still_known t c).1
  rw [← still.layers] at layer guarded
  unfold start
  rw [← known]
  generalize t.known c = w at layer guarded ⊢
  have timer : w.giveUpAt? = bulkhead.config.maxWait.map fun d => (w.now.add d).tick := by
    rw [giveUpAt?, layer, Option.bind_some]
  simp only [layer]
  cases done : w.errorOf? c with
  | some why => exact ⟨_, Turn.ended (.barred done), .refl _⟩
  | none =>
    by_cases room : 0 < w.free
    · have taken := taken_enter guarded (calm_of_going done) room w.giveUpAt?
      simp only [if_pos room]
      exact ⟨_, taken, proceeds_settle (by rw [taken.still.layers]; exact guarded)⟩
    · simp only [if_neg room, ← timer]
      by_cases impatient : w.isDue w.giveUpAt? = true
      · obtain ⟨m, set, due⟩ := isDue_iff.mp impatient
        have turn : Turn w (c, .queued (some m)) _ none := .turnedAway done due (Nat.eq_zero_of_not_pos room)
        simp only [layer, Option.map_some, Option.getD_some] at turn
        rw [if_pos impatient, set]
        exact ⟨_, turn.ended, .refl _⟩
      · rw [if_neg impatient]
        refine ⟨_, ⟨.refl _, some _, rfl, fun q own => Option.mem_some.mp own ▸ ?_⟩, .refl _⟩
        refine rests_of_calm (calm_of_going done) fun m fires => ⟨?_, ?_⟩
        · exact Nat.lt_of_not_le fun due => impatient (isDue_iff.mpr ⟨m, fires, due⟩)
        · have fires' : w.giveUpAt? = some m := fires
          rw [timer] at fires'
          obtain ⟨d, -, rfl⟩ := Option.map_eq_some_iff.mp fires'
          exact Moment.tick_tick _

theorem cancel_timely (guarded : t.layers.breaker.isSome = true) (timely : Timely t) (signal : Nat) :
    Moves { t with signals := t.signals.raise signal } (t.cancel signal) ∧ Timely (t.cancel signal) :=
  visitAll_timely (t := { t with signals := t.signals.raise signal }) guarded timely.ticking

def dropped (t : Traffic) (q : Call × Phase) : Traffic :=
  match q.2 with
  | .attempting _ ticket _ => (t.record q.1 ticket .abandoned).release q.1
  | _ => t.release q.1

theorem quiet_dropped (t : Traffic) (q : Call × Phase) : Quiet t (t.dropped q) := by
  obtain ⟨c, p⟩ := q
  cases p with
  | attempting => exact (quiet_record ..).trans (quiet_release ..)
  | _ => exact quiet_release ..

theorem among_dropped (t : Traffic) (cs : List (Call × Phase)) (q : Call × Phase) :
    (t.among cs).dropped q = (t.dropped q).among cs := by
  obtain ⟨c, p⟩ := q
  cases p with
  | attempting => simp only [dropped, among_record, among_release]
  | _ => exact among_release ..

/-- Calls with a name are dropped. -/
inductive Drops (id : String) : Traffic → Traffic → Prop
  | settled {t : Traffic} {calls : List (Call × Phase)} (same : t.calls.Perm calls) : Drops id t (t.among calls)
  | drop {t u : Traffic} {q : Call × Phase} {others : List (Call × Phase)}
    (there : t.calls.Perm (others ++ [q])) (own : q.1.id = id)
    (after : Drops id ((t.dropped q).among others) u) : Drops id t u

theorem Drops.still {id : String} (drops : Drops id t u) : Still t u := by
  induction drops with
  | settled => exact ⟨rfl, rfl, rfl⟩
  | @drop t _ q _ _ _ _ ih =>
    obtain ⟨layers, now, signals⟩ := ih
    exact (quiet_dropped t q).still.1.trans ⟨layers, now, signals⟩

theorem abort_drops (t : Traffic) (id : String) :
    ∃ u, Drops id t u ∧ (∀ q ∈ u.calls, q ∈ t.calls ∧ q.1.id ≠ id) ∧ t.abort id = u.settle := by
  have each (calls : List (Call × Phase)) (u : Traffic) :
      let w := calls.foldl (fun (u : Traffic) q => if q.1.id ≠ id then u.hold q.1 q.2 else u.dropped q) u
      Drops id (u.among (u.calls ++ calls)) w ∧ ∀ q ∈ w.calls, q ∈ u.calls ∨ q ∈ calls ∧ q.1.id ≠ id := by
    induction calls generalizing u with
    | nil =>
      rw [List.append_nil]
      exact ⟨.settled (.refl _), fun _ => .inl⟩
    | cons q rest ih =>
      by_cases own : q.1.id = id
      · obtain ⟨drops, others⟩ := ih (u.dropped q)
        have calls := (quiet_dropped u q).calls
        rw [calls] at drops others
        simp only [List.foldl_cons, own, ne_eq, not_true_eq_false, if_false]
        have there : (u.calls ++ q :: rest).Perm ((u.calls ++ rest) ++ [q]) := by
          rw [List.append_assoc]
          exact (List.perm_append_singleton q rest).symm.append_left u.calls
        refine ⟨.drop there own ?_, fun p member => ?_⟩
        · rw [among_dropped]
          exact drops
        · exact (others p member).imp_right fun ⟨there, other⟩ => ⟨List.mem_cons_of_mem _ there, other⟩
      · obtain ⟨drops, others⟩ := ih (u.hold q.1 q.2)
        simp only [List.foldl_cons, ne_eq, own, not_false_eq_true, if_true]
        refine ⟨?_, fun p member => ?_⟩
        · rw [List.append_cons]
          exact drops
        · rcases others p member with held | ⟨there, other⟩
          · rcases List.mem_append.mp held with old | new
            · exact .inl old
            · obtain rfl := List.mem_singleton.mp new
              exact .inr ⟨List.mem_cons_self, own⟩
          · exact .inr ⟨List.mem_cons_of_mem _ there, other⟩
  obtain ⟨drops, others⟩ := each t.calls (t.among [])
  exact ⟨_, drops, fun q member => (others q member).resolve_left List.not_mem_nil, rfl⟩

/-- What is done with traffic. -/
inductive Act where
  | start (c : Call)
  | pass (finish : Moment)
  | cancel (signal : Nat)
  | abort (id : String)
  | watch (id : String) (context : Context)
  | look
  | reset (breaker : String)
  /-- A new signal is given out. -/
  | signal

def act (t : Traffic) : Act → Traffic
  | .start c => t.start c
  | .pass finish => t.pass finish
  | .cancel signal => t.cancel signal
  | .abort id => t.abort id
  | .watch id context => t.watch id context
  | .look => t.lookAll
  | .reset breaker => t.resetBreaker breaker
  | .signal => { t with signals := t.signals.fresh.2 }

@[elab_as_elim]
theorem watch_cases {motive : Traffic → Prop} (t : Traffic) (id : String) (context : Context)
    (told : ∀ why, motive (t.note (.woken id why)))
    (waits : let c : Call := { id, context, script := fun _ => ⟨none, .success⟩ }
      t.errorOf? c = none → motive (t.hold c .watching)) :
    motive (t.watch id context) := by
  unfold watch
  simp only
  split
  next => exact told _
  next going => exact waits going

/-- Time does not run backwards, and no call starts with a permit. -/
def Act.Orderly (t : Traffic) : Act → Prop
  | .start c => c.holdsPermit = false
  | .pass finish => t.now ≤ finish
  | _ => True

theorem timely_of_calls (timely : Timely t) (still : Still t u) (calls : u.calls = t.calls) : Timely u := by
  intro q member
  exact still.rests (timely q (calls ▸ member))

/-- Whatever is done with traffic that rests, it rests again. -/
theorem act_timely (guarded : t.layers.breaker.isSome = true) {bulkhead : BulkheadLayer}
    (layer : t.layers.bulkhead = some bulkhead) (timely : Timely t) {a : Act} (orderly : a.Orderly t) :
    Timely (t.act a) := by
  cases a with
  | start c =>
    obtain ⟨still, calls⟩ := still_known t c
    obtain ⟨u, taken, proceeds⟩ := start_taken guarded layer c
    obtain ⟨next, appended, rests⟩ := taken.calls
    refine proceeds.timely fun q member => taken.still.rests ?_
    rw [appended] at member
    rcases List.mem_append.mp member with old | own
    · exact still.rests (timely q (calls ▸ old))
    · exact rests q (Option.mem_toList.mp own)
  | pass finish => exact (course_pass guarded timely orderly).timely timely
  | cancel signal => exact (cancel_timely guarded timely signal).2
  | abort id =>
    obtain ⟨u, drops, others, same⟩ := abort_drops t id
    show Timely (t.abort id)
    rw [same]
    refine (proceeds_settle (by rw [drops.still.layers]; exact guarded)).timely fun q member => ?_
    exact drops.still.rests (timely q (others q member).1)
  | watch id context =>
    show Timely (t.watch id context)
    refine watch_cases t id context (fun why => ?_) fun going => ?_
    · exact timely_of_calls timely ⟨rfl, rfl, rfl⟩ rfl
    · intro q member
      rcases List.mem_append.mp member with old | new
      · obtain ⟨live, before, ahead⟩ := timely q old
        exact ⟨live, before, ahead⟩
      · obtain rfl := List.mem_singleton.mp new
        obtain ⟨live, before, ahead⟩ := rests_watching (calm_of_going going)
        exact ⟨live, before, ahead⟩
  | look =>
    obtain ⟨still, calls⟩ := (quiet_lookAll t).still
    exact timely_of_calls timely still calls
  | reset breaker =>
    obtain ⟨still, calls⟩ := (quiet_onBreaker t breaker fun b => b.reset t.now).still
    exact timely_of_calls timely still calls
  | signal =>
    intro q member
    obtain ⟨live, before, ahead⟩ := timely q member
    exact ⟨live, before, ahead⟩

theorem act_still (guarded : t.layers.breaker.isSome = true) {bulkhead : BulkheadLayer}
    (layer : t.layers.bulkhead = some bulkhead) (timely : Timely t) {a : Act}
    (momentary : ∀ finish, a ≠ .pass finish) : (t.act a).layers = t.layers ∧ (t.act a).now = t.now := by
  have kept {u : Traffic} (still : Still t u) : u.layers = t.layers ∧ u.now = t.now := ⟨still.layers, still.now⟩
  cases a with
  | start c =>
    obtain ⟨u, taken, proceeds⟩ := start_taken guarded layer c
    exact kept (((still_known t c).1.trans taken.still).trans proceeds.moves.still)
  | pass finish => exact absurd rfl (momentary finish)
  | cancel signal =>
    have still := (cancel_timely guarded timely signal).1.still
    exact ⟨still.layers, still.now⟩
  | abort id =>
    obtain ⟨u, drops, -, same⟩ := abort_drops t id
    show (t.abort id).layers = t.layers ∧ (t.abort id).now = t.now
    rw [same]
    have settled := (proceeds_settle (t := u) (by rw [drops.still.layers]; exact guarded)).moves.still
    exact kept (drops.still.trans settled)
  | watch id context =>
    show (t.watch id context).layers = t.layers ∧ (t.watch id context).now = t.now
    exact watch_cases t id context (fun _ => ⟨rfl, rfl⟩) fun _ => ⟨rfl, rfl⟩
  | look => exact kept (quiet_lookAll t).still.1
  | reset breaker => exact kept (quiet_onBreaker t breaker fun b => b.reset t.now).still.1
  | signal => exact ⟨rfl, rfl⟩

theorem act_layers (guarded : t.layers.breaker.isSome = true) {bulkhead : BulkheadLayer}
    (layer : t.layers.bulkhead = some bulkhead) (timely : Timely t) {a : Act} (orderly : a.Orderly t) :
    (t.act a).layers = t.layers := by
  cases a with
  | pass finish => exact (course_pass guarded timely orderly).still.1
  | _ =>
    refine (act_still guarded layer timely fun _ same => ?_).1
    cases same

/-- Traffic that comes about. -/
inductive Reached (layers : Layers) : Traffic → Prop
  | bare : Reached layers (ofLayers layers)
  | act {t : Traffic} {a : Act} (reached : Reached layers t) (orderly : a.Orderly t) : Reached layers (t.act a)

theorem Reached.timely {bulkhead : BulkheadLayer} {retry : Option Config.Retry} {config : Config.Breaker}
    (reached : Reached ⟨some bulkhead, retry, some config⟩ t) :
    t.layers = ⟨some bulkhead, retry, some config⟩ ∧ Timely t := by
  induction reached with
  | bare => exact ⟨rfl, fun q none => absurd none List.not_mem_nil⟩
  | @act t a _ orderly ih =>
    obtain ⟨layers, timely⟩ := ih
    have guarded : t.layers.breaker.isSome = true := by rw [layers]; rfl
    have layer : t.layers.bulkhead = some bulkhead := by rw [layers]
    exact ⟨(act_layers guarded layer timely orderly).trans layers, act_timely guarded layer timely orderly⟩

end Gatehouse.Resilience.Traffic
