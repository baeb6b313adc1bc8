import Gatehouse.Proofs.Context
import Gatehouse.Proofs.Resilience.Separation

/-!
Those who wait for a context in traffic. Whatever goes on around them, they are told at the first tick at which the
context is done, and once only: just when the race of its signal against the timer of its deadline is over.
-/
namespace Gatehouse.Resilience.Traffic

/-- What those with a name who wait were told, and when. -/
def wakings (t : Traffic) (id : String) : List (Moment × ContextError) :=
  t.log.filterMap fun
    | (m, .woken watcher why) => if watcher = id then some (m, why) else none
    | _ => none

section
variable {t u : Traffic} {q : Call × Phase} {next : Option (Call × Phase)} {id : String}

theorem wakings_woken (t : Traffic) (id watcher : String) (why : ContextError) :
    (t.note (.woken watcher why)).wakings id = t.wakings id ++ if watcher = id then [(t.now, why)] else [] := by
  unfold wakings note
  rw [List.filterMap_append, List.filterMap_cons, List.filterMap_nil]
  by_cases own : watcher = id <;> simp [own]

theorem wakings_congr (same : u.noted (·.about? = some id) = t.noted (·.about? = some id)) :
    u.wakings id = t.wakings id := by
  have among (t : Traffic) : t.wakings id = (t.noted (·.about? = some id)).filterMap fun
      | (m, .woken watcher why) => if watcher = id then some (m, why) else none
      | _ => none := by
    unfold wakings noted
    rw [List.filterMap_filter]
    refine congrArg (List.filterMap · t.log) (funext fun ⟨m, e⟩ => ?_)
    cases e with
    | woken watcher why => by_cases own : watcher = id <;> simp [Event.about?, own]
    | _ => exact (ite_self _).symm
  rw [among, same, ← among]

theorem about_name (id : String) (e : Event) (about : decide (e.about? = some id) = true) : e.about? = some id :=
  of_decide_eq_true about

theorem Turn.woken {c : Call} (turn : Turn t (c, .watching) u next) :
    next = none ∧ ∃ why, t.errorOf? c = some why ∧ u.wakings c.id = t.wakings c.id ++ [(t.now, why)] := by
  cases turn with
  | @interrupted _ _ why woken =>
    refine ⟨rfl, why, errorOf?_of_wakes? woken, (wakings_woken ..).trans ?_⟩
    rw [if_pos rfl]

theorem wakings_primed (t : Traffic) {a : Act} (other : ∀ context, a ≠ .watch id context) :
    (t.primed a).wakings id = t.wakings id := by
  cases a with
  | start c => exact wakings_congr (noted_onBreaker (about_name id) ..)
  | look => exact wakings_congr (noted_lookAll (about_name id) ..)
  | reset breaker => exact wakings_congr (noted_onBreaker (about_name id) ..)
  | watch watcher context =>
    have apart : watcher ≠ id := fun same => other context (same ▸ rfl)
    show (t.watch watcher context).wakings id = t.wakings id
    refine watch_cases t watcher context (fun why => ?_) fun _ => rfl
    rw [wakings_woken, if_neg apart, List.append_nil]
  | _ => rfl

/-- What is known of one who waits: nobody was told yet, and the timer did not fire; or why the wait is over, and when
that was. -/
inductive Vigil (c : Call) (signals : Signals) (start : Moment) (before : List (Moment × ContextError))
    (t : Traffic) : Option (Call × Phase) → Prop
  | waiting (same : t.signals = signals) (later : start ≤ t.now) (silent : t.wakings c.id = before)
    (early : ∀ d, c.context.deadline = some d → t.now ≤ d.tick) :
    Vigil c signals start before t (some (c, .watching))
  | ended {m : Moment} {why : ContextError} (told : t.wakings c.id = before ++ [(m, why)]) (later : start ≤ m)
    (past : m ≤ t.now) (early : ∀ d, c.context.deadline = some d → m ≤ d.tick)
    (done : c.context.error? signals m = some why) : Vigil c signals start before t none

theorem Vigil.kept {c : Call} {signals : Signals} {start : Moment} {before : List (Moment × ContextError)}
    {own : Option (Call × Phase)} (vigil : Vigil c signals start before t own) (still : Still t u)
    (silence : u.wakings c.id = t.wakings c.id) : Vigil c signals start before u own := by
  cases vigil with
  | waiting same later silent early =>
    rw [← still.now] at later early
    exact .waiting (still.signals.trans same) later (silence.trans silent) early
  | ended told later past early done =>
    rw [← still.now] at past
    exact .ended (silence.trans told) later past early done

theorem certain_vigil (c : Call) (signals : Signals) (start : Moment) (before : List (Moment × ContextError)) :
    Certain (·.1.id ≠ c.id) (Vigil c signals start before) where
  bare _ vigil := vigil.kept ⟨rfl, rfl, rfl⟩ rfl
  turn turn vigil := by
    cases vigil with
    | waiting same later silent early =>
      obtain ⟨rfl, why, done, told⟩ := turn.woken
      have now := turn.still.1.now
      rw [silent] at told
      exact .ended told later (now ▸ Nat.le_refl _) early (same ▸ done)
  other kind turn vigil :=
    ⟨vigil.kept turn.still.1 (wakings_congr (turn.noted (about_name _) kind)), fun p own => (turn.same_id p own).symm ▸ kind⟩
  dropped _ vigil := vigil.kept (quiet_dropped ..).still.1 (wakings_congr (noted_dropped (about_name _) ..))
  later onward vigil first := by
    cases vigil with
    | waiting same later silent early =>
      refine .waiting same (Nat.le_trans later onward) silent fun d deadline => ?_
      exact first _ rfl d.tick (.inr (Option.map_eq_some_iff.mpr ⟨d, deadline, rfl⟩))
    | ended told later past early done => exact .ended told later (Nat.le_trans past onward) early done

/-- Once nobody of a name is there nobody of that name is told anything. -/
theorem certain_wakings (id : String) (before : List (Moment × ContextError)) :
    Certain (·.1.id ≠ id) fun t own => own = none ∧ t.wakings id = before where
  bare _ kept := kept
  turn _ kept := nomatch kept.1
  other kind turn kept :=
    ⟨⟨kept.1, (wakings_congr (turn.noted (about_name _) kind)).trans kept.2⟩, fun p own => (turn.same_id p own).symm ▸ kind⟩
  dropped _ kept := ⟨kept.1, (wakings_congr (noted_dropped (about_name _) ..)).trans kept.2⟩
  later _ kept _ := kept

end

def scene (t : Traffic) : Scene := ⟨t.now, t.signals⟩

section
variable {t u : Traffic} {c : Call}

theorem undone_of_rests (rests : Rests t (c, .watching)) : c.context.rounded.errorAt? t.scene = none := by
  have live : c.context.rounded.isCanceled t.scene.signals = false := rests.live
  refine Option.eq_none_iff_forall_not_mem.mpr fun why done => ?_
  obtain ⟨-, _, tick, reached⟩ := Context.expired_of_live live done
  obtain ⟨d, deadline, rfl⟩ := Option.map_eq_some_iff.mp tick
  exact absurd (rests.before d deadline) (Moment.not_lt.mpr reached)

theorem Beside.mem {Other : Call × Phase → Prop} {q : Call × Phase} (beside : Beside Other t (some q)) :
    q ∈ t.calls := by
  obtain ⟨others, calls, -⟩ := beside
  exact calls.mem_iff.mpr (List.mem_append_right _ List.mem_cons_self)

/-- What becomes of one who waits: either it was told this and is gone, or it was told nothing and is there. -/
structure Awaits (c : Call) (t u : Traffic) (first : Option (Moment × ContextError)) : Prop where
  beside : Beside (·.1.id ≠ c.id) u (if first.isSome then none else some (c, .watching))
  told : u.wakings c.id = t.wakings c.id ++ first.toList

theorem Course.awaits {finish : Moment} (course : Course finish t u) (rests : Rests t (c, .watching))
    (beside : Beside (·.1.id ≠ c.id) t (some (c, .watching))) {first : Option (Moment × ContextError)}
    (none : (∀ d, c.context.deadline = some d → finish < d.tick) → first = none)
    (some : ∀ d, c.context.deadline = some d → d.tick ≤ finish → first = some (d.tick, .deadlineExceeded)) :
    Awaits c t u first := by
  have listed := beside.mem
  have timer (d : Moment) (deadline : c.context.deadline = Option.some d) :
      c.context.wakeAt? = Option.some d.tick := Option.map_eq_some_iff.mpr ⟨d, deadline, rfl⟩
  induction course with
  | arrived _ later =>
    rw [none fun d deadline => later _ listed d.tick (.inr (timer d deadline))]
    exact ⟨beside, (List.append_nil _).symm⟩
  | @instant t u v next later inTime isTick soonest moves timely after ih =>
    have waiting : Vigil c t.signals next (t.wakings c.id) { t with now := next } (Option.some (c, .watching)) :=
      .waiting rfl (Nat.le_refl _) rfl fun d deadline => soonest _ listed d.tick (.inr (timer d deadline))
    have path : Path (fun _ => False) { t with now := next } u := moves.path
    obtain ⟨own, beside', vigil⟩ := (certain_vigil c t.signals next (t.wakings c.id)).path path beside (fun _ _ => id) waiting
    have now : u.now = next := moves.still.now
    cases vigil with
    | waiting same _ silent =>
      have awaits := ih (timely _ beside'.mem) beside' beside'.mem
      exact ⟨awaits.beside, silent ▸ awaits.told⟩
    | @ended m why told since past early done =>
      rw [now] at past
      obtain rfl : m = next := Moment.eq_of_le_of_le past since
      obtain ⟨rfl, d, deadline, reached⟩ := Context.expired_of_live (s := ⟨m, t.signals⟩) rests.live done
      have same : d.tick = m := Moment.eq_of_le_of_le ((Moment.tick_le_iff isTick).mpr reached) (early d deadline)
      have rest : Path (fun _ => False) u v := after.path
      obtain ⟨_, there, rfl, silent⟩ := (certain_wakings c.id _).path rest beside' none_left ⟨rfl, told⟩
      rw [some d deadline (same ▸ inTime), same]
      exact ⟨there, silent⟩

end

def Act.changes : Act → List Scene.Change
  | .cancel n => [.cancel n]
  | .signal => [.signal]
  | _ => []

/-- What is done with traffic, and with the handles of its signals. -/
inductive Happening where
  | act (a : Act)
  | dropHandle (signal : Nat)

/-- The time that passes, tick by tick, and what is done with contexts. -/
def Happening.spells (now : Moment) : Happening → List Scene.Spell
  | .act (.pass finish) => .replicate ((finish.since now).nanos / Duration.nanosPerMilli) .millisecond
  | .act a => [{ changes := a.changes }]
  | .dropHandle n => [{ changes := [.drop n] }]

def happen (t : Traffic) : Happening → Traffic
  | .act a => t.act a
  | .dropHandle n => t.dropHandle n

/-- Time passes up to a tick, and a signal is raised by its handle only. -/
def Happening.Orderly (t : Traffic) : Happening → Prop
  | .act (.pass finish) => t.now ≤ finish ∧ finish.tick = finish
  | .act (.cancel n) => t.signals.isDropped n = false
  | .act a => a.Orderly t
  | .dropHandle _ => True

def Happening.Avoids (id : String) : Happening → Prop
  | .act (.start c) => c.id ≠ id
  | .act (.watch watcher _) => watcher ≠ id
  | .act (.abort other) => other ≠ id
  | _ => True

/-- Traffic between two happenings, at a tick. -/
structure Calm (layers : Layers) (t : Traffic) : Prop where
  layers : t.layers = layers
  timely : Timely t
  whole : t.now.tick = t.now

section
variable {bulkhead : BulkheadLayer} {retry : Option Config.Retry} {config : Config.Breaker} {t : Traffic} {c : Call}
  {a : Act} {h : Happening}

theorem Calm.guarded (calm : Calm ⟨some bulkhead, retry, some config⟩ t) : t.layers.breaker.isSome = true := by
  rw [calm.layers]
  rfl

theorem Calm.layer (calm : Calm ⟨some bulkhead, retry, some config⟩ t) : t.layers.bulkhead = some bulkhead := by
  rw [calm.layers]

theorem Happening.Orderly.act (orderly : (Happening.act a).Orderly t) : a.Orderly t := by
  cases a with
  | pass => exact orderly.1
  | cancel => trivial
  | _ => exact orderly

theorem Happening.Avoids.spares (avoids : (Happening.act a).Avoids c.id) :
    a.Spares (·.1.id ≠ c.id) (some (c, .watching)) ∧ ∀ context, a ≠ .watch c.id context := by
  cases a with
  | start => exact ⟨fun _ => avoids, nofun⟩
  | watch => exact ⟨avoids, fun _ same => avoids (Act.watch.inj same).1⟩
  | abort => exact ⟨fun q own => Option.mem_some.mp own ▸ Ne.symm avoids, nofun⟩
  | _ => exact ⟨trivial, nofun⟩

theorem signals_primed (orderly : (Happening.act a).Orderly t) :
    (t.primed a).signals = (t.scene.spend { changes := a.changes }).signals := by
  cases a with
  | start c => exact (still_known t c).1.signals
  | cancel n =>
    have handled : t.signals.isDropped n = false := orderly
    show t.signals.raise n = (Scene.change ⟨t.now.add .zero, t.signals⟩ (.cancel n)).signals
    simp [Scene.change, handled]
  | watch id context =>
    show (t.watch id context).signals = t.signals
    exact watch_cases t id context (fun _ => rfl) fun _ => rfl
  | look => exact (quiet_lookAll t).signals
  | reset breaker => exact (quiet_onBreaker t breaker fun b => b.reset t.now).signals
  | _ => rfl

theorem Calm.scene_act (calm : Calm ⟨some bulkhead, retry, some config⟩ t)
    (orderly : (Happening.act a).Orderly t) (momentary : ∀ finish, a ≠ .pass finish) :
    (t.act a).scene = t.scene.spend { changes := a.changes } := by
  have path := act_path calm.guarded calm.layer calm.timely orderly.act
  have still := act_still calm.guarded calm.layer calm.timely momentary
  have now : (t.scene.spend { changes := a.changes }).now = t.now := Scene.now_spend ..
  rw [scene, still.2, path.onward.2.1, signals_primed orderly, ← now]

/-- Whoever waits during a momentary act is told if the context is done by then. -/
theorem Calm.awaits_act (calm : Calm ⟨some bulkhead, retry, some config⟩ t)
    (orderly : (Happening.act a).Orderly t) (momentary : ∀ finish, a ≠ .pass finish)
    (avoids : (Happening.act a).Avoids c.id) (beside : Beside (·.1.id ≠ c.id) t (some (c, .watching))) :
    Awaits c t (t.act a) (c.context.rounded.firstError? [(t.act a).scene]) := by
  obtain ⟨spares, other⟩ := avoids.spares
  have now := (act_still calm.guarded calm.layer calm.timely momentary).2
  have waiting : Vigil c (t.primed a).signals t.now (t.wakings c.id) (t.primed a) (some (c, .watching)) := by
    have same := (t.primed_keeps a).1
    refine .waiting rfl (Nat.le_of_eq (congrArg _ same.symm)) (wakings_primed t other) fun d deadline => ?_
    rw [same]
    exact Nat.le_of_lt ((calm.timely _ beside.mem).before d deadline)
  obtain ⟨own, beside', vigil⟩ := (certain_vigil c (t.primed a).signals t.now (t.wakings c.id)).act
    calm.guarded calm.layer calm.timely orderly.act spares beside waiting
  rw [Context.firstError?_singleton]
  cases vigil with
  | waiting _ _ silent =>
    rw [undone_of_rests (act_timely calm.guarded calm.layer calm.timely orderly.act _ beside'.mem)]
    exact ⟨beside', silent.trans (List.append_nil _).symm⟩
  | @ended m why told since past _ done =>
    rw [now] at past
    obtain rfl : m = t.now := Moment.eq_of_le_of_le past since
    have signals := (act_path calm.guarded calm.layer calm.timely orderly.act).onward.2.1
    have done' : c.context.rounded.errorAt? (t.act a).scene = some why := by
      rw [Context.errorAt?_rounded (by rw [scene, now]; exact calm.whole), scene, now, signals]
      exact done
    rw [done', Option.map_some]
    have there : (t.act a).scene.now = t.now := now
    rw [there]
    exact ⟨beside', told⟩

theorem milliseconds_between {now finish : Moment} (whole : now.tick = now) (later : now ≤ finish)
    (whole' : finish.tick = finish) :
    now.add (.ofMillis ((finish.since now).nanos / Duration.nanosPerMilli)) = finish := by
  rw [Moment.tick_iff] at whole whole'
  refine congrArg Moment.mk ?_
  simp only [Moment.le_def, Moment.since, Duration.ofMillis, Duration.nanosPerMilli] at whole later whole' ⊢
  omega

/-- Whoever waits is told when the context is first done. -/
theorem Calm.awaits (calm : Calm ⟨some bulkhead, retry, some config⟩ t) (orderly : h.Orderly t)
    (avoids : h.Avoids c.id) (beside : Beside (·.1.id ≠ c.id) t (some (c, .watching))) :
    Awaits c t (t.happen h) (c.context.rounded.firstError? (t.scene.trace (h.spells t.now))) := by
  have rests := calm.timely _ beside.mem
  have momentary (a : Act) (lasting : ∀ finish, a ≠ .pass finish) (orderly : (Happening.act a).Orderly t)
      (avoids : (Happening.act a).Avoids c.id) : Awaits c t (t.act a)
        (c.context.rounded.firstError? (t.scene.trace [{ changes := a.changes }])) := by
    rw [Scene.trace, Scene.trace, ← calm.scene_act orderly lasting]
    exact calm.awaits_act orderly lasting avoids beside
  cases h with
  | dropHandle n =>
    have undone : c.context.rounded.errorAt? (t.scene.spend { changes := [.drop n] }) = none := undone_of_rests rests
    rw [Happening.spells, Scene.trace, Scene.trace, Context.firstError?_singleton, undone]
    exact ⟨beside, (List.append_nil _).symm⟩
  | act a =>
    cases a with
    | pass finish =>
      have course := course_pass calm.guarded calm.timely orderly.1
      have between := milliseconds_between calm.whole orderly.1 orderly.2
      obtain ⟨none, some⟩ := Context.firstError?_milliseconds (c := c.context) (s := t.scene) calm.whole rests.live
        rests.before ((finish.since t.now).nanos / Duration.nanosPerMilli)
      have there : t.scene.now = t.now := rfl
      rw [there, between] at none some
      exact course.awaits rests beside none some
    | _ =>
      refine momentary _ (fun _ same => ?_) orderly avoids
      cases same

theorem Calm.silent {id : String} (calm : Calm ⟨some bulkhead, retry, some config⟩ t) (orderly : h.Orderly t)
    (avoids : h.Avoids id) (unused : Beside (·.1.id ≠ id) t none) :
    Beside (·.1.id ≠ id) (t.happen h) none ∧ (t.happen h).wakings id = t.wakings id := by
  cases h with
  | dropHandle n => exact ⟨unused, rfl⟩
  | act a =>
    have other (context : Context) : a ≠ .watch id context := by
      rintro rfl
      exact avoids rfl
    have spares : a.Spares (·.1.id ≠ id) none := by
      cases a with
      | start => exact fun _ => avoids
      | watch => exact avoids
      | abort => exact none_left
      | _ => trivial
    obtain ⟨_, there, rfl, silent⟩ := (certain_wakings id (t.wakings id)).act calm.guarded calm.layer calm.timely
      orderly.act spares unused ⟨rfl, wakings_primed t other⟩
    exact ⟨there, silent⟩

theorem Calm.happen (calm : Calm ⟨some bulkhead, retry, some config⟩ t) (orderly : h.Orderly t) :
    Calm ⟨some bulkhead, retry, some config⟩ (t.happen h) ∧
      (t.happen h).scene = t.scene.spendAll (h.spells t.now) := by
  cases h with
  | dropHandle n =>
    have timely : Timely (t.dropHandle n) := fun q member =>
      let rests := calm.timely q member
      ⟨rests.live, rests.before, rests.ahead⟩
    exact ⟨⟨calm.layers, timely, calm.whole⟩, rfl⟩
  | act a =>
    have layers := (act_layers calm.guarded calm.layer calm.timely orderly.act).trans calm.layers
    have timely := act_timely calm.guarded calm.layer calm.timely orderly.act
    have momentary (lasting : ∀ finish, a ≠ .pass finish) : Calm ⟨some bulkhead, retry, some config⟩ (t.act a) ∧
        (t.act a).scene = t.scene.spendAll [{ changes := a.changes }] := by
      refine ⟨⟨layers, timely, ?_⟩, calm.scene_act orderly lasting⟩
      rw [(act_still calm.guarded calm.layer calm.timely lasting).2]
      exact calm.whole
    cases a with
    | pass finish =>
      obtain ⟨-, signals, now⟩ := (course_pass calm.guarded calm.timely orderly.1).still
      have scene : (t.pass finish).scene = ⟨finish, t.signals⟩ := congr (congrArg Scene.mk now) signals
      refine ⟨⟨layers, timely, (congrArg Moment.tick now).trans (orderly.2.trans now.symm)⟩, scene.trans ?_⟩
      rw [Happening.spells, Scene.spendAll_milliseconds]
      exact congrArg (Scene.mk · t.signals) (milliseconds_between calm.whole orderly.1 orderly.2).symm
    | _ =>
      refine momentary fun _ same => ?_
      cases same

/-- Traffic that comes about while handles are dropped too. -/
inductive Happens (layers : Layers) : Traffic → Prop
  | bare : Happens layers (ofLayers layers)
  | next {t : Traffic} {h : Happening} (before : Happens layers t) (orderly : h.Orderly t) :
    Happens layers (t.happen h)

theorem Happens.calm (happens : Happens ⟨some bulkhead, retry, some config⟩ t) :
    Calm ⟨some bulkhead, retry, some config⟩ t := by
  induction happens with
  | bare =>
    have whole : Moment.start.tick = .start := rfl
    exact ⟨rfl, List.forall_mem_nil _, whole⟩
  | next _ orderly ih => exact (ih.happen orderly).1

/-- All that happens is orderly, and nothing is done under this name. -/
def Afterwards (id : String) : Traffic → List Happening → Prop
  | _, [] => True
  | t, h :: rest => h.Orderly t ∧ h.Avoids id ∧ Afterwards id (t.happen h) rest

def happenAll (t : Traffic) (happenings : List Happening) : Traffic := happenings.foldl happen t

def meanwhile (t : Traffic) : List Happening → List Scene.Spell
  | [] => []
  | h :: rest => h.spells t.now ++ (t.happen h).meanwhile rest

theorem Calm.silent_all {id : String} (calm : Calm ⟨some bulkhead, retry, some config⟩ t)
    {happenings : List Happening} (afterwards : Afterwards id t happenings) (unused : Beside (·.1.id ≠ id) t none) :
    (t.happenAll happenings).wakings id = t.wakings id := by
  induction happenings generalizing t with
  | nil => rfl
  | cons h rest ih =>
    obtain ⟨orderly, avoids, afterwards⟩ := afterwards
    obtain ⟨still, silent⟩ := calm.silent orderly avoids unused
    exact (ih (calm.happen orderly).1 afterwards still).trans silent

/-- Whoever waits is told when the context is first done, and once only. -/
theorem Calm.woken (calm : Calm ⟨some bulkhead, retry, some config⟩ t) {happenings : List Happening}
    (afterwards : Afterwards c.id t happenings) (beside : Beside (·.1.id ≠ c.id) t (some (c, .watching))) :
    (t.happenAll happenings).wakings c.id =
      t.wakings c.id ++ (c.context.rounded.firstError? (t.scene.trace (t.meanwhile happenings))).toList := by
  induction happenings generalizing t with
  | nil => exact (List.append_nil _).symm
  | cons h rest ih =>
    obtain ⟨orderly, avoids, afterwards⟩ := afterwards
    obtain ⟨calm', scene⟩ := calm.happen orderly
    obtain ⟨beside', told⟩ := calm.awaits orderly avoids beside
    rw [meanwhile, Scene.trace_append, ← scene, Context.firstError?_append]
    cases first : c.context.rounded.firstError? (t.scene.trace (h.spells t.now)) with
    | none =>
      rw [first] at beside' told
      rw [Option.toList_none, List.append_nil] at told
      exact (ih calm' afterwards beside').trans (congrArg (· ++ _) told)
    | some e =>
      rw [first] at beside' told
      exact (calm'.silent_all afterwards beside').trans told

/-- Whoever waits for a context in traffic is told as if nothing else went on there. -/
theorem Happens.wakings_watch (happens : Happens ⟨some bulkhead, retry, some config⟩ t) {id : String}
    (unused : ∀ q ∈ t.calls, q.1.id ≠ id) {context : Context} {happenings : List Happening}
    (afterwards : Afterwards id (t.watch id context) happenings) :
    ((t.watch id context).happenAll happenings).wakings id = t.wakings id ++
      (context.await t.scene (t.scene.trace ((t.watch id context).meanwhile happenings))).toList := by
  have calm : Calm _ (t.watch id context) := (happens.calm.happen (h := .act (.watch id context)) trivial).1
  have scene : (t.watch id context).scene = t.scene := watch_cases t id context (fun _ => rfl) fun _ => rfl
  rw [Context.await_eq]
  cases done : context.errorAt? t.scene with
  | some why =>
    have told : t.watch id context = t.note (.woken id why) := by
      rw [Context.errorAt?] at done
      simp only [watch, errorOf?]
      rw [show context.error? t.signals t.now = some why from done]
    rw [told] at calm afterwards ⊢
    rw [calm.silent_all afterwards ⟨t.calls, by rw [Option.toList_none, List.append_nil]; exact .refl _, unused⟩,
      wakings_woken, if_pos rfl]
    rfl
  | none =>
    let c : Call := { id, context, script := fun _ => ⟨none, .success⟩ }
    have waits : t.watch id context = t.hold c .watching := by
      simp only [watch, errorOf?]
      rw [show context.error? t.signals t.now = none from done]
    rw [← scene]
    rw [waits] at calm afterwards ⊢
    rw [calm.woken (c := c) afterwards ⟨t.calls, .refl _, unused⟩]
    rfl

end

end Gatehouse.Resilience.Traffic

namespace Gatehouse.Context
open Resilience Traffic

/-- Waiting agrees with polling. The deadline of a context is the earliest that it was given. A context that is done
stays done, also for those that are derived from it, and a cancellation goes before a deadline. A wait is over at once
if the context is done, and otherwise when polling first finds it done, the deadline rounded up to a tick, with the
error that is found then. A handle that is dropped makes nothing done, and from then on only the deadline can, unless
the context was canceled before. So whoever waits in traffic is told, whatever else goes on there. -/
theorem waiting_agrees_with_polling (c : Context) (limits : List Limit) (s : Scene) (spells : List Scene.Spell) :
    let d := c.limited limits
    let later := s.trace spells
    (d.signal = c.signal ∧
      ∀ m, d.deadline = some m ↔ m ∈ c.given limits ∧ ∀ n ∈ c.given limits, m ≤ n) ∧
    (∀ u ∈ later, (d.errorAt? s).isSome = true → ∀ more, ((d.limited more).errorAt? u).isSome = true) ∧
    (∀ u, d.isCanceled u.signals = true → d.errorAt? u = some .canceled) ∧
    (d.await s later = ((d.errorAt? s).map (s.now, ·)).or (d.rounded.firstError? later) ∧
      (∀ u why, d.rounded.errorAt? u = some why → d.errorAt? u = some why) ∧
      ∀ u, u.now.tick = u.now → d.rounded.errorAt? u = d.errorAt? u) ∧
    (∀ u n, d.errorAt? (u.change (.drop n)) = d.errorAt? u) ∧
    (∀ n, d.signal = some n → s.signals.isDropped n = true → s.signals.isRaised n = false →
      d.await s later = d.uncancelable.await s later ∧ ∀ u ∈ later, d.errorAt? u = d.uncancelable.errorAt? u) ∧
    ∀ bulkhead retry config t id happenings, Happens ⟨some bulkhead, retry, some config⟩ t →
      (∀ q ∈ t.calls, q.1.id ≠ id) → Afterwards id (t.watch id d) happenings →
      ((t.watch id d).happenAll happenings).wakings id = t.wakings id ++
        (d.await t.scene (t.scene.trace ((t.watch id d).meanwhile happenings))).toList := by
  intro d later
  refine ⟨⟨c.signal_limited limits, c.deadline_limited limits⟩, ?_, fun u => ?_, ⟨?_, ?_, ?_⟩, ?_, ?_, ?_⟩
  · intro u there done
    exact done_limited (done_of_leads (Scene.leads_trace there) done)
  · exact fun canceled => if_pos canceled
  · exact d.await_eq s spells
  · exact fun u why => errorAt?_of_rounded
  · exact fun u => errorAt?_rounded
  · exact fun u n => rfl
  · intro n own gone unraised
    refine ⟨await_uncancelable own gone unraised spells, fun u there => ?_⟩
    exact errorAt?_uncancelable own gone unraised (Scene.leads_trace there)
  · intro bulkhead retry config t id happenings happens unused afterwards
    exact happens.wakings_watch unused afterwards

example : await { signal := some 0, deadline := some ⟨1500000⟩ } ⟨.start, {}⟩
    (Scene.trace ⟨.start, {}⟩
      [{ span := .ofMillis 1, changes := [.drop 0, .cancel 0] }, { span := .ofMillis 1, changes := [.cancel 0] }]) =
    some (⟨2000000⟩, .deadlineExceeded) := by decide +kernel

end Gatehouse.Context
