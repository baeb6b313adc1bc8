import Gatehouse.Proofs.Resilience.Journey

/-!
The closed form of bulkhead, retries and breaker around one call. Whatever other calls there are and whatever is done
with them, they matter only if they are for the same backend.
-/
namespace Gatehouse.Resilience.Traffic

/-- An act that has nothing to do with a call: neither with its context nor with the breaker of its backend, except
to look at it. -/
def Act.Ignores (c : Call) : Act → Prop
  | .start d => d.id ≠ c.id ∧ d.backend ≠ c.backend
  | .cancel n => c.context.signal ≠ some n
  | .abort id => id ≠ c.id
  | .watch id _ => id ≠ c.id
  | .reset breaker => breaker ≠ c.backend
  | _ => True

/-- What is done while a call is on its way, and ignores it. -/
def Meanwhile (c : Call) : Traffic → List Act → Prop
  | _, [] => True
  | t, a :: rest => t.isRunning c.id = true ∧ a.Orderly t ∧ a.Ignores c ∧ Meanwhile c (t.act a) rest

/-- To look at all breakers does nothing to one for which nothing is due. -/
theorem lookAll_early {config : Config.Breaker} {t : Traffic} (layer : t.layers.breaker = some config)
    {name : String} {b : Breaker} (found : t.breakers.lookup name = some b) (early : b.refresh t.now = (b, none)) :
    t.lookAll.breakers.lookup name = some b := by
  unfold lookAll
  generalize t.breakers.names = names
  induction names generalizing t with
  | nil => exact found
  | cons first rest ih =>
    have still := (quiet_onBreaker t first fun b => b.refresh t.now).still.1
    refine ih (t := t.look first) (still.layers ▸ layer) ?_ (by rw [look, still.now]; exact early)
    rw [look, lookup_onBreaker layer]
    split
    next own => rw [← own, get_of_lookup found, early]
    next => exact found

namespace Journey
variable {j : Journey} {failures : Option Nat} {told : List Event} {t u : Traffic} {own : Option (Call × Phase)}

theorem Underway.congr (underway : j.Underway failures told t own) (still : Still t u)
    (found : u.breakers.lookup j.call.backend = t.breakers.lookup j.call.backend)
    (log : u.told j.call.id = t.told j.call.id) : j.Underway failures told u own := by
  obtain ⟨retry, layer, live, stage, inTime⟩ := underway
  rw [← still.layers] at retry layer
  rw [← still.signals] at live
  rw [← found, ← log] at stage
  rw [← still.now] at inTime
  exact ⟨retry, layer, live, stage, inTime⟩

theorem Underway.certain (setting : j.Setting failures) : Certain j.Other (j.Underway failures told) where
  bare _ underway := underway.congr ⟨rfl, rfl, rfl⟩ rfl rfl
  turn turn underway := underway.turn setting turn
  other := by
    intro t u q next own kind turn underway
    obtain ⟨other, apart⟩ := kind
    obtain ⟨found, apart'⟩ := turn.apart apart
    refine ⟨underway.congr turn.still.1 found (turn.noted (about_call _) other), fun p own => ⟨?_, apart' p own⟩⟩
    rw [turn.same_id p own]
    exact other
  dropped := by
    intro t q own kind underway
    exact underway.congr (quiet_dropped t q).still.1 (lookup_dropped_apart t kind.2) (noted_dropped (about_call _) ..)
  later := by
    intro t own m _ underway soon
    obtain ⟨retry, layer, live, stage, -⟩ := underway
    exact ⟨retry, layer, live, stage, fun q mine n timer => soon q mine n (.inl timer)⟩

theorem Underway.primed (setting : j.Setting failures) {q : Call × Phase}
    (underway : j.Underway failures told t (some q)) {a : Act} (ignores : a.Ignores j.call) :
    j.Underway failures told (t.primed a) (some q) := by
  cases a with
  | start c =>
    refine underway.congr (u := (t.known c).hold c _) ⟨(still_known t c).1.layers, (still_known t c).1.now,
      (still_known t c).1.signals⟩ ?_ (noted_onBreaker (about_call _) ..)
    show (t.onBreaker c.backend _).breakers.lookup _ = _
    rw [lookup_onBreaker underway.layer, if_neg ignores.2.symm]
  | cancel signal =>
    refine { underway with live := ?_ }
    have live := underway.live
    unfold Context.isCanceled at live ⊢
    cases own : j.call.context.signal with
    | none => rfl
    | some n =>
      have other : n ≠ signal := fun same => ignores (own.trans (congrArg some same))
      rw [own] at live
      simpa [Traffic.primed, Signals.raise, Signals.isRaised, other] using live
  | look =>
    obtain ⟨b, events, found, config, log, stage⟩ := underway.stage
    have early : b.refresh t.now = (b, none) := by
      refine Breaker.refresh_early ?_
      cases stage with
      | pausing failed left _ broken =>
        exact setting.cooling left broken config (underway.inTime _ rfl _ rfl)
      | attempting _ _ _ _ closed => exact .inl closed
    have found' := lookAll_early underway.layer found early
    exact underway.congr (quiet_lookAll t).still.1 (found'.trans found.symm) (noted_lookAll (about_call _) ..)
  | reset breaker =>
    have still := (quiet_onBreaker t breaker fun b => b.reset t.now).still.1
    refine underway.congr still ?_ (noted_onBreaker (about_call _) ..)
    show (t.onBreaker breaker _).breakers.lookup _ = _
    rw [lookup_onBreaker underway.layer, if_neg (Ne.symm ignores)]
  | watch id context =>
    show j.Underway failures told (t.watch id context) (some q)
    refine watch_cases t id context (fun why => ?_) fun _ => ?_
    · exact underway.congr ⟨rfl, rfl, rfl⟩ rfl ((told_note ..).trans (List.append_nil _))
    · exact underway.congr ⟨rfl, rfl, rfl⟩ rfl rfl
  | signal => exact { underway with }
  | _ => exact underway

theorem Underway.isRunning (underway : j.Underway failures told t own) (beside : Beside j.Other t own) :
    t.isRunning j.call.id = own.isSome := by
  obtain ⟨others, calls, kind⟩ := beside
  rw [Traffic.isRunning, calls.any_eq, List.any_append]
  have absent : (others.any fun q => q.1.id = j.call.id) = false := by
    simpa using fun c p member => (kind (c, p) member).1
  rw [absent, Bool.false_or]
  cases own with
  | none => rfl
  | some q =>
    obtain ⟨_, _, -, -, -, stage⟩ := underway.stage
    simp [stage.timer.1]

theorem Underway.meanwhile (setting : j.Setting failures) {bulkhead : BulkheadLayer}
    (layer : t.layers.bulkhead = some bulkhead) (timely : Timely t) (underway : j.Underway failures told t own)
    (beside : Beside j.Other t own) {acts : List Act} (meanwhile : Meanwhile j.call t acts) :
    Timely (acts.foldl act t) ∧
      ∃ own', Beside j.Other (acts.foldl act t) own' ∧ j.Underway failures told (acts.foldl act t) own' := by
  induction acts generalizing t own with
  | nil => exact ⟨timely, own, beside, underway⟩
  | cons a rest ih =>
    obtain ⟨running, orderly, ignores, after⟩ := meanwhile
    have guarded : t.layers.breaker.isSome = true := by rw [underway.layer]; rfl
    rw [underway.isRunning beside] at running
    obtain ⟨q, rfl⟩ := Option.isSome_iff_exists.mp running
    have spares : a.Spares j.Other (some q) := by
      cases a with
      | start c => exact fun _ => ⟨ignores.1, .inr ignores.2⟩
      | watch => exact ⟨ignores, .inl rfl⟩
      | abort id =>
        intro p mine
        obtain ⟨_, _, -, -, -, stage⟩ := underway.stage
        cases mine
        rw [stage.timer.1]
        exact Ne.symm ignores
      | _ => trivial
    obtain ⟨own', beside', underway'⟩ := (Underway.certain setting).act guarded layer timely orderly spares beside
      (underway.primed setting ignores)
    exact ih ((act_layers guarded layer timely orderly).symm ▸ layer) (act_timely guarded layer timely orderly)
      underway' beside' after

end Journey

def journey (t : Traffic) (retry : Config.Retry) (config : Config.Breaker) (c : Call) : Journey where
  call := { c with holdsPermit := true }
  start := t.now
  retry
  config
  counted := (t.breakers.get config t.now c.backend).failures

section
variable {bulkhead : BulkheadLayer} {retry : Config.Retry} {config : Config.Breaker} {t : Traffic} {c : Call}
  {failures : Option Nat}

/-- The call starts for a free permit: then it is under way, or has ended already. -/
theorem start_underway (layers : t.layers = ⟨some bulkhead, some retry, some config⟩) (room : 0 < t.free)
    (alone : ∀ q ∈ t.calls, q.1.id ≠ c.id ∧ Apart c.backend q)
    (tuned : (t.breakers.get config t.now c.backend).config = config)
    (closed : (t.breakers.get config t.now c.backend).state = .closed)
    (live : c.context.isCanceled t.signals = false) (setting : (t.journey retry config c).Setting failures) :
    let j := t.journey retry config c
    ∃ own, Beside j.Other (t.start c) own ∧
      j.Underway failures ((t.told c.id).map Prod.snd) (t.start c) own := by
  intro j
  have layer : t.layers.breaker = some config := by rw [layers]
  obtain ⟨still, calls⟩ := still_known t c
  let b := t.breakers.get config t.now c.backend
  have found : (t.known c).breakers.lookup c.backend = some b := by
    rw [known, lookup_onBreaker layer, if_pos rfl]
  have free : (t.known c).free = t.free := by
    unfold known Traffic.onBreaker setBreaker
    rw [layer]
  -- The permit is taken; what remains is the pause of no time before the first attempt.
  let w := ({ t.known c with free := (t.known c).free - 1 } : Traffic)
  have stage : j.Stage failures (j.invocations 0) (some (j.call, .pausing 0 (j.begunAt 0))) b := by
    refine .pausing 0 (Nat.le_max_right _ _) (fun f _ => Nat.zero_le f) (.inl ⟨?_, closed, rfl⟩)
    exact Nat.sub_pos_of_lt setting.below
  have underway : j.Underway failures ((t.told c.id).map Prod.snd) w (some (j.call, .pausing 0 (j.begunAt 0))) := by
    refine ⟨?_, ?_, ?_, ⟨b, _, found, tuned, ?_, stage⟩, fun q own m timer => ?_⟩
    · show (t.known c).layers.retry = some retry
      rw [still.layers, layers]
    · show (t.known c).layers.breaker = some config
      rw [still.layers, layers]
    · show c.context.isCanceled (t.known c).signals = false
      rw [still.signals]
      exact live
    · exact (congrArg _ (noted_onBreaker (about_call _) ..)).trans (List.append_nil _).symm
    · cases own
      cases timer
      show (t.known c).now ≤ t.now
      rw [still.now]
      exact Nat.le_refl _
  have beside :
      Beside j.Other (w.hold j.call (.pausing 0 (j.begunAt 0))) (some (j.call, .pausing 0 (j.begunAt 0))) := by
    refine ⟨t.calls, ?_, alone⟩
    show ((t.known c).calls ++ [_]).Perm _
    rw [calls]
    exact .refl _
  have going : (t.known c).errorOf? c = none := underway.going setting
  have guarded : w.layers.breaker.isSome = true := by rw [underway.layer]; rfl
  have begun : Taken w (j.call, .pausing 0 (j.begunAt 0)) (w.enter j.call) := by
    refine taken_begin guarded Nat.one_pos rfl ?_
    show t.now ≤ (t.known c).now
    rw [still.now]
    exact Nat.le_refl _
  have settled := proceeds_settle (t := w.enter j.call) (by rw [begun.still.layers]; exact guarded)
  have started : t.start c = (w.enter j.call).settle := by
    have layer' : (t.known c).layers.bulkhead = some bulkhead := by rw [still.layers, layers]
    unfold start
    rw [← known]
    simp only [layer', going]
    rw [if_pos (free ▸ room)]
    rfl
  rw [started]
  have certain : Certain j.Other (j.Underway failures ((t.told c.id).map Prod.snd)) :=
    Journey.Underway.certain setting
  have path : Path (fun _ => False) (w.hold j.call (.pausing 0 (j.begunAt 0))) (w.enter j.call).settle :=
    (begun.moves.trans settled.moves).path
  exact certain.path path beside (fun _ _ => id) (certain.bare _ underway)

theorem Meanwhile.served {acts : List Act} (meanwhile : Meanwhile c t acts) :
    Meanwhile { c with holdsPermit := true } t acts := by
  induction acts generalizing t with
  | nil => trivial
  | cons a rest ih =>
    obtain ⟨running, orderly, ignores, after⟩ := meanwhile
    refine ⟨running, orderly, ?_, ih after⟩
    cases a <;> exact ignores

theorem Meanwhile.reached {layers : Layers} (reached : Reached layers t) {acts : List Act}
    (meanwhile : Meanwhile c t acts) : Reached layers (acts.foldl act t) := by
  induction acts generalizing t with
  | nil => exact reached
  | cons a rest ih =>
    obtain ⟨-, orderly, -, after⟩ := meanwhile
    exact ih (reached.act orderly) after

theorem Meanwhile.lookup (reached : Reached ⟨some bulkhead, some retry, some config⟩ t) {acts : List Act}
    (meanwhile : Meanwhile c t acts) {name : String} (apart : ∀ q ∈ t.calls, Apart name q)
    (avoids : ∀ a ∈ acts, a.Avoids name) :
    (acts.foldl act t).breakers.lookup name = t.breakers.lookup name := by
  induction acts generalizing t with
  | nil => rfl
  | cons a rest ih =>
    obtain ⟨-, orderly, -, after⟩ := meanwhile
    obtain ⟨layers, timely⟩ := reached.timely
    obtain ⟨kept, apart'⟩ := act_lookup layers timely orderly (avoids a List.mem_cons_self) apart
    exact (ih (reached.act orderly) after apart' fun b member => avoids b (List.mem_cons_of_mem _ member)).trans kept

/-- A call that gets a permit at once, and whose context is not done before it ends, ends as its outcome says, with
the attempts that this takes and no more, if nobody else uses the breaker of its backend, which was closed, and if
that breaker does not cool down during a pause. When the time of the last attempt that the call may have is over,
it has ended; and then its permit is free again, and so are those of all calls that have ended. Breakers that no
call uses do not change. -/
theorem outcome_of_composition (reached : Reached ⟨some bulkhead, some retry, some config⟩ t)
    (room : 0 < t.free) (fresh : c.holdsPermit = false)
    (alone : ∀ q ∈ t.calls, q.1.id ≠ c.id ∧ Apart c.backend q)
    (closed : (t.breakers.get config t.now c.backend).state = .closed)
    (live : c.context.isCanceled t.signals = false) (setting : (t.journey retry config c).Setting failures)
    {acts : List Act} (meanwhile : Meanwhile c (t.start c) acts) :
    let j := t.journey retry config c
    let u := acts.foldl act (t.start c)
    (u.isRunning c.id = false → ∃ events b,
      (u.told c.id).map Prod.snd = (t.told c.id).map Prod.snd ++ events ∧
      u.breakers.lookup c.backend = some b ∧ j.Outcome failures events b) ∧
    (j.endedAt (j.attempts - 1) ≤ u.now → u.isRunning c.id = false) ∧
    u.free + u.calls.countP isServed = bulkhead.config.maxConcurrent ∧
    ∀ name, name ≠ c.backend → (∀ q ∈ t.calls, Apart name q) → (∀ a ∈ acts, a.Avoids name) →
      u.breakers.lookup name = t.breakers.lookup name := by
  intro j u
  obtain ⟨layers, timely⟩ := reached.timely
  have guarded : t.layers.breaker.isSome = true := by rw [layers]; rfl
  have layer : t.layers.bulkhead = some bulkhead := by rw [layers]
  have tuned := (reached.balanced.trials c.backend).config
  have joined : Reached ⟨some bulkhead, some retry, some config⟩ (t.start c) := reached.act (a := .start c) fresh
  obtain ⟨layers', timely'⟩ := joined.timely
  obtain ⟨own, beside, underway⟩ := start_underway layers room alone tuned closed live setting
  obtain ⟨rests, own', beside', underway'⟩ := underway.meanwhile setting (by rw [layers']) timely' beside
    meanwhile.served
  have running : u.isRunning c.id = own'.isSome := underway'.isRunning beside'
  have permits := (meanwhile.reached joined).balanced.free
  refine ⟨fun ended => ?_, fun late => ?_, permits, fun name other apart avoids => ?_⟩
  · obtain ⟨b, events, found, -, log, stage⟩ := underway'.stage
    rw [running, Option.isSome_eq_false_iff, Option.isNone_iff_eq_none] at ended
    rw [ended] at stage
    cases stage with
    | ended outcome => exact ⟨events, b, log, found, outcome⟩
  · rw [running]
    cases own' with
    | none => rfl
    | some q =>
      obtain ⟨_, _, -, -, -, stage⟩ := underway'.stage
      obtain ⟨-, m, timer, soon⟩ := stage.timer
      obtain ⟨others, calls, -⟩ := beside'
      have there : q ∈ u.calls := calls.mem_iff.mpr (List.mem_append_right _ List.mem_cons_self)
      have early := ((rests q there).ahead m timer).1
      exact absurd (Nat.lt_of_lt_of_le early (Nat.le_trans soon late)) (Nat.lt_irrefl _)
  · obtain ⟨kept, apart'⟩ := act_lookup layers timely (a := .start c) fresh (Ne.symm other) apart
    exact (meanwhile.lookup joined apart' avoids).trans kept

end

/-- A call whose backend fails once, with the default settings. -/
theorem outcome_of_second_attempt :
    let layers : Layers := ⟨some ⟨"gateway", {}⟩, some {}, some {}⟩
    let c : Call := { id := "a", backend := "b", script := fun n =>
      ⟨some .zero, if n = 1 then .failure (.failed "busy") else .success⟩ }
    let t := ofLayers layers
    let u := (t.start c).pass ⟨1000000000⟩
    (∃ b, (u.told "a").map Prod.snd = [.invoked "a" 1 none, .invoked "a" 2 none, .done "a" (.ok 2)] ∧
      u.breakers.lookup "b" = some b ∧ b.state = .closed ∧ b.failures = 0) ∧
    u.free + u.calls.countP isServed = 10 := by
  intro layers c t u
  have script : FailsFirst c.script (some 1) := by
    refine ⟨fun _ _ => nofun, fun n failing => ?_, fun f some => ?_⟩
    · obtain rfl : n = 0 := Nat.le_zero.mp (Nat.le_of_succ_le_succ (failing 1 rfl))
      exact ⟨"busy", rfl⟩
    · cases some
      rfl
  have setting : (t.journey {} {} c).Setting (some 1) := by
    refine ⟨script, nofun, by decide, fun failed left => ?_⟩
    have pauses : failed = 0 ∨ failed = 1 := by
      have attempts : (t.journey {} {} c).attempts = 3 := by decide
      omega
    rcases pauses with rfl | rfl
    · decide +kernel
    · decide +kernel
  have early : (t.start c).now ≤ ⟨1000000000⟩ := by decide +kernel
  have meanwhile : Meanwhile c (t.start c) [.pass ⟨1000000000⟩] := ⟨by decide +kernel, early, trivial, trivial⟩
  obtain ⟨ended, -, permits, -⟩ := outcome_of_composition .bare (by decide) rfl (List.forall_mem_nil _) rfl rfl setting
    meanwhile
  obtain ⟨events, b, told, found, outcome⟩ := ended (by decide +kernel)
  obtain ⟨rfl, closed, forgiven⟩ := outcome.success 1 rfl (by decide)
  exact ⟨⟨b, told, found, closed, forgiven⟩, permits⟩

end Gatehouse.Resilience.Traffic
