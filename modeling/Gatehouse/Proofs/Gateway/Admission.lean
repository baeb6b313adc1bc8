import Mathlib.Data.List.Nodup
import Gatehouse.Proofs.Gateway.Stages
import Gatehouse.Proofs.Limiter.Charge
import Gatehouse.Proofs.Resilience.Origin

/-!
What stands before the backends. A request that is turned away leaves no trace but the charge of its caller, and in
every run of a gateway a backend is invoked only for a request that passed all stages, on behalf of its principal.
-/
namespace Gatehouse.Gateway
open Resilience (Traffic)

def names (steps : List Step) : List String :=
  steps.filterMap fun
    | .arrive a => some a.id
    | _ => none

theorem names_append (earlier later : List Step) : names (earlier ++ later) = names earlier ++ names later :=
  List.filterMap_append

/-- A request came in during a run and passed the first stages. -/
def Entered (start : Gateway) (steps : List Step) (a : Arrival) : Prop :=
  ∃ before after, steps = before ++ .arrive a :: after ∧ (start.run before).Enters a

/-- A request came in during a run and passed the first stages, and when the token store answered for it, it passed
the others and made a principal. -/
def Admitted (start : Gateway) (steps : List Step) (id : String) (p : Principal) : Prop :=
  ∃ before between wall after a, steps = before ++ .arrive a :: between ++ .answer wall id :: after ∧ a.id = id ∧
    (start.run before).Enters a ∧ (start.run (before ++ .arrive a :: between)).Passes wall a p

variable {start g : Gateway} {steps : List Step} {joined : List String}

theorem Entered.longer {a : Arrival} (entered : Entered start steps a) (s : Step) :
    Entered start (steps ++ [s]) a := by
  obtain ⟨before, after, rfl, enters⟩ := entered
  exact ⟨before, after ++ [s], by simp, enters⟩

theorem Admitted.longer {id : String} {p : Principal} (admitted : Admitted start steps id p) (s : Step) :
    Admitted start (steps ++ [s]) id p := by
  obtain ⟨before, between, wall, after, a, rfl, own, enters, passes⟩ := admitted
  exact ⟨before, between, wall, after ++ [s], a, by simp, own, enters, passes⟩

theorem Entered.admitted {a : Arrival} {wall : Instant} {p : Principal} (entered : Entered start steps a)
    (passes : (start.run steps).Passes wall a p) : Admitted start (steps ++ [.answer wall a.id]) a.id p := by
  obtain ⟨before, after, rfl, enters⟩ := entered
  exact ⟨before, after, wall, [], a, rfl, rfl, enters, passes⟩

/-- A name is listed, and a backend may be called under it on behalf of a principal that was admitted. -/
def Joins (start : Gateway) (steps : List Step) (joined : List String) (id : String) (who : Option Principal) : Prop :=
  id ∈ joined ∧ ∃ p, who = some p ∧ Admitted start steps id p

def standing (g : Gateway) (joined : List String) : List String :=
  g.arrivals.map (·.id) ++ g.refusals.map (·.1) ++ joined

/-- What is known of the requests of a run: those that wait passed the first stages, those in the traffic passed all,
and each waits, was turned away or joined the traffic, but no two of these. -/
structure Vouched (start : Gateway) (steps : List Step) (joined : List String) (g : Gateway) : Prop where
  entered : ∀ a ∈ g.arrivals, Entered start steps a
  within : Traffic.Within (Joins start steps joined) g.traffic
  stages : ∀ r ∈ g.refusals, r.2.isEarly = true ∨ ∃ why, r.2 = .stopped why
  once : ∀ id, (g.standing joined).count id ≤ (names steps).count id

/-- A step that no request has part in. -/
theorem Vouched.longer (vouched : Vouched start steps joined g) (s : Step) :
    Vouched start (steps ++ [s]) joined g where
  entered a waits := (vouched.entered a waits).longer s
  within := vouched.within.mono fun _ _ ⟨joins, p, who, admitted⟩ => ⟨joins, p, who, admitted.longer s⟩
  stages := vouched.stages
  once id := by
    have before := vouched.once id
    rw [names_append, List.count_append]
    omega

theorem Vouched.beside (vouched : Vouched start steps joined g) {t : Traffic}
    (within : Traffic.Within (Joins start steps joined) t) : Vouched start steps joined { g with traffic := t } :=
  ⟨vouched.entered, within, vouched.stages, vouched.once⟩

theorem Vouched.alike (vouched : Vouched start steps joined g) {h : Gateway} (alike : Alike g h) :
    Vouched start steps joined h := by
  obtain ⟨traffic, arrivals, refusals⟩ := alike
  obtain ⟨entered, within, stages, once⟩ := vouched
  unfold standing at once
  rw [← arrivals] at entered once
  rw [← refusals] at stages once
  exact ⟨entered, traffic ▸ within, stages, once⟩

theorem stages_refuse {refusals : List (String × Error)} {id : String} {e : Error}
    (stages : ∀ r ∈ refusals, r.2.isEarly = true ∨ ∃ why, r.2 = .stopped why)
    (early : e.isEarly = true ∨ ∃ why, e = .stopped why) :
    ∀ r ∈ refusals ++ [(id, e)], r.2.isEarly = true ∨ ∃ why, r.2 = .stopped why := by
  intro r listed
  rcases List.mem_append.mp listed with old | new
  · exact stages r old
  · exact List.mem_singleton.mp new ▸ early

theorem count_attend (g : Gateway) (joined : List String) (id : String) :
    (g.attend.standing joined).count id = (g.standing joined).count id := by
  have split (arrivals : List Arrival) : (arrivals.map (·.id)).count id =
      ((arrivals.filter fun a => (g.wakes? a).isNone).map (·.id)).count id +
        ((arrivals.filterMap fun a => (g.wakes? a).map fun why => (a.id, Error.stopped why)).map (·.1)).count id := by
    induction arrivals with
    | nil => rfl
    | cons a rest ih =>
      cases context : g.wakes? a <;> simp [context, List.count_cons, ih] <;> omega
  have woken := split g.arrivals
  simp only [standing, attend, List.map_append, List.count_append] at woken ⊢
  omega

theorem Vouched.attend (vouched : Vouched start steps joined g) : Vouched start steps joined g.attend where
  entered a waits := vouched.entered a (List.mem_filter.mp waits).1
  within := vouched.within
  stages r listed := by
    rcases List.mem_append.mp listed with old | new
    · exact vouched.stages r old
    · obtain ⟨a, -, woken⟩ := List.mem_filterMap.mp new
      obtain ⟨why, -, rfl⟩ := Option.map_eq_some_iff.mp woken
      exact .inr ⟨why, rfl⟩
  once id := by
    rw [count_attend]
    exact vouched.once id

theorem Vouched.arrive {a : Arrival} (vouched : Vouched start steps joined (start.run steps)) :
    Vouched start (steps ++ [.arrive a]) joined ((start.run steps).arrive a) := by
  obtain ⟨entered, within, stages, -⟩ := vouched.longer (.arrive a)
  have once := vouched.once
  have own (id : String) : (names (steps ++ [.arrive a])).count id = (names steps).count id + [a.id].count id := by
    rw [names_append, List.count_append]
    rfl
  have arrives := (start.run steps).arrives a
  generalize (start.run steps).arrive a = h at arrives ⊢
  have refused {l : Limiter} {e : Error} (early : e.isEarly = true ∨ ∃ why, e = .stopped why) :
      Vouched start (steps ++ [.arrive a]) joined ({ start.run steps with limiter := l }.refuse a.id e) := by
    refine ⟨entered, within, stages_refuse stages early, fun id => ?_⟩
    have before := once id
    simp only [own, standing, refuse, List.map_append, List.map_singleton, List.count_append] at before ⊢
    omega
  cases arrives with
  | stopped => exact refused (.inr ⟨_, rfl⟩)
  | limited => exact refused (.inl rfl)
  | waits enters =>
    refine ⟨fun b waits => ?_, within, stages, fun id => ?_⟩
    · rcases List.mem_append.mp waits with old | new
      · exact entered b old
      · obtain rfl := List.mem_singleton.mp new
        exact ⟨steps, [], rfl, enters⟩
    · have before := once id
      simp only [own, standing, charged, List.map_append, List.map_singleton, List.count_append] at before ⊢
      omega

/-- A request for which the token store answers is one of those that wait. -/
theorem count_left {id : String} {a : Arrival} (found : g.arrivals.find? (·.id = id) = some a) (other : String) :
    (g.arrivals.map (·.id)).count other = ((g.left id).arrivals.map (·.id)).count other + [id].count other := by
  have named := List.find?_some found
  obtain ⟨b, front, back, -, own, arrivals, rest⟩ :=
    List.exists_of_eraseP (p := (·.id = id)) (List.mem_of_find?_eq_some found) named
  have others : (g.left id).arrivals = front ++ back := rest
  rw [others, arrivals, List.map_append, List.map_append, List.map_cons, of_decide_eq_true own]
  simp only [List.count_append, List.count_cons, List.count_nil]
  omega

theorem Vouched.answer {wall : Instant} {id : String} (vouched : Vouched start steps joined (start.run steps)) :
    ∃ joined, Vouched start (steps ++ [.answer wall id]) joined ((start.run steps).answer wall id) := by
  have longer := vouched.longer (.answer wall id)
  have entered (a : Arrival) (waits : a ∈ ((start.run steps).left id).arrivals) :=
    longer.entered a (List.mem_of_mem_eraseP waits)
  have answers := (start.run steps).answers wall id
  generalize (start.run steps).answer wall id = h at answers ⊢
  cases answers with
  | nobody => exact ⟨joined, longer⟩
  | refused waits early =>
    refine ⟨joined, entered, longer.within, stages_refuse longer.stages early, fun other => ?_⟩
    have before := longer.once other
    have taken := count_left waits other
    simp only [standing, refuse, left, List.map_append, List.map_singleton, List.count_append] at before taken ⊢
    omega
  | @passed a p own passes =>
    subst own
    have admitted := (vouched.entered a (List.mem_of_find?_eq_some passes.waits)).admitted passes
    refine ⟨a.id :: joined, entered, ?_, longer.stages, fun other => ?_⟩
    · have more : Traffic.Within (Joins start (steps ++ [.answer wall a.id]) (a.id :: joined)) (start.run steps).traffic :=
        longer.within.mono fun _ _ ⟨joins, found⟩ => ⟨List.mem_cons_of_mem _ joins, found⟩
      refine Traffic.Within.start (c := a.call p) more ?_
      exact ⟨List.mem_cons_self, p, rfl, admitted⟩
    · have before := longer.once other
      have taken := count_left passes.waits other
      simp only [standing, left, List.count_append, List.count_cons, List.count_nil] at before taken ⊢
      omega

theorem Vouched.step (vouched : Vouched start steps joined (start.run steps)) (s : Step) :
    ∃ joined, Vouched start (steps ++ [s]) joined ((start.run steps).step s) := by
  have longer := vouched.longer s
  have within := longer.within
  cases s with
  | arrive a => exact ⟨joined, vouched.arrive⟩
  | answer wall id => exact vouched.answer
  | pass wall freshKey finish =>
    exact ⟨joined, (longer.beside (within.pass finish)).attend.alike (alike_pass ..)⟩
  | jump wall freshKey now =>
    exact ⟨joined, (longer.beside (t := { (start.run steps).traffic with now }) { within with }).attend.alike
      (alike_jump ..)⟩
  | signal => exact ⟨joined, longer.beside { within with }⟩
  | cancel signal => exact ⟨joined, (longer.beside (within.cancel signal)).attend⟩
  | abort id =>
    refine ⟨joined, fun a waits => longer.entered a (List.mem_filter.mp waits).1, within.abort id, longer.stages,
      fun other => Nat.le_trans (List.Sublist.count_le _ ?_) (longer.once other)⟩
    exact ((List.filter_sublist.map _).append_right _).append_right _
  | watch id context => exact ⟨joined, longer.beside (within.watch id context)⟩
  | look => exact ⟨joined, longer.beside (within.quiet (Traffic.quiet_lookAll _))⟩
  | resetBreaker name => exact ⟨joined, longer.beside (within.quiet (Traffic.quiet_onBreaker ..))⟩
  | startMaintenance => exact ⟨joined, longer.alike ⟨rfl, rfl, rfl⟩⟩
  | share authority authorizer limiter => exact ⟨joined, longer.alike ⟨rfl, rfl, rfl⟩⟩

theorem vouched_run (g : Gateway) (layers : Resilience.Layers) (steps : List Step) :
    ∃ joined, Vouched (g.unused layers) steps joined ((g.unused layers).run steps) := by
  induction steps using List.reverseRecOn with
  | nil =>
    refine ⟨[], fun _ none => absurd none List.not_mem_nil, Traffic.within_ofLayers .., ?_, fun _ => Nat.le_refl _⟩
    exact fun _ none => absurd none List.not_mem_nil
  | append_singleton steps s ih =>
    obtain ⟨joined, vouched⟩ := ih
    rw [run_append]
    exact vouched.step s

/-- Who is turned away does not join the traffic, if the names are told apart. -/
theorem Vouched.apart (vouched : Vouched start steps joined g) (distinct : (names steps).Nodup)
    {r : String × Error} (refused : r ∈ g.refusals) : r.1 ∉ joined := by
  intro joins
  have once := vouched.once r.1
  have turned := List.count_pos_iff.mpr (List.mem_map_of_mem (f := (·.1)) refused)
  have present := List.count_pos_iff.mpr joins
  have single := List.nodup_iff_count_le_one.mp distinct r.1
  simp only [standing, List.count_append] at once
  omega

end Gatehouse.Gateway
