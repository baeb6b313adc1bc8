import Gatehouse.Proofs.Resilience.Schedule

/-!
Paths from one traffic to another. Whatever is done with traffic does something to the whole of it at first, and from
there it comes down to turns of calls, calls that are dropped and time that passes. So what each of these keeps is
kept by all that can be done.
-/
namespace Gatehouse.Resilience.Traffic

/-- What leads from one traffic to another: calls take turns, some are dropped, and time passes, but never beyond the
timer that fires first. -/
inductive Path (aborts : String → Prop) : Traffic → Traffic → Prop
  | settled {t : Traffic} {calls : List (Call × Phase)} (same : t.calls.Perm calls) : Path aborts t (t.among calls)
  | turn {t u v : Traffic} {call : Call × Phase} {others : List (Call × Phase)} {next : Option (Call × Phase)}
    (there : t.calls.Perm (others ++ [call])) (turn : Turn t call u next)
    (after : Path aborts (u.among (others ++ next.toList)) v) : Path aborts t v
  | drop {t u : Traffic} {call : Call × Phase} {others : List (Call × Phase)}
    (there : t.calls.Perm (others ++ [call])) (named : aborts call.1.id)
    (after : Path aborts ((t.dropped call).among others) u) : Path aborts t u
  | lapse {t u : Traffic} {m : Moment} (later : t.now ≤ m) (first : ∀ q ∈ t.calls, ∀ n, Fires q n → m ≤ n)
    (after : Path aborts { t with now := m } u) : Path aborts t u

variable {aborts : String → Prop} {t u v : Traffic}

theorem Path.refl (t : Traffic) : Path aborts t t := .settled (.refl t.calls)

theorem Path.reordered {calls : List (Call × Phase)} (same : t.calls.Perm calls)
    (path : Path aborts (t.among calls) v) : Path aborts t v := by
  generalize reordered : t.among calls = u at path
  induction path generalizing t calls with
  | settled same' =>
    subst reordered
    exact .settled (same.trans same')
  | turn there turn after =>
    subst reordered
    exact .turn (same.trans there) (turn.among t.calls) after
  | drop there named after =>
    subst reordered
    rw [among_dropped] at after
    exact .drop (same.trans there) named after
  | lapse later first _ ih =>
    subst reordered
    exact .lapse later (fun q member => first q (same.mem_iff.mp member)) (ih same rfl)

theorem Path.trans (first : Path aborts t u) (second : Path aborts u v) : Path aborts t v := by
  induction first with
  | settled same => exact second.reordered same
  | turn there turn _ ih => exact .turn there turn (ih second)
  | drop there named _ ih => exact .drop there named (ih second)
  | lapse later first _ ih => exact .lapse later first (ih second)

theorem Path.onward (path : Path aborts t u) : u.layers = t.layers ∧ u.signals = t.signals ∧ t.now ≤ u.now := by
  induction path with
  | settled => exact ⟨rfl, rfl, Nat.le_refl _⟩
  | turn _ turn _ ih =>
    have still := turn.still.1
    exact ⟨ih.1.trans still.layers, ih.2.1.trans still.signals, still.now ▸ ih.2.2⟩
  | @drop t _ q _ _ _ _ ih =>
    have still := (quiet_dropped t q).still.1
    exact ⟨ih.1.trans still.layers, ih.2.1.trans still.signals, still.now ▸ ih.2.2⟩
  | lapse later _ _ ih => exact ⟨ih.1, ih.2.1, Nat.le_trans later ih.2.2⟩

theorem Moves.path (moves : Moves t u) : Path aborts t u := by
  induction moves with
  | settled same => exact .settled same
  | turn there turn _ ih => exact .turn there turn ih

theorem Drops.path {id : String} (named : aborts id) (drops : Drops id t u) : Path aborts t u := by
  induction drops with
  | settled same => exact .settled same
  | drop there own _ ih => exact .drop there (own ▸ named) ih

theorem Course.path {finish : Moment} (course : Course finish t u) : Path aborts t u := by
  induction course with
  | arrived early none => exact .lapse early (fun q member m fires => Nat.le_of_lt (none q member m fires)) (.refl _)
  | instant later _ _ first moves _ _ ih => exact .lapse (Nat.le_of_lt later) first (moves.path.trans ih)

/-- The traffic once the part of an act that is no path is done: a call joins, a signal is raised, or something is
done with breakers. -/
def primed (t : Traffic) : Act → Traffic
  | .start c => (t.known c).hold c (.queued (t.known c).giveUpAt?)
  | .cancel signal => { t with signals := t.signals.raise signal }
  | .watch id context => t.watch id context
  | .look => t.lookAll
  | .reset breaker => t.resetBreaker breaker
  | .signal => { t with signals := t.signals.fresh.2 }
  | _ => t

/-- Whether an act drops calls of this name. -/
def Act.Aborts : Act → String → Prop
  | .abort id, name => name = id
  | _, _ => False

/-- All that can be done with traffic comes down to a path. -/
theorem act_path (guarded : t.layers.breaker.isSome = true) {bulkhead : BulkheadLayer}
    (layer : t.layers.bulkhead = some bulkhead) (timely : Timely t) {a : Act} (orderly : a.Orderly t) :
    Path a.Aborts (t.primed a) (t.act a) := by
  cases a with
  | start c =>
    obtain ⟨u, taken, proceeds⟩ := start_taken guarded layer c
    exact (taken.moves.trans proceeds.moves).path
  | pass finish => exact (course_pass guarded timely orderly).path
  | cancel signal => exact (cancel_timely guarded timely signal).1.path
  | abort id =>
    obtain ⟨u, drops, -, same⟩ := abort_drops t id
    have named : (Act.abort id).Aborts id := rfl
    have settled : Proceeds u u.settle := proceeds_settle (by rw [drops.still.layers]; exact guarded)
    show Path _ t (t.abort id)
    rw [same]
    exact (drops.path named).trans settled.moves.path
  | watch | look | reset | signal => exact .refl _

end Gatehouse.Resilience.Traffic
