import Gatehouse.Proofs.Json.Entries
import Gatehouse.Proofs.Resilience.Breaker
import Gatehouse.Proofs.Resilience.Paths

/-!
What a turn of one call has to do with the others. It touches the breaker of its own backend only, and says
nothing about another call. So what is going on with one call can be followed through any traffic.
-/
namespace Gatehouse.Resilience

theorem get_of_lookup {bs : Breakers} {name : String} {b : Breaker} (found : bs.lookup name = some b)
    (config : Config.Breaker) (now : Moment) : bs.get config now name = b := by
  rw [Breakers.get, found, Option.getD_some]

def Event.call? : Event → Option String
  | invoked c _ _ => some c
  | done c _ => some c
  | changed _ _ => none
  | woken _ _ => none

def Event.about? : Event → Option String
  | woken watcher _ => some watcher
  | e => e.call?

namespace Traffic

/-- The events of a kind, and when they were. -/
def noted (t : Traffic) (kind : Event → Bool) : List (Moment × Event) := t.log.filter fun e => kind e.2

def told (t : Traffic) (id : String) : List (Moment × Event) := t.noted (·.call? = some id)

section
variable {t u : Traffic} {config : Config.Breaker} (layer : t.layers.breaker = some config)

@[simp] theorem breakers_release (t : Traffic) (c : Call) : (t.release c).breakers = t.breakers := by
  unfold release
  split <;> rfl

@[simp] theorem breakers_finish (t : Traffic) (c : Call) (result : Except CallError Nat) :
    (t.finish c result).breakers = t.breakers := breakers_release ..

theorem lookup_setBreaker (t : Traffic) (name other : String) (b : Breaker) (change : Option Change) :
    (t.setBreaker name b change).breakers.lookup other =
      if other = name then some b else t.breakers.lookup other := by
  cases change <;> exact Json.lookup_setEntry ..

include layer

theorem lookup_onBreaker (name other : String) (f : Breaker → Breaker × Option Change) :
    (t.onBreaker name f).breakers.lookup other =
      if other = name then some (f (t.breakers.get config t.now name)).1 else t.breakers.lookup other := by
  unfold onBreaker
  rw [layer]
  exact lookup_setBreaker ..

theorem lookup_record (c : Call) (ticket : Ticket) (v : Verdict) (other : String) :
    (t.record c (some ticket) v).breakers.lookup other =
      if other = c.backend then some ((t.breakers.get config t.now c.backend).record ticket v t.now).1
      else t.breakers.lookup other := lookup_onBreaker layer ..

theorem lookup_ask (c : Call) (other : String) :
    (t.ask c).2.breakers.lookup other =
      if other = c.backend then some ((t.breakers.get config t.now c.backend).ask t.now).2.1
      else t.breakers.lookup other := by
  unfold ask
  rw [layer]
  exact lookup_setBreaker ..

theorem ask_answer (c : Call) :
    (t.ask c).1 = match ((t.breakers.get config t.now c.backend).ask t.now).1 with
      | some ticket => .ok (some ticket)
      | none => .error (.circuitOpen c.backend) := by
  cases answer : ((t.breakers.get config t.now c.backend).ask t.now).1 <;> simp [ask, layer, answer]

end

section
variable {t u : Traffic}

theorem noted_note (t : Traffic) (e : Event) (kind : Event → Bool) :
    (t.note e).noted kind = t.noted kind ++ if kind e = true then [(t.now, e)] else [] := by
  unfold noted note
  rw [List.filter_append, List.filter_cons, List.filter_nil]

section
variable {id : String} {kind : Event → Bool} (own : ∀ e, kind e = true → e.about? = some id)
include own

theorem noted_note_other (t : Traffic) {e : Event} (other : e.about? ≠ some id) :
    (t.note e).noted kind = t.noted kind := by
  rw [noted_note, if_neg fun about => other (own e about), List.append_nil]

theorem noted_setBreaker (t : Traffic) (name : String) (b : Breaker) (change : Option Change) :
    (t.setBreaker name b change).noted kind = t.noted kind := by
  cases change with
  | none => rfl
  | some change => exact noted_note_other own _ nofun

theorem noted_onBreaker (t : Traffic) (name : String) (f : Breaker → Breaker × Option Change) :
    (t.onBreaker name f).noted kind = t.noted kind := by
  unfold onBreaker
  split
  · rfl
  · exact noted_setBreaker own ..

theorem noted_record (t : Traffic) (c : Call) (ticket : Option Ticket) (v : Verdict) :
    (t.record c ticket v).noted kind = t.noted kind := by
  unfold record
  split
  · rfl
  · exact noted_onBreaker own ..

theorem noted_lookAll (t : Traffic) : t.lookAll.noted kind = t.noted kind := by
  unfold lookAll
  generalize t.breakers.names = names
  induction names generalizing t with
  | nil => rfl
  | cons name rest ih => exact (ih _).trans (noted_onBreaker own ..)

theorem noted_ask (t : Traffic) (c : Call) : (t.ask c).2.noted kind = t.noted kind := by
  unfold ask
  split
  · rfl
  · exact noted_setBreaker own ..

omit own in
theorem noted_release (t : Traffic) (c : Call) : (t.release c).noted kind = t.noted kind := by
  unfold release
  split <;> rfl

theorem noted_dropped (t : Traffic) (q : Call × Phase) : (t.dropped q).noted kind = t.noted kind := by
  obtain ⟨c, p⟩ := q
  cases p with
  | attempting => exact (noted_release ..).trans (noted_record own ..)
  | _ => exact noted_release ..

theorem Turn.noted {q : Call × Phase} {next : Option (Call × Phase)} (turn : Turn t q u next)
    (other : q.1.id ≠ id) : u.noted kind = t.noted kind := by
  have finished (w : Traffic) {c : Call} (other : c.id ≠ id) (result : Except CallError Nat) :
      (w.finish c result).noted kind = w.noted kind :=
    (noted_release ..).trans (noted_note_other own w (e := .done c.id result) (mt Option.some.inj other))
  cases turn with
  | @interrupted c p why =>
    cases p with
    | watching => exact noted_note_other own t (mt Option.some.inj other)
    | attempting => exact (finished _ other _).trans (noted_record own ..)
    | _ => exact finished _ other _
  | permitted => rfl
  | turnedAway | barred | stopped => exact finished _ other _
  | rejected => exact (finished _ other _).trans (noted_ask own ..)
  | @invoked c attempt =>
    refine Eq.trans ?_ (noted_ask own t c)
    exact noted_note_other own _ (mt Option.some.inj other)
  | crashed => exact (noted_release ..).trans (noted_record own ..)
  | succeeded => exact (finished _ other _).trans (noted_record own ..)
  | failed => exact (finished _ other _).trans (noted_record own ..)
  | paused => exact noted_record own ..

end

theorem about_call (id : String) (e : Event) (called : decide (e.call? = some id) = true) : e.about? = some id := by
  cases e with
  | woken => cases of_decide_eq_true called
  | _ => exact of_decide_eq_true called

theorem told_note (t : Traffic) (e : Event) (id : String) :
    (t.note e).told id = t.told id ++ if e.call? = some id then [(t.now, e)] else [] := by
  simp only [told, noted_note, decide_eq_true_eq]

theorem told_finish (t : Traffic) (c : Call) (result : Except CallError Nat) (id : String) :
    (t.finish c result).told id = t.told id ++ if c.id = id then [(t.now, .done c.id result)] else [] := by
  refine (noted_release ..).trans ((told_note ..).trans ?_)
  simp only [Event.call?, Option.some.injEq]

theorem told_record (t : Traffic) (c : Call) (ticket : Option Ticket) (v : Verdict) (id : String) :
    (t.record c ticket v).told id = t.told id := noted_record (about_call id) ..

theorem told_ask (t : Traffic) (c : Call) (id : String) : (t.ask c).2.told id = t.told id :=
  noted_ask (about_call id) ..

/-- A call that has nothing to do with the breaker of this name. -/
def Apart (name : String) (q : Call × Phase) : Prop := q.2 = .watching ∨ q.1.backend ≠ name

theorem lookup_record_apart (t : Traffic) {c : Call} {name : String} (other : c.backend ≠ name)
    (ticket : Option Ticket) (v : Verdict) :
    (t.record c ticket v).breakers.lookup name = t.breakers.lookup name := by
  cases ticket with
  | none => rfl
  | some ticket =>
    cases layer : t.layers.breaker with
    | none => simp only [record, onBreaker, layer]
    | some config => rw [lookup_record layer, if_neg other.symm]

theorem lookup_ask_apart (t : Traffic) {c : Call} {name : String} (other : c.backend ≠ name) :
    (t.ask c).2.breakers.lookup name = t.breakers.lookup name := by
  cases layer : t.layers.breaker with
  | none => simp only [ask, layer]
  | some config => rw [lookup_ask layer, if_neg other.symm]

theorem Turn.apart {q : Call × Phase} {next : Option (Call × Phase)} (turn : Turn t q u next) {name : String}
    (apart : Apart name q) :
    u.breakers.lookup name = t.breakers.lookup name ∧ ∀ p ∈ next, Apart name p := by
  have called {c : Call} {p : Phase} (apart : Apart name (c, p)) (called : p ≠ .watching) : c.backend ≠ name :=
    apart.resolve_left called
  have still {c : Call} {p : Phase} (other : c.backend ≠ name) : ∀ q ∈ some (c, p), Apart name q :=
    fun q own => Option.mem_some.mp own ▸ .inr other
  cases turn with
  | @interrupted c p why =>
    refine ⟨?_, none_left⟩
    cases p with
    | watching => rfl
    | attempting => exact (congrArg _ (breakers_finish ..)).trans (lookup_record_apart _ (called apart nofun) ..)
    | _ => exact congrArg _ (breakers_finish ..)
  | permitted => exact ⟨rfl, still (called apart nofun)⟩
  | turnedAway | barred | stopped => exact ⟨congrArg _ (breakers_finish ..), none_left⟩
  | rejected =>
    exact ⟨(congrArg _ (breakers_finish ..)).trans (lookup_ask_apart _ (called apart nofun)), none_left⟩
  | invoked =>
    exact ⟨lookup_ask_apart _ (called apart nofun), still (called apart nofun)⟩
  | crashed =>
    exact ⟨(congrArg _ (breakers_release ..)).trans (lookup_record_apart _ (called apart nofun) ..), none_left⟩
  | succeeded =>
    exact ⟨(congrArg _ (breakers_finish ..)).trans (lookup_record_apart _ (called apart nofun) ..), none_left⟩
  | failed =>
    exact ⟨(congrArg _ (breakers_finish ..)).trans (lookup_record_apart _ (called apart nofun) ..), none_left⟩
  | paused =>
    exact ⟨lookup_record_apart _ (called apart nofun) .., still (called apart nofun)⟩

theorem lookup_dropped_apart (t : Traffic) {q : Call × Phase} {name : String} (apart : Apart name q) :
    (t.dropped q).breakers.lookup name = t.breakers.lookup name := by
  obtain ⟨c, p⟩ := q
  cases p with
  | attempting =>
    exact (congrArg _ (breakers_release ..)).trans (lookup_record_apart _ (apart.resolve_left nofun) ..)
  | _ => exact congrArg _ (breakers_release ..)

/-- Besides one call, or none, there are only others of some kind. -/
def Beside (Other : Call × Phase → Prop) (t : Traffic) (own : Option (Call × Phase)) : Prop :=
  ∃ others, t.calls.Perm (others ++ own.toList) ∧ ∀ q ∈ others, Other q

theorem Beside.turn {Other : Call × Phase → Prop} {own : Option (Call × Phase)} {q : Call × Phase}
    {rest : List (Call × Phase)} (beside : Beside Other t own) (there : t.calls.Perm (rest ++ [q]))
    (u : Traffic) (next : Option (Call × Phase)) :
    (Other q ∧ ((∀ p ∈ next, Other p) → Beside Other (u.among (rest ++ next.toList)) own)) ∨
    (own = some q ∧ Beside Other (u.among (rest ++ next.toList)) next) := by
  obtain ⟨others, calls, kind⟩ := beside
  have same := there.symm.trans calls
  have member : q ∈ others ++ own.toList := same.mem_iff.mp (List.mem_append_right _ List.mem_cons_self)
  rcases List.mem_append.mp member with other | mine
  · left
    refine ⟨kind q other, fun further => ?_⟩
    obtain ⟨front, back, rfl⟩ := List.append_of_mem other
    have rest' : rest.Perm (front ++ back ++ own.toList) := by
      refine (List.perm_append_right_iff [q]).mp (same.trans ?_)
      refine (List.perm_middle.append_right _).trans ?_
      exact (List.perm_append_singleton q _).symm
    refine ⟨front ++ back ++ next.toList, ?_, fun p listed => ?_⟩
    · refine (rest'.append_right _).trans ?_
      simp only [List.append_assoc]
      exact (List.perm_append_comm.append_left back).append_left front
    · rcases List.mem_append.mp listed with old | new
      · refine kind p ?_
        exact (List.mem_append.mp old).elim (List.mem_append_left _)
          fun behind => List.mem_append_right _ (List.mem_cons_of_mem _ behind)
      · exact further p (Option.mem_toList.mp new)
  · right
    obtain rfl : own = some q := Option.mem_toList.mp mine
    exact ⟨rfl, others, ((List.perm_append_right_iff [q]).mp same).append_right _, kind⟩

theorem Beside.hold {Other : Call × Phase → Prop} {own : Option (Call × Phase)} (beside : Beside Other t own)
    {c : Call} {p : Phase} (kind : Other (c, p)) : Beside Other (t.hold c p) own := by
  obtain ⟨others, calls, kinds⟩ := beside
  refine ⟨others ++ [(c, p)], ?_, fun q member => ?_⟩
  · refine (calls.append_right [(c, p)]).trans ?_
    rw [List.append_assoc, List.append_assoc]
    exact List.perm_append_comm.append_left others
  · rcases List.mem_append.mp member with old | new
    · exact kinds q old
    · exact List.mem_singleton.mp new ▸ kind

/-- What is certain about one call, or about its end, whatever turns it and the others take. -/
structure Certain (Other : Call × Phase → Prop) (J : Traffic → Option (Call × Phase) → Prop) : Prop where
  bare {t own} cs : J t own → J (t.among cs) own
  turn {t u q next} : Turn t q u next → J t (some q) → J u next
  other {t u q next own} : Other q → Turn t q u next → J t own → J u own ∧ ∀ p ∈ next, Other p
  dropped {t q own} : Other q → J t own → J (t.dropped q) own
  later {t own m} : t.now ≤ m → J t own → (∀ q ∈ own, ∀ n, Fires q n → m ≤ n) → J { t with now := m } own

/-- What is certain about one call stays so on every path on which the call is not dropped. -/
theorem Certain.path {Other : Call × Phase → Prop} {J : Traffic → Option (Call × Phase) → Prop}
    (certain : Certain Other J) {aborts : String → Prop} (path : Path aborts t u) {own : Option (Call × Phase)}
    (beside : Beside Other t own) (spared : ∀ q ∈ own, ¬ aborts q.1.id) (holds : J t own) :
    ∃ own', Beside Other u own' ∧ J u own' := by
  induction path generalizing own with
  | settled same =>
    obtain ⟨others, calls, kind⟩ := beside
    exact ⟨own, ⟨others, same.symm.trans calls, kind⟩, certain.bare _ holds⟩
  | @turn t u v q rest next there taken _ ih =>
    rcases beside.turn there u next with ⟨kind, apart⟩ | ⟨rfl, mine⟩
    · obtain ⟨kept, further⟩ := certain.other kind taken holds
      exact ih (apart further) spared (certain.bare _ kept)
    · refine ih mine (fun p left => ?_) (certain.bare _ (certain.turn taken holds))
      rw [taken.same_id p left]
      exact spared q rfl
  | @drop t v q rest there named _ ih =>
    rcases beside.turn there (t.dropped q) none with ⟨kind, apart⟩ | ⟨rfl, -⟩
    · have left := apart none_left
      rw [Option.toList_none, List.append_nil] at left
      exact ih left spared (certain.bare _ (certain.dropped kind holds))
    · exact absurd named (spared q rfl)
  | @lapse t _ _ later first _ ih =>
    refine ih beside spared (certain.later later holds fun q mine => ?_)
    obtain ⟨others, calls, -⟩ := beside
    exact first q (calls.mem_iff.mpr (List.mem_append_right _ (Option.mem_toList.mpr mine)))

/-- An act that has nothing to do with one call: those that join are others, and it is not dropped. -/
def Act.Spares (Other : Call × Phase → Prop) (own : Option (Call × Phase)) : Act → Prop
  | .start c => ∀ giveUpAt, Other (c, .queued giveUpAt)
  | .watch id context => Other ({ id, context, script := fun _ => ⟨none, .success⟩ }, .watching)
  | .abort id => ∀ q ∈ own, q.1.id ≠ id
  | _ => True

theorem primed_keeps (t : Traffic) (a : Act) :
    (t.primed a).now = t.now ∧ (∀ id, (t.primed a).told id = t.told id) ∧
      ∃ joined, (t.primed a).calls = t.calls ++ joined := by
  have same {u : Traffic} (calls : u.calls = t.calls) : ∃ joined, u.calls = t.calls ++ joined :=
    ⟨[], calls.trans (List.append_nil _).symm⟩
  cases a with
  | start c =>
    obtain ⟨still, calls⟩ := still_known t c
    exact ⟨still.now, fun id => noted_onBreaker (about_call id) .., _, congrArg (· ++ [_]) calls⟩
  | watch id context =>
    show (t.watch id context).now = t.now ∧ (∀ other, (t.watch id context).told other = t.told other) ∧
      ∃ joined, (t.watch id context).calls = t.calls ++ joined
    refine watch_cases t id context (fun why => ?_) fun _ => ?_
    · exact ⟨rfl, fun _ => (told_note ..).trans (List.append_nil _), same rfl⟩
    · exact ⟨rfl, fun _ => rfl, _, rfl⟩
  | look =>
    exact ⟨(quiet_lookAll t).now, fun id => noted_lookAll (about_call id) t, same (quiet_lookAll t).calls⟩
  | reset breaker =>
    have quiet := quiet_onBreaker t breaker fun b => b.reset t.now
    exact ⟨quiet.now, fun id => noted_onBreaker (about_call id) .., same quiet.calls⟩
  | _ => exact ⟨rfl, fun _ => rfl, same rfl⟩

theorem Beside.primed {Other : Call × Phase → Prop} {own : Option (Call × Phase)} (beside : Beside Other t own)
    {a : Act} (spares : a.Spares Other own) : Beside Other (t.primed a) own := by
  have same {u : Traffic} (calls : u.calls = t.calls) : Beside Other u own := by
    obtain ⟨others, calls', kind⟩ := beside
    exact ⟨others, calls ▸ calls', kind⟩
  cases a with
  | start c => exact (same (still_known t c).2).hold (spares _)
  | watch id context =>
    show Beside Other (t.watch id context) own
    exact watch_cases t id context (fun _ => same rfl) fun _ => beside.hold spares
  | look => exact same (quiet_lookAll t).calls
  | reset breaker => exact same (quiet_onBreaker t breaker fun b => b.reset t.now).calls
  | _ => exact same rfl

/-- What is certain about one call stays so whatever is done with the traffic. -/
theorem Certain.act {Other : Call × Phase → Prop} {J : Traffic → Option (Call × Phase) → Prop}
    (certain : Certain Other J) (guarded : t.layers.breaker.isSome = true) {bulkhead : BulkheadLayer}
    (layer : t.layers.bulkhead = some bulkhead) (timely : Timely t) {a : Act} (orderly : a.Orderly t)
    {own : Option (Call × Phase)} (spares : a.Spares Other own) (beside : Beside Other t own)
    (holds : J (t.primed a) own) : ∃ own', Beside Other (t.act a) own' ∧ J (t.act a) own' := by
  refine certain.path (act_path guarded layer timely orderly) (beside.primed spares) (fun q mine => ?_) holds
  cases a with
  | abort => exact spares q mine
  | _ => exact id

/-- An act that has nothing to do with the breaker of this name. -/
def Act.Avoids (name : String) : Act → Prop
  | .start c => c.backend ≠ name
  | .reset breaker => breaker ≠ name
  | .look => False
  | _ => True

theorem certain_lookup (name : String) (found : Option Breaker) :
    Certain (Apart name) fun t own => own = none ∧ t.breakers.lookup name = found where
  bare _ := id
  turn _ kept := nomatch kept.1
  other kind turn kept := ⟨⟨kept.1, (turn.apart kind).1.trans kept.2⟩, (turn.apart kind).2⟩
  dropped kind kept := ⟨kept.1, (lookup_dropped_apart _ kind).trans kept.2⟩
  later _ kept _ := kept

/-- A breaker for whose backend there are no calls stays as it is. -/
theorem act_lookup {bulkhead : BulkheadLayer} {retry : Option Config.Retry} {config : Config.Breaker}
    (layers : t.layers = ⟨some bulkhead, retry, some config⟩) (timely : Timely t) {a : Act} (orderly : a.Orderly t)
    {name : String} (avoids : a.Avoids name) (apart : ∀ q ∈ t.calls, Apart name q) :
    (t.act a).breakers.lookup name = t.breakers.lookup name ∧ ∀ q ∈ (t.act a).calls, Apart name q := by
  have layer : t.layers.breaker = some config := by rw [layers]
  have primed : (t.primed a).breakers.lookup name = t.breakers.lookup name := by
    cases a with
    | start c => exact (lookup_onBreaker layer ..).trans (if_neg (Ne.symm avoids))
    | watch id context =>
      show (t.watch id context).breakers.lookup name = t.breakers.lookup name
      exact watch_cases t id context (fun _ => rfl) fun _ => rfl
    | reset breaker => exact (lookup_onBreaker layer ..).trans (if_neg (Ne.symm avoids))
    | look => exact avoids.elim
    | _ => rfl
  have spares : a.Spares (Apart name) none := by
    cases a with
    | start c => exact fun _ => .inr avoids
    | watch => exact .inl rfl
    | abort => exact none_left
    | _ => trivial
  have beside : Beside (Apart name) t none := ⟨t.calls, by simp, apart⟩
  obtain ⟨_, ⟨others, calls, kind⟩, rfl, kept⟩ := (certain_lookup name (t.breakers.lookup name)).act
    (by rw [layer]; rfl) (by rw [layers]) timely orderly spares beside ⟨rfl, primed⟩
  rw [Option.toList_none, List.append_nil] at calls
  exact ⟨kept, fun q member => kind q (calls.mem_iff.mp member)⟩

end

end Traffic
end Gatehouse.Resilience
