import Gatehouse.Proofs.Resilience.Separation

/-!
Permits and trials are neither lost nor made. The free permits of the bulkhead and those of the calls that are
served are as many as there ever were, and a half-open breaker counts as many trials as there are attempts which
it admitted since it became so. Whichever way a call ends, it gives back what it had.
-/
namespace Gatehouse.Resilience

namespace Breaker

/-- The tickets of the attempts that are under way are of this period of the breaker or an earlier one, and the
breaker counts the trials among them. -/
structure Accounts (config : Config.Breaker) (b : Breaker) (running : List Ticket) : Prop where
  config : b.config = config
  tickets : ∀ k ∈ running, k.generation ≤ b.generation ∧
    (k.generation = b.generation → (k.isTrial = true ↔ b.state = .halfOpen))
  trials : b.trials = running.countP fun k => k.generation = b.generation ∧ k.isTrial = true

variable {config : Config.Breaker} {b : Breaker} {running : List Ticket}

theorem accounts_fresh (config : Config.Breaker) (now : Moment) :
    Accounts config { config, changedAt := now } [] := ⟨rfl, nofun, rfl⟩

theorem Accounts.perm {other : List Ticket} (accounts : Accounts config b running) (same : running.Perm other) :
    Accounts config b other where
  config := accounts.config
  tickets k member := accounts.tickets k (same.mem_iff.mpr member)
  trials := accounts.trials.trans (same.countP_eq _)

theorem Accounts.moveTo (accounts : Accounts config b running) {state : Circuit} (apart : b.state ≠ state)
    (now : Moment) : Accounts config (b.moveTo state now).1 running := by
  have earlier (k : Ticket) (member : k ∈ running) : k.generation < b.generation + 1 :=
    Nat.lt_succ_of_le (accounts.tickets k member).1
  rw [Breaker.moveTo, if_neg apart]
  refine ⟨accounts.config, fun k member => ⟨Nat.le_of_lt (earlier k member), fun same => ?_⟩, ?_⟩
  · exact absurd same (Nat.ne_of_lt (earlier k member))
  · symm
    simp only [List.countP_eq_zero, decide_eq_true_eq]
    exact fun k member current => Nat.ne_of_lt (earlier k member) current.1

theorem Accounts.refresh (accounts : Accounts config b running) (now : Moment) :
    Accounts config (b.refresh now).1 running := by
  unfold Breaker.refresh
  split
  next due => exact accounts.moveTo (by rw [due.1]; exact nofun) now
  next => exact accounts

theorem Accounts.reset (accounts : Accounts config b running) (now : Moment) :
    Accounts config (b.reset now).1 running := by
  have cleared : Accounts config { b with failures := 0 } running :=
    ⟨accounts.config, accounts.tickets, accounts.trials⟩
  by_cases closed : b.state = .closed
  · simpa only [Breaker.reset, Breaker.moveTo, closed, if_true] using cleared
  · exact cleared.moveTo closed now

theorem Accounts.grant (accounts : Accounts config b running) :
    Accounts config b.grant.2 (b.grant.1.toList ++ running) := by
  cases state : b.state with
  | closed =>
    rw [grant_closed state]
    refine ⟨accounts.config, fun k member => ?_, ?_⟩
    · rcases List.mem_cons.mp member with rfl | old
      · exact ⟨Nat.le_refl _, fun _ => by simp [state]⟩
      · exact accounts.tickets k old
    · simpa using accounts.trials
  | opened =>
    rw [grant_opened state]
    exact accounts
  | halfOpen =>
    by_cases room : b.trials < b.config.halfOpenLimit
    · rw [grant_trial state room]
      refine ⟨accounts.config, fun k member => ?_, ?_⟩
      · rcases List.mem_cons.mp member with rfl | old
        · exact ⟨Nat.le_refl _, fun _ => by simp [state]⟩
        · exact accounts.tickets k old
      · simpa using accounts.trials
    · rw [grant_full state room]
      exact accounts

theorem Accounts.ask (accounts : Accounts config b running) (now : Moment) :
    Accounts config (b.ask now).2.1 ((b.ask now).1.toList ++ running) := by
  rw [ask_eq]
  exact (accounts.refresh now).grant

theorem Accounts.record {ticket : Ticket} (accounts : Accounts config b (ticket :: running)) (v : Verdict)
    (now : Moment) : Accounts config (b.record ticket v now).1 running := by
  have tickets (k : Ticket) (member : k ∈ running) := accounts.tickets k (List.mem_cons_of_mem _ member)
  have trials := accounts.trials
  rw [List.countP_cons] at trials
  by_cases same : b.generation = ticket.generation
  · have counted : Accounts config (b.count ticket v) running := by
      refine ⟨accounts.config, tickets, ?_⟩
      cases trial : ticket.isTrial <;> simp_all [count]
    rw [record_current same]
    cases target : (b.count ticket v).target? v with
    | none => exact counted
    | some state => exact counted.moveTo (target?_apart target) now
  · rw [record_stale same]
    refine ⟨accounts.config, tickets, ?_⟩
    simpa [Ne.symm same] using trials

end Breaker

namespace Traffic

/-- The call has been served: it got its permit and is on its way through the layers behind the bulkhead. -/
def isServed (q : Call × Phase) : Bool :=
  match q.2 with
  | .attempting _ _ _ => true
  | .pausing _ _ => true
  | _ => false

/-- What the attempt of a call was admitted with, by the breaker of this name. -/
def ticketFor (name : String) (q : Call × Phase) : Option Ticket :=
  match q.2 with
  | .attempting _ ticket _ => if q.1.backend = name then ticket else none
  | _ => none

/-- Permits and trials add up. -/
structure Balanced (total : Nat) (config : Config.Breaker) (t : Traffic) : Prop where
  held : ∀ q ∈ t.calls, q.1.holdsPermit = isServed q
  free : t.free + t.calls.countP isServed = total
  trials : ∀ name, Breaker.Accounts config (t.breakers.get config t.now name) (t.calls.filterMap (ticketFor name))

variable {t u : Traffic} {total : Nat} {config : Config.Breaker}

theorem Balanced.perm (balanced : Balanced total config t) {calls : List (Call × Phase)}
    (same : t.calls.Perm calls) : Balanced total config (t.among calls) where
  held q member := balanced.held q (same.mem_iff.mpr member)
  free := by
    rw [among_calls, ← same.countP_eq]
    exact balanced.free
  trials name := (balanced.trials name).perm (same.filterMap _)

@[simp] theorem free_setBreaker (t : Traffic) (name : String) (b : Breaker) (change : Option Change) :
    (t.setBreaker name b change).free = t.free := by
  cases change <;> rfl

@[simp] theorem free_onBreaker (t : Traffic) (name : String) (f : Breaker → Breaker × Option Change) :
    (t.onBreaker name f).free = t.free := by
  unfold onBreaker
  split
  · rfl
  · exact free_setBreaker ..

@[simp] theorem free_record (t : Traffic) (c : Call) (ticket : Option Ticket) (v : Verdict) :
    (t.record c ticket v).free = t.free := by
  unfold record
  split
  · rfl
  · exact free_onBreaker ..

@[simp] theorem free_ask (t : Traffic) (c : Call) : (t.ask c).2.free = t.free := by
  unfold ask
  split
  · rfl
  · exact free_setBreaker ..

@[simp] theorem free_release (t : Traffic) (c : Call) : (t.release c).free = t.free + c.holdsPermit.toNat := by
  unfold release
  cases c.holdsPermit <;> rfl

@[simp] theorem free_finish (t : Traffic) (c : Call) (result : Except CallError Nat) :
    (t.finish c result).free = t.free + c.holdsPermit.toNat := free_release ..

/-- A turn moves a permit between the bulkhead and the call that takes it, if any. -/
theorem Turn.permits {q : Call × Phase} {next : Option (Call × Phase)} (turn : Turn t q u next)
    (held : q.1.holdsPermit = isServed q) :
    (∀ p ∈ next, p.1.holdsPermit = isServed p) ∧
    u.free + next.toList.countP isServed = t.free + (isServed q).toNat := by
  cases turn with
  | @interrupted c p =>
    refine ⟨none_left, ?_⟩
    cases p with
    | watching => rfl
    | _ => simp [interrupt, stop, ← held]
  | permitted _ room => exact ⟨fun p own => Option.mem_some.mp own ▸ rfl, Nat.sub_add_cancel room⟩
  | turnedAway => exact ⟨none_left, by simp [← held]⟩
  | barred | stopped => exact ⟨none_left, by simp [stop, ← held]⟩
  | rejected => exact ⟨none_left, by simp [← held]⟩
  | invoked =>
    refine ⟨fun p own => Option.mem_some.mp own ▸ held, ?_⟩
    simp [note, isServed]
  | crashed => exact ⟨none_left, by simp [← held]⟩
  | succeeded => exact ⟨none_left, by simp [← held]⟩
  | failed => exact ⟨none_left, by simp [← held]⟩
  | paused =>
    refine ⟨fun p own => Option.mem_some.mp own ▸ held, ?_⟩
    simp [isServed]

section
variable (layer : t.layers.breaker = some config) {c : Call}
include layer

theorem get_record (ticket : Ticket) (v : Verdict) (name : String) :
    (t.record c (some ticket) v).breakers.get config t.now name =
      if name = c.backend then ((t.breakers.get config t.now c.backend).record ticket v t.now).1
      else t.breakers.get config t.now name := by
  unfold Breakers.get
  rw [lookup_record layer]
  split <;> rfl

theorem get_ask (name : String) :
    (t.ask c).2.breakers.get config t.now name =
      if name = c.backend then ((t.breakers.get config t.now c.backend).ask t.now).2.1
      else t.breakers.get config t.now name := by
  unfold Breakers.get
  rw [lookup_ask layer]
  split <;> rfl

variable {running : String → List Ticket}

theorem accounts_record {ticket : Option Ticket} (v : Verdict)
    (accounts : ∀ name, Breaker.Accounts config (t.breakers.get config t.now name)
      ((if c.backend = name then ticket else none).toList ++ running name)) (name : String) :
    Breaker.Accounts config ((t.record c ticket v).breakers.get config t.now name) (running name) := by
  cases ticket with
  | none =>
    have unticketed := accounts name
    rw [ite_self] at unticketed
    exact unticketed
  | some ticket =>
    rw [get_record layer]
    split
    next own =>
      subst own
      exact Breaker.Accounts.record (by simpa using accounts c.backend) v t.now
    next other => simpa [Ne.symm other] using accounts name

theorem accounts_ask {ticket : Option Ticket}
    (answer : (t.ask c).1 = .ok ticket ∨ (∃ e, (t.ask c).1 = .error e) ∧ ticket = none)
    (accounts : ∀ name, Breaker.Accounts config (t.breakers.get config t.now name) (running name)) (name : String) :
    Breaker.Accounts config ((t.ask c).2.breakers.get config t.now name)
      ((if c.backend = name then ticket else none).toList ++ running name) := by
  have given : ticket = ((t.breakers.get config t.now c.backend).ask t.now).1 := by
    rw [ask_answer layer] at answer
    cases granted : ((t.breakers.get config t.now c.backend).ask t.now).1 with
    | none => simp_all
    | some k => simp_all
  rw [get_ask layer, given]
  split
  next own =>
    subst own
    simpa using (accounts c.backend).ask t.now
  next other => simpa [Ne.symm other] using accounts name

/-- A turn leaves the accounts of every breaker in order. -/
theorem Turn.trials {q : Call × Phase} {next : Option (Call × Phase)} (turn : Turn t q u next)
    (accounts : ∀ name, Breaker.Accounts config (t.breakers.get config t.now name)
      ((ticketFor name q).toList ++ running name)) (name : String) :
    Breaker.Accounts config (u.breakers.get config u.now name)
      ((next.bind (ticketFor name)).toList ++ running name) := by
  rw [turn.still.1.now]
  have finished (w : Traffic) (c : Call) (result : Except CallError Nat) :
      (w.finish c result).breakers = w.breakers := breakers_finish ..
  cases turn with
  | @interrupted c p =>
    cases p with
    | attempting =>
      simp only [interrupt, stop, finished]
      exact accounts_record layer .abandoned accounts name
    | watching => exact accounts name
    | queued | pausing =>
      simp only [interrupt, stop, finished]
      exact accounts name
  | permitted => exact accounts name
  | turnedAway =>
    rw [finished]
    exact accounts name
  | barred | stopped =>
    rw [stop, finished]
    exact accounts name
  | rejected _ _ asked =>
    have settled (name : String) :
        Breaker.Accounts config (t.breakers.get config t.now name) (running name) := accounts name
    have kept := accounts_ask layer (.inr ⟨⟨_, asked⟩, rfl⟩) settled name
    rw [ite_self] at kept
    rw [finished]
    exact kept
  | invoked _ _ asked => exact accounts_ask layer (.inl asked) accounts name
  | crashed =>
    rw [breakers_release]
    exact accounts_record layer .abandoned accounts name
  | succeeded =>
    rw [finished]
    exact accounts_record layer .success accounts name
  | failed =>
    rw [finished]
    exact accounts_record layer .failure accounts name
  | paused => exact accounts_record layer .failure accounts name

end

theorem Balanced.split (balanced : Balanced total config t) {q : Call × Phase} {others : List (Call × Phase)}
    (there : t.calls.Perm (others ++ [q])) :
    (∀ p ∈ others, p.1.holdsPermit = isServed p) ∧ q.1.holdsPermit = isServed q ∧
    t.free + others.countP isServed + (isServed q).toNat = total ∧
    ∀ name, Breaker.Accounts config (t.breakers.get config t.now name)
      ((ticketFor name q).toList ++ others.filterMap (ticketFor name)) := by
  obtain ⟨held, free, trials⟩ := balanced.perm there
  refine ⟨fun p member => held p (List.mem_append_left _ member), ?_, ?_, fun name => (trials name).perm ?_⟩
  · exact held q (List.mem_append_right _ List.mem_cons_self)
  · have served : [q].countP isServed = (isServed q).toNat := by
      rw [List.countP_singleton]
      cases isServed q <;> rfl
    rw [among_calls, List.countP_append, served, ← Nat.add_assoc] at free
    exact free
  · rw [among_calls, List.filterMap_append, List.filterMap_cons, List.filterMap_nil]
    refine .trans ?_ List.perm_append_comm
    cases ticketFor name q <;> exact .refl _

theorem Balanced.turn (layer : t.layers.breaker = some config) (balanced : Balanced total config t)
    {q : Call × Phase} {next : Option (Call × Phase)} {others : List (Call × Phase)}
    (there : t.calls.Perm (others ++ [q])) (turn : Turn t q u next) :
    Balanced total config (u.among (others ++ next.toList)) := by
  obtain ⟨held, own, free, accounts⟩ := balanced.split there
  obtain ⟨held', permits⟩ := turn.permits own
  refine ⟨fun p member => ?_, ?_, fun name => (turn.trials layer accounts name).perm ?_⟩
  · rcases List.mem_append.mp member with other | left
    · exact held p other
    · exact held' p (Option.mem_toList.mp left)
  · show u.free + (others ++ next.toList).countP isServed = total
    rw [List.countP_append]
    omega
  · rw [among_calls, List.filterMap_append]
    refine List.perm_append_comm.trans ?_
    cases next with
    | none => exact .refl _
    | some p =>
      simp only [Option.bind_some, Option.toList_some, List.filterMap_cons, List.filterMap_nil]
      cases ticketFor name p <;> exact .refl _

theorem Balanced.dropped (layer : t.layers.breaker = some config) (balanced : Balanced total config t)
    {q : Call × Phase} {others : List (Call × Phase)} (there : t.calls.Perm (others ++ [q])) :
    Balanced total config ((t.dropped q).among others) := by
  obtain ⟨held, own, free, accounts⟩ := balanced.split there
  obtain ⟨c, p⟩ := q
  have given : (t.dropped (c, p)).free = t.free + (isServed (c, p)).toNat := by
    rw [← own]
    cases p <;> simp [Traffic.dropped]
  refine ⟨held, ?_, fun name => ?_⟩
  · show (t.dropped (c, p)).free + others.countP isServed = total
    omega
  · show Breaker.Accounts config ((t.dropped (c, p)).breakers.get config (t.dropped (c, p)).now name) _
    rw [(quiet_dropped t (c, p)).now]
    cases p with
    | attempting =>
      simp only [Traffic.dropped, breakers_release]
      exact accounts_record layer .abandoned accounts name
    | _ =>
      simp only [Traffic.dropped, breakers_release]
      exact accounts name

theorem accounts_later (bs : Breakers) (config : Config.Breaker) (now later : Moment) {name : String}
    {running : List Ticket} (accounts : Breaker.Accounts config (bs.get config now name) running) :
    Breaker.Accounts config (bs.get config later name) running := by
  unfold Breakers.get at accounts ⊢
  cases found : bs.lookup name with
  | some b =>
    rw [found] at accounts
    exact accounts
  | none =>
    rw [found] at accounts
    exact ⟨accounts.config, accounts.tickets, accounts.trials⟩

theorem Balanced.later (balanced : Balanced total config t) (later : Moment) :
    Balanced total config { t with now := later } :=
  ⟨balanced.held, balanced.free, fun name => accounts_later _ _ _ _ (balanced.trials name)⟩

/-- Nothing is done with calls, and what is done with a breaker leaves its accounts in order. -/
theorem Balanced.onBreaker (layer : t.layers.breaker = some config) (balanced : Balanced total config t)
    (name : String) {f : Breaker → Breaker × Option Change}
    (keeps : ∀ b running, Breaker.Accounts config b running → Breaker.Accounts config (f b).1 running) :
    Balanced total config (t.onBreaker name f) := by
  obtain ⟨still, calls⟩ := (quiet_onBreaker t name f).still
  refine ⟨by rw [calls]; exact balanced.held, by rw [calls, free_onBreaker]; exact balanced.free, fun other => ?_⟩
  rw [calls, still.now]
  have trials := balanced.trials other
  unfold Breakers.get at trials ⊢
  rw [lookup_onBreaker layer]
  split
  next own =>
    subst own
    exact keeps _ _ trials
  next => exact trials

theorem Balanced.lookAll (layer : t.layers.breaker = some config) (balanced : Balanced total config t) :
    Balanced total config t.lookAll := by
  unfold Traffic.lookAll
  generalize t.breakers.names = names
  induction names generalizing t with
  | nil => exact balanced
  | cons name rest ih =>
    have looked : Balanced total config (t.look name) :=
      balanced.onBreaker layer name fun _ _ accounts => accounts.refresh t.now
    refine ih ?_ looked
    rw [← layer, ← (quiet_onBreaker t name fun b => b.refresh t.now).layers]
    rfl

theorem Balanced.hold (balanced : Balanced total config t) {c : Call} {p : Phase}
    (empty : c.holdsPermit = false) (waits : isServed (c, p) = false) : Balanced total config (t.hold c p) := by
  refine ⟨fun q member => ?_, ?_, fun name => ?_⟩
  · rcases List.mem_append.mp member with old | new
    · exact balanced.held q old
    · obtain rfl := List.mem_singleton.mp new
      exact empty.trans waits.symm
  · show t.free + (t.calls ++ [(c, p)]).countP isServed = total
    rw [List.countP_append, List.countP_singleton, waits]
    exact balanced.free
  · have none : ticketFor name (c, p) = none := by
      cases p with
      | attempting => cases waits
      | _ => rfl
    show Breaker.Accounts config (t.breakers.get config t.now name) ((t.calls ++ [(c, p)]).filterMap (ticketFor name))
    rw [List.filterMap_append, List.filterMap_cons, none, List.filterMap_nil, List.append_nil]
    exact balanced.trials name

theorem balanced_ofLayers (bulkhead : BulkheadLayer) (retry : Option Config.Retry) (config : Config.Breaker) :
    Balanced bulkhead.config.maxConcurrent config (ofLayers ⟨some bulkhead, retry, some config⟩) :=
  ⟨fun _ none => absurd none List.not_mem_nil, rfl, fun _ => Breaker.accounts_fresh config _⟩

theorem Balanced.path (layer : t.layers.breaker = some config) (balanced : Balanced total config t)
    {aborts : String → Prop} (path : Path aborts t u) : Balanced total config u := by
  induction path with
  | settled same => exact balanced.perm same
  | turn there turn _ ih => exact ih (by rw [← layer, ← turn.still.1.layers]; rfl) (balanced.turn layer there turn)
  | @drop t _ q _ there _ _ ih =>
    exact ih (by rw [← layer, ← (quiet_dropped t q).layers]; rfl) (balanced.dropped layer there)
  | lapse _ _ _ ih => exact ih layer (balanced.later _)

theorem Balanced.primed (layer : t.layers.breaker = some config) (balanced : Balanced total config t) {a : Act}
    (orderly : a.Orderly t) : Balanced total config (t.primed a) := by
  cases a with
  | start c =>
    have known := balanced.onBreaker layer c.backend (f := fun b => (b, none)) fun _ _ => id
    exact Balanced.hold known orderly rfl
  | watch id context =>
    show Balanced total config (t.watch id context)
    exact watch_cases t id context (fun _ => { balanced with }) fun _ => balanced.hold rfl rfl
  | look => exact balanced.lookAll layer
  | reset name => exact balanced.onBreaker layer name fun _ _ accounts => accounts.reset t.now
  | cancel | signal => exact { balanced with }
  | _ => exact balanced

theorem act_balanced (layer : t.layers.breaker = some config) {bulkhead : BulkheadLayer}
    (layer' : t.layers.bulkhead = some bulkhead) (timely : Timely t) (balanced : Balanced total config t) {a : Act}
    (orderly : a.Orderly t) : Balanced total config (t.act a) := by
  have guarded : t.layers.breaker.isSome = true := by rw [layer]; rfl
  have path := act_path guarded layer' timely orderly
  refine (balanced.primed layer orderly).path ?_ path
  rw [← layer, ← act_layers guarded layer' timely orderly, path.onward.1]

theorem Reached.balanced {bulkhead : BulkheadLayer} {retry : Option Config.Retry}
    (reached : Reached ⟨some bulkhead, retry, some config⟩ t) :
    Balanced bulkhead.config.maxConcurrent config t := by
  induction reached with
  | bare => exact balanced_ofLayers bulkhead retry config
  | act before orderly ih =>
    obtain ⟨layers, timely⟩ := before.timely
    exact act_balanced (by rw [layers]) (by rw [layers]) timely ih orderly

end Traffic
end Gatehouse.Resilience
