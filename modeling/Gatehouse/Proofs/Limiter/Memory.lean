import Gatehouse.Proofs.Limiter.WindowHistory

/-!
Which keys a sliding window remembers. An entry is made by a request and by nothing else, and says when the last
request and the last admission of its key were; so which keys are forgotten can be told from the history, and after
idle keys were forgotten every entry that is left was in use lately.
-/
namespace Gatehouse.Limiter

def names : Limiter → List String
  | window w => w.keys.map (·.1)
  | bucket b => b.keys.map (·.1)

theorem tracked_eq (l : Limiter) : l.tracked = l.names.length := by
  cases l with
  | window w => exact (List.length_map _).symm
  | bucket b => exact (List.length_map _).symm

theorem names_reset (l : Limiter) (key : String) : (l.reset key).names = l.names.filter (· ≠ key) := by
  cases l <;> simp [reset, Window.reset, Bucket.reset, Keyed.erase, names, List.filter_map, Function.comp_def]

def latest (kind : Event → Bool) (past : List Event) : Option Moment :=
  (past.filter kind).getLast?.map (·.moment)

/-- The last request of a key, whether it was admitted or not. -/
def lastRequest (key : String) : List Event → Option Moment := latest (·.requests key)

def lastAdmission (key : String) : List Event → Option Moment := latest (·.admits key)

/-- Whether the last request of a key is long ago, and its last admission no longer in the window. -/
def forgettable (length : Duration) (past : List Event) (now : Moment) (idle : Duration) (key : String) : Bool :=
  (lastRequest key past).all (fun t => idle ≤ now.since t) &&
    (lastAdmission key past).all (fun t => length < now.since t)

theorem latest_append_singleton (kind : Event → Bool) (past : List Event) (e : Event) :
    latest kind (past ++ [e]) = if kind e then some e.moment else latest kind past := by
  by_cases of : kind e <;> simp [latest, List.filter_append, of]

theorem latest_unasked {key : String} {e : Event} (unasked : e.requests key = false) (past : List Event) :
    lastRequest key (past ++ [e]) = lastRequest key past ∧ lastAdmission key (past ++ [e]) = lastAdmission key past := by
  simp [lastRequest, lastAdmission, latest_append_singleton, unasked, Event.admits_of_unasked unasked]

namespace Keyed
variable {σ : Type}

theorem mem_put {k : Keyed σ} (distinct : k.Distinct) {key : String} {e : Entry σ} {p : String × Entry σ}
    (member : p ∈ k.put key e) : p = (key, e) ∨ p ∈ k ∧ p.1 ≠ key := by
  induction k with
  | nil => exact .inl (List.mem_singleton.mp member)
  | cons entry rest ih =>
    obtain ⟨head, f⟩ := entry
    obtain ⟨fresh, others⟩ := List.nodup_cons.mp distinct
    by_cases same : head = key
    · subst head
      rw [put, if_pos rfl] at member
      rcases List.mem_cons.mp member with rfl | old
      · exact .inl rfl
      · have listed : p.1 ∈ rest.map (·.1) := List.mem_map_of_mem old
        exact .inr ⟨List.mem_cons_of_mem _ old, fun equal => fresh (equal ▸ listed)⟩
    · rw [put, if_neg same] at member
      rcases List.mem_cons.mp member with rfl | later
      · exact .inr ⟨List.mem_cons_self, same⟩
      · exact (ih others later).imp_right (And.imp_left (List.mem_cons_of_mem _))

theorem mem_of_get? {k : Keyed σ} {key : String} {state : σ} (found : k.get? key = some state) :
    ∃ e, (key, e) ∈ k ∧ e.state = state := by
  obtain ⟨e, looked, same⟩ := Option.map_eq_some_iff.mp found
  obtain ⟨before, after, rfl, -⟩ := List.lookup_eq_some_iff.mp looked
  exact ⟨e, List.mem_append_right _ List.mem_cons_self, same⟩

end Keyed

namespace Window

/-- What the entries say is true of a run. -/
structure Remembers (w : Window) (past : List Event) (now : Moment) : Prop where
  distinct : w.keys.Distinct
  requested : ∀ p ∈ w.keys, lastRequest p.1 past = some p.2.lastSeen
  admitted : ∀ p ∈ w.keys, lastAdmission p.1 past = p.2.state.getLast?
  seen : ∀ p ∈ w.keys, p.2.lastSeen ≤ now
  ordered : ∀ p ∈ w.keys, ∀ t ∈ p.2.state, t ≤ p.2.lastSeen
  /-- Without a quota nobody is admitted. -/
  shut : w.quota = 0 → ∀ key, lastAdmission key past = none

theorem remembers_fresh (quota : Nat) (length : Duration) (now : Moment) :
    Remembers { quota, length } [] now where
  distinct := Keyed.distinct_empty
  requested _ member := absurd member List.not_mem_nil
  admitted _ member := absurd member List.not_mem_nil
  seen _ member := absurd member List.not_mem_nil
  ordered _ member := absurd member List.not_mem_nil
  shut _ _ := rfl

variable {w v : Window} {past : List Event} {now : Moment}

theorem Remembers.later (remembers : Remembers w past now) {later : Moment} (order : now ≤ later) :
    Remembers w past later :=
  { remembers with seen := fun p member => Nat.le_trans (remembers.seen p member) order }

/-- The same window with fewer entries. -/
structure Shrinks (w v : Window) : Prop where
  quota : v.quota = w.quota
  length : v.length = w.length
  keys : v.keys.Sublist w.keys

theorem Shrinks.refl (w : Window) : Shrinks w w := ⟨rfl, rfl, .refl _⟩

theorem Shrinks.trans {u : Window} (first : Shrinks w v) (second : Shrinks v u) : Shrinks w u :=
  ⟨second.quota.trans first.quota, second.length.trans first.length, second.keys.trans first.keys⟩

theorem shrinks_purge (w : Window) (now : Moment) (idle : Duration) : Shrinks w (w.purge now idle) :=
  ⟨rfl, rfl, List.filter_sublist⟩

theorem shrinks_reset (w : Window) (key : String) : Shrinks w (w.reset key) := ⟨rfl, rfl, List.filter_sublist⟩

/-- What is left of the entries is still true when others are forgotten. -/
theorem Remembers.shrink (remembers : Remembers w past now) (shrinks : Shrinks w v) : Remembers v past now where
  distinct := (shrinks.keys.map _).nodup remembers.distinct
  requested p member := remembers.requested p (shrinks.keys.subset member)
  admitted p member := remembers.admitted p (shrinks.keys.subset member)
  seen p member := remembers.seen p (shrinks.keys.subset member)
  ordered p member := remembers.ordered p (shrinks.keys.subset member)
  shut none := remembers.shut (shrinks.quota.symm.trans none)

theorem Remembers.note (remembers : Remembers w past now) {e : Event} (unasked : ∀ key, e.requests key = false) :
    Remembers w (past ++ [e]) now :=
  { remembers with
    requested := fun p member => (latest_unasked (unasked p.1) past).1.trans (remembers.requested p member)
    admitted := fun p member => (latest_unasked (unasked p.1) past).2.trans (remembers.admitted p member)
    shut := fun none key => (latest_unasked (unasked key) past).2.trans (remembers.shut none key) }

/-- What is known of a key ends with its last admission, unless nothing is known of it. -/
theorem Remembers.known (remembers : Remembers w past now) (key : String) :
    w.known key = [] ∨ (w.known key).getLast? = lastAdmission key past := by
  rw [Window.known]
  cases found : w.keys.get? key with
  | none => exact .inl rfl
  | some state =>
    obtain ⟨e, member, rfl⟩ := Keyed.mem_of_get? found
    exact .inr (remembers.admitted (key, e) member).symm

theorem Remembers.known_le (remembers : Remembers w past now) (key : String) : ∀ t ∈ w.known key, t ≤ now := by
  rw [Window.known]
  cases found : w.keys.get? key with
  | none => exact fun t member => absurd member List.not_mem_nil
  | some state =>
    obtain ⟨e, member, rfl⟩ := Keyed.mem_of_get? found
    exact fun t admitted => Nat.le_trans (remembers.ordered _ member t admitted) (remembers.seen _ member)

theorem Remembers.refused (remembers : Remembers w past now) {key : String}
    (full : w.quota ≤ (recent w.length now (w.known key)).length) :
    (recent w.length now (w.known key)).getLast? = lastAdmission key past := by
  obtain ⟨front, parts⟩ : recent w.length now (w.known key) <:+ w.known key := List.dropWhile_suffix _
  cases left : (recent w.length now (w.known key)).getLast? with
  | none =>
    have empty := List.getLast?_eq_none_iff.mp left
    have none : w.quota = 0 := by simpa [empty] using full
    exact (remembers.shut none key).symm
  | some last =>
    rcases remembers.known key with unknown | known
    · simp [unknown, recent] at left
    · rw [← known, ← parts, List.getLast?_append, left]
      rfl

theorem allow_entry (w : Window) (now : Moment) (key : String) :
    (w.allow now key).2.keys =
      w.keys.put key ⟨recent w.length now (w.known key) ++ (if (w.allow now key).1 = .ok () then [now] else []), now⟩ := by
  simp only [allow, known]
  split <;> simp

theorem allowed_iff (w : Window) (now : Moment) (key : String) :
    (w.allow now key).1 = .ok () ↔ (recent w.length now (w.known key)).length < w.quota := by
  rw [allow_eq]
  split
  next few => exact iff_of_true rfl few
  next many => exact iff_of_false nofun many

/-- What a request leaves under its key ends with the last admission. -/
theorem Remembers.entry_last (remembers : Remembers w past now) (key : String) :
    lastAdmission key (past ++ [⟨now, .allow key, .allowed (w.allow now key).1⟩]) =
      (recent w.length now (w.known key) ++ (if (w.allow now key).1 = .ok () then [now] else [])).getLast? := by
  rw [lastAdmission, latest_append_singleton]
  cases result : (w.allow now key).1 with
  | ok => simp [Event.admits, Event.requests]
  | error e =>
    have full : w.quota ≤ (recent w.length now (w.known key)).length := by
      refine Nat.le_of_not_lt fun few => ?_
      rw [(allowed_iff w now key).mpr few] at result
      cases result
    have unadmitted : Event.admits key ⟨now, .allow key, .allowed (.error e)⟩ = false := rfl
    have nothing : (if (.error e : Except Exceeded Unit) = .ok () then [now] else []) = [] := if_neg nofun
    rw [unadmitted, if_neg Bool.false_ne_true, nothing, List.append_nil]
    exact (remembers.refused full).symm

theorem Remembers.allow (remembers : Remembers w past now) (key : String) :
    Remembers (w.allow now key).2 (past ++ [⟨now, .allow key, .allowed (w.allow now key).1⟩]) now := by
  have last := remembers.entry_last key
  have unasked (other : String) (apart : other ≠ key) :
      Event.requests other ⟨now, .allow key, .allowed (w.allow now key).1⟩ = false := by
    simp [Event.requests, Ne.symm apart]
  have entries (p : String × Entry (List Moment)) (member : p ∈ (w.allow now key).2.keys) :
      p = (key, ⟨recent w.length now (w.known key) ++ (if (w.allow now key).1 = .ok () then [now] else []), now⟩) ∨
        p ∈ w.keys ∧ p.1 ≠ key := by
    rw [allow_entry] at member
    exact Keyed.mem_put remembers.distinct member
  constructor
  · rw [allow_entry]
    exact remembers.distinct.put ..
  · intro p member
    rcases entries p member with rfl | ⟨old, apart⟩
    · simp [lastRequest, latest_append_singleton, Event.requests]
    · exact (latest_unasked (unasked _ apart) past).1.trans (remembers.requested p old)
  · intro p member
    rcases entries p member with rfl | ⟨old, apart⟩
    · exact last
    · exact (latest_unasked (unasked _ apart) past).2.trans (remembers.admitted p old)
  · intro p member
    rcases entries p member with rfl | ⟨old, apart⟩
    · exact Nat.le_refl _
    · exact remembers.seen p old
  · intro p member
    rcases entries p member with rfl | ⟨old, apart⟩
    · intro t admitted
      rcases List.mem_append.mp admitted with old | new
      · exact remembers.known_le key t ((List.dropWhile_suffix _).subset old)
      · split at new
        · exact Nat.le_of_eq (congrArg Moment.nanos (List.mem_singleton.mp new))
        · exact absurd new List.not_mem_nil
    · exact remembers.ordered p old
  · rw [allow_quota]
    intro none other
    by_cases same : other = key
    · have refused : (w.allow now key).1 ≠ .ok () := fun allowed => by
        have few := (allowed_iff w now key).mp allowed
        omega
      rw [same, last, if_neg refused, List.append_nil]
      exact (remembers.refused (by omega)).trans (remembers.shut none key)
    · exact (latest_unasked (unasked other same) past).2.trans (remembers.shut none other)

/-- Every call keeps the limiter a sliding window with the same settings whose entries are true. It makes no entry
that was not in use just then. -/
theorem Remembers.step (remembers : Remembers w past now) (call : Call) :
    ∃ v, ((Limiter.window w).step now call).2 = .window v ∧ v.quota = w.quota ∧ v.length = w.length ∧
      Remembers v (past ++ [⟨now, call, ((Limiter.window w).step now call).1⟩]) now ∧
      ∀ p ∈ v.keys, p ∈ w.keys ∨ p.2.lastSeen = now := by
  have shrunk {v : Window} (shrinks : Shrinks w v) (p : String × Entry (List Moment)) (member : p ∈ v.keys) :
      p ∈ w.keys ∨ p.2.lastSeen = now := .inl (shrinks.keys.subset member)
  cases call with
  | allow key =>
    refine ⟨(w.allow now key).2, rfl, allow_quota w now key, allow_length w now key, remembers.allow key, ?_⟩
    intro p member
    rw [allow_entry] at member
    rcases Keyed.mem_put remembers.distinct member with rfl | ⟨old, -⟩
    · exact .inr rfl
    · exact .inl old
  | remaining key =>
    refine ⟨w, rfl, rfl, rfl, remembers.note fun other => ?_, shrunk (.refl w)⟩
    simp [Event.requests]
  | reset key =>
    have shrinks := w.shrinks_reset key
    refine ⟨_, rfl, rfl, rfl, (remembers.shrink shrinks).note fun other => ?_, shrunk shrinks⟩
    simp [Event.requests]
  | purge idle =>
    have shrinks := w.shrinks_purge now idle
    refine ⟨_, rfl, rfl, rfl, (remembers.shrink shrinks).note fun other => ?_, shrunk shrinks⟩
    simp [Event.requests]

theorem settled_eq (length : Duration) (now : Moment) (admitted : List Moment) :
    settled length now admitted = admitted.getLast?.all fun t => length < now.since t := by
  unfold settled
  cases admitted.getLast? <;> rfl

/-- Which entries are kept can be told from the history. -/
theorem Remembers.wanted_eq (remembers : Remembers w past now) (idle : Duration) {p : String × Entry (List Moment)}
    (member : p ∈ w.keys) :
    Keyed.wanted now idle (settled w.length now) p.2 = !forgettable w.length past now idle p.1 := by
  have lately : decide (now.since p.2.lastSeen < idle) = !decide (idle ≤ now.since p.2.lastSeen) := by
    rw [← decide_not]
    exact decide_eq_decide.mpr Nat.not_le.symm
  rw [Keyed.wanted, forgettable, remembers.requested p member, remembers.admitted p member, settled_eq, lately,
    Option.all_some, Bool.not_and]

theorem Remembers.purge (remembers : Remembers w past now) (idle : Duration) :
    ((Limiter.window w).step now (.purge idle)).2.names =
        (Limiter.window w).names.filter (fun key => !forgettable w.length past now idle key) ∧
      ((Limiter.window w).step now (.purge idle)).1 =
        .purged ((Limiter.window w).names.countP (forgettable w.length past now idle)) := by
  have left : ((Limiter.window w).purge now idle).names =
      (Limiter.window w).names.filter (fun key => !forgettable w.length past now idle key) := by
    simp only [names, Limiter.purge, Window.purge, Keyed.purge, List.filter_map]
    exact congrArg _ (List.filter_congr fun p member => remembers.wanted_eq idle member)
  refine ⟨left, congrArg Answer.purged ?_⟩
  rw [tracked_eq, tracked_eq, left, ← List.countP_eq_length_filter,
    List.length_eq_countP_add_countP (forgettable w.length past now idle)]
  simp

theorem le_add_of_since_le {t u : Moment} {d : Duration} (short : t.since u ≤ d) : t ≤ u.add d :=
  Nat.sub_le_iff_le_add'.mp short

theorem Remembers.purged (remembers : Remembers w past now) (t : Moment) (idle : Duration) :
    ∀ p ∈ (w.purge t idle).keys, t ≤ p.2.lastSeen.add (idle.max w.length) := by
  intro p kept
  obtain ⟨member, wanted⟩ := List.mem_filter.mp kept
  rcases Bool.or_eq_true _ _ ▸ wanted with lately | counting
  · have short : t.since p.2.lastSeen < idle := of_decide_eq_true lately
    exact le_add_of_since_le (Nat.le_trans (Nat.le_of_lt short) (Nat.le_max_left ..))
  · rw [settled_eq, Bool.not_eq_true', Option.all_eq_false] at counting
    obtain ⟨last, admitted, recent⟩ := counting
    have short : t.since last ≤ w.length := Nat.not_lt.mp (of_decide_eq_false recent)
    have order : last ≤ p.2.lastSeen := remembers.ordered p member last (List.mem_of_getLast? admitted)
    have within : t ≤ last.add (idle.max w.length) :=
      le_add_of_since_le (Nat.le_trans short (Nat.le_max_right ..))
    exact Nat.le_trans within (Nat.add_le_add_right order _)

end Window
end Gatehouse.Limiter
