import Gatehouse.Proofs.Limiter.Keyed
import Gatehouse.Proofs.Limiter.Run
import Mathlib.Data.List.Induction
import Mathlib.Data.List.TakeWhile

/-!
The sliding window against the whole history of a run. The limiter forgets admissions that left the
window, and whole keys, but its answers are those of one that forgets nothing: a request is admitted
if fewer than `quota` admissions since the last reset of its key lie in the closed window that ends now.
-/
namespace Gatehouse.Limiter

def noteFor (key : String) (admitted : List Moment) (e : Event) : List Moment :=
  match e.call, e.answer with
  | .allow k, .allowed (.ok _) => if k = key then admitted ++ [e.moment] else admitted
  | .reset k, _ => if k = key then [] else admitted
  | _, _ => admitted

/-- The instants at which a key was admitted since it was last reset, the oldest first. -/
def admissions (key : String) (past : List Event) : List Moment := past.foldl (noteFor key) []

/-- The admissions in the closed interval of a length that ends at `now`. -/
def counted (length : Duration) (now : Moment) (admitted : List Moment) : List Moment :=
  admitted.filter fun t => now ≤ t.add length ∧ t ≤ now

def Call.concerns (key : String) : Call → Bool
  | .allow k => k = key
  | .remaining k => k = key
  | .reset k => k = key
  | .purge _ => false

namespace Window

def known (w : Window) (key : String) : List Moment := (w.keys.get? key).getD []

/-- The limiter may forget old admissions only: no count from now on can tell its knowledge from the
history. -/
structure Tracks (w : Window) (history : String → List Moment) (last : Moment) : Prop where
  distinct : w.keys.Distinct
  known_end : ∀ key, w.known key <:+ history key
  counts : ∀ key now, last ≤ now →
    recent w.length now (w.known key) = recent w.length now (history key)
  sorted : ∀ key, (history key).Pairwise (· ≤ ·)
  past : ∀ key, ∀ t ∈ history key, t ≤ last

theorem recent_append (length : Duration) (now : Moment) (a b : List Moment) :
    recent length now (a ++ b) =
      if (recent length now a).isEmpty then recent length now b else recent length now a ++ b :=
  List.dropWhile_append

theorem recent_recent (length : Duration) (earlier now : Moment) (order : earlier ≤ now)
    (l : List Moment) : recent length now (recent length earlier l) = recent length now l := by
  induction l with
  | nil => rfl
  | cons t rest ih =>
    by_cases old : t.add length < earlier
    · have older : t.add length < now := by
        rw [Moment.lt_def] at old ⊢
        rw [Moment.le_def] at order
        omega
      have skip : recent length earlier (t :: rest) = recent length earlier rest := by
        simp [recent, old]
      rw [skip, ih]
      simp [recent, older]
    · simp [recent, old]

/-- In order of time, what is dropped from the front is all that left the window. -/
theorem recent_eq_counted (length : Duration) (now : Moment) (l : List Moment)
    (sorted : l.Pairwise (· ≤ ·)) (past : ∀ t ∈ l, t ≤ now) :
    recent length now l = counted length now l := by
  induction l with
  | nil => rfl
  | cons t rest ih =>
    obtain ⟨first, others⟩ := List.pairwise_cons.mp sorted
    have later := ih others fun u member => past u (List.mem_cons_of_mem _ member)
    by_cases old : t.add length < now
    · have out : ¬ (now ≤ t.add length ∧ t ≤ now) := by
        simp only [Moment.lt_def, Moment.le_def] at old ⊢
        omega
      simpa [recent, counted, old, out] using later
    · have within : ∀ u ∈ t :: rest, now ≤ u.add length ∧ u ≤ now := by
        intro u member
        refine ⟨?_, past u member⟩
        rcases List.mem_cons.mp member with rfl | member
        · simp only [Moment.lt_def, Moment.le_def] at old ⊢
          omega
        · have := first u member
          simp only [Moment.lt_def, Moment.le_def, Moment.add] at old this ⊢
          omega
      have all : counted length now (t :: rest) = t :: rest :=
        List.filter_eq_self.mpr fun u member => by simpa using within u member
      rw [all]
      simp [recent, old]

theorem settled_recent {length : Duration} {now : Moment} {l : List Moment}
    (sorted : l.Pairwise (· ≤ ·)) (old : settled length now l) : recent length now l = [] := by
  unfold recent
  rw [List.dropWhile_eq_nil_iff]
  intro t member
  cases l using List.reverseRecOn with
  | nil => cases member
  | append_singleton front last =>
    simp only [settled, List.getLast?_append, List.getLast?_singleton, Option.some_or,
      decide_eq_true_eq, Duration.lt_def, Moment.since] at old
    have order : t ≤ last := by
      rcases List.mem_append.mp member with member | member
      · exact (List.pairwise_append.mp sorted).2.2 t member last (by simp)
      · rw [List.mem_singleton.mp member, Moment.le_def]
    simp only [decide_eq_true_eq, Moment.lt_def, Moment.le_def, Moment.add] at order ⊢
    omega

theorem tracks_fresh (quota : Nat) (length : Duration) (last : Moment) :
    Tracks { quota, length } (fun _ => []) last :=
  ⟨Keyed.distinct_empty, fun _ => List.suffix_rfl, fun _ _ _ => rfl, fun _ => List.Pairwise.nil,
    fun _ _ member => absurd member List.not_mem_nil⟩

theorem Tracks.later {w : Window} {history : String → List Moment} {last now : Moment}
    (tracks : Tracks w history last) (order : last ≤ now) : Tracks w history now where
  distinct := tracks.distinct
  known_end := tracks.known_end
  counts key at' after := tracks.counts key at' (Nat.le_trans order after)
  sorted := tracks.sorted
  past key t member := Nat.le_trans (tracks.past key t member) order

theorem Tracks.recent_known {w : Window} {history : String → List Moment} {now : Moment}
    (tracks : Tracks w history now) (key : String) :
    recent w.length now (w.known key) = counted w.length now (history key) := by
  rw [tracks.counts key now (Nat.le_refl _)]
  exact recent_eq_counted _ _ _ (tracks.sorted key) (tracks.past key)

def after (history : String → List Moment) (e : Event) : String → List Moment :=
  fun key => noteFor key (history key) e

def answerFrom (quota : Nat) (length : Duration) (history : String → List Moment) (now : Moment)
    (key : String) : Except Exceeded Unit :=
  let within := counted length now (history key)
  if within.length < quota then .ok () else .error ⟨key, wait length now within⟩

theorem allow_eq (w : Window) (now : Moment) (key : String) :
    (w.allow now key).1 =
      if (recent w.length now (w.known key)).length < w.quota then .ok ()
      else .error ⟨key, wait w.length now (recent w.length now (w.known key))⟩ := by
  by_cases few : (recent w.length now ((w.keys.get? key).getD [])).length < w.quota
  · have room : ¬ w.quota ≤ (recent w.length now ((w.keys.get? key).getD [])).length := by omega
    simp only [allow, known, few, room, if_true, if_false]
  · have full : w.quota ≤ (recent w.length now ((w.keys.get? key).getD [])).length := by omega
    simp only [allow, known, few, full, if_true, if_false]

theorem remaining_eq (w : Window) (now : Moment) (key : String) :
    w.remaining now key = w.quota - (recent w.length now (w.known key)).length := by
  rw [known, remaining]
  cases w.keys.get? key <;> simp [recent]

theorem allow_result {w : Window} {history : String → List Moment} {now : Moment}
    (tracks : Tracks w history now) (key : String) :
    (w.allow now key).1 = answerFrom w.quota w.length history now key := by
  rw [allow_eq, tracks.recent_known key]
  rfl

theorem remaining_result {w : Window} {history : String → List Moment} {now : Moment}
    (tracks : Tracks w history now) (key : String) :
    w.remaining now key = w.quota - (counted w.length now (history key)).length := by
  rw [remaining_eq, tracks.recent_known key]

theorem allow_known (w : Window) (now : Moment) (key other : String) :
    (w.allow now key).2.known other =
      if other = key then recent w.length now (w.known key) ++
        (if (w.allow now key).1 = .ok () then [now] else [])
      else w.known other := by
  simp only [allow]
  split <;> by_cases equal : other = key <;> simp [known, equal]

theorem allow_keys (w : Window) (now : Moment) (key : String) :
    ∃ e, (w.allow now key).2.keys = w.keys.put key e := by
  simp only [allow]
  split <;> exact ⟨_, rfl⟩

@[simp] theorem allow_quota (w : Window) (now : Moment) (key : String) :
    (w.allow now key).2.quota = w.quota := by
  simp only [allow]; split <;> rfl

@[simp] theorem allow_length (w : Window) (now : Moment) (key : String) :
    (w.allow now key).2.length = w.length := by
  simp only [allow]; split <;> rfl

theorem Tracks.allow {w : Window} {history : String → List Moment} {now : Moment}
    (tracks : Tracks w history now) (key : String) :
    Tracks (w.allow now key).2
      (after history ⟨now, .allow key, .allowed (w.allow now key).1⟩) now := by
  have noted (other : String) :
      after history ⟨now, .allow key, .allowed (w.allow now key).1⟩ other =
        history other ++
          (if other = key ∧ (w.allow now key).1 = .ok () then [now] else []) := by
    by_cases equal : other = key
    · cases result : (w.allow now key).1 <;> simp [after, noteFor, equal]
    · cases result : (w.allow now key).1 <;> simp [after, noteFor, equal, Ne.symm equal]
  constructor
  · simp only [Window.allow]
    split <;> exact tracks.distinct.put _ _
  · intro other
    rw [noted, allow_known]
    by_cases equal : other = key
    · subst other
      have kept : recent w.length now (w.known key) <:+ history key :=
        (List.dropWhile_suffix _).trans (tracks.known_end key)
      obtain ⟨front, parts⟩ := kept
      refine ⟨front, ?_⟩
      simp [← parts]
    · simpa [equal] using tracks.known_end other
  · intro other later order
    rw [noted, allow_known, allow_length]
    by_cases equal : other = key
    · subst other
      simp only [if_true, true_and]
      rw [recent_append, recent_append, recent_recent _ _ _ order, tracks.counts key later order]
    · simpa [equal] using tracks.counts other later order
  · intro other
    rw [noted, List.pairwise_append]
    refine ⟨tracks.sorted other, by split <;> simp, ?_⟩
    intro t member u new
    split at new
    · rw [List.mem_singleton.mp new]
      exact tracks.past other t member
    · cases new
  · intro other t member
    rw [noted] at member
    rcases List.mem_append.mp member with old | new
    · exact tracks.past other t old
    · split at new
      · rw [List.mem_singleton.mp new]
        exact Nat.le_refl _
      · cases new

theorem Tracks.reset {w : Window} {history : String → List Moment} {now : Moment}
    (tracks : Tracks w history now) (key : String) :
    Tracks (w.reset key) (after history ⟨now, .reset key, .done⟩) now := by
  have noted (other : String) : after history ⟨now, .reset key, .done⟩ other =
      if other = key then [] else history other := by
    simp [after, noteFor, eq_comm]
  have forgot (other : String) : (w.reset key).known other =
      if other = key then [] else w.known other := by
    by_cases equal : other = key <;> simp [known, Window.reset, equal]
  constructor
  · exact tracks.distinct.erase key
  · intro other
    rw [noted, forgot]
    split
    · exact List.suffix_rfl
    · exact tracks.known_end other
  · intro other later order
    rw [noted, forgot]
    split
    · rfl
    · exact tracks.counts other later order
  · intro other
    rw [noted]
    split
    · exact List.Pairwise.nil
    · exact tracks.sorted other
  · intro other t member
    rw [noted] at member
    split at member
    · cases member
    · exact tracks.past other t member

theorem Tracks.purge {w : Window} {history : String → List Moment} {now : Moment}
    (tracks : Tracks w history now) (idle : Duration) : Tracks (w.purge now idle) history now := by
  have forgot (key : String) : (w.purge now idle).known key = w.known key ∨
      ((w.purge now idle).known key = [] ∧ recent w.length now (w.known key) = []) := by
    rcases w.keys.get?_purge tracks.distinct now idle (settled w.length now) key with
      same | ⟨gone, state, found, old⟩
    · exact .inl (by simp [known, Window.purge, same])
    · have sorted : state.Pairwise (· ≤ ·) := by
        have kept : state <:+ history key := by simpa [known, found] using tracks.known_end key
        exact (tracks.sorted key).sublist kept.sublist
      exact .inr ⟨by simp [known, Window.purge, gone],
        by simpa [known, found] using settled_recent sorted old⟩
  constructor
  · exact tracks.distinct.purge _ _ _
  · intro key
    rcases forgot key with same | ⟨gone, -⟩
    · rw [same]
      exact tracks.known_end key
    · rw [gone]
      exact List.nil_suffix
  · intro key later order
    rcases forgot key with same | ⟨gone, old⟩
    · rw [same]
      exact tracks.counts key later order
    · rw [gone]
      change recent w.length later [] = recent w.length later (history key)
      rw [← tracks.counts key later order, ← recent_recent _ _ _ order (w.known key), old]
  · exact tracks.sorted
  · exact tracks.past

/-- One call keeps the limiter a sliding window with the same settings that tracks the history. -/
theorem Tracks.step {w : Window} {history : String → List Moment} {now : Moment}
    (tracks : Tracks w history now) (call : Call) :
    ∃ next : Window, ((Limiter.window w).step now call).2 = .window next ∧
      next.quota = w.quota ∧ next.length = w.length ∧
      Tracks next (after history ⟨now, call, ((Limiter.window w).step now call).1⟩) now := by
  cases call with
  | allow key =>
    exact ⟨_, rfl, allow_quota w now key, allow_length w now key, tracks.allow key⟩
  | remaining key => exact ⟨w, rfl, rfl, rfl, tracks⟩
  | reset key => exact ⟨_, rfl, rfl, rfl, tracks.reset key⟩
  | purge idle => exact ⟨_, rfl, rfl, rfl, tracks.purge idle⟩

theorem Tracks.run {w : Window} {history : String → List Moment} {last final : Moment}
    (tracks : Tracks w history last) (calls : List (Moment × Call))
    (ordered : calls.Pairwise (·.1 ≤ ·.1)) (later : ∀ c ∈ calls, last ≤ c.1 ∧ c.1 ≤ final)
    (order : last ≤ final) :
    ∃ next : Window, (Limiter.window w).run calls = .window next ∧
      next.quota = w.quota ∧ next.length = w.length ∧
      Tracks next (fun key => ((Limiter.window w).trace calls).foldl (noteFor key) (history key))
        final := by
  induction calls generalizing w history last with
  | nil => exact ⟨w, rfl, rfl, rfl, tracks.later order⟩
  | cons c rest ih =>
    obtain ⟨now, call⟩ := c
    obtain ⟨first, others⟩ := List.pairwise_cons.mp ordered
    obtain ⟨since, till⟩ := later _ List.mem_cons_self
    obtain ⟨next, same, quota, length, kept⟩ := (tracks.later since).step call
    obtain ⟨end', result, quota', length', kept'⟩ := ih kept others
      (fun c member => ⟨first c member, (later c (List.mem_cons_of_mem _ member)).2⟩) till
    refine ⟨end', ?_, quota'.trans quota, length'.trans length, ?_⟩
    · simpa only [Limiter.run, same] using result
    · simpa only [Limiter.trace, same, List.foldl_cons, after] using kept'

theorem tracks_at (quota : Nat) (length : Duration) {earlier later : List (Moment × Call)}
    {now : Moment} {call : Call}
    (ordered : (earlier ++ (now, call) :: later).Pairwise (·.1 ≤ ·.1)) :
    ∃ w : Window, (Limiter.window { quota, length }).run earlier = .window w ∧
      w.quota = quota ∧ w.length = length ∧
      Tracks w (fun key => admissions key ((Limiter.window { quota, length }).trace earlier)) now := by
  obtain ⟨before, -, across⟩ := List.pairwise_append.mp ordered
  exact (tracks_fresh quota length .start).run earlier before
    (fun c member => ⟨Nat.zero_le _, across c member (now, call) List.mem_cons_self⟩) (Nat.zero_le _)

/-- The answer to a call on a key, from the history of the key alone. -/
theorem step_answer {w : Window} {history : String → List Moment} {now : Moment}
    (tracks : Tracks w history now) {call : Call} (key : String) (concerned : call.concerns key) :
    ((Limiter.window w).step now call).1 =
      match call with
      | .allow _ => .allowed (answerFrom w.quota w.length history now key)
      | .remaining _ => .remaining (w.quota - (counted w.length now (history key)).length)
      | _ => .done := by
  cases call with
  | allow k =>
    obtain rfl : k = key := by simpa [Call.concerns] using concerned
    exact congrArg _ (allow_result tracks k)
  | remaining k =>
    obtain rfl : k = key := by simpa [Call.concerns] using concerned
    exact congrArg _ (remaining_result tracks k)
  | reset k => rfl
  | purge idle => simp [Call.concerns] at concerned

theorem noteFor_of_spared {key : String} {e : Event} (unasked : e.call ≠ .allow key)
    (unreset : e.call ≠ .reset key) (admitted : List Moment) : noteFor key admitted e = admitted := by
  obtain ⟨moment, call, answer⟩ := e
  cases call with
  | allow k =>
    have different : k ≠ key := fun same => unasked (same ▸ rfl)
    rcases answer with (_ | _) | _ | _ | _ <;> simp [noteFor, different]
  | remaining k => rfl
  | reset k =>
    have different : k ≠ key := fun same => unreset (same ▸ rfl)
    simp [noteFor, different]
  | purge idle => rfl

theorem noteFor_of_not_concerned {key : String} {e : Event} (apart : ¬ e.call.concerns key)
    (admitted : List Moment) : noteFor key admitted e = admitted :=
  noteFor_of_spared (fun asked => apart (by simp [asked, Call.concerns]))
    (fun reset => apart (by simp [reset, Call.concerns])) admitted

/-- Two limiters with the same history of a key answer the same to calls on the key, whatever else
happens to one of them. -/
theorem trace_concerning {w v : Window} {history others : String → List Moment} {last : Moment}
    (key : String) (tracks : Tracks w history last) (mirror : Tracks v others last)
    (quota : v.quota = w.quota) (length : v.length = w.length) (same : others key = history key)
    (calls : List (Moment × Call)) (ordered : calls.Pairwise (·.1 ≤ ·.1))
    (later : ∀ c ∈ calls, last ≤ c.1) :
    ((Limiter.window w).trace calls).filter (·.call.concerns key) =
      (Limiter.window v).trace (calls.filter (·.2.concerns key)) := by
  induction calls generalizing w v history others last with
  | nil => rfl
  | cons c rest ih =>
    obtain ⟨now, call⟩ := c
    obtain ⟨first, behind⟩ := List.pairwise_cons.mp ordered
    have since := later _ List.mem_cons_self
    obtain ⟨next, result, quota', length', kept⟩ := (tracks.later since).step call
    by_cases concerned : call.concerns key
    · obtain ⟨next', result', quota'', length'', kept'⟩ := (mirror.later since).step call
      have answers : ((Limiter.window w).step now call).1 = ((Limiter.window v).step now call).1 := by
        rw [step_answer (tracks.later since) key concerned, step_answer (mirror.later since) key concerned]
        simp only [answerFrom, quota, length, same]
      have agreed : after others ⟨now, call, ((Limiter.window v).step now call).1⟩ key =
          after history ⟨now, call, ((Limiter.window w).step now call).1⟩ key := by
        simp only [after, same, answers]
      have tail := ih kept kept' (by omega) (by rw [length'', length', length]) agreed behind first
      simp only [Limiter.trace, List.filter_cons, concerned, if_true, result, result', tail, answers]
    · have unchanged : after history ⟨now, call, ((Limiter.window w).step now call).1⟩ key =
          history key := noteFor_of_not_concerned concerned _
      have tail := ih kept (mirror.later since) (by omega) (by rw [length', length])
        (same.trans unchanged.symm) behind first
      simp only [Limiter.trace, List.filter_cons, concerned, Bool.false_eq_true, if_false, result, tail]

theorem admissions_append_singleton (key : String) (past : List Event) (e : Event) :
    admissions key (past ++ [e]) = noteFor key (admissions key past) e := by
  simp [admissions]

theorem admissions_append (key : String) (past segment : List Event)
    (unreset : ∀ e ∈ segment, e.call ≠ .reset key) :
    admissions key (past ++ segment) = admissions key past ++ admissions key segment := by
  induction segment using List.reverseRecOn with
  | nil => simp [admissions]
  | append_singleton segment e ih =>
    have before := ih fun e member => unreset e (List.mem_append_left _ member)
    have here := unreset e (by simp)
    rw [← List.append_assoc, admissions_append_singleton, before, admissions_append_singleton]
    obtain ⟨moment, call, answer⟩ := e
    cases call with
    | allow k =>
      by_cases same : k = key <;>
        rcases answer with (_ | _) | _ | _ | _ <;> simp [noteFor, same]
    | remaining k => rfl
    | reset k =>
      have different : k ≠ key := fun same => here (same ▸ rfl)
      simp [noteFor, different]
    | purge idle => rfl

/-- The admissions in a closed interval of a length that begins at `start`. -/
def within (length : Duration) (start : Moment) (admitted : List Moment) : List Moment :=
  admitted.filter fun t => start ≤ t ∧ t ≤ start.add length

@[simp] theorem within_append_singleton (length : Duration) (start t : Moment) (l : List Moment) :
    within length start (l ++ [t]) =
      within length start l ++ if start ≤ t ∧ t ≤ start.add length then [t] else [] := by
  by_cases inside : start ≤ t ∧ t ≤ start.add length <;> simp [within, inside]

/-- What lies in an interval that holds the present is counted at present. -/
theorem within_le_counted {length : Duration} {start now : Moment} {l : List Moment}
    (past : ∀ t ∈ l, t ≤ now) (inside : now ≤ start.add length) :
    (within length start l).length ≤ (counted length now l).length := by
  rw [within, counted, ← List.countP_eq_length_filter, ← List.countP_eq_length_filter]
  apply List.countP_mono_left
  intro t member
  have order := past t member
  simp only [decide_eq_true_eq, Moment.le_def, Moment.add] at inside order ⊢
  omega

/-- An admission comes on top of fewer than `quota` in every interval that holds it. -/
theorem within_bounded (quota : Nat) (length : Duration) (calls : List (Moment × Call))
    (ordered : calls.Pairwise (·.1 ≤ ·.1)) (key : String) (start : Moment) :
    (within length start
      (admissions key ((Limiter.window { quota, length }).trace calls))).length ≤ quota := by
  induction calls using List.reverseRecOn with
  | nil => simp [Limiter.trace, admissions, within]
  | append_singleton earlier c ih =>
    obtain ⟨now, call⟩ := c
    have before := ih (List.pairwise_append.mp ordered).1
    obtain ⟨w, state, quota', length', tracks⟩ := tracks_at quota length ordered
    have extended : (Limiter.window { quota, length }).trace (earlier ++ [(now, call)]) =
        (Limiter.window { quota, length }).trace earlier ++
          [⟨now, call, ((Limiter.window w).step now call).1⟩] := by
      rw [Limiter.trace_append, state]
      rfl
    rw [extended, admissions_append_singleton]
    by_cases concerned : call.concerns key
    · rw [step_answer tracks key concerned, quota', length']
      cases call with
      | allow k =>
        obtain rfl : k = key := by simpa [Call.concerns] using concerned
        simp only [answerFrom]
        split
        next few =>
          simp only [noteFor, if_true, within_append_singleton, List.length_append]
          by_cases inside : start ≤ now ∧ now ≤ start.add length
          · have fewer := within_le_counted (tracks.past k) inside.2
            rw [if_pos inside, List.length_singleton]
            omega
          · rw [if_neg inside]
            exact before
        next many => exact before
      | remaining k => exact before
      | reset k =>
        obtain rfl : k = key := by simpa [Call.concerns] using concerned
        simp [noteFor, within]
      | purge idle => simp [Call.concerns] at concerned
    · rw [noteFor_of_not_concerned concerned]
      exact before

/-- The sliding window answers from the full history of a key since its last reset: a request is
admitted if fewer than `quota` admissions lie in the closed window that ends now, and otherwise has to
wait until the oldest of them leaves it; what remains is `quota` less their number. So what is
forgotten, and calls on other keys, never show in an answer, and no closed interval as long as the
window has more than `quota` admissions of a key that is not reset meanwhile. -/
theorem window_answers_from_history (quota : Nat) (length : Duration)
    (calls : List (Moment × Call)) (ordered : calls.Pairwise (·.1 ≤ ·.1)) (key : String) :
    let events := (Limiter.window { quota, length }).trace calls
    (∀ past now answer rest, events = past ++ ⟨now, .allow key, answer⟩ :: rest →
      let recent := counted length now (admissions key past)
      answer = .allowed
        (if recent.length < quota then .ok () else .error ⟨key, wait length now recent⟩)) ∧
    (∀ past now answer rest, events = past ++ ⟨now, .remaining key, answer⟩ :: rest →
      answer = .remaining (quota - (counted length now (admissions key past)).length)) ∧
    events.filter (·.call.concerns key) =
      (Limiter.window { quota, length }).trace (calls.filter (·.2.concerns key)) ∧
    (∀ past segment rest, events = past ++ segment ++ rest →
      (∀ e ∈ segment, e.call ≠ .reset key) →
      ∀ start, (within length start (admissions key segment)).length ≤ quota) := by
  refine ⟨?_, ?_, ?_, ?_⟩
  · intro past now answer rest split
    obtain ⟨earlier, later, parts, rfl, result⟩ := trace_at split
    obtain ⟨w, state, rfl, rfl, tracks⟩ := tracks_at quota length (parts ▸ ordered)
    rw [result, state, step_answer tracks key (by simp [Call.concerns])]
    rfl
  · intro past now answer rest split
    obtain ⟨earlier, later, parts, rfl, result⟩ := trace_at split
    obtain ⟨w, state, rfl, rfl, tracks⟩ := tracks_at quota length (parts ▸ ordered)
    rw [result, state, step_answer tracks key (by simp [Call.concerns])]
  · exact trace_concerning key (tracks_fresh quota length .start) (tracks_fresh quota length .start)
      rfl rfl rfl calls ordered fun _ _ => Nat.zero_le _
  · intro past segment rest split unreset start
    obtain ⟨earlier, later, parts, front, -⟩ := trace_prefix split
    have sorted := (List.pairwise_append.mp (parts ▸ ordered)).1
    have bound := within_bounded quota length earlier sorted key start
    rw [← front, admissions_append key past segment unreset, within, List.filter_append,
      List.length_append] at bound
    exact Nat.le_trans (Nat.le_add_left _ _) bound

/-- An admission still counts when it is exactly as old as the window is long. -/
theorem window_edge_still_counts :
    let calls := [((⟨0⟩ : Moment), Call.allow "k"), (⟨4⟩, .purge .zero), (⟨10⟩, .allow "k")]
    calls.Pairwise (·.1 ≤ ·.1) ∧
      ∃ past, (Limiter.window { quota := 1, length := ⟨10⟩ }).trace calls =
        past ++ [⟨⟨10⟩, .allow "k", .allowed (.error ⟨"k", ⟨0⟩⟩)⟩] := by
  have ordered : [((⟨0⟩ : Moment), Call.allow "k"), (⟨4⟩, .purge .zero), (⟨10⟩, .allow "k")].Pairwise
      (·.1 ≤ ·.1) := by decide
  refine ⟨ordered, [⟨⟨0⟩, .allow "k", .allowed (.ok ())⟩, ⟨⟨4⟩, .purge .zero, .purged 0⟩], ?_⟩
  have last := (window_answers_from_history 1 ⟨10⟩ _ ordered "k").1
    [⟨⟨0⟩, .allow "k", .allowed (.ok ())⟩, ⟨⟨4⟩, .purge .zero, .purged 0⟩] ⟨10⟩ _ [] rfl
  exact last ▸ rfl

end Window
end Gatehouse.Limiter
