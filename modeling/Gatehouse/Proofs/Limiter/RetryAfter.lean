import Gatehouse.Proofs.Limiter.Refill

/-!
How long a refused request is told to wait. It is admitted if it comes back any later than that, and nothing
else was asked for its key. Exactly at the time that it was told it is refused once more by a window, which is
closed at both ends, and by a bucket if the wait was rounded to too few nanoseconds.
-/
namespace Gatehouse.Limiter

/-- A limiter that was not used yet and admits requests. -/
inductive Fresh : Limiter → Prop
  | window {quota : Nat} {length : Duration} (some : 1 ≤ quota) : Fresh (.window { quota, length })
  | bucket {rate burst : Nat} (working : Bucket.Working { rate, burst }) : Fresh (.bucket { rate, burst })

/-- Calls that neither ask for a key nor reset it. -/
def Spares (key : String) (calls : List (Moment × Call)) : Prop :=
  ∀ c ∈ calls, c.2 ≠ .allow key ∧ c.2 ≠ .reset key

theorem foldl_noteFor {key : String} {calls : List (Moment × Call)} (spares : Spares key calls) (l : Limiter)
    (admitted : List Moment) : (l.trace calls).foldl (noteFor key) admitted = admitted := by
  induction calls generalizing l with
  | nil => rfl
  | cons c rest ih =>
    obtain ⟨here, later⟩ := List.forall_mem_cons.mp spares
    rw [Limiter.trace, List.foldl_cons, Window.noteFor_of_spared here.1 here.2]
    exact ih later _

namespace Window

theorem counted_le_within (length : Duration) (now : Moment) (admitted : List Moment) :
    (counted length now admitted).length ≤ (within length ⟨now.nanos - length.nanos⟩ admitted).length := by
  rw [within, counted, ← List.countP_eq_length_filter, ← List.countP_eq_length_filter]
  apply List.countP_mono_left
  intro t _ inside
  simp only [decide_eq_true_eq, Moment.le_def, Moment.add] at inside ⊢
  omega

section
variable {length : Duration} {now later oldest : Moment} {rest l : List Moment}
  (left : recent length now l = oldest :: rest)
include left

theorem recent_later (order : now ≤ later) :
    recent length later l = if oldest.add length < later then recent length later rest else oldest :: rest := by
  rw [← recent_recent length now later order, left, recent, List.dropWhile_cons]
  simp only [decide_eq_true_eq]
  rfl

theorem add_wait : now.add (wait length now (oldest :: rest)) = oldest.add length := by
  have counts : now ≤ oldest.add length := by
    refine Nat.le_of_not_lt fun (old : oldest.add length < now) => ?_
    have same := recent_later left (Nat.le_refl now.nanos)
    rw [left, if_pos old] at same
    have longer : (recent length now rest).length ≤ rest.length := List.length_dropWhile_le _ _
    rw [← same] at longer
    simp at longer
  simp only [Moment.le_def, Moment.add] at counts
  simp only [wait, Moment.add, Moment.since, Moment.mk.injEq]
  omega

end

theorem full_until_wait {length : Duration} {now later : Moment} {l : List Moment}
    (some : 0 < (recent length now l).length) (order : now ≤ later) :
    (now.add (wait length now (recent length now l)) < later →
      (recent length later l).length < (recent length now l).length) ∧
    (later = now.add (wait length now (recent length now l)) →
      recent length later l = recent length now l ∧ wait length later (recent length now l) = .zero) := by
  cases left : recent length now l with
  | nil => simp [left] at some
  | cons oldest rest =>
    have next := recent_later left order
    rw [add_wait left]
    constructor
    · intro past
      rw [next, if_pos past]
      exact Nat.lt_succ_of_le (List.length_dropWhile_le _ _)
    · rintro rfl
      have stays : ¬ oldest.add length < oldest.add length := Nat.lt_irrefl _
      rw [if_neg stays] at next
      exact ⟨next, by simp [wait, Moment.since, Duration.zero]⟩

section
variable {quota : Nat} {length : Duration} {earlier between : List (Moment × Call)} {t t' : Moment} {key : String}
  (spares : Spares key between)
  (ordered : (earlier ++ (t, Call.allow key) :: between ++ [(t', Call.allow key)]).Pairwise (·.1 ≤ ·.1))
include spares

/-- A refusal and the calls that spare the key leave its history as it was. -/
theorem admissions_of_refused {l : Limiter} {e : Exceeded} (refused : ((l.run earlier).allow t key).1 = .error e) :
    admissions key (l.trace (earlier ++ (t, .allow key) :: between)) = admissions key (l.trace earlier) := by
  have noted (admitted : List Moment) :
      noteFor key admitted ⟨t, .allow key, ((l.run earlier).step t (.allow key)).1⟩ = admitted := by
    simp [noteFor, Limiter.step, refused]
  rw [trace_append, Limiter.trace, admissions, List.foldl_append, List.foldl_cons, noted, foldl_noteFor spares]
  rfl

include ordered

/-- The answers to two requests of a key, the first of which is refused, come from the same history. -/
theorem answers_of_refused {e : Exceeded}
    (refused : (((Limiter.window { quota, length }).run earlier).allow t key).1 = .error e) :
    ∃ history : List Moment, (recent length t history).length = quota ∧
      e = ⟨key, wait length t (recent length t history)⟩ ∧
      (((Limiter.window { quota, length }).run (earlier ++ (t, .allow key) :: between)).allow t' key).1 =
        if (recent length t' history).length < quota then .ok ()
        else .error ⟨key, wait length t' (recent length t' history)⟩ := by
  have before := (List.pairwise_append.mp ordered).1
  have unnoted := admissions_of_refused spares refused
  obtain ⟨w, state, rfl, rfl, tracks⟩ := tracks_at quota length before
  obtain ⟨v, state', same, same', tracks'⟩ := tracks_at w.quota w.length ordered
  have counts := tracks.counts key t (Nat.le_refl _)
  have counts' := tracks'.counts key t' (Nat.le_refl _)
  rw [state, allow_window, allow_eq, counts] at refused
  rw [state', allow_window, allow_eq, counts', unnoted, same, same']
  split at refused
  next few => cases refused
  next many =>
    cases refused
    refine ⟨_, ?_, rfl, rfl⟩
    have most := within_bounded w.quota w.length earlier (List.pairwise_append.mp before).1 key
      ⟨t.nanos - w.length.nanos⟩
    have counted := counted_le_within w.length t
      (admissions key ((Limiter.window { quota := w.quota, length := w.length }).trace earlier))
    rw [← recent_eq_counted w.length t _ (tracks.sorted key) (tracks.past key)] at counted
    omega

/-- A window refuses for as long as it says, and still then, but no longer. -/
theorem retry_after {e : Exceeded} (some : 1 ≤ quota)
    (refused : (((Limiter.window { quota, length }).run earlier).allow t key).1 = .error e) :
    let answer := (((Limiter.window { quota, length }).run (earlier ++ (t, .allow key) :: between)).allow t' key).1
    e.key = key ∧ (t.add e.retryAfter < t' → answer = .ok ()) ∧
      (t' = t.add e.retryAfter → answer = .error ⟨key, .zero⟩) := by
  have order : t ≤ t' :=
    (List.pairwise_append.mp ordered).2.2 (t, .allow key) (by simp) (t', .allow key) (by simp)
  obtain ⟨history, full, rfl, answer⟩ := answers_of_refused spares ordered refused
  obtain ⟨after, until'⟩ := full_until_wait (full ▸ some) order
  rw [answer]
  refine ⟨rfl, fun past => if_pos (full ▸ after past), fun exact => ?_⟩
  obtain ⟨same, none⟩ := until' exact
  rw [same, none, full, if_neg (Nat.lt_irrefl quota)]

end

end Window

namespace Bucket
open Binary64

theorem allow_ok {b : Bucket} {now : Moment} {key : String} (nonneg : AtLeast 0 (b.levelOf now key))
    (whole : AtLeast 1 (b.levelOf now key)) : (b.allow now key).1 = .ok () := by
  rw [allow_eq, if_pos ((one_le_iff nonneg).mpr whole)]

theorem lacks_of_refused {b : Bucket} {now : Moment} {key : String} {e : Exceeded}
    (refused : (b.allow now key).1 = .error e) :
    Binary64.one.le (b.levelOf now key) = false ∧ e = ⟨key, b.wait (b.levelOf now key)⟩ := by
  rw [allow_eq] at refused
  generalize b.levelOf now key = tokens at refused ⊢
  cases whole : Binary64.one.le tokens with
  | true => simp [whole] at refused
  | false =>
    simp only [whole, Bool.false_eq_true, if_false] at refused
    cases refused
    exact ⟨rfl, rfl⟩

section
variable {b : Bucket} (sound : b.Sound) (working : b.Working) {t t' : Moment} {key : String} {e : Exceeded}
  {between : List (Moment × Call)} (refused : (b.allow t key).1 = .error e)
include sound working refused

/-- After a refusal a request is admitted once what came back makes up a token. -/
theorem allow_after_refusal (spares : Spares key between)
    (enough : 1 ≤ (b.levelOf t key).value + ((t'.since t).nanos : ℚ) / 10 ^ 9 * remnant ^ 2 * b.rate * remnant) :
    (((bucket (b.allow t key).2).run between).allow t' key).1 = .ok () := by
  obtain ⟨-, -, atLeast, -⟩ := lacking (sound.levelOf working t key) (lacks_of_refused refused).1
  have settings := b.allow_settings t key
  obtain ⟨next, state, rate, burst, sound', stays⟩ :=
    (sound.allow working t key).run (working.of_eq settings.1 settings.2) between
  have working' : next.Working := working.of_eq (rate.trans settings.1) (burst.trans settings.2)
  simp only [state, allow_bucket]
  refine allow_ok (sound'.levelOf working' t' key) ?_
  rcases stays key spares with kept | gone
  · rw [refused_takes_nothing refused] at kept
    rw [levelOf, kept]
    refine one_le_level working' atLeast ?_
    rwa [rate, settings.1]
  · exact one_le_unknown working' gone t'

/-- A bucket admits whoever waits any longer than it says, and mostly whoever waits as long. -/
theorem retry_after (spares : Spares key between) :
    let answer := (((bucket (b.allow t key).2).run between).allow t' key).1
    e.key = key ∧ (t.add e.retryAfter < t' → answer = .ok ()) ∧
      (t' = t.add e.retryAfter →
        1 - (b.levelOf t key).value + 1 / 10 ^ 14 ≤ b.rate * e.retryAfter.nanos / 10 ^ 9 → answer = .ok ()) := by
  obtain ⟨below, rfl⟩ := lacks_of_refused refused
  obtain ⟨nonneg, less, -, lacks⟩ := lacking (sound.levelOf working t key) below
  have covers := covers_wait working lacks nonneg less
  have rate : (1 : ℚ) ≤ b.rate := by exact_mod_cast working.refills
  refine ⟨rfl, fun past => ?_, fun exact enough => ?_⟩
  · refine allow_after_refusal sound working refused spares (one_le_of_longer nonneg rate ?_ covers)
    simp only [Moment.lt_def, Moment.add] at past
    simp only [Moment.since]
    omega
  · refine allow_after_refusal sound working refused spares (one_le_of_enough nonneg ?_)
    have waited : (t'.since t).nanos = (b.wait (b.levelOf t key)).nanos := by
      rw [exact]
      simp [Moment.since, Moment.add]
    rwa [waited]

end

end Bucket

/-- A request that is refused is told how long to wait, and any longer wait is long enough: if nothing but it
is asked for its key meanwhile, it is admitted. At the very end of the wait a window refuses it again and tells
it to wait no longer; a bucket admits it then if what came back is more than what was missing of a token by a
part in `10 ^ 14`, and it can only be less because the wait is told in whole nanoseconds. -/
theorem admitted_after_retry {l : Limiter} (fresh : l.Fresh) {earlier between : List (Moment × Call)}
    {t t' : Moment} {key : String} {e : Exceeded} (spares : Spares key between)
    (ordered : (earlier ++ (t, Call.allow key) :: between ++ [(t', Call.allow key)]).Pairwise (·.1 ≤ ·.1))
    (refused : ((l.run earlier).allow t key).1 = .error e) :
    let answer := ((l.run (earlier ++ (t, .allow key) :: between)).allow t' key).1
    e.key = key ∧ (t.add e.retryAfter < t' → answer = .ok ()) ∧
    (t' = t.add e.retryAfter →
      match l.run earlier with
      | .window _ => answer = .error ⟨key, .zero⟩
      | .bucket b =>
        1 - (b.levelOf t key).value + 1 / 10 ^ 14 ≤ (b.rate * e.retryAfter.nanos / 10 ^ 9 : ℚ) →
          answer = .ok ()) := by
  cases fresh with
  | @window quota length some =>
    obtain ⟨w, state, -⟩ := Window.tracks_at quota length (List.pairwise_append.mp ordered).1
    have window := Window.retry_after spares ordered some refused
    simp only [state]
    exact window
  | @bucket rate burst working =>
    obtain ⟨b, state, rate', burst', sound, -⟩ := (Bucket.sound_fresh rate burst).run working earlier
    simp only [run_append, Limiter.run, Limiter.step, state, allow_bucket] at refused ⊢
    exact Bucket.retry_after sound (working.of_eq rate' burst') refused spares

namespace Told

def once : List (Moment × Call) := [(.start, .allow "k")]

def meanwhile : List (Moment × Call) := [(⟨300000000⟩, .allow "other"), (⟨400000000⟩, .purge .zero)]

/-- With two tokens a second the next one is there after half a second. -/
theorem admitted_past_half_a_second :
    let l : Limiter := .bucket { rate := 2, burst := 1 }
    let late : Moment := ⟨500000001⟩
    l.Fresh ∧ Spares "k" meanwhile ∧
      (once ++ (Moment.start, Call.allow "k") :: meanwhile ++ [(late, Call.allow "k")]).Pairwise (·.1 ≤ ·.1) ∧
      ((l.run once).allow .start "k").1 = .error ⟨"k", ⟨500000000⟩⟩ ∧
      ((l.run (once ++ (.start, .allow "k") :: meanwhile)).allow late "k").1 = .ok () := by
  intro l late
  have fresh : l.Fresh := .bucket ⟨by decide, by decide, by decide, by decide⟩
  have spares : Spares "k" meanwhile := by simp [Spares, meanwhile]
  have ordered :
      (once ++ (Moment.start, Call.allow "k") :: meanwhile ++ [(late, Call.allow "k")]).Pairwise (·.1 ≤ ·.1) := by
    decide
  have refused : ((l.run once).allow .start "k").1 = .error ⟨"k", ⟨500000000⟩⟩ := by decide +kernel
  exact ⟨fresh, spares, ordered, refused, (admitted_after_retry fresh spares ordered refused).2.1 (by decide)⟩

/-- At the very end of the wait a window refuses, and so does a bucket that takes a third of a second. -/
theorem refused_at_the_end :
    let window : Limiter := .window { quota := 1, length := .ofMillis 1000 }
    let bucket : Limiter := .bucket { rate := 3, burst := 1 }
    let twice : List (Moment × Call) := once ++ [(.start, .allow "k")]
    ((window.run once).allow .start "k").1 = .error ⟨"k", .ofMillis 1000⟩ ∧
    ((window.run twice).allow (Moment.start.add (.ofMillis 1000)) "k").1 = .error ⟨"k", .zero⟩ ∧
    ((bucket.run once).allow .start "k").1 = .error ⟨"k", ⟨333333333⟩⟩ ∧
    ((bucket.run twice).allow (Moment.start.add ⟨333333333⟩) "k").1 = .error ⟨"k", .zero⟩ := by
  decide +kernel

end Told
end Gatehouse.Limiter
