import Gatehouse.Proofs.Limiter.Numbers
import Mathlib.Tactic.Linarith
import Mathlib.Tactic.Positivity
import Mathlib.Tactic.Ring

/-!
What a bucket guarantees if its numbers are as good as rationals. What counts is the level that a key has at each time
from now on. Forgetting a key whose bucket is full does not change it, and a request that is admitted lowers it by one;
so no more are admitted than the bucket held at first and than came back since.
-/
namespace Gatehouse.Limiter

/-- Numbers that stand for rationals. Refilling may give too much by an error at most, and only short times are told. -/
structure Reckons {α : Type} (n : Numbers α) (value : α → ℚ) (fit : α → Prop) (short : Duration → Prop)
    (rate burst : Nat) (error : ℚ) : Prop where
  shorter {d d' : Duration} (longer : short d) (le : d' ≤ d) : short d'
  full : fit (n.ofNat burst)
  count_full : n.floorWithin Config.maxQuota (n.ofNat burst) = burst
  nonneg {x : α} (fits : fit x) : 0 ≤ value x
  most {x : α} (fits : fit x) : value x ≤ burst
  refill {x : α} {d : Duration} (fits : fit x) (told : short d) : fit (n.refill rate burst x d)
  gain {x : α} {d : Duration} (fits : fit x) (told : short d) :
    value (n.refill rate burst x d) ≤ value x + rate * d.nanos / 10 ^ 9 + error
  take {x : α} (fits : fit x) (whole : n.le n.one x = true) :
    fit (n.sub x n.one) ∧ value (n.sub x n.one) = value x - 1
  /-- A bucket that is full stays so. -/
  settled {x : α} {d d' : Duration} (fits : fit x) (told : short d') (later : d ≤ d')
    (full : n.le (n.ofNat burst) (n.refill rate burst x d) = true) : n.refill rate burst x d' = n.ofNat burst
  anew : n.refill rate burst (n.ofNat burst) .zero = n.ofNat burst
  error_nonneg : 0 ≤ error

def Call.purges : Call → Bool
  | .purge _ => true
  | _ => false

def eventsIn (start stop : Moment) (events : List Event) : List Event :=
  events.filter fun e => start ≤ e.moment ∧ e.moment ≤ stop

/-- What a bucket guarantees over a run of calls. -/
structure Keeps {α : Type} (n : Numbers α) (value : α → ℚ) (short : Duration → Prop) (error : ℚ) (b : BucketOf α)
    (calls : List (Moment × Call)) : Prop where
  /-- No more is admitted in an interval than the bucket holds and comes back, if the key is not reset in it. -/
  bounded (key : String) (start stop : Moment)
    (unreset : ∀ c ∈ calls, start ≤ c.1 → c.1 ≤ stop → c.2 ≠ .reset key) :
    ((eventsIn start stop (b.trace n calls)).countP (·.admits key) : ℚ) ≤
      b.burst + b.rate * (stop.since start).nanos / 10 ^ 9 +
        error * (eventsIn start stop (b.trace n calls)).countP (·.requests key)
  /-- The level is never below nothing or above the capacity. -/
  level (key : String) (now : Moment) (told : short ⟨now.nanos⟩) :
    0 ≤ value ((b.run n calls).levelOf n now key) ∧ value ((b.run n calls).levelOf n now key) ≤ b.burst
  /-- Without its purges the run has the same answers. -/
  unseen : (b.trace n calls).filter (!·.call.purges) = b.trace n (calls.filter (!·.2.purges))

theorem since_self (t : Moment) : t.since t = .zero := by simp [Moment.since, Duration.zero]

theorem since_add {a b c : Moment} (first : a ≤ b) (second : b ≤ c) :
    ((c.since a).nanos : ℚ) = (b.since a).nanos + (c.since b).nanos := by
  have sum : (c.since a).nanos = (b.since a).nanos + (c.since b).nanos := by
    simp only [Moment.le_def, Moment.since] at *
    omega
  rw [sum, Nat.cast_add]

namespace BucketOf
variable {α : Type} {n : Numbers α}

structure Sound (fit : α → Prop) (b : BucketOf α) : Prop where
  distinct : b.keys.Distinct
  fit : ∀ key l, b.keys.get? key = some l → fit l.tokens

theorem sound_fresh (fit : α → Prop) (rate burst : Nat) : Sound fit { rate, burst } :=
  ⟨Keyed.distinct_empty, fun _ _ known => nomatch known⟩

def forget (n : Numbers α) (b : BucketOf α) (now : Moment) (idle : Duration) : BucketOf α :=
  { b with keys := b.keys.purge now idle (b.settled n now) }

@[simp] theorem rate_step (b : BucketOf α) (now : Moment) (call : Call) : (b.step n now call).2.rate = b.rate := by
  cases call with
  | allow key =>
    simp only [step, allow]
    split <;> rfl
  | _ => rfl

@[simp] theorem burst_step (b : BucketOf α) (now : Moment) (call : Call) : (b.step n now call).2.burst = b.burst := by
  cases call with
  | allow key =>
    simp only [step, allow]
    split <;> rfl
  | _ => rfl

theorem allow_eq (n : Numbers α) (b : BucketOf α) (now : Moment) (key : String) :
    b.allow n now key =
      if n.le n.one (b.levelOf n now key) then
        (.ok (), { b with keys := b.keys.put key ⟨⟨n.sub (b.levelOf n now key) n.one, now⟩, now⟩ })
      else
        (.error ⟨key, b.wait n (b.levelOf n now key)⟩,
          { b with keys := b.keys.put key ⟨⟨b.levelOf n now key, now⟩, now⟩ }) := rfl

theorem levelOf_put (b : BucketOf α) (key : String) (x : α) (t now : Moment) (other : String) :
    levelOf n { b with keys := b.keys.put key ⟨⟨x, t⟩, t⟩ } now other =
      if other = key then n.refill b.rate b.burst x (now.since t) else b.levelOf n now other := by
  by_cases same : other = key <;> simp [levelOf, same]

theorem levelOf_erase (b : BucketOf α) (key : String) (now : Moment) (other : String) :
    levelOf n { b with keys := b.keys.erase key } now other =
      if other = key then n.refill b.rate b.burst (n.ofNat b.burst) (now.since now) else b.levelOf n now other := by
  by_cases same : other = key <;> simp [levelOf, same]

theorem levelOf_congr {b b' : BucketOf α} (rate : b.rate = b'.rate) (burst : b.burst = b'.burst) {key : String}
    (same : b.keys.get? key = b'.keys.get? key) (now : Moment) : b.levelOf n now key = b'.levelOf n now key := by
  simp only [levelOf, rate, burst, same]

theorem Sound.put {fit : α → Prop} {b : BucketOf α} (sound : b.Sound fit) {x : α} (fits : fit x) (now : Moment)
    (key : String) : Sound fit { b with keys := b.keys.put key ⟨⟨x, now⟩, now⟩ } where
  distinct := sound.distinct.put key _
  fit other l known := by
    rw [Keyed.get?_put] at known
    split at known
    · cases known
      exact fits
    · exact sound.fit other l known

section
variable {value : α → ℚ} {fit : α → Prop} {short : Duration → Prop} {error : ℚ} {b : BucketOf α}
  (reckons : Reckons n value fit short b.rate b.burst error)
include reckons

theorem reckons_step (now : Moment) (call : Call) :
    Reckons n value fit short (b.step n now call).2.rate (b.step n now call).2.burst error := by
  rwa [rate_step, burst_step]

theorem told_since {now : Moment} (told : short ⟨now.nanos⟩) (earlier : Moment) : short (now.since earlier) :=
  reckons.shorter told (Nat.sub_le ..)

theorem levelOf_unknown {key : String} (unknown : b.keys.get? key = none) (now : Moment) :
    b.levelOf n now key = n.ofNat b.burst := by
  rw [levelOf, unknown]
  simp only [Option.getD_none, since_self, reckons.anew]

theorem Sound.levelOf (sound : b.Sound fit) {now : Moment} (told : short ⟨now.nanos⟩) (key : String) :
    fit (b.levelOf n now key) := by
  cases known : b.keys.get? key with
  | none =>
    rw [levelOf_unknown reckons known]
    exact reckons.full
  | some l =>
    rw [BucketOf.levelOf, known]
    exact reckons.refill (sound.fit key l known) (told_since reckons told _)

theorem remaining_eq (now : Moment) (key : String) :
    b.remaining n now key = n.floorWithin Config.maxQuota (b.levelOf n now key) := by
  cases known : b.keys.get? key with
  | none => simp only [remaining, known, levelOf_unknown reckons known, reckons.count_full]
  | some l => simp only [remaining, known]

/-- Forgetting keys does not change any level from then on. -/
theorem levelOf_forget (sound : b.Sound fit) (now : Moment) (idle : Duration) (key : String) {t : Moment}
    (later : now ≤ t) (told : short ⟨t.nanos⟩) : (b.forget n now idle).levelOf n t key = b.levelOf n t key := by
  rcases b.keys.get?_purge sound.distinct now idle (b.settled n now) key with same | ⟨gone, l, known, full⟩
  · exact @levelOf_congr α n (b.forget n now idle) b rfl rfl key same t
  · have fits := sound.fit key l known
    have longer : now.since l.reckoned ≤ t.since l.reckoned := Nat.sub_le_sub_right later _
    have reckons' : Reckons n value fit short (b.forget n now idle).rate (b.forget n now idle).burst error := reckons
    rw [levelOf_unknown reckons' gone, levelOf, known]
    exact (reckons.settled fits (told_since reckons told _) longer full).symm

theorem Sound.step (sound : b.Sound fit) {now : Moment} (told : short ⟨now.nanos⟩) (call : Call) :
    (b.step n now call).2.Sound fit := by
  cases call with
  | allow key =>
    have fits := sound.levelOf reckons told key
    simp only [BucketOf.step, allow]
    split
    next whole => exact sound.put (reckons.take fits whole).1 now key
    next => exact sound.put fits now key
  | remaining key => exact sound
  | reset key =>
    refine ⟨sound.distinct.erase key, fun other l known => ?_⟩
    simp only [BucketOf.step, Keyed.get?_erase] at known
    split at known
    · cases known
    · exact sound.fit other l known
  | purge idle =>
    refine ⟨sound.distinct.purge now idle _, fun key l known => ?_⟩
    rcases b.keys.get?_purge sound.distinct now idle (b.settled n now) key with same | ⟨gone, -⟩
    · exact sound.fit key l (same ▸ known)
    · cases gone.symm.trans known

end

/-- From now on no key has different levels in the two. -/
structure AgreeFrom (n : Numbers α) (short : Duration → Prop) (now : Moment) (b b' : BucketOf α) : Prop where
  rate : b.rate = b'.rate
  burst : b.burst = b'.burst
  level (key : String) (t : Moment) (later : now ≤ t) (told : short ⟨t.nanos⟩) :
    b.levelOf n t key = b'.levelOf n t key

section
variable {value : α → ℚ} {fit : α → Prop} {short : Duration → Prop} {error : ℚ} {b b' : BucketOf α} {now t : Moment}
  (agree : AgreeFrom n short now b b') (later : now ≤ t)
include agree later

theorem AgreeFrom.mono : AgreeFrom n short t b b' :=
  ⟨agree.rate, agree.burst, fun key u order told => agree.level key u (Nat.le_trans later order) told⟩

theorem AgreeFrom.put (key : String) (x : α) :
    AgreeFrom n short t { b with keys := b.keys.put key ⟨⟨x, t⟩, t⟩ }
      { b' with keys := b'.keys.put key ⟨⟨x, t⟩, t⟩ } where
  rate := agree.rate
  burst := agree.burst
  level other u order told := by
    rw [levelOf_put, levelOf_put, agree.rate, agree.burst, agree.level other u (Nat.le_trans later order) told]

theorem AgreeFrom.erase (key : String) :
    AgreeFrom n short t { b with keys := b.keys.erase key } { b' with keys := b'.keys.erase key } where
  rate := agree.rate
  burst := agree.burst
  level other u order told := by
    rw [levelOf_erase, levelOf_erase, agree.rate, agree.burst, agree.level other u (Nat.le_trans later order) told]

variable (reckons : Reckons n value fit short b.rate b.burst error) (told : short ⟨t.nanos⟩)
include reckons told

theorem AgreeFrom.step {call : Call} (seen : call.purges = false) :
    (b.step n t call).1 = (b'.step n t call).1 ∧ AgreeFrom n short t (b.step n t call).2 (b'.step n t call).2 := by
  have reckons' : Reckons n value fit short b'.rate b'.burst error := agree.rate ▸ agree.burst ▸ reckons
  cases call with
  | allow key =>
    have level := agree.level key t later told
    have wait : b.wait n = b'.wait n := by
      funext tokens
      rw [BucketOf.wait, BucketOf.wait, agree.rate]
    simp only [BucketOf.step, allow_eq, level, wait]
    split
    · exact ⟨rfl, agree.put later key _⟩
    · exact ⟨rfl, agree.put later key _⟩
  | remaining key =>
    simp only [BucketOf.step, remaining_eq reckons, remaining_eq reckons', agree.level key t later told, true_and]
    exact agree.mono later
  | reset key => exact ⟨rfl, agree.erase later key⟩
  | purge idle => cases seen

end

section
variable {value : α → ℚ} {fit : α → Prop} {short : Duration → Prop} {error : ℚ} {calls : List (Moment × Call)}

/-- Two buckets that agree have the same answers, although only one of them is purged. -/
theorem filter_trace {b b' : BucketOf α} (reckons : Reckons n value fit short b.rate b.burst error)
    (sound : b.Sound fit) (sound' : b'.Sound fit) {now : Moment} (agree : AgreeFrom n short now b b')
    (ordered : calls.Pairwise (·.1 ≤ ·.1)) (later : ∀ c ∈ calls, now ≤ c.1) (told : ∀ c ∈ calls, short ⟨c.1.nanos⟩) :
    (b.trace n calls).filter (!·.call.purges) = b'.trace n (calls.filter (!·.2.purges)) := by
  induction calls generalizing b b' now with
  | nil => rfl
  | cons c rest ih =>
    obtain ⟨t, call⟩ := c
    obtain ⟨first, ordered⟩ := List.pairwise_cons.mp ordered
    obtain ⟨here, _⟩ := List.forall_mem_cons.mp later
    obtain ⟨now', told⟩ := List.forall_mem_cons.mp told
    have reckons' : Reckons n value fit short b'.rate b'.burst error := agree.rate ▸ agree.burst ▸ reckons
    have next := reckons_step reckons t call
    cases seen : call.purges with
    | false =>
      obtain ⟨same, agree'⟩ := agree.step here reckons now' seen
      simp only [trace, List.filter_cons, seen, Bool.not_false, if_true, same]
      exact congrArg _ (ih next (sound.step reckons now' call) (sound'.step reckons' now' call) agree'
        ordered first told)
    | true =>
      simp only [trace, List.filter_cons, seen, Bool.not_true, Bool.false_eq_true, if_false]
      refine @ih _ _ next (sound.step reckons now' call) sound' t ?_ ordered first told
      cases call with
      | purge idle =>
        refine ⟨agree.rate, agree.burst, fun key u order told => ?_⟩
        exact (levelOf_forget reckons sound t idle key order told).trans
          (agree.level key u (Nat.le_trans here order) told)
      | _ => cases seen

end

/-- What is told of a key from now on: it holds so much, and more only as it comes back. -/
structure Backed (n : Numbers α) (value : α → ℚ) (short : Duration → Prop) (error : ℚ) (b : BucketOf α) (key : String)
    (now : Moment) (held : ℚ) : Prop where
  nonneg : 0 ≤ held
  level (t : Moment) (later : now ≤ t) (told : short ⟨t.nanos⟩) :
    value (b.levelOf n t key) ≤ held + b.rate * (t.since now).nanos / 10 ^ 9 + error

section
variable {value : α → ℚ} {fit : α → Prop} {short : Duration → Prop} {error : ℚ} {b : BucketOf α} {key : String}
  {now t : Moment} {held : ℚ}

theorem Backed.congr {b' : BucketOf α} (backed : Backed n value short error b key now held) (rate : b'.rate = b.rate)
    (level : ∀ u, now ≤ u → short ⟨u.nanos⟩ → b'.levelOf n u key = b.levelOf n u key) :
    Backed n value short error b' key now held :=
  ⟨backed.nonneg, fun u later told => by
    rw [level u later told, rate]
    exact backed.level u later told⟩

theorem Backed.later (backed : Backed n value short error b key now held) (order : now ≤ t) :
    Backed n value short error b key t (held + b.rate * (t.since now).nanos / 10 ^ 9) where
  nonneg := by
    have := backed.nonneg
    positivity
  level u later told := by
    have bound := backed.level u (Nat.le_trans order later) told
    rw [since_add order later, mul_add, add_div] at bound
    linarith

variable (reckons : Reckons n value fit short b.rate b.burst error)
include reckons

theorem backed_burst (sound : b.Sound fit) (key : String) (now : Moment) :
    Backed n value short error b key now b.burst where
  nonneg := Nat.cast_nonneg _
  level t _ told := by
    have most := reckons.most (sound.levelOf reckons told key)
    have nonneg := reckons.error_nonneg
    have back : 0 ≤ (b.rate : ℚ) * (t.since now).nanos / 10 ^ 9 := by positivity
    linarith

theorem backed_put {x : α} (fits : fit x) (key : String) (now : Moment) :
    Backed n value short error { b with keys := b.keys.put key ⟨⟨x, now⟩, now⟩ } key now (value x) where
  nonneg := reckons.nonneg fits
  level t _ told := by
    rw [levelOf_put, if_pos rfl]
    exact reckons.gain fits (told_since reckons told now)

theorem Backed.step (backed : Backed n value short error b key t held) (sound : b.Sound fit) (told : short ⟨t.nanos⟩)
    {call : Call} (unreset : call ≠ .reset key) :
    ∃ left, Backed n value short error (b.step n t call).2 key t left ∧
      left + (if Event.admits key ⟨t, call, (b.step n t call).1⟩ then 1 else 0) ≤
        held + error * (if Event.requests key ⟨t, call, (b.step n t call).1⟩ then 1 else 0) := by
  have nothing := reckons.error_nonneg
  cases call with
  | allow k =>
    by_cases same : k = key
    · subst same
      have fits := sound.levelOf reckons told k
      have bound := backed.level t (Nat.le_refl _) told
      simp only [since_self, Duration.zero, Nat.cast_zero, mul_zero, zero_div, add_zero] at bound
      simp only [BucketOf.step, allow_eq]
      split
      next whole =>
        obtain ⟨fits', taken⟩ := reckons.take fits whole
        refine ⟨_, backed_put reckons fits' k t, ?_⟩
        simp only [taken, Event.admits, Event.requests, decide_true, if_true]
        linarith
      next =>
        refine ⟨_, backed_put reckons fits k t, ?_⟩
        simp only [Event.admits, Event.requests, decide_true, if_true, Bool.false_eq_true, if_false]
        linarith
    · have apart : ¬ key = k := fun same' => same same'.symm
      refine ⟨held, backed.congr (rate_step ..) fun u _ _ => ?_, ?_⟩
      · simp only [BucketOf.step, allow_eq]
        split <;> rw [levelOf_put, if_neg apart]
      · have unasked : Event.requests key ⟨t, .allow k, (b.step n t (.allow k)).1⟩ = false := by
          simp [Event.requests, same]
        simp [unasked, Event.admits_of_unasked unasked]
  | remaining k => exact ⟨held, backed, by simp [BucketOf.step, Event.admits, Event.requests]⟩
  | reset k =>
    have apart : ¬ key = k := fun same => unreset (same ▸ rfl)
    refine ⟨held, backed.congr rfl fun u _ _ => ?_, by simp [BucketOf.step, Event.admits, Event.requests]⟩
    simp only [BucketOf.step]
    rw [levelOf_erase, if_neg apart]
  | purge idle =>
    refine ⟨held, backed.congr rfl fun u later told => ?_, by simp [BucketOf.step, Event.admits, Event.requests]⟩
    exact levelOf_forget reckons sound t idle key later told

end

theorem moment_of_mem_trace {b : BucketOf α} {calls : List (Moment × Call)} {e : Event} (member : e ∈ b.trace n calls) :
    ∃ c ∈ calls, c.1 = e.moment := by
  induction calls generalizing b with
  | nil => cases member
  | cons c rest ih =>
    rcases List.mem_cons.mp member with rfl | later
    · exact ⟨c, List.mem_cons_self, rfl⟩
    · obtain ⟨d, there, same⟩ := ih later
      exact ⟨d, List.mem_cons_of_mem _ there, same⟩

theorem eventsIn_of_ended {b : BucketOf α} {calls : List (Moment × Call)} {start stop : Moment}
    (ended : ∀ c ∈ calls, ¬ c.1 ≤ stop) : eventsIn start stop (b.trace n calls) = [] := by
  refine List.filter_eq_nil_iff.mpr fun e member => ?_
  obtain ⟨c, there, same⟩ := moment_of_mem_trace member
  rw [decide_eq_true_eq, ← same]
  exact fun inside => ended c there inside.2

section
variable {value : α → ℚ} {fit : α → Prop} {short : Duration → Prop} {error : ℚ} {key : String} {start stop : Moment}
  {calls : List (Moment × Call)}

/-- What is admitted from now until the end of an interval was held or came back. -/
theorem countP_admits_le {b : BucketOf α} (reckons : Reckons n value fit short b.rate b.burst error)
    (sound : b.Sound fit) {now : Moment} {held : ℚ} (backed : Backed n value short error b key now held)
    (begun : start ≤ now) (ordered : calls.Pairwise (·.1 ≤ ·.1)) (later : ∀ c ∈ calls, now ≤ c.1)
    (told : ∀ c ∈ calls, short ⟨c.1.nanos⟩) (unreset : ∀ c ∈ calls, c.1 ≤ stop → c.2 ≠ .reset key) :
    ((eventsIn start stop (b.trace n calls)).countP (·.admits key) : ℚ) ≤
      held + b.rate * (stop.since now).nanos / 10 ^ 9 +
        error * (eventsIn start stop (b.trace n calls)).countP (·.requests key) := by
  have nothing := reckons.error_nonneg
  have some := backed.nonneg
  induction calls generalizing b now held with
  | nil =>
    simp only [trace, eventsIn, List.filter_nil, List.countP_nil, Nat.cast_zero, mul_zero, add_zero]
    positivity
  | cons c rest ih =>
    obtain ⟨t, call⟩ := c
    obtain ⟨first, ordered⟩ := List.pairwise_cons.mp ordered
    obtain ⟨here, _⟩ := List.forall_mem_cons.mp later
    obtain ⟨now', told⟩ := List.forall_mem_cons.mp told
    obtain ⟨unreset', unreset⟩ := List.forall_mem_cons.mp unreset
    by_cases within : t ≤ stop
    · have inside : start ≤ t ∧ t ≤ stop := ⟨Nat.le_trans begun here, within⟩
      have next := reckons_step reckons t call
      obtain ⟨left, backed', charge⟩ := (backed.later here).step reckons sound now' (unreset' within)
      have rest := ih next (sound.step reckons now' call) backed' inside.1 ordered first told unreset backed'.nonneg
      have time := since_add here within
      rw [rate_step] at rest
      simp only [trace, eventsIn, List.filter_cons, inside, and_self, decide_true, if_true, List.countP_cons,
        Nat.cast_add, Nat.cast_ite, Nat.cast_one, Nat.cast_zero] at rest ⊢
      rw [time, mul_add, add_div, mul_add]
      linarith
    · have ended : ∀ c ∈ (t, call) :: rest, ¬ c.1 ≤ stop :=
        List.forall_mem_cons.mpr ⟨within, fun c there early => within (Nat.le_trans (first c there) early)⟩
      rw [eventsIn_of_ended ended]
      simp only [List.countP_nil, Nat.cast_zero, mul_zero, add_zero]
      positivity

theorem bounded {b : BucketOf α} (reckons : Reckons n value fit short b.rate b.burst error) (sound : b.Sound fit)
    (ordered : calls.Pairwise (·.1 ≤ ·.1)) (told : ∀ c ∈ calls, short ⟨c.1.nanos⟩)
    (unreset : ∀ c ∈ calls, start ≤ c.1 → c.1 ≤ stop → c.2 ≠ .reset key) :
    ((eventsIn start stop (b.trace n calls)).countP (·.admits key) : ℚ) ≤
      b.burst + b.rate * (stop.since start).nanos / 10 ^ 9 +
        error * (eventsIn start stop (b.trace n calls)).countP (·.requests key) := by
  induction calls generalizing b with
  | nil =>
    simp only [trace, eventsIn, List.filter_nil, List.countP_nil, Nat.cast_zero, mul_zero, add_zero]
    positivity
  | cons c rest ih =>
    by_cases begun : start ≤ c.1
    · have later : ∀ d ∈ c :: rest, start ≤ d.1 := by
        refine List.forall_mem_cons.mpr ⟨begun, fun d there => ?_⟩
        exact Nat.le_trans begun ((List.pairwise_cons.mp ordered).1 d there)
      exact countP_admits_le reckons sound (backed_burst reckons sound key start) (Nat.le_refl _) ordered later told
        fun d there => unreset d there (later d there)
    · obtain ⟨t, call⟩ := c
      obtain ⟨now, told⟩ := List.forall_mem_cons.mp told
      have next := reckons_step reckons t call
      have rest := ih next (sound.step reckons now call) (List.pairwise_cons.mp ordered).2 told
        (List.forall_mem_cons.mp unreset).2
      simp only [rate_step, burst_step] at rest
      simpa only [trace, eventsIn, List.filter_cons, begun, false_and, decide_false, Bool.false_eq_true, if_false]
        using rest

theorem Sound.run {b : BucketOf α} (reckons : Reckons n value fit short b.rate b.burst error) (sound : b.Sound fit)
    (told : ∀ c ∈ calls, short ⟨c.1.nanos⟩) :
    (b.run n calls).rate = b.rate ∧ (b.run n calls).burst = b.burst ∧ (b.run n calls).Sound fit := by
  induction calls generalizing b with
  | nil => exact ⟨rfl, rfl, sound⟩
  | cons c rest ih =>
    obtain ⟨now, told⟩ := List.forall_mem_cons.mp told
    have next := reckons_step reckons c.1 c.2
    obtain ⟨rate, burst, sound'⟩ := ih next (sound.step reckons now c.2) told
    exact ⟨rate.trans (rate_step ..), burst.trans (burst_step ..), sound'⟩

end

/-- A bucket whose numbers are good enough keeps its guarantees in every run. -/
theorem keeps_of_reckons {value : α → ℚ} {fit : α → Prop} {short : Duration → Prop} {error : ℚ} {b : BucketOf α}
    (reckons : Reckons n value fit short b.rate b.burst error) (sound : b.Sound fit) {calls : List (Moment × Call)}
    (ordered : calls.Pairwise (·.1 ≤ ·.1)) (told : ∀ c ∈ calls, short ⟨c.1.nanos⟩) :
    Keeps n value short error b calls where
  bounded key start stop unreset := bounded reckons sound ordered told unreset
  level key now early := by
    obtain ⟨rate, burst, sound'⟩ := sound.run reckons told
    have reckons' : Reckons n value fit short (b.run n calls).rate (b.run n calls).burst error := by
      rwa [rate, burst]
    have fits := sound'.levelOf reckons' early key
    exact ⟨reckons.nonneg fits, reckons.most fits⟩
  unseen := by
    have agree : AgreeFrom n short .start b b := ⟨rfl, rfl, fun _ _ _ _ => rfl⟩
    exact filter_trace reckons sound sound agree ordered (fun _ _ => Nat.zero_le _) told

end BucketOf
end Gatehouse.Limiter
