import Gatehouse.Proofs.Binary64.Lower
import Gatehouse.Proofs.Limiter.Charge

/-!
How a bucket refills. Levels are rounded in every step, but the wait that a refused request is told covers
what is missing of a token up to half a nanosecond and some parts in `2 ^ 52`: whoever waits a nanosecond
longer is served.
-/
namespace Gatehouse.Limiter.Bucket
open Binary64

/-- Settings with a bucket that refills and holds a token. Both numbers have 32 bits. -/
structure Working (b : Bucket) : Prop where
  refills : 1 ≤ b.rate
  holds : 1 ≤ b.burst
  rate : b.rate < 2 ^ 32
  burst : b.burst < 2 ^ 32

section
variable {b : Bucket} (working : b.Working)
include working

theorem exact_rate : Exact b.rate (.ofNat b.rate) := exact_ofNat (by have := working.rate; omega)

theorem one_le_capacity : AtLeast 1 b.capacity := by
  have exact : Exact b.burst (.ofNat b.burst) := exact_ofNat (by have := working.burst; omega)
  exact exact.atLeast.mono (by exact_mod_cast working.holds)

theorem atLeast_refill (d : Duration) :
    AtLeast (d.nanos / 10 ^ 9 * remnant ^ 2 * b.rate * remnant) (d.toSeconds.mul (.ofNat b.rate)) :=
  (Duration.atLeast_toSeconds d).mul (exact_rate working) working.refills

theorem level_nonneg {l : Level} (nonneg : AtLeast 0 l.tokens) (now : Moment) : AtLeast 0 (b.level l now) := by
  have refill := atLeast_refill working (now.since l.reckoned)
  have back : 0 ≤ ((now.since l.reckoned).nanos : ℚ) / 10 ^ 9 * remnant ^ 2 * b.rate * remnant := by
    have := remnant_pos
    positivity
  refine ((nonneg.add refill).mono ?_).min ((one_le_capacity working).mono (by norm_num))
  rw [zero_add]
  exact mul_nonneg back remnant_pos.le

theorem one_le_level {l : Level} {v : ℚ} (atLeast : AtLeast v l.tokens) {now : Moment}
    (enough : 1 ≤ v + (now.since l.reckoned).nanos / 10 ^ 9 * remnant ^ 2 * b.rate * remnant) :
    AtLeast 1 (b.level l now) :=
  (atLeast.add_to_one (atLeast_refill working _) enough).min (one_le_capacity working)

/-- The wait that is told covers what is missing of a token, up to half a nanosecond. -/
theorem covers_wait {x : Binary64} {v : ℚ} (lacks : AtLeast ((1 - v) * remnant) (one.sub x)) (nonneg : 0 ≤ v)
    (below : v < 1) : (1 - v) * remnant ^ 2 * 10 ^ 9 ≤ b.rate * ((b.wait x).nanos + 1 / 2) := by
  have rate : (1 : ℚ) ≤ b.rate := by exact_mod_cast working.refills
  have some : b.rate ≠ 0 := by have := working.refills; omega
  have positive : 0 < (1 - v) * remnant := mul_pos (by linarith) remnant_pos
  have less : (1 - v) * remnant ≤ 1 := by
    have part : remnant ≤ 1 := by norm_num [remnant]
    nlinarith [remnant_pos]
  rw [wait, if_neg some]
  by_cases large : 2 ^ 52 * (b.rate : ℚ) ≤ (1 - v) * remnant * unit
  · have quotient := lacks.div (exact_rate working) working.refills large
    have near := Duration.seconds_le_of_atLeast quotient <| by
      have part : (1 - v) * remnant / b.rate ≤ 1 := (div_le_one (by linarith)).mpr (by linarith)
      have whole : (1 - v) * remnant / b.rate * remnant ≤ 1 * 1 :=
        mul_le_mul part (by norm_num [remnant]) remnant_pos.le (by norm_num)
      linarith
    calc (1 - v) * remnant ^ 2 * 10 ^ 9 = b.rate * ((1 - v) * remnant / b.rate * remnant * 10 ^ 9) := by
          field_simp
      _ ≤ _ := mul_le_mul_of_nonneg_left (by linarith) (by linarith)
  · -- what is missing is next to nothing
    have tiny : (1 - v) * remnant * 2 ^ 200 < 2 ^ 84 := by
      have unit : (2 : ℚ) ^ 200 ≤ unit := pow_le_unit (by omega)
      have most : (b.rate : ℚ) < 2 ^ 32 := by exact_mod_cast working.rate
      have less := mul_le_mul_of_nonneg_left unit positive.le
      linarith
    have next : (1 - v) * remnant ^ 2 * 10 ^ 9 ≤ 1 / 2 := by
      have part : remnant ≤ 1 := by norm_num [remnant]
      have square : (1 - v) * remnant ^ 2 ≤ (1 - v) * remnant := by
        rw [pow_two, ← mul_assoc]
        exact mul_le_of_le_one_right positive.le part
      linarith
    have nanos : (0 : ℚ) ≤ ((Duration.ofFloatSeconds? ((one.sub x).div (.ofNat b.rate))).getD .longest).nanos :=
      Nat.cast_nonneg _
    nlinarith

end

section
variable {v rate : ℚ} {told waited : Nat}

theorem refill_eq : (waited : ℚ) / 10 ^ 9 * remnant ^ 2 * rate * remnant = rate * waited * remnant ^ 3 / 10 ^ 9 := by
  ring

/-- If less than a token came back, the roundings took next to nothing of it. -/
theorem cube_ge (few : rate * waited * remnant ^ 3 ≤ 10 ^ 9) :
    rate * waited - 1 / 10 ^ 5 ≤ rate * waited * remnant ^ 3 := by
  generalize rate * waited = back at few ⊢
  norm_num [remnant] at few ⊢
  linarith

variable (nonneg : 0 ≤ v)
include nonneg

/-- Who waits as long as told is served, if that covers what is missing and a little more. -/
theorem one_le_of_enough (enough : 1 - v + 1 / 10 ^ 14 ≤ rate * waited / 10 ^ 9) :
    1 ≤ v + (waited : ℚ) / 10 ^ 9 * remnant ^ 2 * rate * remnant := by
  rw [refill_eq]
  rcases le_total (10 ^ 9) (rate * waited * remnant ^ 3) with all | few
  · have whole : 1 ≤ rate * waited * remnant ^ 3 / 10 ^ 9 := (one_le_div (by norm_num)).mpr all
    linarith
  · have rounded : (rate * waited - 1 / 10 ^ 5) / 10 ^ 9 ≤ rate * waited * remnant ^ 3 / 10 ^ 9 :=
      div_le_div_of_nonneg_right (cube_ge few) (by norm_num)
    linarith

/-- So is, in any case, who waits a nanosecond longer than told. -/
theorem one_le_of_longer (positive : 1 ≤ rate) (longer : told < waited)
    (covers : (1 - v) * remnant ^ 2 * 10 ^ 9 ≤ rate * (told + 1 / 2)) :
    1 ≤ v + (waited : ℚ) / 10 ^ 9 * remnant ^ 2 * rate * remnant := by
  have later : (told : ℚ) + 1 ≤ waited := by exact_mod_cast longer
  -- half a nanosecond of refill is more than the roundings of the hint
  have spare : (1 - v) * remnant ^ 2 * 10 ^ 9 ≤ rate * waited - 1 / 2 := by nlinarith
  refine one_le_of_enough nonneg ?_
  norm_num [remnant] at spare ⊢
  linarith

end

structure Sound (b : Bucket) : Prop where
  distinct : b.keys.Distinct
  nonneg : ∀ key l, b.keys.get? key = some l → AtLeast 0 l.tokens

theorem sound_fresh (rate burst : Nat) : Sound { rate, burst } :=
  ⟨Keyed.distinct_empty, fun _ _ known => nomatch known⟩

theorem Working.of_eq {b next : Bucket} (working : b.Working) (rate : next.rate = b.rate)
    (burst : next.burst = b.burst) : next.Working := by
  obtain ⟨refills, holds, few, few'⟩ := working
  exact ⟨rate ▸ refills, burst ▸ holds, rate ▸ few, burst ▸ few'⟩

theorem Sound.put {b : Bucket} (sound : b.Sound) {tokens : Binary64} (nonneg : AtLeast 0 tokens)
    (now : Moment) (key : String) : Sound { b with keys := b.keys.put key ⟨⟨tokens, now⟩, now⟩ } where
  distinct := sound.distinct.put key _
  nonneg other l known := by
    rw [Keyed.get?_put] at known
    split at known
    · cases known
      exact nonneg
    · exact sound.nonneg other l known

section
variable {b : Bucket} (working : b.Working)
include working

theorem one_le_unknown {key : String} (unknown : b.keys.get? key = none) (now : Moment) :
    AtLeast 1 (b.levelOf now key) := by
  rw [levelOf, unknown]
  refine one_le_level working (one_le_capacity working) ?_
  have := remnant_pos
  have nonneg : 0 ≤ ((now.since now).nanos : ℚ) / 10 ^ 9 * remnant ^ 2 * b.rate * remnant := by positivity
  exact le_add_of_nonneg_right nonneg

theorem Sound.levelOf (sound : b.Sound) (now : Moment) (key : String) : AtLeast 0 (b.levelOf now key) := by
  cases known : b.keys.get? key with
  | none => exact (one_le_unknown working known now).mono (by norm_num)
  | some l =>
    rw [Bucket.levelOf, known]
    exact level_nonneg working (sound.nonneg key l known) now

theorem Sound.allow (sound : b.Sound) (now : Moment) (key : String) : (b.allow now key).2.Sound := by
  have level := sound.levelOf working now key
  rw [allow_eq]
  split
  next whole => exact sound.put (nonneg_sub_one ((one_le_iff level).mp whole)) now key
  next => exact sound.put level now key

end

theorem Sound.reset {b : Bucket} (sound : b.Sound) (key : String) : (b.reset key).Sound where
  distinct := sound.distinct.erase key
  nonneg other l known := by
    rw [Bucket.reset, Keyed.get?_erase] at known
    split at known
    · cases known
    · exact sound.nonneg other l known

theorem Sound.purge {b : Bucket} (sound : b.Sound) (now : Moment) (idle : Duration) : (b.purge now idle).Sound where
  distinct := sound.distinct.purge now idle _
  nonneg other l known := by
    rcases b.keys.get?_purge sound.distinct now idle (b.settled now) other with same | ⟨gone, -⟩
    · exact sound.nonneg other l (same ▸ known)
    · rw [Bucket.purge, gone] at known
      cases known

theorem allow_settings (b : Bucket) (now : Moment) (key : String) :
    (b.allow now key).2.rate = b.rate ∧ (b.allow now key).2.burst = b.burst := by
  rw [allow_eq]
  generalize b.levelOf now key = tokens
  cases Binary64.one.le tokens <;> exact ⟨rfl, rfl⟩

/-- One call keeps a bucket sound, with the same settings. The level of a key that is not asked for or reset
stays as it is, unless it is forgotten. -/
theorem Sound.step {b : Bucket} (sound : b.Sound) (working : b.Working) (now : Moment) (call : Call) :
    ∃ next : Bucket, ((Limiter.bucket b).step now call).2 = .bucket next ∧
      next.rate = b.rate ∧ next.burst = b.burst ∧ next.Sound ∧
      ∀ key, call ≠ .allow key → call ≠ .reset key →
        next.keys.get? key = b.keys.get? key ∨ next.keys.get? key = none := by
  cases call with
  | allow k =>
    have settings := b.allow_settings now k
    refine ⟨(b.allow now k).2, ?_, settings.1, settings.2, sound.allow working now k, fun key other _ => .inl ?_⟩
    · simp only [Limiter.step, allow_bucket]
    · obtain ⟨e, keys⟩ := b.allow_keys now k
      have apart : key ≠ k := fun same => other (same ▸ rfl)
      rw [keys, Keyed.get?_put, if_neg apart]
  | remaining k => exact ⟨b, rfl, rfl, rfl, sound, fun _ _ _ => .inl rfl⟩
  | reset k =>
    refine ⟨b.reset k, rfl, rfl, rfl, sound.reset k, fun key _ other => .inl ?_⟩
    have apart : key ≠ k := fun same => other (same ▸ rfl)
    rw [Bucket.reset, Keyed.get?_erase, if_neg apart]
  | purge idle =>
    refine ⟨b.purge now idle, rfl, rfl, rfl, sound.purge now idle, fun key _ _ => ?_⟩
    exact (b.keys.get?_purge sound.distinct now idle (b.settled now) key).imp_right And.left

theorem Sound.run {b : Bucket} (sound : b.Sound) (working : b.Working) (calls : List (Moment × Call)) :
    ∃ next : Bucket, (Limiter.bucket b).run calls = .bucket next ∧
      next.rate = b.rate ∧ next.burst = b.burst ∧ next.Sound ∧
      ∀ key, (∀ c ∈ calls, c.2 ≠ .allow key ∧ c.2 ≠ .reset key) →
        next.keys.get? key = b.keys.get? key ∨ next.keys.get? key = none := by
  induction calls generalizing b with
  | nil => exact ⟨b, rfl, rfl, rfl, sound, fun _ _ => .inl rfl⟩
  | cons c rest ih =>
    obtain ⟨now, call⟩ := c
    obtain ⟨next, same, rate, burst, kept, stays⟩ := sound.step working now call
    obtain ⟨last, result, rate', burst', kept', stays'⟩ := ih kept (working.of_eq rate burst)
    refine ⟨last, ?_, rate'.trans rate, burst'.trans burst, kept', fun key apart => ?_⟩
    · simpa only [Limiter.run, same] using result
    · obtain ⟨here, later⟩ := List.forall_mem_cons.mp apart
      rcases stays' key later with unchanged | gone
      · rw [unchanged]
        exact stays key here.1 here.2
      · exact .inr gone

end Gatehouse.Limiter.Bucket
