import Gatehouse.Proofs.Binary64.Units
import Gatehouse.Proofs.Limiter.Reckoning

/-!
How much a token bucket admits. With rationals the bound is the capacity and what comes back in the time; floating
numbers may add one part in `2 ^ 50` of the capacity with each request. Purges are unseen with both.
-/
namespace Gatehouse.Limiter
open Binary64

section
variable {rate burst : Nat}

theorem refill_rational (q : ℚ) (d : Duration) :
    rational.refill rate burst q d = min (q + d.nanos / Duration.nanosPerSecond * rate) burst := rfl

theorem back_nonneg (rate : Nat) (d : Duration) : (0 : ℚ) ≤ d.nanos / Duration.nanosPerSecond * rate := by positivity

theorem reckons_rational (few : burst < 2 ^ 32) :
    Reckons rational id (fun q => 0 ≤ q ∧ q ≤ burst) (fun _ => True) rate burst 0 where
  shorter _ _ := trivial
  full := ⟨Nat.cast_nonneg _, le_rfl⟩
  count_full := by
    have within : burst ≤ Config.maxQuota := Nat.le_trans few.le (by decide)
    have whole : (burst : ℚ).floor.toNat = burst := by simp [Rat.floor]
    change Nat.min Config.maxQuota (burst : ℚ).floor.toNat = burst
    rw [whole]
    exact Nat.min_eq_right within
  nonneg fits := fits.1
  most fits := fits.2
  refill {q d} fits _ := by
    have back := back_nonneg rate d
    rw [refill_rational]
    exact ⟨le_min (add_nonneg fits.1 back) (Nat.cast_nonneg _), min_le_right _ _⟩
  gain {q d} _ _ := by
    have second : (Duration.nanosPerSecond : ℚ) = 10 ^ 9 := by norm_num [Duration.nanosPerSecond]
    rw [refill_rational, second, add_zero, div_mul_eq_mul_div, mul_comm (d.nanos : ℚ)]
    exact min_le_left _ _
  take {q} fits whole := by
    have enough : 1 ≤ q := of_decide_eq_true whole
    have most := fits.2
    exact ⟨⟨sub_nonneg.mpr enough, by change q - 1 ≤ _; linarith⟩, rfl⟩
  settled {q d d'} _ _ later full := by
    have most : (burst : ℚ) ≤ rational.refill rate burst q d := of_decide_eq_true full
    have order : (d.nanos : ℚ) ≤ d'.nanos := by exact_mod_cast later
    rw [refill_rational] at most ⊢
    refine min_eq_right (le_trans (le_trans most (min_le_left _ _)) ?_)
    gcongr
  anew := by
    rw [refill_rational]
    exact min_eq_right (le_add_of_nonneg_right (back_nonneg ..))
  error_nonneg := le_rfl

/-- A floating level is a number of units within the capacity. -/
def Fits (burst : Nat) (x : Binary64) : Prop := ∃ a, Stands a x ∧ a ≤ burst * unit

/-- The units that there are after a time, before they are cut off at the capacity. -/
def regained (rate a : Nat) (d : Duration) : Nat := rounded (a + rounded (d.told * rate) 1) 1

def refilled (rate burst a : Nat) (d : Duration) : Nat := Nat.min (regained rate a d) (burst * unit)

section
variable {a : Nat} {d d' : Duration}

theorem refilled_le_regained (rate burst a : Nat) (d : Duration) : refilled rate burst a d ≤ regained rate a d :=
  Nat.min_le_left ..

theorem refilled_le_capacity (rate burst a : Nat) (d : Duration) : refilled rate burst a d ≤ burst * unit :=
  Nat.min_le_right ..

theorem refilled_of_le (enough : burst * unit ≤ regained rate a d) : refilled rate burst a d = burst * unit :=
  Nat.min_eq_right enough

theorem cast_regained_le (rate a : Nat) (d : Duration) :
    (regained rate a d : ℚ) ≤ (a + rate * d.nanos / 10 ^ 9 * unit) * excess ^ 4 := by
  have one : (1 : ℚ) ≤ excess := by norm_num [excess]
  have back := cast_rounded_le Nat.one_pos (.inl (Nat.one_dvd (d.told * rate)))
  have sum := cast_rounded_le Nat.one_pos (.inl (Nat.one_dvd (a + rounded (d.told * rate) 1)))
  rw [Nat.cast_one, div_one] at back sum
  rw [Nat.cast_mul] at back
  rw [Nat.cast_add] at sum
  calc (regained rate a d : ℚ) ≤ (a + rounded (d.told * rate) 1) * excess := sum
    _ ≤ (a * excess ^ 3 + d.nanos / 10 ^ 9 * unit * excess ^ 2 * rate * excess) * excess := by
      have held : (a : ℚ) ≤ a * excess ^ 3 := le_mul_of_one_le_right (Nat.cast_nonneg a) (one_le_pow₀ one)
      have told := mul_le_mul_of_nonneg_right (mul_le_mul_of_nonneg_right d.told_le (Nat.cast_nonneg rate))
        (zero_le_one.trans one)
      exact mul_le_mul_of_nonneg_right (add_le_add held (back.trans told)) (zero_le_one.trans one)
    _ = (a + rate * d.nanos / 10 ^ 9 * unit) * excess ^ 4 := by ring

theorem refilled_le (rate burst a : Nat) (d : Duration) :
    (refilled rate burst a d : ℚ) / unit ≤ a / unit + rate * d.nanos / 10 ^ 9 + burst / 2 ^ 50 := by
  have spare : (0 : ℚ) ≤ burst / 2 ^ 50 := div_nonneg (Nat.cast_nonneg _) (by norm_num)
  have most : (refilled rate burst a d : ℚ) ≤ burst * unit := by exact_mod_cast refilled_le_capacity ..
  have less : (refilled rate burst a d : ℚ) ≤ regained rate a d := by exact_mod_cast refilled_le_regained ..
  have sum := cast_regained_le rate a d
  have positive := unit_pos'
  generalize (unit : ℚ) = u at *
  have all : (a / u + rate * d.nanos / 10 ^ 9) * u = a + rate * d.nanos / 10 ^ 9 * u := by
    rw [add_mul, div_mul_cancel₀ _ positive.ne']
  rw [div_le_iff₀ positive]
  rw [← all] at sum
  generalize (a / u + rate * d.nanos / 10 ^ 9 : ℚ) = total at sum ⊢
  rcases le_total (burst : ℚ) total with enough | below
  · exact most.trans (mul_le_mul_of_nonneg_right (by linarith) positive.le)
  · have parts : total * excess ^ 4 ≤ total + burst / 2 ^ 50 := by
      norm_num [excess]
      linarith
    calc (refilled rate burst a d : ℚ) ≤ total * u * excess ^ 4 := less.trans sum
      _ = total * excess ^ 4 * u := mul_right_comm ..
      _ ≤ (total + burst / 2 ^ 50) * u := mul_le_mul_of_nonneg_right parts positive.le

/-- A bucket that is full stays so, although the times are told with roundings. -/
theorem refilled_full (few : burst < 2 ^ 32) (later : d ≤ d') (full : burst * unit ≤ refilled rate burst a d) :
    refilled rate burst a d' = burst * unit := by
  refine refilled_of_le ?_
  have enough := Nat.le_trans full (refilled_le_regained ..)
  rcases Nat.eq_zero_or_pos rate with rfl | some
  · rw [regained, Nat.mul_zero] at enough ⊢
    exact enough
  · rcases Nat.lt_or_ge d'.wholeSeconds (Nat.pow 2 53) with short | long
    · have back : rounded (d.told * rate) 1 ≤ rounded (d'.told * rate) 1 :=
        rounded_mono Nat.one_pos (Nat.mul_le_mul_right rate (Duration.told_mono short later))
      rw [regained] at enough ⊢
      exact Nat.le_trans enough (rounded_mono Nat.one_pos (Nat.add_le_add_left back a))
    · -- in so many seconds any bucket fills
      have seconds : burst ≤ d'.wholeSeconds := Nat.le_trans (Nat.le_trans few.le (by decide)) long
      have few : burst < Nat.pow 2 53 := Nat.lt_trans few (by decide)
      have told := Duration.units_le_told few seconds
      have back := units_le_rounded few (Nat.le_trans told (Nat.le_mul_of_pos_right _ some))
      rw [regained]
      exact units_le_rounded few (Nat.le_trans back (Nat.le_add_left ..))

theorem refilled_zero (few : burst < 2 ^ 32) : refilled rate burst (burst * unit) .zero = burst * unit := by
  refine refilled_of_le ?_
  rw [regained, Duration.told_zero, Nat.zero_mul, rounded_zero, Nat.add_zero]
  exact (rounded_mul_unit (Nat.lt_trans few (by decide))).ge

end
end

section
variable {rate burst : Nat} (few : rate < 2 ^ 32) (few' : burst < 2 ^ 32)
include few few'

/-- Refilling floating levels is refilling units. -/
theorem stands_refill {a : Nat} {x : Binary64} {d : Duration} (stands : Stands a x) (within : a ≤ burst * unit)
    (short : d.nanos ≤ Duration.longest.nanos) :
    Stands (refilled rate burst a d) (binary64.refill rate burst x d) := by
  obtain ⟨told, seconds⟩ := d.stands_toSeconds short
  have back : d.told * rate ≤ Nat.pow 2 99 * unit := by
    have powers : Nat.pow 2 99 = Nat.pow 2 67 * 2 ^ 32 := by decide
    rw [powers, Nat.mul_right_comm]
    exact Nat.mul_le_mul seconds few.le
  have sum : a + rounded (d.told * rate) 1 ≤ Nat.pow 2 101 * unit := by
    have twice := rounded_le_twice (d.told * rate)
    have held : a ≤ Nat.pow 2 99 * unit :=
      Nat.le_trans within (Nat.mul_le_mul_right unit (Nat.le_trans few'.le (by decide)))
    have powers : Nat.pow 2 101 = 4 * Nat.pow 2 99 := by decide
    rw [powers, Nat.mul_assoc]
    omega
  have capacity : Stands (burst * unit) (ofNat burst) := stands_ofNat (Nat.lt_trans few' (by decide))
  simp only [Numbers.refill, binary64_min, binary64_add, binary64_mul, binary64_seconds, binary64_ofNat]
  refine (stands.add (told.mul (stands_ofNat (Nat.lt_trans few (by decide))) ?_) ?_).min capacity
  · exact inRange_of_le (by decide) back
  · exact inRange_of_le (by decide) sum

theorem reckons_binary64 :
    Reckons binary64 Binary64.value (Fits burst) (·.nanos ≤ Duration.longest.nanos) rate burst (burst / 2 ^ 50) where
  shorter longer le := Nat.le_trans le longer
  full := ⟨burst * unit, binary64_ofNat ▸ stands_ofNat (Nat.lt_trans few' (by decide)), Nat.le_refl _⟩
  count_full := by
    have stands := stands_ofNat (Nat.lt_trans few' (by decide))
    rw [binary64_ofNat, binary64_floorWithin, stands.floorWithin, Nat.mul_div_cancel _ unit_pos]
    exact Nat.min_eq_right (Nat.le_trans few'.le (by decide))
  nonneg fits := by
    obtain ⟨a, stands, -⟩ := fits
    rw [stands.value]
    exact div_nonneg (Nat.cast_nonneg _) (Nat.cast_nonneg _)
  most fits := by
    obtain ⟨a, stands, within⟩ := fits
    rw [stands.value, div_le_iff₀ unit_pos']
    exact_mod_cast within
  refill fits short := by
    obtain ⟨a, stands, within⟩ := fits
    exact ⟨_, stands_refill few few' stands within short, refilled_le_capacity ..⟩
  gain fits short := by
    obtain ⟨a, stands, within⟩ := fits
    rw [(stands_refill few few' stands within short).value, stands.value]
    exact refilled_le ..
  take fits whole := by
    obtain ⟨a, stands, within⟩ := fits
    rw [binary64_le, binary64_one, stands_one.le_iff stands] at whole
    have small : a < Nat.pow 2 53 * unit :=
      Nat.lt_of_le_of_lt within (Nat.mul_lt_mul_of_pos_right (Nat.lt_trans few' (by decide)) unit_pos)
    have left := stands.sub_one whole small
    rw [binary64_sub, binary64_one]
    refine ⟨⟨_, left, Nat.le_trans (Nat.sub_le ..) within⟩, ?_⟩
    rw [left.value, stands.value, Nat.cast_sub whole, sub_div, div_self unit_pos'.ne']
  settled fits short later full := by
    obtain ⟨a, stands, within⟩ := fits
    have capacity := stands_ofNat (Nat.lt_trans few' (by decide))
    have short' := Nat.le_trans later short
    rw [binary64_le, binary64_ofNat, capacity.le_iff (stands_refill few few' stands within short')] at full
    have stays := stands_refill few few' stands within short
    rw [refilled_full few' later full] at stays
    rw [binary64_ofNat]
    exact stays.unique capacity
  anew := by
    have capacity := stands_ofNat (Nat.lt_trans few' (by decide))
    have stays := stands_refill few few' capacity (Nat.le_refl _) (d := .zero) (Nat.zero_le _)
    rw [refilled_zero few'] at stays
    rw [binary64_ofNat]
    exact stays.unique capacity
  error_nonneg := div_nonneg (Nat.cast_nonneg _) (by norm_num)

end

/-- What a token bucket admits and shows. With rational levels no more requests for a key are admitted in an interval
than the capacity and what comes back in it, a level is within the capacity, and a run has the same answers without its
purges. The limiter does the same with floating levels; there a request may be admitted for a part in `2 ^ 50` of the
capacity less, and purges are unseen all the same. -/
theorem bucket_bounded_and_purged_unseen {rate burst : Nat} (few : rate < 2 ^ 32) (few' : burst < 2 ^ 32)
    {calls : List (Moment × Call)} (ordered : calls.Pairwise (·.1 ≤ ·.1)) :
    Keeps rational id (fun _ => True) 0 { rate, burst } calls ∧
      (Limiter.bucket { rate, burst }).trace calls = BucketOf.trace binary64 { rate, burst } calls ∧
      (∃ b : Bucket, (Limiter.bucket { rate, burst }).run calls = .bucket b ∧
        BucketOf.run binary64 { rate, burst } calls = b.general) ∧
      ((∀ c ∈ calls, c.1.nanos ≤ Duration.longest.nanos) →
        Keeps binary64 Binary64.value (·.nanos ≤ Duration.longest.nanos) (burst / 2 ^ 50) { rate, burst } calls) := by
  refine ⟨?_, Bucket.trace_general _ calls, Bucket.run_general _ calls, fun told => ?_⟩
  · exact BucketOf.keeps_of_reckons (reckons_rational few') (BucketOf.sound_fresh ..) ordered fun _ _ => trivial
  · exact BucketOf.keeps_of_reckons (reckons_binary64 few few') (BucketOf.sound_fresh ..) ordered told

namespace Drained

/-- Two tokens at first and one that came back; then the bucket is full and forgotten. -/
def calls : List (Moment × Call) :=
  [(.start, .allow "k"), (.start, .allow "k"), (.start, .allow "k"), (⟨300000000⟩, .purge .zero),
    (⟨500000000⟩, .allow "k"), (⟨2000000000⟩, .purge .zero), (⟨2000000000⟩, .allow "k")]

/-- Three are admitted in half a second, and no more could be. -/
theorem three_in_half_a_second :
    calls.Pairwise (·.1 ≤ ·.1) ∧ (∀ c ∈ calls, c.1.nanos ≤ Duration.longest.nanos) ∧
      Keeps rational id (fun _ => True) 0 { rate := 2, burst := 2 } calls ∧
      Keeps binary64 Binary64.value (·.nanos ≤ Duration.longest.nanos) (2 / 2 ^ 50) { rate := 2, burst := 2 } calls ∧
      (eventsIn .start ⟨500000000⟩ (BucketOf.trace rational { rate := 2, burst := 2 } calls)).countP (·.admits "k") =
        3 ∧
      (eventsIn .start ⟨500000000⟩ ((Limiter.bucket { rate := 2, burst := 2 }).trace calls)).countP (·.admits "k") =
        3 := by
  have ordered : calls.Pairwise (·.1 ≤ ·.1) := by decide
  have told : ∀ c ∈ calls, c.1.nanos ≤ Duration.longest.nanos := by decide
  obtain ⟨exact, -, -, floating⟩ := @bucket_bounded_and_purged_unseen 2 2 (by decide) (by decide) calls ordered
  exact ⟨ordered, told, exact, by exact_mod_cast floating told, by decide +kernel, by decide +kernel⟩

end Drained
end Gatehouse.Limiter
