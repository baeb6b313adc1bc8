import Gatehouse.Config
import Gatehouse.Proofs.Binary64.Midpoint

/-!
The quota of a window is the product of rate and length, rounded down, but the product is a floating one. A whole
number is counted in full if the product of the rate and the seconds that the length is told as comes nearer to it than
to the value before it, so the quota may miss the exact one near whole products. It is exact for whole seconds and
wherever the product keeps away from whole numbers.
-/
namespace Gatehouse

namespace Binary64

theorem Stands.mul_comm {a b : Nat} {x y : Binary64} (first : Stands a x) (second : Stands b y) :
    x.mul y = y.mul x := by
  cases first with
  | finite =>
    cases second with
    | finite => rw [mul_finite, mul_finite, Nat.mul_comm]

end Binary64

namespace Duration
open Binary64

theorem told_near {d : Duration} (few : d.wholeSeconds < Nat.pow 2 53) {seconds part : ℚ}
    (exact : d.wholeSeconds + part = seconds) (fraction : d.subsecondNanos / 10 ^ 9 = part) :
    seconds - (seconds + part) / 2 ^ 53 ≤ d.told / unit ∧
      (d.told / unit : ℚ) ≤ seconds + (seconds + 2 * part) / 2 ^ 53 := by
  have nonneg : 0 ≤ part := by
    rw [← fraction]
    positivity
  obtain ⟨least, most⟩ := d.fraction_near
  have least' := le_cast_rounded Nat.one_pos
    (.inl (Nat.one_dvd (d.wholeSeconds * unit + rounded (d.subsecondNanos * unit) nanosPerSecond)))
  have most' := cast_rounded_le Nat.one_pos
    (.inl (Nat.one_dvd (d.wholeSeconds * unit + rounded (d.subsecondNanos * unit) nanosPerSecond)))
  have scale : (d.subsecondNanos * unit / 10 ^ 9 : ℚ) = part * unit := by
    rw [← fraction, div_mul_eq_mul_div]
  rw [Nat.cast_one, div_one, Nat.cast_add, Nat.cast_mul] at least' most'
  rw [scale] at least most
  rw [told, rounded_mul_unit few, le_div_iff₀ unit_pos', div_le_iff₀ unit_pos', ← exact]
  have positive := unit_pos'
  generalize (unit : ℚ) = u at *
  have small := mul_nonneg nonneg positive.le
  constructor
  · calc (d.wholeSeconds + part - (d.wholeSeconds + part + part) / 2 ^ 53) * u
        ≤ (d.wholeSeconds * u + part * u * shortfall) * shortfall := by
          rw [shortfall]
          linarith
      _ ≤ _ := mul_le_mul_of_nonneg_right (add_le_add_right least _) (by norm_num [shortfall])
      _ ≤ _ := least'
  · refine most'.trans ?_
    calc _ ≤ (d.wholeSeconds * u + part * u * excess) * excess :=
          mul_le_mul_of_nonneg_right (add_le_add_right most _) (by norm_num [excess])
      _ ≤ (d.wholeSeconds + part + (d.wholeSeconds + part + 2 * part) / 2 ^ 53) * u := by
          rw [excess]
          linarith

theorem told_of_whole {d : Duration} (few : d.wholeSeconds < Nat.pow 2 53) (whole : d.subsecondNanos = 0) :
    d.told = d.wholeSeconds * unit := by
  rw [told, whole, Nat.zero_mul, rounded_zero, Nat.add_zero, rounded_mul_unit few, rounded_mul_unit few]

end Duration

namespace Config.RateLimit
open Binary64

/-- The requests in a window as long as it is told, before any rounding of the product. -/
def requestsTold (r : RateLimit) : ℚ := r.requestsPerSecond * r.window.toSeconds.value

section
variable {r : RateLimit} (rate : r.requestsPerSecond < 2 ^ 32) (short : r.window ≤ .longest)
include rate short

theorem quota_eq :
    r.quota = Nat.min maxQuota (rounded (r.window.told * r.requestsPerSecond) 1 / unit) := by
  obtain ⟨told, most⟩ := r.window.stands_toSeconds short
  have few : r.requestsPerSecond < Nat.pow 2 53 := Nat.lt_trans rate (by decide)
  have range : InRange (r.window.told * r.requestsPerSecond) 1 := by
    refine @inRange_of_le _ 99 (by decide) ?_
    have powers : Nat.pow 2 99 = Nat.pow 2 67 * 2 ^ 32 := by decide
    rw [powers, Nat.mul_right_comm]
    exact Nat.mul_le_mul most rate.le
  have product := told.mul (stands_ofNat few) range
  rw [told.mul_comm (stands_ofNat few)] at product
  exact product.floorWithin maxQuota

/-- The quota reaches a number where the requests told round to it or beyond. -/
theorem le_quota_iff {k : Nat} (few : k ≤ 2 ^ 53) : k ≤ r.quota ↔ Reaches r.requestsTold k := by
  have within : k ≤ maxQuota := Nat.le_trans few (by decide)
  have told := (r.window.stands_toSeconds short).1.value
  have requests : ((r.window.told * r.requestsPerSecond : Nat) : ℚ) / unit = r.requestsTold := by
    rw [requestsTold, told, Nat.cast_mul, mul_comm, mul_div_assoc]
  rw [quota_eq rate short, ← requests, ← le_rounded_iff_reaches few, ← Nat.le_div_iff_mul_le unit_pos]
  exact ⟨fun le => Nat.le_trans le (Nat.min_le_right ..), fun le => Nat.le_min.mpr ⟨within, le⟩⟩

/-- What the requests told may miss: one part in `2 ^ 53`, and as much of the requests in the part of a second that
the window has. -/
theorem requestsTold_near (few : r.requestsPerSecond * r.window.nanos < 2 ^ 53 * 10 ^ 9) : ∃ part : ℚ,
    0 ≤ part ∧ part ≤ 2 ^ 32 ∧ part ≤ r.requestsPerSecond * r.window.nanos / 10 ^ 9 ∧
      r.requestsPerSecond * r.window.nanos / 10 ^ 9 -
        (r.requestsPerSecond * r.window.nanos / 10 ^ 9 + part) / 2 ^ 53 ≤ r.requestsTold ∧
      r.requestsTold ≤ r.requestsPerSecond * r.window.nanos / 10 ^ 9 +
        (r.requestsPerSecond * r.window.nanos / 10 ^ 9 + 2 * part) / 2 ^ 53 := by
  rcases Nat.eq_zero_or_pos r.requestsPerSecond with none | some
  · exact ⟨0, by simp [requestsTold, none]⟩
  · have seconds : r.window.wholeSeconds < Nat.pow 2 53 := by
      refine Nat.div_lt_of_lt_mul ?_
      have product := Nat.le_mul_of_pos_left r.window.nanos some
      simp only [Duration.nanosPerSecond, Nat.pow_eq]
      omega
    have split : Duration.nanosPerSecond * r.window.wholeSeconds + r.window.subsecondNanos = r.window.nanos :=
      Nat.div_add_mod ..
    have rest : r.window.subsecondNanos < Duration.nanosPerSecond := Nat.mod_lt _ (by decide)
    have parts : (r.window.wholeSeconds + r.window.subsecondNanos / 10 ^ 9 : ℚ) = r.window.nanos / 10 ^ 9 := by
      rw [← split, Duration.nanosPerSecond]
      push_cast
      ring
    have near := Duration.told_near seconds parts rfl
    have fraction : (0 : ℚ) ≤ r.window.subsecondNanos / 10 ^ 9 := by positivity
    have fraction' : (r.window.subsecondNanos / 10 ^ 9 : ℚ) ≤ 1 := by
      rw [div_le_one (by norm_num)]
      exact_mod_cast rest.le
    have whole : (0 : ℚ) ≤ r.window.wholeSeconds := Nat.cast_nonneg _
    have perSecond : (0 : ℚ) ≤ r.requestsPerSecond := Nat.cast_nonneg _
    have perSecond' : (r.requestsPerSecond : ℚ) ≤ 2 ^ 32 := by exact_mod_cast rate.le
    rw [← (r.window.stands_toSeconds short).1.value] at near
    rw [requestsTold, mul_div_assoc]
    generalize (r.requestsPerSecond : ℚ) = a, (r.window.nanos / 10 ^ 9 : ℚ) = s,
      (r.window.subsecondNanos / 10 ^ 9 : ℚ) = f, (r.window.wholeSeconds : ℚ) = w at *
    refine ⟨a * f, mul_nonneg perSecond fraction, ?_, mul_le_mul_of_nonneg_left (by linarith) perSecond, ?_, ?_⟩
    · calc a * f ≤ 2 ^ 32 * 1 := mul_le_mul perSecond' fraction' fraction (by norm_num)
        _ = 2 ^ 32 := mul_one _
    · have least := mul_le_mul_of_nonneg_left near.1 perSecond
      linarith
    · have most := mul_le_mul_of_nonneg_left near.2 perSecond
      linarith

end

def exactQuota (r : RateLimit) : Nat := r.requestsPerSecond * r.window.nanos / 10 ^ 9

/-- The part of a request that rounding down leaves off, in billionths. -/
def leftOff (r : RateLimit) : Nat := r.requestsPerSecond * r.window.nanos % 10 ^ 9

theorem exactQuota_add (r : RateLimit) :
    (r.exactQuota + r.leftOff / 10 ^ 9 : ℚ) = r.requestsPerSecond * r.window.nanos / 10 ^ 9 := by
  have split : 10 ^ 9 * r.exactQuota + r.leftOff = r.requestsPerSecond * r.window.nanos := Nat.div_add_mod ..
  have split' : (10 ^ 9 * r.exactQuota + r.leftOff : ℚ) = r.requestsPerSecond * r.window.nanos := by
    exact_mod_cast split
  linarith

theorem leftOff_lt (r : RateLimit) : (r.leftOff / 10 ^ 9 : ℚ) < 1 := by
  have less : r.leftOff < 10 ^ 9 := Nat.mod_lt _ (by decide)
  rw [div_lt_one (by norm_num)]
  exact_mod_cast less

theorem exactQuota_lt {r : RateLimit} (few : r.requestsPerSecond * r.window.nanos < 2 ^ 53 * 10 ^ 9) :
    r.exactQuota < 2 ^ 53 := Nat.div_lt_of_lt_mul (Nat.mul_comm .. ▸ few)

section
variable {r : RateLimit} (rate : r.requestsPerSecond < 2 ^ 32) (short : r.window ≤ .longest)
  (few : r.requestsPerSecond * r.window.nanos < 2 ^ 53 * 10 ^ 9)
include rate short few

theorem quota_eq_iff : r.quota = r.exactQuota ↔
    Reaches r.requestsTold r.exactQuota ∧ ¬Reaches r.requestsTold (r.exactQuota + 1) := by
  have less := exactQuota_lt few
  rw [← le_quota_iff rate short less.le, ← le_quota_iff rate short less]
  omega

/-- At most one request is lost. -/
theorem exactQuota_le_quota : r.exactQuota ≤ r.quota + 1 := by
  have less := exactQuota_lt few
  rcases Nat.eq_zero_or_pos r.exactQuota with none | some
  · omega
  · obtain ⟨k, next⟩ := Nat.exists_eq_add_of_lt some
    rw [Nat.zero_add] at next
    rw [next, Nat.add_le_add_iff_right, le_quota_iff rate short (by omega)]
    obtain ⟨part, -, most, -, least, -⟩ := requestsTold_near rate short few
    have split := r.exactQuota_add
    have rest : (0 : ℚ) ≤ r.leftOff / 10 ^ 9 := by positivity
    have step := le_halfStep k
    have next' : (r.exactQuota : ℚ) = k + 1 := by exact_mod_cast next
    have less' : (r.exactQuota : ℚ) < 2 ^ 53 := by exact_mod_cast less
    have rest' := r.leftOff_lt
    rw [next'] at split less'
    rw [← split] at least
    refine .inl ?_
    linarith

/-- At most two requests are gained. -/
theorem quota_le_exactQuota (within : r.exactQuota + 3 ≤ 2 ^ 53) : r.quota ≤ r.exactQuota + 2 := by
  refine Nat.le_of_lt_succ (Nat.lt_of_not_le fun more => ?_)
  obtain ⟨part, -, most, -, -, greatest⟩ := requestsTold_near rate short few
  have step := halfStep_le_half within
  have split := r.exactQuota_add
  have rest := r.leftOff_lt
  have within' : (r.exactQuota + 3 : ℚ) ≤ 2 ^ 53 := by exact_mod_cast within
  refine not_reaches ?_ ((le_quota_iff rate short within).mp more)
  rw [← split] at greatest
  push_cast
  linarith

/-- The quota is exact where the product keeps one part in `2 ^ 50` away from whole numbers. -/
theorem quota_eq_of_apart (above : r.requestsPerSecond * r.window.nanos ≤ 2 ^ 50 * r.leftOff)
    (below : r.requestsPerSecond * r.window.nanos ≤ 2 ^ 50 * (10 ^ 9 - r.leftOff)) : r.quota = r.exactQuota := by
  obtain ⟨part, nonneg, -, most, least, greatest⟩ := requestsTold_near rate short few
  have split := r.exactQuota_add
  have rest := r.leftOff_lt
  refine (quota_eq_iff rate short few).mpr ⟨.inl ?_, not_reaches ?_⟩
  · have step := halfStep_pos r.exactQuota
    have above' : (r.requestsPerSecond * r.window.nanos : ℚ) ≤ 2 ^ 50 * r.leftOff := by exact_mod_cast above
    linarith
  · have step := halfStep_le (Nat.succ_pos r.exactQuota)
    have less : r.leftOff ≤ 10 ^ 9 := (Nat.mod_lt _ (by decide)).le
    have below' : (r.requestsPerSecond * r.window.nanos : ℚ) ≤ 2 ^ 50 * (10 ^ 9 - r.leftOff) := by
      have cast : ((10 ^ 9 - r.leftOff : Nat) : ℚ) = 10 ^ 9 - r.leftOff := by
        rw [Nat.cast_sub less]
        norm_num
      rw [← cast]
      exact_mod_cast below
    push_cast at step ⊢
    linarith

/-- The quota of whole seconds is exact. -/
theorem quota_eq_of_whole (whole : 10 ^ 9 ∣ r.window.nanos) : r.quota = r.exactQuota := by
  have less := exactQuota_lt few
  obtain ⟨seconds, same⟩ := whole
  have product : r.exactQuota = seconds * r.requestsPerSecond := by
    rw [exactQuota, same, Nat.mul_left_comm, Nat.mul_div_cancel_left _ (by decide), Nat.mul_comm]
  have within : r.exactQuota ≤ maxQuota := Nat.le_trans less.le (by decide)
  have rounds : rounded (r.window.told * r.requestsPerSecond) 1 = r.exactQuota * unit := by
    rcases Nat.eq_zero_or_pos r.requestsPerSecond with none | some
    · rw [product, none, Nat.mul_zero, Nat.mul_zero, Nat.zero_mul, rounded_zero]
    · have told : r.window.wholeSeconds = seconds := by
        rw [Duration.wholeSeconds, same]
        exact Nat.mul_div_cancel_left _ (by decide)
      have rest : r.window.subsecondNanos = 0 := by
        rw [Duration.subsecondNanos, same]
        exact Nat.mul_mod_right ..
      have most : r.window.wholeSeconds < Nat.pow 2 53 := by
        rw [told]
        exact Nat.lt_of_le_of_lt (Nat.le_mul_of_pos_right _ some) (product ▸ less)
      rw [Duration.told_of_whole most rest, told, Nat.mul_right_comm, ← product, rounded_mul_unit less]
  rw [quota_eq rate short, rounds, Nat.mul_div_cancel _ unit_pos]
  exact Nat.min_eq_right within

/-- For products below `2 ^ 53` requests the quota is the exact one if and only if the requests told round to that and
not to the next. It is so for whole seconds, and where the product keeps one part in `2 ^ 50` away from whole numbers;
otherwise at most one request is lost and at most two are gained. -/
theorem quota_decided_by_requests_told : (r.quota = r.exactQuota ↔
      Reaches r.requestsTold r.exactQuota ∧ ¬Reaches r.requestsTold (r.exactQuota + 1)) ∧
    (10 ^ 9 ∣ r.window.nanos → r.quota = r.exactQuota) ∧
    (r.requestsPerSecond * r.window.nanos ≤ 2 ^ 50 * r.leftOff →
      r.requestsPerSecond * r.window.nanos ≤ 2 ^ 50 * (10 ^ 9 - r.leftOff) → r.quota = r.exactQuota) ∧
    r.exactQuota ≤ r.quota + 1 ∧ (r.exactQuota + 3 ≤ 2 ^ 53 → r.quota ≤ r.exactQuota + 2) :=
  ⟨quota_eq_iff rate short few, quota_eq_of_whole rate short few, quota_eq_of_apart rate short few,
    exactQuota_le_quota rate short few, quota_le_exactQuota rate short few⟩

end

/-- 25 requests per second come to 37 and a half in one and a half seconds. -/
theorem quota_between_whole_numbers :
    let limit : RateLimit := { requestsPerSecond := 25, window := .ofMillis 1500 }
    limit.requestsPerSecond < 2 ^ 32 ∧ limit.window ≤ .longest ∧ limit.quota = limit.exactQuota ∧
      limit.exactQuota = 37 := by
  intro limit
  have rate : limit.requestsPerSecond < 2 ^ 32 := by decide
  have short : limit.window ≤ .longest := by decide
  have decided := quota_decided_by_requests_told rate short (by decide)
  exact ⟨rate, short, decided.2.2.1 (by decide) (by decide), by decide⟩

/-- A hundred requests per second are 29 in 290 milliseconds, of which one is lost. -/
theorem quota_loses_a_request :
    let limit : RateLimit := { requestsPerSecond := 100, window := .ofMillis 290 }
    limit.window ≤ .longest ∧ limit.requestsPerSecond * limit.window.nanos < 2 ^ 53 * 10 ^ 9 ∧
      limit.exactQuota = 29 ∧ limit.quota = 28 := by
  decide +kernel

end Config.RateLimit
end Gatehouse
