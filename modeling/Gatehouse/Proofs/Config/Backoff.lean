import Gatehouse.Proofs.Binary64.Order
import Gatehouse.Proofs.Config.Usability

/-!
Pauses between retries. The pause grows with the exponent of an attempt, up to the longest interval: rounding keeps
the order of the powers, of their products and of the nanoseconds next to them. The exponent grows with the number of
the attempt, but is kept in 32 signed bits, so it is negative for the attempts after number `2 ^ 31`, and the pauses
begin anew from next to nothing.
-/
namespace Gatehouse

namespace Binary64

theorem divEven_add {k c den : Nat} (less : 2 * c < den) : divEven (k * den + c) den = k := by
  rw [divEven_mul_add (by omega), if_pos less]

theorem divEven_le_of_lt {num den k : Nat} (less : 2 * num < (2 * k + 1) * den) : divEven num den ≤ k := by
  have positive : 0 < den := Nat.pos_of_mul_pos_left (Nat.zero_lt_of_lt less)
  have near := @divEven_le num den positive
  by_contra more
  have next : (k + 1) * den ≤ divEven num den * den := Nat.mul_le_mul_right den (Nat.lt_of_not_le more)
  have split : (2 * k + 1) * den + den = 2 * ((k + 1) * den) := by ring
  omega

theorem rounded_add_fraction {k c : Nat} (large : Nat.pow 2 53 * unit ≤ k) (less : c < unit) :
    rounded (rounded k 1 + c) 1 = rounded k 1 := by
  obtain ⟨n, -, same⟩ := unit_pow
  rw [same] at large less
  have twice : Nat.pow 2 (n + 1) = 2 * Nat.pow 2 n := Nat.pow_succ'
  have large' : Nat.pow 2 (52 + (n + 1)) ≤ k := by
    rwa [show 52 + (n + 1) = 53 + n by omega, show Nat.pow 2 (53 + n) = _ from Nat.pow_add ..]
  obtain ⟨m, e, most, few, whole⟩ := @rounded_digits k 1 Nat.one_pos
  have step : Nat.pow 2 (n + 1) ≤ Nat.pow 2 e :=
    Nat.pow_le_pow_right Nat.two_pos (Nat.le_trans (le_exponentOf large') most)
  obtain ⟨p, exponent⟩ : ∃ p, exponentOf (rounded k 1 + c) 1 = p := ⟨_, rfl⟩
  have least : n + 1 ≤ p := by
    refine exponent ▸ le_exponentOf (Nat.le_trans ?_ (Nat.le_add_right ..))
    exact pow_le_rounded Nat.one_pos (by omega) (by rwa [Nat.mul_one])
  have most' : p ≤ e := by
    refine exponent ▸ exponentOf_le ?_
    calc rounded k 1 + c < (m + 1) * Nat.pow 2 e := by
          rw [whole, Nat.succ_mul]
          omega
      _ ≤ Nat.pow 2 53 * Nat.pow 2 e := Nat.mul_le_mul_right _ few
      _ = Nat.pow 2 (53 + e) := (Nat.pow_add ..).symm
  have step' : Nat.pow 2 (n + 1) ≤ Nat.pow 2 p := Nat.pow_le_pow_right Nat.two_pos least
  obtain ⟨q, grid⟩ : Nat.pow 2 p ∣ rounded k 1 :=
    Nat.dvd_trans (Nat.pow_dvd_pow 2 most') ⟨m, whole.trans (Nat.mul_comm ..)⟩
  have near : divEven (q * Nat.pow 2 p + c) (Nat.pow 2 p) = q := divEven_add (by omega)
  rw [Nat.mul_comm, ← grid] at near
  conv => lhs; rw [rounded, exponent, Nat.one_mul, near, Nat.mul_comm, ← grid]

end Binary64

namespace Duration
open Binary64

variable {d : Duration} {u : Nat}

theorem nearest_le_of_lt_told (digits : rounded u 1 = u) (less : u < d.told) :
    divEven (u * nanosPerSecond) unit ≤ d.nanos := by
  have parts : nanosPerSecond * d.wholeSeconds + d.subsecondNanos = d.nanos := Nat.div_add_mod ..
  have rest : d.subsecondNanos < nanosPerSecond := Nat.mod_lt _ (by decide)
  have part : d.subsecondNanos * unit ≤ (nanosPerSecond - 1) * unit := Nat.mul_le_mul_right unit (by omega)
  have fraction := rounded_le (by decide) d.fraction_fine
  have bound : (2 * d.nanos + 1) * unit =
      2 * (d.wholeSeconds * unit * nanosPerSecond) + 2 * (d.subsecondNanos * unit) + unit := by
    rw [← parts]
    ring
  refine divEven_le_of_lt ?_
  rw [bound]
  rcases Nat.lt_or_ge d.wholeSeconds (Nat.pow 2 53) with few | many
  · have below : u < d.wholeSeconds * unit + rounded (d.subsecondNanos * unit) nanosPerSecond := by
      by_contra more
      refine absurd less (Nat.not_lt.mpr ?_)
      rw [told, rounded_mul_unit few, ← digits]
      exact rounded_mono Nat.one_pos (Nat.le_of_not_lt more)
    simp only [nanosPerSecond] at *
    omega
  · have second : rounded (d.subsecondNanos * unit) nanosPerSecond < unit := by
      have positive := unit_pos
      simp only [nanosPerSecond] at *
      omega
    have below : u < d.wholeSeconds * unit := by
      by_contra more
      refine absurd less (Nat.not_lt.mpr ?_)
      rw [told, rounded_add_fraction (Nat.mul_le_mul_right unit many) second, ← digits]
      exact rounded_mono Nat.one_pos (Nat.le_of_not_lt more)
    simp only [nanosPerSecond] at *
    omega

end Duration

namespace Config.Retry
open Binary64

def pauseOf (r : Retry) (secs : Binary64) : Duration :=
  if !secs.isFinite || r.maxInterval.toSeconds.le secs then r.maxInterval
  else (Duration.ofFloatSeconds? (secs.max Binary64.zero)).getD r.maxInterval

/-- The seconds of the pause after an attempt, before it is cut off. -/
def seconds (r : Retry) (attempt : Nat) : Binary64 :=
  r.initialInterval.toSeconds.mul (r.multiplier.pow (exponent attempt))

theorem backoff_eq (r : Retry) (attempt : Nat) : r.backoff attempt = r.pauseOf (r.seconds attempt) := rfl

section
variable {r : Retry} (short : r.maxInterval ≤ .longest)

theorem pauseOf_of_not_finite {secs : Binary64} (other : secs.isFinite = false) : r.pauseOf secs = r.maxInterval := by
  simp [pauseOf, other]

theorem max_zero (m p : Nat) : ∃ n q, (finite false m p).max zero = finite false n q ∧ units n q = units m p := by
  by_cases none : (finite false m p).le zero = true
  · refine ⟨0, 0, if_pos none, ?_⟩
    have order : units m p ≤ units 0 0 := le_finite.mp none
    have zeros : units 0 0 = 0 := rfl
    omega
  · exact ⟨m, p, if_neg none, rfl⟩

include short

theorem cut_iff {m p : Nat} :
    r.maxInterval.toSeconds.le (.finite false m p) = true ↔ r.maxInterval.told ≤ units m p := by
  have stands := (r.maxInterval.stands_toSeconds short).1
  generalize r.maxInterval.toSeconds = longest at stands
  cases stands with
  | finite _ _ whole => rw [← whole, le_finite]

/-- A number of seconds is cut off, or it has a pause of its own, which is no longer than the longest interval. -/
theorem pauseOf_finite {m p : Nat} (digits : rounded (units m p) 1 = units m p) :
    (r.maxInterval.told ≤ units m p ∧ r.pauseOf (.finite false m p) = r.maxInterval) ∨
      (units m p < r.maxInterval.told ∧ ∃ d, Duration.ofFloatSeconds? ((finite false m p).max zero) = some d ∧
        d.nanos = divEven (units m p * Duration.nanosPerSecond) unit ∧ r.pauseOf (.finite false m p) = d ∧
          d ≤ r.maxInterval) := by
  rcases Nat.lt_or_ge (units m p) r.maxInterval.told with less | more
  · obtain ⟨nanos, near⟩ : ∃ nanos, divEven (units m p * Duration.nanosPerSecond) unit = nanos := ⟨_, rfl⟩
    have within : nanos ≤ r.maxInterval.nanos := near ▸ Duration.nearest_le_of_lt_told digits less
    obtain ⟨n, q, same, whole⟩ := max_zero m p
    have found : Duration.ofFloatSeconds? ((finite false m p).max zero) = some ⟨nanos⟩ := by
      rw [same, Duration.ofFloatSeconds?, whole, near]
      exact if_pos (Nat.le_trans within short)
    have uncut : r.maxInterval.toSeconds.le (.finite false m p) = false := by
      rw [Bool.eq_false_iff, Ne, cut_iff short]
      exact Nat.not_le.mpr less
    refine .inr ⟨less, ⟨nanos⟩, found, near.symm, ?_, within⟩
    simp only [pauseOf, isFinite, uncut, Bool.not_true, Bool.or_self, Bool.false_eq_true, if_false, found,
      Option.getD_some]
  · refine .inl ⟨more, ?_⟩
    simp only [pauseOf, (cut_iff short).mpr more, Bool.or_true, if_true]

theorem pauseOf_mul_le {init x : Binary64} (nonneg : AtLeast 0 init) (nonneg' : AtLeast 0 x) :
    r.pauseOf (init.mul x) ≤ r.maxInterval := by
  rcases mul_cases nonneg nonneg' with other | ⟨m, p, same, digits⟩
  · exact Duration.le_def.mpr (Nat.le_of_eq (congrArg _ (pauseOf_of_not_finite other)))
  · rw [same]
    rcases pauseOf_finite short digits with ⟨-, longest⟩ | ⟨-, d, -, -, own, within⟩
    · exact Duration.le_def.mpr (Nat.le_of_eq (congrArg _ longest))
    · rw [own]
      exact within

theorem pauseOf_upTo {m p n q : Nat} (digits : rounded (units m p) 1 = units m p)
    (digits' : rounded (units n q) 1 = units n q) (upTo : UpTo (.finite false m p) (.finite false n q))
    (below : r.pauseOf (.finite false m p) ≤ r.maxInterval) :
    r.pauseOf (.finite false m p) ≤ r.pauseOf (.finite false n q) := by
  cases upTo with
  | finite le =>
    rcases pauseOf_finite short digits' with ⟨-, longest⟩ | ⟨less', d', -, nanos', same', -⟩
    · rw [longest]
      exact below
    · rcases pauseOf_finite short digits with ⟨more, -⟩ | ⟨-, d, -, nanos, same, -⟩
      · omega
      · rw [same, same', Duration.le_def, nanos, nanos']
        exact divEven_mono unit_pos (Nat.mul_le_mul_right _ le)

theorem pauseOf_mono {init : Binary64} (nonneg : AtLeast 0 init) {x y : Binary64} (upTo : UpTo x y) :
    r.pauseOf (init.mul x) ≤ r.pauseOf (init.mul y) := by
  have below := pauseOf_mul_le short nonneg upTo.nonneg.1
  rcases mul_cases nonneg upTo.nonneg.2 with other | ⟨n, q, same', digits'⟩
  · rwa [pauseOf_of_not_finite other]
  · have order := upTo.mul_left nonneg (same' ▸ rfl)
    rcases mul_cases nonneg upTo.nonneg.1 with other | ⟨m, p, same, digits⟩
    · rw [same'] at order
      generalize init.mul x = secs at order other
      cases order
      cases other
    · rw [same, same'] at order
      rw [same] at below
      rw [same, same']
      exact pauseOf_upTo short digits digits' order below

end

theorem exponent_eq {attempt : Nat} (word : attempt < 2 ^ 32) :
    exponent attempt =
      if attempt ≤ 2 ^ 31 then ((attempt - 1 : Nat) : Int) else ((attempt - 1 : Nat) : Int) - 2 ^ 32 := by
  have modulus : exponent attempt = ((attempt - 1 : Nat) : Int).bmod 4294967296 := rfl
  have half : (2 : Nat) ^ 31 = 2147483648 := by norm_num
  have whole : (2 : Nat) ^ 32 = 4294967296 := by norm_num
  have whole' : (2 : Int) ^ 32 = 4294967296 := by norm_num
  rw [whole] at word
  rw [modulus, Int.bmod_def, half, whole']
  split <;> split <;> omega

theorem one_upTo_multiplier {c : Config} (sane : c.Sane) : UpTo one c.retry.multiplier := by
  obtain ⟨finite, least⟩ := sane.multiplier
  obtain ⟨n, q, same, whole⟩ := exact_one
  rw [same] at least ⊢
  generalize c.retry.multiplier = x at finite least
  have order : x.le (.finite false n q) = true → (Binary64.finite false n q).le x = true := by simpa [lt] using least
  cases x with
  | nan => cases finite
  | infinity => cases finite
  | finite s m p =>
    cases s with
    | false =>
      refine .finite (Nat.le_of_not_lt fun less => ?_)
      exact absurd (le_finite.mp (order (le_finite.mpr less.le))) (Nat.not_le.mpr less)
    | true =>
      have positive := unit_pos
      simp only [le, signedUnits, if_true, Bool.false_eq_true, if_false, decide_eq_true_eq, whole] at order
      omega

/-- The seconds of an attempt are cut off, or there is a span next to them, and that is the pause. -/
def Found (r : Retry) (attempt : Nat) : Prop :=
  (r.seconds attempt).isFinite = true → r.maxInterval.toSeconds.le (r.seconds attempt) = false →
    ∃ d, Duration.ofFloatSeconds? ((r.seconds attempt).max zero) = some d ∧ r.backoff attempt = d

/-- The pause grows with the attempts up to number `2 ^ 31`, and with those after it; but none after it is longer than
one before. -/
theorem backoff_ascends_in_halves {c : Config} (accepted : c.fault? = none) (short : c.retry.maxInterval ≤ .longest)
    {a b : Nat} (le : a ≤ b) (word : b < 2 ^ 32) :
    ((b ≤ 2 ^ 31 ∨ 2 ^ 31 < a) → c.retry.backoff a ≤ c.retry.backoff b) ∧
      (a ≤ 2 ^ 31 → 2 ^ 31 < b → c.retry.backoff b ≤ c.retry.backoff a) ∧
      c.retry.Found a ∧ c.retry.backoff a ≤ c.retry.maxInterval := by
  have base := one_upTo_multiplier (fault?_eq_none_iff.mp accepted)
  have init : AtLeast 0 c.retry.initialInterval.toSeconds :=
    (Duration.atLeast_toSeconds _).mono (mul_nonneg (by positivity) (pow_nonneg remnant_pos.le 2))
  have grows {n k : Nat} (le : exponent n ≤ exponent k) : c.retry.backoff n ≤ c.retry.backoff k :=
    pauseOf_mono short init (pow_mono base le)
  have power : AtLeast 0 (c.retry.multiplier.pow (exponent a)) := (pow_mono base (Int.le_refl _)).nonneg.1
  have first := exponent_eq (Nat.lt_of_le_of_lt le word)
  have second := exponent_eq word
  refine ⟨fun half => grows ?_, fun early late => grows ?_, ?_, pauseOf_mul_le short init power⟩
  · rw [first, second]
    split <;> split <;> omega
  · rw [first, second, if_pos early, if_neg (Nat.not_le.mpr late)]
    omega
  · intro finite uncut
    rcases mul_cases init power with other | ⟨m, p, same, digits⟩
    · cases other.symm.trans finite
    · rw [backoff_eq]
      rw [seconds, same] at uncut ⊢
      rcases pauseOf_finite short digits with ⟨more, -⟩ | ⟨-, d, found, -, own, -⟩
      · cases ((cut_iff short).mpr more).symm.trans uncut
      · exact ⟨d, found, own⟩

/-- With the default settings the pause grows from the third attempt to the last before the exponent is negative. The
one after that does not exceed it. -/
theorem backoff_ascends_by_default :
    let c : Config := {}
    c.fault? = none ∧ c.retry.backoff 3 = .ofMillis 400 ∧ c.retry.backoff 3 ≤ c.retry.backoff (2 ^ 31) ∧
      c.retry.backoff (2 ^ 31 + 1) ≤ c.retry.backoff 3 := by
  intro c
  have accepted : c.fault? = none := by decide +kernel
  have short : c.retry.maxInterval ≤ .longest := by decide
  have third : c.retry.backoff 3 = .ofMillis 400 := by decide +kernel
  refine ⟨accepted, third, ?_, ?_⟩
  · exact (backoff_ascends_in_halves accepted short (by norm_num) (by norm_num)).1 (.inl le_rfl)
  · exact (backoff_ascends_in_halves accepted short (by norm_num) (by norm_num)).2.1 (by norm_num) (by norm_num)

/-- After the longest pause there is one of no time at all. -/
theorem backoff_falls_to_nothing :
    let c : Config := {}
    c.fault? = none ∧ ¬ c.retry.backoff (2 ^ 31) ≤ c.retry.backoff (2 ^ 31 + 1) := by
  decide +kernel

end Config.Retry
end Gatehouse
