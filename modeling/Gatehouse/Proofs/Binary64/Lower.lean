import Gatehouse.Duration
import Mathlib.Algebra.Order.Field.Rat
import Mathlib.Tactic.FieldSimp
import Mathlib.Tactic.Linarith
import Mathlib.Tactic.Positivity
import Mathlib.Tactic.Ring

/-!
Lower bounds of floating results. A rounding loses at most one part in `2 ^ 52` of a positive number, and
nothing of it if it is a whole number of units below `2 ^ 53`. All bounds are one-sided: an overflow to
infinity keeps them.
-/
namespace Gatehouse.Binary64

theorem unit_pow : ∃ n, n = 1074 ∧ unit = Nat.pow 2 n := ⟨_, rfl, unit.eq_1⟩

theorem unit_pos : 0 < unit := by
  obtain ⟨n, -, unit⟩ := unit_pow
  rw [unit]
  exact Nat.two_pow_pos n

theorem pow_le_unit {k : Nat} (few : k ≤ 1074) : (2 : ℚ) ^ k ≤ unit := by
  obtain ⟨n, many, unit⟩ := unit_pow
  rw [unit]
  exact_mod_cast Nat.pow_le_pow_right Nat.two_pos (many ▸ few)

theorem div_le_divEven (num den : Nat) : num / den ≤ divEven num den := by
  unfold divEven
  dsimp only
  split
  · exact Nat.le_refl _
  · split
    · exact Nat.le_succ _
    · split <;> omega

theorem le_divEven {num den : Nat} (positive : 0 < den) : 2 * num ≤ (2 * divEven num den + 1) * den := by
  have parts := Nat.div_add_mod num den
  have rest := Nat.mod_lt num positive
  have split : (2 * (num / den) + 1) * den = 2 * (den * (num / den)) + den := by ring
  have more : (2 * (num / den + 1) + 1) * den = 2 * (den * (num / den)) + 3 * den := by ring
  unfold divEven
  dsimp only
  split
  · omega
  · split
    · omega
    · split <;> omega

theorem divEven_of_dvd {num den : Nat} (positive : 0 < den) (whole : den ∣ num) : divEven num den = num / den := by
  have rest : num % den = 0 := Nat.mod_eq_zero_of_dvd whole
  simp [divEven, rest, positive]

/-- The magnitude of a rounded quotient, before it is cut off. -/
def rounded (num den : Nat) : Nat :=
  divEven num (den * Nat.pow 2 (exponentOf num den)) * Nat.pow 2 (exponentOf num den)

theorem roundUnits_eq (negative : Bool) (num den : Nat) :
    roundUnits negative num den = infinity negative ∧ 2045 ≤ exponentOf num den ∨
      ∃ m p, roundUnits negative num den = finite negative m p ∧ units m p = rounded num den := by
  have carry : units (Nat.pow 2 52) (exponentOf num den + 1) =
      Nat.pow 2 53 * Nat.pow 2 (exponentOf num den) := by
    simp only [units, Nat.pow_eq]
    rw [Nat.pow_succ]
    ring
  unfold roundUnits rounded
  dsimp only
  by_cases full : divEven num (den * Nat.pow 2 (exponentOf num den)) = Nat.pow 2 53
  · simp only [full, if_true]
    split
    next => exact .inr ⟨_, _, rfl, carry⟩
    next beyond => exact .inl ⟨rfl, by omega⟩
  · simp only [full, if_false]
    split
    next => exact .inr ⟨_, _, rfl, rfl⟩
    next beyond => exact .inl ⟨rfl, by omega⟩

theorem rounded_mul_den (num den : Nat) : rounded num den * den =
    divEven num (den * Nat.pow 2 (exponentOf num den)) * (den * Nat.pow 2 (exponentOf num den)) := by
  unfold rounded
  ring

section
variable {num den : Nat} (positive : 0 < den)
include positive

theorem pow_exponent_le (large : 2 ^ 52 * den ≤ num) : 2 ^ 52 * Nat.pow 2 (exponentOf num den) * den ≤ num := by
  have whole : 2 ^ 52 ≤ num / den := (Nat.le_div_iff_mul_le positive).mpr large
  have digits : 52 ≤ Nat.log2 (num / den) := (Nat.le_log2 (by omega)).mpr whole
  have most : Nat.pow 2 (Nat.log2 (num / den)) ≤ num / den := Nat.log2_self_le (by omega)
  have split : 2 ^ 52 * Nat.pow 2 (exponentOf num den) = Nat.pow 2 (Nat.log2 (num / den)) := by
    simp only [Nat.pow_eq, exponentOf]
    rw [← Nat.pow_add]
    congr 1
    omega
  rw [split]
  exact (Nat.le_div_iff_mul_le positive).mp most

theorem exponentOf_eq_zero (small : num < 2 ^ 52 * den) : exponentOf num den = 0 := by
  have few : num / den < 2 ^ 52 := (Nat.div_lt_iff_lt_mul positive).mpr small
  by_cases none : num / den = 0
  · simp [exponentOf, none]
  · have digits := (Nat.log2_lt none).mpr few
    simp only [exponentOf]
    omega

theorem rounded_whole (whole : den * Nat.pow 2 (exponentOf num den) ∣ num) : rounded num den * den = num := by
  have scaled : 0 < den * Nat.pow 2 (exponentOf num den) := Nat.mul_pos positive (Nat.two_pow_pos _)
  rw [rounded, divEven_of_dvd scaled whole, Nat.mul_assoc, Nat.mul_comm _ den, Nat.div_mul_cancel whole]

theorem rounded_fine (fine : den ∣ num ∨ 2 ^ 52 * den ≤ num) (small : ¬2 ^ 52 * den ≤ num) :
    rounded num den * den = num := by
  have whole := fine.resolve_right small
  have exponent : exponentOf num den = 0 := exponentOf_eq_zero positive (Nat.lt_of_not_le small)
  have one : Nat.pow 2 0 = 1 := rfl
  exact rounded_whole positive (by rwa [exponent, one, Nat.mul_one])

/-- What rounding takes from a quotient that is whole or large: one part in `2 ^ 53` at most. -/
theorem le_rounded_add (fine : den ∣ num ∨ 2 ^ 52 * den ≤ num) :
    num * 2 ^ 53 ≤ rounded num den * den * 2 ^ 53 + num := by
  by_cases large : 2 ^ 52 * den ≤ num
  · have near := @le_divEven num (den * Nat.pow 2 (exponentOf num den)) (Nat.mul_pos positive (Nat.two_pow_pos _))
    have step := pow_exponent_le positive large
    rw [Nat.add_mul, Nat.mul_assoc 2, ← rounded_mul_den] at near
    rw [Nat.mul_right_comm, Nat.mul_assoc] at step
    omega
  · rw [rounded_fine positive fine large]
    omega

theorem rounded_ge (fine : den ∣ num ∨ 2 ^ 52 * den ≤ num) :
    num * 2 ^ 52 ≤ rounded num den * den * 2 ^ 52 + num := by
  have bound := le_rounded_add positive fine
  rw [Nat.pow_succ, ← Nat.mul_assoc, ← Nat.mul_assoc] at bound
  omega

theorem pow_le_rounded {k : Nat} (digits : 52 ≤ k) (large : Nat.pow 2 k * den ≤ num) :
    Nat.pow 2 k ≤ rounded num den := by
  have many : 2 ^ 52 * den ≤ num := by
    refine Nat.le_trans (Nat.mul_le_mul_right den ?_) large
    exact Nat.pow_le_pow_right (by omega) digits
  have whole : Nat.pow 2 k ≤ num / den := (Nat.le_div_iff_mul_le positive).mpr large
  have some : num / den ≠ 0 := Nat.ne_of_gt (Nat.lt_of_lt_of_le (Nat.two_pow_pos k) whole)
  have most : k ≤ Nat.log2 (num / den) := (Nat.le_log2 some).mpr whole
  have step := pow_exponent_le positive many
  have significand : 2 ^ 52 ≤ num / (den * Nat.pow 2 (exponentOf num den)) := by
    refine (Nat.le_div_iff_mul_le (Nat.mul_pos positive (Nat.two_pow_pos _))).mpr ?_
    rw [Nat.mul_comm den, ← Nat.mul_assoc]
    exact step
  calc Nat.pow 2 k ≤ Nat.pow 2 (52 + exponentOf num den) :=
        Nat.pow_le_pow_right (by omega) (by simp only [exponentOf]; omega)
    _ = 2 ^ 52 * Nat.pow 2 (exponentOf num den) := Nat.pow_add ..
    _ ≤ rounded num den :=
        Nat.mul_le_mul_right _ (Nat.le_trans significand (div_le_divEven ..))

theorem unit_le_rounded (large : unit * den ≤ num) : unit ≤ rounded num den := by
  obtain ⟨n, many, unit⟩ := unit_pow
  rw [unit] at large ⊢
  exact pow_le_rounded positive (by omega) large

end

def number (m p : Nat) : ℚ := units m p / unit

/-- The number that a value stands for, if it is finite. -/
def value : Binary64 → ℚ
  | finite false m p => number m p
  | finite true m p => -number m p
  | _ => 0

/-- A value is nonnegative and no less than a number. -/
inductive AtLeast (q : ℚ) : Binary64 → Prop
  | finite {m p : Nat} (bound : q ≤ number m p) : AtLeast q (.finite false m p)
  | infinity : AtLeast q (.infinity false)

def Exact (k : Nat) (x : Binary64) : Prop := ∃ m p, x = finite false m p ∧ units m p = k * unit

/-- The part of a number that a rounding leaves at least. -/
def remnant : ℚ := 1 - 1 / 2 ^ 52

theorem remnant_pos : 0 < remnant := by norm_num [remnant]

theorem AtLeast.mono {q q' : ℚ} {x : Binary64} (atLeast : AtLeast q x) (le : q' ≤ q) : AtLeast q' x := by
  cases atLeast with
  | finite bound => exact .finite (le_trans le bound)
  | infinity => exact .infinity

theorem Exact.number {k : Nat} {x : Binary64} (exact : Exact k x) :
    ∃ m p, x = finite false m p ∧ number m p = k := by
  obtain ⟨m, p, rfl, units⟩ := exact
  have positive : (unit : ℚ) ≠ 0 := by exact_mod_cast unit_pos.ne'
  refine ⟨m, p, rfl, ?_⟩
  rw [Binary64.number, units]
  push_cast
  field_simp

theorem Exact.atLeast {k : Nat} {x : Binary64} (exact : Exact k x) : AtLeast k x := by
  obtain ⟨m, p, rfl, same⟩ := exact.number
  exact .finite same.ge

theorem number_nonneg (m p : Nat) : 0 ≤ number m p := by
  unfold number
  positivity

theorem exponentOf_le {k e : Nat} (few : k < Nat.pow 2 (53 + e)) : exponentOf k 1 ≤ e := by
  rw [exponentOf, Nat.div_one]
  by_cases none : k = 0
  · simp [none]
  · have digits := (Nat.log2_lt none).mpr few
    omega

theorem rounded_of_dvd {k e : Nat} (few : k < Nat.pow 2 (53 + e)) (zeros : Nat.pow 2 e ∣ k) : rounded k 1 = k := by
  have whole : 1 * Nat.pow 2 (exponentOf k 1) ∣ k := by
    rw [Nat.one_mul]
    exact Nat.dvd_trans (Nat.pow_dvd_pow 2 (exponentOf_le few)) zeros
  rw [← Nat.mul_one (rounded k 1), rounded_whole Nat.one_pos whole]

section
variable {k : Nat} (small : k < 2 ^ 53)
include small

theorem mul_unit_lt {n : Nat} (unit : unit = Nat.pow 2 n) : k * Binary64.unit < Nat.pow 2 (53 + n) := by
  rw [unit]
  exact Nat.lt_of_lt_of_eq (Nat.mul_lt_mul_of_pos_right small (Nat.two_pow_pos n)) (Nat.pow_add ..).symm

theorem rounded_mul_unit : rounded (k * unit) 1 = k * unit := by
  obtain ⟨n, -, unit⟩ := unit_pow
  exact rounded_of_dvd (mul_unit_lt small unit) (unit ▸ Nat.dvd_mul_left _ k)

theorem exact_ofNat : Exact k (ofNat k) := by
  obtain ⟨n, digits, unit⟩ := unit_pow
  rcases roundUnits_eq false (k * Binary64.unit) 1 with ⟨-, beyond⟩ | ⟨m, p, finite, units⟩
  · have exponent := exponentOf_le (mul_unit_lt small unit)
    omega
  · exact ⟨m, p, finite, units.trans (rounded_mul_unit small)⟩

end

theorem unit_pos' : (0 : ℚ) < unit := by exact_mod_cast unit_pos

theorem cast_le_divEven (num : Nat) {den : Nat} (positive : 0 < den) :
    2 * (num / den : ℚ) ≤ 2 * divEven num den + 1 := by
  have positive' : (0 : ℚ) < den := by exact_mod_cast positive
  rw [mul_div_assoc', div_le_iff₀ positive']
  exact_mod_cast le_divEven positive

theorem atLeast_of_rounded {q : ℚ} {num den : Nat} (bound : q * unit ≤ rounded num den) :
    AtLeast q (roundUnits false num den) := by
  rcases roundUnits_eq false num den with ⟨beyond, -⟩ | ⟨m, p, finite, units⟩
  · rw [beyond]
    exact .infinity
  · rw [finite]
    refine .finite ?_
    rwa [Binary64.number, units, le_div_iff₀ unit_pos']

/-- One rounding of a quotient that is whole or large. -/
theorem atLeast_roundUnits {num den : Nat} (positive : 0 < den) (fine : den ∣ num ∨ 2 ^ 52 * den ≤ num) :
    AtLeast (num / den / unit * remnant) (roundUnits false num den) := by
  have bound : (num : ℚ) * 2 ^ 52 ≤ rounded num den * den * 2 ^ 52 + num := by
    exact_mod_cast rounded_ge positive fine
  have denPos : (0 : ℚ) < den := by exact_mod_cast positive
  refine atLeast_of_rounded ?_
  rw [mul_right_comm, div_mul_cancel₀ _ unit_pos'.ne', div_mul_eq_mul_div, div_le_iff₀ denPos, remnant]
  linarith

theorem one_atLeast_roundUnits {num den : Nat} (positive : 0 < den) (large : unit * den ≤ num) :
    AtLeast 1 (roundUnits false num den) := by
  refine atLeast_of_rounded ?_
  rw [one_mul]
  exact_mod_cast unit_le_rounded positive large

theorem nonneg_roundUnits (num den : Nat) : AtLeast 0 (roundUnits false num den) := by
  refine atLeast_of_rounded ?_
  rw [zero_mul]
  exact Nat.cast_nonneg _

theorem number_add (m p n q : Nat) :
    number m p + number n q = ((units m p + units n q : Nat) : ℚ) / unit := by
  rw [number, number, ← add_div]
  norm_cast

theorem add_finite (m p n q : Nat) :
    (finite false m p).add (finite false n q) =
      if units m p + units n q = 0 then finite false 0 0 else roundUnits false (units m p + units n q) 1 := by
  have sum : signedUnits false m p + signedUnits false n q = ((units m p + units n q : Nat) : Int) := by
    simp [signedUnits]
  have sign : decide (((units m p + units n q : Nat) : Int) < 0) = false :=
    decide_eq_false (Int.not_lt.mpr (Int.natCast_nonneg _))
  simp only [add, sum, sign, Int.natAbs_natCast, Bool.and_self, Int.natCast_eq_zero]

section
variable {a b : ℚ} {x y : Binary64} {k : Nat}

theorem AtLeast.add (first : AtLeast a x) (second : AtLeast b y) : AtLeast ((a + b) * remnant) (x.add y) := by
  cases first with
  | @finite m p bound =>
    cases second with
    | @finite n q bound' =>
      have sum : a + b ≤ ((units m p + units n q : Nat) : ℚ) / unit :=
        number_add m p n q ▸ add_le_add bound bound'
      rw [add_finite]
      split
      next none =>
        rw [none, Nat.cast_zero, zero_div] at sum
        exact .finite (le_trans (mul_nonpos_of_nonpos_of_nonneg sum remnant_pos.le) (number_nonneg 0 0))
      next =>
        refine (atLeast_roundUnits Nat.one_pos (.inl (Nat.one_dvd _))).mono ?_
        rw [Nat.cast_one, div_one]
        exact mul_le_mul_of_nonneg_right sum remnant_pos.le
    | infinity => exact .infinity
  | infinity => cases second <;> exact .infinity

theorem AtLeast.add_to_one (first : AtLeast a x) (second : AtLeast b y) (enough : 1 ≤ a + b) :
    AtLeast 1 (x.add y) := by
  cases first with
  | @finite m p bound =>
    cases second with
    | @finite n q bound' =>
      have sum : 1 ≤ ((units m p + units n q : Nat) : ℚ) / unit :=
        number_add m p n q ▸ enough.trans (add_le_add bound bound')
      rw [le_div_iff₀ unit_pos', one_mul, Nat.cast_le] at sum
      rw [add_finite, if_neg (Nat.ne_of_gt (Nat.lt_of_lt_of_le unit_pos sum))]
      exact one_atLeast_roundUnits Nat.one_pos (by rwa [Nat.mul_one])
    | infinity => exact .infinity
  | infinity => cases second <;> exact .infinity

theorem significand_pos {m p : Nat} (whole : units m p = k * unit) (positive : 0 < k) : m ≠ 0 := by
  rintro rfl
  have none : k * unit = 0 := by simpa [units] using whole.symm
  exact absurd none (Nat.mul_pos positive unit_pos).ne'

theorem AtLeast.mul (first : AtLeast a x) (second : Exact k y) (positive : 0 < k) :
    AtLeast (a * k * remnant) (x.mul y) := by
  obtain ⟨n, q, rfl, whole⟩ := second
  cases first with
  | @finite m p bound =>
    change AtLeast _ (roundUnits false (units m p * units n q) unit)
    rw [whole]
    have fine : unit ∣ units m p * (k * unit) := Nat.dvd_mul_left_of_dvd (Nat.dvd_mul_left unit k) _
    refine (atLeast_roundUnits unit_pos (.inl fine)).mono ?_
    refine mul_le_mul_of_nonneg_right ?_ remnant_pos.le
    calc a * k ≤ number m p * k := mul_le_mul_of_nonneg_right bound (Nat.cast_nonneg k)
      _ = (units m p * (k * unit) : Nat) / unit / unit := by
        have := unit_pos'.ne'
        unfold number
        push_cast
        field_simp
  | infinity =>
    simp only [Binary64.mul, significand_pos whole positive, if_false]
    exact .infinity

theorem AtLeast.div (first : AtLeast a x) (second : Exact k y) (positive : 0 < k) (large : 2 ^ 52 * k ≤ a * unit) :
    AtLeast (a / k * remnant) (x.div y) := by
  obtain ⟨n, q, rfl, whole⟩ := second
  cases first with
  | @finite m p bound =>
    simp only [Binary64.div, significand_pos whole positive, if_false]
    change AtLeast _ (roundUnits false (units m p * unit) (units n q))
    rw [whole]
    have positive' : (0 : ℚ) < k := by exact_mod_cast positive
    have most : a * unit ≤ units m p := (le_div_iff₀ unit_pos').mp bound
    have many : 2 ^ 52 * (k * unit) ≤ units m p * unit := by
      have many : 2 ^ 52 * k ≤ units m p := by exact_mod_cast large.trans most
      rw [← Nat.mul_assoc]
      exact Nat.mul_le_mul_right unit many
    refine (atLeast_roundUnits (Nat.mul_pos positive unit_pos) (.inr many)).mono ?_
    refine mul_le_mul_of_nonneg_right ?_ remnant_pos.le
    calc a / k ≤ number m p / k := div_le_div_of_nonneg_right bound positive'.le
      _ = (units m p * unit : Nat) / (k * unit : Nat) / unit := by
        have := unit_pos'.ne'
        unfold number
        push_cast
        field_simp
  | infinity => exact .infinity

theorem nonneg_div (first : AtLeast 0 x) (second : Exact k y) (positive : 0 < k) : AtLeast 0 (x.div y) := by
  obtain ⟨n, q, rfl, whole⟩ := second
  cases first with
  | finite bound =>
    simp only [Binary64.div, significand_pos whole positive, if_false]
    exact nonneg_roundUnits _ _
  | infinity => exact .infinity

theorem AtLeast.min (first : AtLeast a x) (second : AtLeast a y) : AtLeast a (x.min y) := by
  cases first with
  | finite bound =>
    cases second with
    | finite bound' =>
      simp only [Binary64.min]
      split
      · exact .finite bound
      · exact .finite bound'
    | infinity => exact .finite bound
  | infinity =>
    cases second with
    | finite bound' => exact .finite bound'
    | infinity => exact .infinity

end

theorem exact_one : Exact 1 one := exact_ofNat (by norm_num)

theorem sub_finite {m p n q : Nat} (le : units n q ≤ units m p) :
    (finite false m p).sub (finite false n q) =
      if units m p - units n q = 0 then finite false 0 0 else roundUnits false (units m p - units n q) 1 := by
  have difference : signedUnits false m p + signedUnits (!false) n q = ((units m p - units n q : Nat) : Int) := by
    simp only [signedUnits, Bool.not_false, if_true, Bool.false_eq_true, if_false]
    omega
  have sign : decide (((units m p - units n q : Nat) : Int) < 0) = false :=
    decide_eq_false (Int.not_lt.mpr (Int.natCast_nonneg _))
  simp only [sub, neg, add, difference, sign, Int.natAbs_natCast, Int.natCast_eq_zero, Bool.false_and]

theorem atLeast_sub {m p n q : Nat} (le : number n q ≤ number m p) :
    AtLeast ((number m p - number n q) * remnant) ((finite false m p).sub (finite false n q)) := by
  have order : units n q ≤ units m p := by
    have order := (div_le_div_iff_of_pos_right unit_pos').mp le
    exact_mod_cast order
  have difference : number m p - number n q = ((units m p - units n q : Nat) : ℚ) / unit := by
    rw [number, number, ← sub_div, Nat.cast_sub order]
  rw [sub_finite order, difference]
  split
  next none =>
    rw [none, Nat.cast_zero, zero_div, zero_mul]
    exact .finite (number_nonneg 0 0)
  next =>
    refine (atLeast_roundUnits Nat.one_pos (.inl (Nat.one_dvd _))).mono ?_
    rw [Nat.cast_one, div_one]

theorem one_le_iff {x : Binary64} (nonneg : AtLeast 0 x) : one.le x = true ↔ AtLeast 1 x := by
  obtain ⟨n, q, one, units⟩ := exact_one
  rw [one]
  cases nonneg with
  | @finite m p bound =>
    have same : (finite false n q).le (finite false m p) = true ↔ unit ≤ Binary64.units m p := by
      have signed (m p : Nat) : signedUnits false m p = (Binary64.units m p : Int) := rfl
      rw [le, signed, signed, units, Nat.one_mul, decide_eq_true_iff, Int.ofNat_le]
    rw [same]
    constructor
    · intro order
      refine .finite ?_
      rw [number, le_div_iff₀ unit_pos', one_mul]
      exact_mod_cast order
    · intro atLeast
      cases atLeast with
      | finite bound =>
        rw [number, le_div_iff₀ unit_pos', one_mul] at bound
        exact_mod_cast bound
  | infinity => exact iff_of_true rfl .infinity

/-- A value below one is finite, and what it lacks of one is hardly rounded. -/
theorem lacking {x : Binary64} (nonneg : AtLeast 0 x) (below : one.le x = false) :
    0 ≤ x.value ∧ x.value < 1 ∧ AtLeast x.value x ∧ AtLeast ((1 - x.value) * remnant) (one.sub x) := by
  have notOne : ¬ AtLeast 1 x := fun atLeast => by simp [(one_le_iff nonneg).mpr atLeast] at below
  obtain ⟨n, q, one, whole⟩ := exact_one.number
  cases nonneg with
  | @finite m p bound =>
    have less : number m p < 1 := not_le.mp fun le => notOne (.finite le)
    rw [Nat.cast_one] at whole
    refine ⟨bound, less, .finite le_rfl, ?_⟩
    rw [one, ← whole]
    exact atLeast_sub (whole ▸ less.le)
  | infinity => exact absurd .infinity notOne

theorem nonneg_sub_one {x : Binary64} (atLeast : AtLeast 1 x) : AtLeast 0 (x.sub one) := by
  obtain ⟨n, q, one, whole⟩ := exact_one.number
  rw [one]
  rw [Nat.cast_one] at whole
  cases atLeast with
  | finite bound =>
    refine (atLeast_sub (whole ▸ bound)).mono (mul_nonneg ?_ remnant_pos.le)
    linarith
  | infinity => exact .infinity

end Gatehouse.Binary64

namespace Gatehouse.Duration
open Binary64

theorem nonneg_ofNat (n : Nat) : AtLeast 0 (ofNat n) := nonneg_roundUnits _ _

theorem atLeast_ofNat (n : Nat) : AtLeast (n * remnant) (ofNat n) := by
  refine (atLeast_roundUnits Nat.one_pos (.inl (Nat.one_dvd _))).mono ?_
  refine mul_le_mul_of_nonneg_right ?_ remnant_pos.le
  have := unit_pos'.ne'
  push_cast
  field_simp
  exact le_rfl

/-- Seconds are told with two roundings. -/
theorem atLeast_toSeconds (d : Duration) : AtLeast (d.nanos / 10 ^ 9 * remnant ^ 2) d.toSeconds := by
  have billion : Exact nanosPerSecond (ofNat nanosPerSecond) := exact_ofNat (by decide)
  have fraction : AtLeast (d.subsecondNanos / 10 ^ 9 * remnant)
      ((ofNat d.subsecondNanos).div (ofNat nanosPerSecond)) := by
    have less : d.subsecondNanos < nanosPerSecond := Nat.mod_lt _ (by decide)
    have cast : (nanosPerSecond : ℚ) = 10 ^ 9 := by norm_num [nanosPerSecond]
    have numerator : Exact d.subsecondNanos (ofNat d.subsecondNanos) :=
      exact_ofNat (less.trans (by decide))
    rcases Nat.eq_zero_or_pos d.subsecondNanos with none | some
    · refine (nonneg_div (nonneg_ofNat _) billion (by decide)).mono ?_
      simp [none]
    · rw [← cast]
      refine numerator.atLeast.div billion (by decide) ?_
      have many : (2 : ℚ) ^ 82 ≤ unit := pow_le_unit (by omega)
      have some : (1 : ℚ) ≤ d.subsecondNanos := by exact_mod_cast some
      rw [cast]
      nlinarith
  have parts : (d.nanos : ℚ) / 10 ^ 9 = d.wholeSeconds + d.subsecondNanos / 10 ^ 9 := by
    have split : 10 ^ 9 * d.wholeSeconds + d.subsecondNanos = d.nanos := Nat.div_add_mod d.nanos nanosPerSecond
    rw [← split]
    push_cast
    ring
  refine ((atLeast_ofNat d.wholeSeconds).add fraction).mono ?_
  rw [parts]
  apply le_of_eq
  ring

/-- A number of seconds is more than the span that is nearest to it by half a nanosecond at most. -/
theorem seconds_le_of_atLeast {q : ℚ} {x : Binary64} (atLeast : AtLeast q x) (short : q ≤ 2 ^ 63) :
    2 * (q * 10 ^ 9) ≤ 2 * ((ofFloatSeconds? x).getD longest).nanos + 1 := by
  have most : 2 * (q * 10 ^ 9) ≤ 2 * (longest.nanos : ℚ) + 1 := by
    have whole : longest.nanos = 18446744073709551615999999999 := by decide
    rw [whole]
    push_cast
    linarith
  cases atLeast with
  | @finite m p bound =>
    have near := cast_le_divEven (units m p * nanosPerSecond) unit_pos
    have scaled : q * 10 ^ 9 ≤ (units m p * nanosPerSecond : Nat) / unit := by
      have billion : (nanosPerSecond : ℚ) = 10 ^ 9 := by norm_num [nanosPerSecond]
      rw [Nat.cast_mul, billion, mul_div_right_comm]
      exact mul_le_mul_of_nonneg_right bound (by norm_num)
    simp only [ofFloatSeconds?]
    generalize divEven (units m p * nanosPerSecond) unit = nanos at near ⊢
    split
    next fits =>
      rw [Option.getD_some]
      linarith
    next => exact most
  | infinity => exact most

end Gatehouse.Duration
