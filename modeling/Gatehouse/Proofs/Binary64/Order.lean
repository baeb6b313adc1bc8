import Gatehouse.Proofs.Binary64.Units
import Mathlib.Algebra.Group.Nat.Even

/-!
The order of nonnegative values, with infinity above all others. Rounding keeps it, overflow included, and so do
products and reciprocals of values from one up. A power by repeated squaring multiplies other roundings for each
exponent; for a base from one up it grows with the exponent all the same.
-/
namespace Gatehouse.Binary64

def ceiling : Nat := Nat.pow 2 53 * Nat.pow 2 2045

/-- Two nonnegative values, the first of which is no more than the second. -/
inductive UpTo : Binary64 → Binary64 → Prop
  | finite {m p n q : Nat} (le : units m p ≤ units n q) : UpTo (.finite false m p) (.finite false n q)
  | infinity {x : Binary64} (nonneg : AtLeast 0 x) : UpTo x (.infinity false)

theorem le_finite {m p n q : Nat} : (finite false m p).le (.finite false n q) = true ↔ units m p ≤ units n q := by
  simp only [le, signedUnits, Bool.false_eq_true, if_false, decide_eq_true_eq, Int.ofNat_le]

theorem divEven_mul_add {k c den : Nat} (less : c < den) : divEven (k * den + c) den =
    if 2 * c < den then k else if den < 2 * c then k + 1 else if k % 2 = 0 then k else k + 1 := by
  have quotient : (k * den + c) / den = k := by
    rw [Nat.mul_comm, Nat.mul_add_div (by omega), Nat.div_eq_of_lt less, Nat.add_zero]
  have rest : (k * den + c) % den = c := by
    rw [Nat.add_comm, Nat.add_mul_mod_self_right, Nat.mod_eq_of_lt less]
  simp only [divEven, quotient, rest]

theorem le_exponentOf {k e : Nat} (many : Nat.pow 2 (52 + e) ≤ k) : e ≤ exponentOf k 1 := by
  have some : k ≠ 0 := Nat.ne_of_gt (Nat.lt_of_lt_of_le (Nat.two_pow_pos _) many)
  have digits := (Nat.le_log2 some).mpr many
  rw [exponentOf, Nat.div_one]
  omega

theorem pow_carry (p : Nat) : Nat.pow 2 53 * Nat.pow 2 p = Nat.pow 2 52 * Nat.pow 2 (p + 1) := by
  simp only [Nat.pow_eq, Nat.pow_succ]
  ring

section
variable {num den : Nat} (positive : 0 < den)
include positive

/-- A rounded magnitude is that of the value, or from the ceiling up that of infinity. -/
theorem roundUnits_cases :
    (ceiling ≤ rounded num den ∧ roundUnits false num den = infinity false) ∨
      (rounded num den < ceiling ∧
        ∃ m p, roundUnits false num den = finite false m p ∧ units m p = rounded num den) := by
  have most := @significand_le num den positive
  have least := @le_significand num den positive
  have powers {a b : Nat} (le : a ≤ b) : Nat.pow 2 a ≤ Nat.pow 2 b := Nat.pow_le_pow_right Nat.two_pos le
  unfold roundUnits rounded ceiling
  dsimp only
  generalize exponentOf num den = p at *
  generalize divEven num (den * Nat.pow 2 p) = m at *
  generalize 2045 = e
  by_cases full : m = Nat.pow 2 53
  · subst full
    rw [if_pos rfl]
    dsimp only
    split
    next fits =>
      refine .inr ⟨Nat.mul_lt_mul_of_pos_left ?_ (Nat.two_pow_pos 53), _, _, rfl, (pow_carry p).symm⟩
      exact Nat.pow_lt_pow_right Nat.one_lt_two (by omega)
    next beyond => exact .inl ⟨Nat.mul_le_mul_left _ (powers (by omega)), rfl⟩
  · rw [if_neg full]
    have few : m < Nat.pow 2 53 := Nat.lt_of_le_of_ne most full
    dsimp only
    split
    next fits =>
      refine .inr ⟨?_, _, _, rfl, rfl⟩
      calc m * Nat.pow 2 p < Nat.pow 2 53 * Nat.pow 2 p := Nat.mul_lt_mul_of_pos_right few (Nat.two_pow_pos p)
        _ ≤ Nat.pow 2 53 * Nat.pow 2 e := Nat.mul_le_mul_left _ (powers fits)
    next beyond =>
      refine .inl ⟨?_, rfl⟩
      rw [pow_carry]
      exact Nat.mul_le_mul (least (by omega)) (powers (by omega))

theorem rounded_le_rounded {num' den' : Nat} (positive' : 0 < den') (le : num * den' ≤ num' * den) :
    rounded num den ≤ rounded num' den' := by
  have first := @rounded_scale num den den' positive'
  have second := @rounded_scale num' den' den positive
  rw [← first, ← second, Nat.mul_comm den' den]
  exact rounded_mono (Nat.mul_pos positive positive') le

theorem upTo_roundUnits {num' den' : Nat} (positive' : 0 < den') (le : num * den' ≤ num' * den) :
    UpTo (roundUnits false num den) (roundUnits false num' den') := by
  have order := rounded_le_rounded positive positive' le
  rcases @roundUnits_cases num' den' positive' with ⟨-, infinite⟩ | ⟨small, m', p', finite', whole'⟩
  · rw [infinite]
    exact .infinity (nonneg_roundUnits ..)
  · rcases @roundUnits_cases num den positive with ⟨large, -⟩ | ⟨-, m, p, finite, whole⟩
    · omega
    · rw [finite, finite']
      exact .finite (by omega)

theorem rounded_digits : ∃ m e, exponentOf num den ≤ e ∧ m < Nat.pow 2 53 ∧ rounded num den = m * Nat.pow 2 e := by
  have most := @significand_le num den positive
  rcases Nat.lt_or_eq_of_le most with few | full
  · exact ⟨_, _, Nat.le_refl _, few, rfl⟩
  · refine ⟨Nat.pow 2 52, exponentOf num den + 1, Nat.le_succ _, by decide, ?_⟩
    rw [rounded, full, pow_carry]

theorem rounded_rounded : rounded (rounded num den) 1 = rounded num den := by
  obtain ⟨m, e, -, few, whole⟩ := @rounded_digits num den positive
  refine rounded_of_dvd (e := e) ?_ (whole ▸ Nat.dvd_mul_left ..)
  rw [whole]
  exact Nat.lt_of_lt_of_eq (Nat.mul_lt_mul_of_pos_right few (Nat.two_pow_pos _)) (Nat.pow_add ..).symm

theorem roundUnits_digits : roundUnits false num den = infinity false ∨
    ∃ m p, roundUnits false num den = finite false m p ∧ rounded (units m p) 1 = units m p := by
  rcases @roundUnits_cases num den positive with ⟨-, infinite⟩ | ⟨-, m, p, finite, whole⟩
  · exact .inl infinite
  · exact .inr ⟨m, p, finite, by rw [whole, rounded_rounded positive]⟩

end

section
variable {a b c d x y z : Binary64}

theorem AtLeast.upTo (nonneg : AtLeast 0 x) : UpTo x x := by
  cases nonneg with
  | finite => exact .finite (Nat.le_refl _)
  | infinity => exact .infinity .infinity

theorem UpTo.nonneg (upTo : UpTo x y) : AtLeast 0 x ∧ AtLeast 0 y := by
  cases upTo with
  | finite => exact ⟨.finite (number_nonneg ..), .finite (number_nonneg ..)⟩
  | infinity nonneg => exact ⟨nonneg, .infinity⟩

theorem UpTo.trans (first : UpTo x y) (second : UpTo y z) : UpTo x z := by
  cases second with
  | finite le =>
    cases first with
    | finite le' => exact .finite (Nat.le_trans le' le)
  | infinity => exact .infinity first.nonneg.1

theorem AtLeast.zero_upTo (nonneg : AtLeast 0 x) : UpTo zero x := by
  have none : units 0 0 = 0 := rfl
  cases nonneg with
  | finite => exact .finite (none.le.trans (Nat.zero_le _))
  | infinity => exact .infinity (.finite (number_nonneg 0 0))

theorem UpTo.significand_ne_zero {m p : Nat} (upTo : UpTo one (.finite false m p)) : m ≠ 0 := by
  rintro rfl
  obtain ⟨n, q, same, whole⟩ := exact_one
  rw [same] at upTo
  cases upTo with
  | finite le =>
    have positive := unit_pos
    rw [whole, units, Nat.zero_mul] at le
    omega

theorem mul_finite (m p n q : Nat) :
    (Binary64.finite false m p).mul (.finite false n q) = roundUnits false (units m p * units n q) unit := rfl

theorem isFinite_mul_infinity (x : Binary64) (s : Bool) : (x.mul (.infinity s)).isFinite = false := by
  cases x with
  | nan => rfl
  | infinity => rfl
  | finite =>
    simp only [mul]
    split <;> rfl

theorem isFinite_infinity_mul (s : Bool) (x : Binary64) : ((infinity s).mul x).isFinite = false := by
  cases x with
  | nan => rfl
  | infinity => rfl
  | finite =>
    simp only [mul]
    split <;> rfl

theorem mul_cases (nonneg : AtLeast 0 x) (nonneg' : AtLeast 0 y) : (x.mul y).isFinite = false ∨
    ∃ m p, x.mul y = .finite false m p ∧ rounded (units m p) 1 = units m p := by
  cases nonneg with
  | @finite m p =>
    cases nonneg' with
    | @finite n q =>
      rw [mul_finite]
      rcases @roundUnits_digits (units m p * units n q) unit unit_pos with infinite | rounded
      · rw [infinite]
        exact .inl rfl
      · exact .inr rounded
    | infinity => exact .inl (isFinite_mul_infinity ..)
  | infinity => exact .inl (isFinite_infinity_mul ..)

theorem UpTo.mul_left (upTo : UpTo x y) (nonneg : AtLeast 0 a) (finite : (a.mul y).isFinite = true) :
    UpTo (a.mul x) (a.mul y) := by
  cases nonneg with
  | finite =>
    cases upTo with
    | finite le =>
      rw [mul_finite, mul_finite]
      exact upTo_roundUnits unit_pos unit_pos (Nat.mul_le_mul_right _ (Nat.mul_le_mul_left _ le))
    | infinity => cases (isFinite_mul_infinity ..).symm.trans finite
  | infinity => cases (isFinite_infinity_mul ..).symm.trans finite

theorem mul_infinity (upTo : UpTo one x) : x.mul (.infinity false) = .infinity false := by
  cases upTo.nonneg.2 with
  | finite => exact if_neg upTo.significand_ne_zero
  | infinity => rfl

theorem infinity_mul (upTo : UpTo one x) : (Binary64.infinity false).mul x = .infinity false := by
  cases upTo.nonneg.2 with
  | finite => exact if_neg upTo.significand_ne_zero
  | infinity => rfl

theorem nonneg_mul (first : UpTo one x) (second : UpTo one y) : AtLeast 0 (x.mul y) := by
  cases first.nonneg.2 with
  | finite =>
    cases second.nonneg.2 with
    | finite =>
      rw [mul_finite]
      exact nonneg_roundUnits ..
    | infinity =>
      rw [mul_infinity first]
      exact .infinity
  | infinity =>
    rw [infinity_mul second]
    exact .infinity

theorem UpTo.mul (first : UpTo a b) (second : UpTo c d) (one_a : UpTo one a) (one_c : UpTo one c) :
    UpTo (a.mul c) (b.mul d) := by
  have nonneg := nonneg_mul one_a one_c
  cases first with
  | finite le =>
    cases second with
    | finite le' =>
      rw [mul_finite, mul_finite]
      exact upTo_roundUnits unit_pos unit_pos (Nat.mul_le_mul_right _ (Nat.mul_le_mul le le'))
    | infinity =>
      rw [mul_infinity (one_a.trans (.finite le))]
      exact .infinity nonneg
  | infinity =>
    rw [infinity_mul (one_c.trans second)]
    exact .infinity nonneg

theorem one_upTo_one : UpTo one one := (exact_one.atLeast.mono zero_le_one).upTo

theorem one_upTo_mul (first : UpTo one x) (second : UpTo one y) : UpTo one (x.mul y) := by
  have same : one.mul one = one := by decide +kernel
  have upTo := first.mul second one_upTo_one one_upTo_one
  rwa [same] at upTo

theorem upTo_one_mul (first : UpTo one x) (second : UpTo one y) : UpTo (x.mul y) (one.mul (x.mul y)) := by
  have infinite : UpTo (.infinity false) (one.mul (.infinity false)) := by
    rw [mul_infinity one_upTo_one]
    exact .infinity .infinity
  have kept (num : Nat) : UpTo (roundUnits false num unit) (one.mul (roundUnits false num unit)) := by
    rcases @roundUnits_digits num unit unit_pos with overflow | ⟨m, p, finite, digits⟩
    · rwa [overflow]
    · obtain ⟨n, q, same, whole⟩ := exact_one
      have scaled : units m p * unit = units n q * units m p := by
        rw [whole, Nat.one_mul, Nat.mul_comm]
      have again : rounded (units n q * units m p) unit = units m p := by
        have once := @rounded_scale (units m p) 1 unit unit_pos
        rw [Nat.one_mul, scaled] at once
        rw [once, digits]
      rw [finite, same, mul_finite]
      rcases @roundUnits_cases (units n q * units m p) unit unit_pos with ⟨-, overflow⟩ | ⟨-, k, e, finite', rounds'⟩
      · rw [overflow]
        exact .infinity (.finite (number_nonneg ..))
      · rw [finite']
        exact .finite (rounds'.trans again).ge
  obtain ⟨w, same⟩ : ∃ w, w = one := ⟨_, rfl⟩
  rw [← same] at infinite kept ⊢
  cases first.nonneg.2 with
  | finite =>
    cases second.nonneg.2 with
    | finite =>
      rw [mul_finite]
      exact kept _
    | infinity =>
      rw [mul_infinity first]
      exact infinite
  | infinity =>
    rw [infinity_mul second]
    exact infinite

theorem powNat_even (x : Binary64) (k : Nat) (acc : Binary64) : x.powNat (2 * k) acc = (x.mul x).powNat k acc := by
  conv => lhs; rw [powNat]
  have half : 2 * k / 2 = k := by omega
  have even : ¬ 2 * k % 2 = 1 := by omega
  rcases Nat.eq_zero_or_pos k with rfl | some
  · conv => rhs; rw [powNat]
    rfl
  · have some : ¬ 2 * k = 0 := by omega
    have rest : ¬ k = 0 := by omega
    simp only [some, rest, half, even, dite_false, if_false]

theorem powNat_odd (x : Binary64) (k : Nat) (acc : Binary64) :
    x.powNat (2 * k + 1) acc = (x.mul x).powNat k (acc.mul x) := by
  conv => lhs; rw [powNat]
  have half : (2 * k + 1) / 2 = k := by omega
  have odd : (2 * k + 1) % 2 = 1 := by omega
  rcases Nat.eq_zero_or_pos k with rfl | some
  · conv => rhs; rw [powNat]
    rfl
  · have some : ¬ 2 * k + 1 = 0 := by omega
    have rest : ¬ k = 0 := by omega
    simp only [some, rest, half, odd, dite_false, if_true, if_false]

theorem powNat_zero (x acc : Binary64) : x.powNat 0 acc = acc := by
  rw [powNat]
  rfl

theorem UpTo.powNat (base : UpTo one x) (start : UpTo a b) (one_a : UpTo one a) (n : Nat) :
    UpTo (x.powNat n a) (x.powNat n b) := by
  induction n using Nat.strongRecOn generalizing x a b with
  | ind n ih =>
    rcases n.even_or_odd' with ⟨k, rfl | rfl⟩
    · rw [powNat_even, powNat_even]
      rcases Nat.eq_zero_or_pos k with rfl | some
      · rw [powNat_zero, powNat_zero]
        exact start
      · exact ih k (by omega) (one_upTo_mul base base) start one_a
    · rw [powNat_odd, powNat_odd]
      exact ih k (by omega) (one_upTo_mul base base) (start.mul base.nonneg.2.upTo one_a base) (one_upTo_mul one_a base)

/-- The next power, if what the power starts from is no more than the base. -/
theorem powNat_upTo_succ (base : UpTo one x) (kept : UpTo x (one.mul x)) (one_a : UpTo one a) (start : UpTo a x)
    (n : Nat) : UpTo (x.powNat n a) (x.powNat (n + 1) one) := by
  induction n using Nat.strongRecOn generalizing x a with
  | ind n ih =>
    rcases n.even_or_odd' with ⟨k, rfl | rfl⟩
    · rw [powNat_even, powNat_odd]
      exact (one_upTo_mul base base).powNat (start.trans kept) one_a k
    · rw [powNat_odd, show 2 * k + 1 + 1 = 2 * (k + 1) from rfl, powNat_even]
      -- the bits of `n` that are carried away multiply no more than the square that takes their place
      exact ih k (by omega) (one_upTo_mul base base) (upTo_one_mul base base) (one_upTo_mul one_a base)
        (start.mul base.nonneg.2.upTo one_a base)

theorem powNat_step (base : UpTo one x) (n : Nat) : UpTo (x.powNat n one) (x.powNat (n + 1) one) := by
  have square := one_upTo_mul base base
  have factor := one_upTo_mul one_upTo_one base
  rcases n.even_or_odd' with ⟨k, rfl | rfl⟩
  · rw [powNat_even, powNat_odd]
    exact square.powNat factor one_upTo_one k
  · rw [powNat_odd, show 2 * k + 1 + 1 = 2 * (k + 1) from rfl, powNat_even]
    exact powNat_upTo_succ square (upTo_one_mul base base) factor
      (base.mul base.nonneg.2.upTo one_upTo_one base) k

/-- Powers of a value from one up grow with the exponent. -/
theorem powNat_mono (base : UpTo one x) {n k : Nat} (le : n ≤ k) : UpTo (x.powNat n one) (x.powNat k one) := by
  induction le with
  | refl => exact base.powNat one_upTo_one one_upTo_one n
  | step _ ih => exact ih.trans (powNat_step base _)

theorem one_upTo_powNat (base : UpTo one x) (n : Nat) : UpTo one (x.powNat n one) := by
  have least := powNat_mono base n.zero_le
  rwa [powNat_zero] at least

theorem UpTo.reciprocal (upTo : UpTo a b) (one_a : UpTo one a) : UpTo (one.div b) (one.div a) := by
  obtain ⟨n, q, same, -⟩ := exact_one
  have finite {m p : Nat} (large : UpTo one (.finite false m p)) :
      one.div (.finite false m p) = roundUnits false (units n q * unit) (units m p) := by
    rw [same]
    exact if_neg large.significand_ne_zero
  have units_pos {m p : Nat} (large : UpTo one (.finite false m p)) : 0 < units m p :=
    Nat.mul_pos (Nat.pos_of_ne_zero large.significand_ne_zero) (Nat.two_pow_pos p)
  have infinite : one.div (.infinity false) = zero := by
    rw [same]
    rfl
  cases upTo with
  | finite le =>
    have one_b := one_a.trans (.finite le)
    rw [finite one_a, finite one_b]
    exact upTo_roundUnits (units_pos one_b) (units_pos one_a) (Nat.mul_le_mul_left _ le)
  | infinity =>
    rw [infinite]
    refine AtLeast.zero_upTo ?_
    cases one_a.nonneg.2 with
    | finite =>
      rw [finite one_a]
      exact nonneg_roundUnits ..
    | infinity =>
      rw [infinite]
      exact .finite (number_nonneg 0 0)

theorem reciprocal_upTo_one (one_a : UpTo one a) : UpTo (one.div a) one := by
  have same : one.div one = one := by decide +kernel
  have upTo := one_a.reciprocal one_upTo_one
  rwa [same] at upTo

/-- Powers grow with the exponent below zero too. -/
theorem pow_mono (base : UpTo one x) {n k : Int} (le : n ≤ k) : UpTo (x.pow n) (x.pow k) := by
  unfold pow
  dsimp only
  by_cases below : k < 0
  · rw [if_pos (Int.lt_of_le_of_lt le below), if_pos below]
    exact (powNat_mono base (by omega)).reciprocal (one_upTo_powNat base _)
  · rw [if_neg below]
    by_cases below' : n < 0
    · rw [if_pos below']
      exact (reciprocal_upTo_one (one_upTo_powNat base _)).trans (one_upTo_powNat base _)
    · rw [if_neg below']
      exact powNat_mono base (by omega)

end
end Gatehouse.Binary64
