import Gatehouse.Proofs.Binary64.Order
import Mathlib.Data.Nat.Log

/-!
Rounding seen from where it lands. A magnitude is rounded to a given value or beyond if it is more than half way up to
it from the value before, and half way is enough for an even significand. For whole numbers the way from the value
before is a power of two that their size gives.
-/
namespace Gatehouse.Binary64

theorem rounded_mul_pow {m p : Nat} (most : m ≤ Nat.pow 2 53) : rounded (m * Nat.pow 2 p) 1 = m * Nat.pow 2 p := by
  rcases Nat.lt_or_eq_of_le most with few | rfl
  · refine rounded_of_dvd (e := p) ?_ (Nat.dvd_mul_left ..)
    exact Nat.lt_of_lt_of_eq (Nat.mul_lt_mul_of_pos_right few (Nat.two_pow_pos p)) (Nat.pow_add ..).symm
  · rw [pow_carry]
    refine rounded_of_dvd (e := p + 1) ?_ (Nat.dvd_mul_left ..)
    calc Nat.pow 2 52 * Nat.pow 2 (p + 1) < Nat.pow 2 53 * Nat.pow 2 (p + 1) :=
          Nat.mul_lt_mul_of_pos_right (by decide) (Nat.two_pow_pos _)
      _ = Nat.pow 2 (53 + (p + 1)) := (Nat.pow_add ..).symm

theorem lt_divEven_iff {m c den : Nat} (less : c < den) :
    m < divEven (m * den + c) den ↔ den < 2 * c ∨ den = 2 * c ∧ (m + 1) % 2 = 0 := by
  rw [divEven_mul_add less]
  split
  · omega
  · split
    · omega
    · split <;> omega

/-- The value of a significand is reached from more than half way below it, and from half way if it is even. -/
theorem le_rounded_iff {m p x : Nat} (many : Nat.pow 2 52 ≤ m) (few : m < Nat.pow 2 53) :
    (m + 1) * Nat.pow 2 p ≤ rounded x 1 ↔
      2 * ((m + 1) * Nat.pow 2 p) < 2 * x + Nat.pow 2 p ∨
        2 * ((m + 1) * Nat.pow 2 p) = 2 * x + Nat.pow 2 p ∧ (m + 1) % 2 = 0 := by
  have positive : 0 < Nat.pow 2 p := Nat.two_pow_pos p
  have next : (m + 1) * Nat.pow 2 p = m * Nat.pow 2 p + Nat.pow 2 p := Nat.succ_mul ..
  have least : Nat.pow 2 (52 + p) ≤ m * Nat.pow 2 p :=
    (Nat.pow_add ..).trans_le (Nat.mul_le_mul_right _ many)
  have most : (m + 1) * Nat.pow 2 p ≤ Nat.pow 2 (53 + p) :=
    (Nat.mul_le_mul_right _ few).trans_eq (Nat.pow_add ..).symm
  have below := @rounded_mul_pow m p few.le
  have above := @rounded_mul_pow (m + 1) p few
  rw [next] at most above ⊢
  -- outside the step from one value to the next rounding only has to keep the order
  rcases Nat.lt_or_ge x (m * Nat.pow 2 p) with less | more
  · have rounds := rounded_mono Nat.one_pos less.le
    rw [below] at rounds
    generalize Nat.pow 2 p = d at *
    exact iff_of_false (by omega) (by omega)
  · obtain ⟨c, rfl⟩ := Nat.exists_eq_add_of_le more
    rcases Nat.lt_or_ge c (Nat.pow 2 p) with within | beyond
    · have exponent : exponentOf (m * Nat.pow 2 p + c) 1 = p := by
        refine Nat.le_antisymm (exponentOf_le (Nat.lt_of_lt_of_le ?_ most)) (le_exponentOf (Nat.le_trans least more))
        exact Nat.add_lt_add_left within _
      have reached := @lt_divEven_iff m c _ within
      rw [rounded, exponent, Nat.one_mul, ← next, Nat.mul_le_mul_right_iff positive, Nat.add_one_le_iff, reached, next]
      generalize Nat.pow 2 p = d, m * Nat.pow 2 p = e
      omega
    · have rounds := rounded_mono Nat.one_pos (Nat.add_le_add_left beyond (m * Nat.pow 2 p))
      rw [above] at rounds
      exact iff_of_true rounds (.inl (by omega))

/-- Half the step from the value before a whole number up to it. -/
def halfStep (k : Nat) : ℚ := 2 ^ Nat.clog 2 k / 2 ^ 54

theorem halfStep_pos (k : Nat) : 0 < halfStep k := by
  rw [halfStep]
  positivity

/-- Rounding takes a value to a whole number or beyond: the value is more than half way up to the number, or half way
and the number has an even significand. -/
def Reaches (q : ℚ) (k : Nat) : Prop := k < q + halfStep k ∨ k = q + halfStep k ∧ (k ≤ 2 ^ 52 ∨ k % 2 = 0)

theorem pow_clog_lt {k : Nat} (some : 0 < k) : 2 ^ Nat.clog 2 k < 2 * k := by
  rcases Nat.lt_or_ge 1 k with more | one
  · have previous := Nat.pow_pred_clog_lt_self Nat.one_lt_two more
    obtain ⟨c, next⟩ := Nat.exists_eq_succ_of_ne_zero (Nat.clog_pos Nat.one_lt_two more).ne'
    rw [next, Nat.pred_succ] at previous
    rw [next, Nat.pow_succ]
    omega
  · obtain rfl : k = 1 := by omega
    rw [Nat.clog_one_right]
    decide

theorem significand_of_whole {k : Nat} (some : 0 < k) (few : k ≤ 2 ^ 53) : ∃ m p,
    Nat.pow 2 52 ≤ m ∧ m < Nat.pow 2 53 ∧ (m + 1) * Nat.pow 2 p = k * unit ∧
      (Nat.pow 2 p : ℚ) / (2 * unit) = halfStep k ∧ ((m + 1) % 2 = 0 ↔ k ≤ 2 ^ 52 ∨ k % 2 = 0) := by
  obtain ⟨n, many, whole⟩ := unit_pow
  obtain ⟨c, digits⟩ : ∃ c, Nat.clog 2 k = c := ⟨_, rfl⟩
  have most : c ≤ 53 := digits ▸ Nat.clog_le_of_le_pow few
  have upper : k ≤ 2 ^ c := digits ▸ Nat.le_pow_clog Nat.one_lt_two k
  have lower : 2 ^ c < 2 * k := digits ▸ pow_clog_lt some
  -- `j` noughts behind the number fill up the 53 digits
  obtain ⟨j, rest⟩ : ∃ j, c + j = 53 := ⟨53 - c, by omega⟩
  have full : 2 ^ c * 2 ^ j = Nat.pow 2 53 := by rw [← Nat.pow_add, rest]
  have positive : 0 < 2 ^ j := Nat.two_pow_pos j
  have least : Nat.pow 2 53 < 2 * (k * 2 ^ j) := by
    rw [← full, ← Nat.mul_assoc]
    exact Nat.mul_lt_mul_of_pos_right lower positive
  have greatest : k * 2 ^ j ≤ Nat.pow 2 53 := by
    rw [← full]
    exact Nat.mul_le_mul_right _ upper
  have twice : Nat.pow 2 53 = 2 * Nat.pow 2 52 := by decide
  obtain ⟨i, rfl⟩ : ∃ i, n = j + i := ⟨n - j, by omega⟩
  have parts : unit = 2 ^ j * Nat.pow 2 i := whole.trans (Nat.pow_add 2 j i)
  refine ⟨k * 2 ^ j - 1, i, by omega, by omega, ?_, ?_, ?_⟩
  · rw [Nat.sub_add_cancel (Nat.mul_pos some positive), parts, Nat.mul_assoc]
  · have full' : (2 ^ c * 2 ^ j : ℚ) = 2 ^ 53 := by exact_mod_cast full
    have step : (Nat.pow 2 i : ℚ) ≠ 0 := Nat.cast_ne_zero.mpr (Nat.two_pow_pos _).ne'
    rw [parts, halfStep, digits, Nat.cast_mul, Nat.cast_pow, Nat.cast_two]
    field_simp
    linarith
  · rw [Nat.sub_add_cancel (Nat.mul_pos some positive)]
    cases j with
    | zero =>
      obtain rfl : c = 53 := by omega
      omega
    | succ i =>
      have short : 2 ^ c ≤ 2 ^ 52 := Nat.pow_le_pow_right Nat.two_pos (by omega)
      rw [Nat.pow_succ, ← Nat.mul_assoc]
      omega

theorem le_rounded_iff_reaches {k x : Nat} (few : k ≤ 2 ^ 53) :
    k * unit ≤ rounded x 1 ↔ Reaches (x / unit) k := by
  rcases Nat.eq_zero_or_pos k with rfl | some
  · have least : (0 : ℚ) < x / unit + halfStep 0 := by
      have nonneg : (0 : ℚ) ≤ x / unit := div_nonneg (Nat.cast_nonneg _) (Nat.cast_nonneg _)
      exact add_pos_of_nonneg_of_pos nonneg (halfStep_pos 0)
    exact iff_of_true (by rw [Nat.zero_mul]; exact Nat.zero_le _) (.inl (by exact_mod_cast least))
  · obtain ⟨m, p, many, few', whole, half, even⟩ := significand_of_whole some few
    have reached := @le_rounded_iff m p x many few'
    have positive : (0 : ℚ) < 2 * unit := by
      have positive := unit_pos'
      linarith
    have sum : (x : ℚ) / unit + halfStep k = ((2 * x + Nat.pow 2 p : Nat) : ℚ) / (2 * unit) := by
      rw [← half, Nat.cast_add, add_div, Nat.cast_mul, Nat.cast_two, mul_div_mul_left _ _ two_ne_zero]
    have exact' : (k : ℚ) = ((2 * (k * unit) : Nat) : ℚ) / (2 * unit) := by
      rw [eq_div_iff positive.ne']
      push_cast
      ring
    rw [whole, even] at reached
    rw [reached, Reaches, sum]
    conv => rhs; rw [exact']
    rw [div_lt_div_iff_of_pos_right positive, div_left_inj' positive.ne', Nat.cast_lt, Nat.cast_inj]

/-- A half step is half a part in `2 ^ 53` of the number at least, and a whole part at most. -/
theorem le_halfStep (k : Nat) : k / 2 ^ 54 ≤ halfStep k := by
  have upper : k ≤ 2 ^ Nat.clog 2 k := Nat.le_pow_clog Nat.one_lt_two k
  have upper' : (k : ℚ) ≤ 2 ^ Nat.clog 2 k := by exact_mod_cast upper
  exact div_le_div_of_nonneg_right upper' (by norm_num)

theorem halfStep_le {k : Nat} (some : 0 < k) : halfStep k ≤ k / 2 ^ 53 := by
  have lower : (2 : ℚ) ^ Nat.clog 2 k ≤ 2 * k := by exact_mod_cast (pow_clog_lt some).le
  rw [halfStep, div_le_div_iff₀ (by norm_num) (by norm_num)]
  linarith

theorem halfStep_le_half {k : Nat} (few : k ≤ 2 ^ 53) : halfStep k ≤ 1 / 2 := by
  have digits : 2 ^ Nat.clog 2 k ≤ 2 ^ 53 := Nat.pow_le_pow_right Nat.two_pos (Nat.clog_le_of_le_pow few)
  have digits' : (2 : ℚ) ^ Nat.clog 2 k ≤ 2 ^ 53 := by exact_mod_cast digits
  rw [halfStep, div_le_div_iff₀ (by norm_num) (by norm_num)]
  linarith

theorem not_reaches {q : ℚ} {k : Nat} (less : q + halfStep k < k) : ¬Reaches q k := by
  rintro (more | ⟨same, -⟩) <;> linarith

end Gatehouse.Binary64
