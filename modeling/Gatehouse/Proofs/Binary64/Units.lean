import Gatehouse.Proofs.Binary64.Lower

/-!
Floating results as numbers of units. A value that is neither negative nor too large is its number of units, written in
one way only, and an operation rounds the exact number. Rounding keeps the order, keeps whole numbers that are not too
large, and adds at most one part in `2 ^ 53`.
-/
namespace Gatehouse.Binary64

theorem divEven_mono {num num' den : Nat} (positive : 0 < den) (le : num ≤ num') :
    divEven num den ≤ divEven num' den := by
  have whole : num / den ≤ num' / den := Nat.div_le_div_right le
  have parts := Nat.div_add_mod num den
  have parts' := Nat.div_add_mod num' den
  have rest' := Nat.mod_lt num' positive
  have first : divEven num den ≤ num / den + 1 := by
    unfold divEven
    dsimp only
    split
    · omega
    · split
      · omega
      · split <;> omega
  rcases Nat.lt_or_eq_of_le whole with less | same
  · exact Nat.le_trans first (Nat.le_trans less (div_le_divEven num' den))
  · have more : num % den ≤ num' % den := by
      rw [same] at parts
      omega
    simp only [divEven, same]
    generalize num % den = r, num' % den = r' at more
    repeat' split
    all_goals omega

theorem divEven_scale {num den c : Nat} (positive : 0 < c) : divEven (num * c) (den * c) = divEven num den := by
  have twice : 2 * (num % den * c) < den * c ↔ 2 * (num % den) < den := by
    rw [← Nat.mul_assoc]
    exact Nat.mul_lt_mul_right positive
  have twice' : den * c < 2 * (num % den * c) ↔ den < 2 * (num % den) := by
    rw [← Nat.mul_assoc]
    exact Nat.mul_lt_mul_right positive
  simp only [divEven, Nat.mul_div_mul_right _ _ positive, Nat.mul_mod_mul_right, twice, twice']

theorem divEven_le {num den : Nat} (positive : 0 < den) : 2 * (divEven num den * den) ≤ 2 * num + den := by
  have parts := Nat.div_add_mod num den
  have down : num / den * den = den * (num / den) := Nat.mul_comm _ _
  have up : (num / den + 1) * den = den * (num / den) + den := by ring
  have rest := Nat.mod_lt num positive
  unfold divEven
  dsimp only
  split
  · omega
  · split
    · omega
    · split <;> omega

theorem exponentOf_scale {num den c : Nat} (positive : 0 < c) :
    exponentOf (num * c) (den * c) = exponentOf num den := by
  simp only [exponentOf, Nat.mul_div_mul_right _ _ positive]

theorem rounded_scale {num den c : Nat} (positive : 0 < c) : rounded (num * c) (den * c) = rounded num den := by
  simp only [rounded, exponentOf_scale positive]
  rw [Nat.mul_right_comm, divEven_scale positive]

theorem exponentOf_mono {num num' : Nat} (den : Nat) (le : num ≤ num') : exponentOf num den ≤ exponentOf num' den := by
  have whole : num / den ≤ num' / den := Nat.div_le_div_right le
  refine Nat.sub_le_sub_right ?_ 52
  by_cases none : num / den = 0
  · simp [none]
  · have some : num' / den ≠ 0 := fun none' => none (Nat.le_zero.mp (none' ▸ whole))
    exact (Nat.le_log2 some).mpr (Nat.le_trans (Nat.log2_self_le none) whole)

section
variable {num num' den : Nat} (positive : 0 < den)
include positive

theorem significand_le : divEven num (den * Nat.pow 2 (exponentOf num den)) ≤ Nat.pow 2 53 := by
  have scaled : 0 < den * Nat.pow 2 (exponentOf num den) := Nat.mul_pos positive (Nat.two_pow_pos _)
  have less : num ≤ Nat.pow 2 53 * (den * Nat.pow 2 (exponentOf num den)) := by
    have digits : num / den < Nat.pow 2 (53 + exponentOf num den) := by
      refine Nat.lt_of_lt_of_le Nat.lt_log2_self (Nat.pow_le_pow_right Nat.two_pos ?_)
      simp only [exponentOf]
      omega
    have bound := (Nat.div_lt_iff_lt_mul positive).mp digits
    simp only [Nat.pow_eq, Nat.pow_add] at bound ⊢
    rw [← Nat.mul_assoc, Nat.mul_right_comm]
    exact bound.le
  have whole : divEven (Nat.pow 2 53 * (den * Nat.pow 2 (exponentOf num den))) (den * Nat.pow 2 (exponentOf num den)) =
      Nat.pow 2 53 := by
    rw [divEven_of_dvd scaled (Nat.dvd_mul_left _ _), Nat.mul_div_cancel _ scaled]
  exact whole ▸ divEven_mono scaled less

theorem le_significand (some : 0 < exponentOf num den) :
    Nat.pow 2 52 ≤ divEven num (den * Nat.pow 2 (exponentOf num den)) := by
  have large : 2 ^ 52 * den ≤ num := by
    have digits : 52 ≤ Nat.log2 (num / den) := by
      simp only [exponentOf] at some
      omega
    have most : Nat.pow 2 52 ≤ num / den :=
      Nat.le_trans (Nat.pow_le_pow_right Nat.two_pos digits) (Nat.log2_self_le fun none => by simp [none] at digits)
    exact (Nat.le_div_iff_mul_le positive).mp most
  refine Nat.le_trans ?_ (div_le_divEven ..)
  refine (Nat.le_div_iff_mul_le (Nat.mul_pos positive (Nat.two_pow_pos _))).mpr ?_
  rw [Nat.mul_comm den, ← Nat.mul_assoc]
  exact pow_exponent_le positive large

theorem rounded_mono (le : num ≤ num') : rounded num den ≤ rounded num' den := by
  have exponents := exponentOf_mono den le
  rcases Nat.lt_or_eq_of_le exponents with less | same
  · have digits : 0 < exponentOf num' den := by omega
    calc rounded num den ≤ Nat.pow 2 53 * Nat.pow 2 (exponentOf num den) :=
          Nat.mul_le_mul_right _ (significand_le positive)
      _ = Nat.pow 2 52 * Nat.pow 2 (exponentOf num den + 1) := by
          simp only [Nat.pow_eq, Nat.pow_succ]
          ring
      _ ≤ Nat.pow 2 52 * Nat.pow 2 (exponentOf num' den) :=
          Nat.mul_le_mul_left _ (Nat.pow_le_pow_right Nat.two_pos less)
      _ ≤ rounded num' den := Nat.mul_le_mul_right _ (le_significand positive digits)
  · rw [rounded, rounded, same]
    exact Nat.mul_le_mul_right _ (divEven_mono (Nat.mul_pos positive (Nat.two_pow_pos _)) le)

/-- What rounding may add to a quotient that is whole or large. -/
theorem rounded_le (fine : den ∣ num ∨ 2 ^ 52 * den ≤ num) : rounded num den * den * 2 ^ 53 ≤ num * (2 ^ 53 + 1) := by
  by_cases large : 2 ^ 52 * den ≤ num
  · have near := @divEven_le num (den * Nat.pow 2 (exponentOf num den)) (Nat.mul_pos positive (Nat.two_pow_pos _))
    have step := pow_exponent_le positive large
    rw [← rounded_mul_den] at near
    rw [Nat.mul_right_comm, Nat.mul_assoc] at step
    omega
  · rw [rounded_fine positive fine large]
    omega

end

theorem rounded_sub_unit {m p : Nat} (few : m < Nat.pow 2 53) (small : units m p < Nat.pow 2 53 * unit) :
    rounded (units m p - unit) 1 = units m p - unit := by
  obtain ⟨e, -, unit⟩ := unit_pow
  rw [unit] at small ⊢
  have less : units m p < Nat.pow 2 53 * Nat.pow 2 p := Nat.mul_lt_mul_of_pos_right few (Nat.two_pow_pos p)
  have both : units m p < Nat.pow 2 (53 + Nat.min p e) := by
    rcases Nat.le_total p e with le | le
    · have least : Nat.min p e = p := Nat.min_eq_left le
      rw [least]
      exact Nat.lt_of_lt_of_eq less (Nat.pow_add ..).symm
    · have least : Nat.min p e = e := Nat.min_eq_right le
      rw [least]
      exact Nat.lt_of_lt_of_eq small (Nat.pow_add ..).symm
  refine rounded_of_dvd (e := Nat.min p e) (Nat.lt_of_le_of_lt (Nat.sub_le ..) both) (Nat.dvd_sub ?_ ?_)
  · exact Nat.dvd_trans (Nat.pow_dvd_pow 2 (Nat.min_le_left p e)) (Nat.dvd_mul_left _ m)
  · exact Nat.pow_dvd_pow 2 (Nat.min_le_right p e)

theorem rounded_zero {den : Nat} : rounded 0 den = 0 := by
  simp [rounded, divEven]

theorem units_le_rounded {num k : Nat} (few : k < Nat.pow 2 53) (le : k * unit ≤ num) : k * unit ≤ rounded num 1 := by
  rw [← rounded_mul_unit few]
  exact rounded_mono Nat.one_pos le

/-- What a rounding makes of a number at most. -/
def excess : ℚ := 1 + 1 / 2 ^ 53

theorem cast_rounded_le {num den : Nat} (positive : 0 < den) (fine : den ∣ num ∨ 2 ^ 52 * den ≤ num) :
    (rounded num den : ℚ) ≤ num / den * excess := by
  have most : (rounded num den : ℚ) * den * 2 ^ 53 ≤ num * (2 ^ 53 + 1) := by
    exact_mod_cast rounded_le positive fine
  have positive' : (0 : ℚ) < den := by exact_mod_cast positive
  rw [div_mul_eq_mul_div, le_div_iff₀ positive', excess]
  linarith

def shortfall : ℚ := 1 - 1 / 2 ^ 53

theorem le_cast_rounded {num den : Nat} (positive : 0 < den) (fine : den ∣ num ∨ 2 ^ 52 * den ≤ num) :
    num / den * shortfall ≤ (rounded num den : ℚ) := by
  have least : (num : ℚ) * 2 ^ 53 ≤ rounded num den * den * 2 ^ 53 + num := by
    exact_mod_cast le_rounded_add positive fine
  have positive' : (0 : ℚ) < den := by exact_mod_cast positive
  rw [div_mul_eq_mul_div, div_le_iff₀ positive', shortfall]
  linarith

theorem rounded_le_twice (num : Nat) : rounded num 1 ≤ 2 * num := by
  have most := rounded_le Nat.one_pos (.inl (Nat.one_dvd num))
  omega

/-- A quotient is far from an overflow. -/
def InRange (num den : Nat) : Prop := num ≤ Nat.pow 2 200 * unit * den

theorem inRange_of_le {num k : Nat} (few : k ≤ 200) (le : num ≤ Nat.pow 2 k * unit) : InRange num 1 := by
  rw [InRange, Nat.mul_one]
  exact Nat.le_trans le (Nat.mul_le_mul_right unit (Nat.pow_le_pow_right Nat.two_pos few))

theorem exponentOf_lt {num den : Nat} (range : InRange num den) : exponentOf num den < 2045 := by
  obtain ⟨n, many, unit⟩ := unit_pow
  have quotient : num / den ≤ Nat.pow 2 (200 + n) := by
    refine Nat.div_le_of_le_mul ?_
    rw [InRange, unit] at range
    rw [Nat.mul_comm den, show Nat.pow 2 (200 + n) = Nat.pow 2 200 * Nat.pow 2 n from Nat.pow_add ..]
    exact range
  have digits : Nat.log2 (num / den) < 201 + n := by
    by_cases none : num / den = 0
    · simp [none]
    · refine (Nat.log2_lt none).mpr (Nat.lt_of_le_of_lt quotient ?_)
      exact Nat.pow_lt_pow_right Nat.one_lt_two (by omega)
  simp only [exponentOf]
  omega

/-- A value is so many units, written with as many binary digits as there are. -/
inductive Stands (k : Nat) : Binary64 → Prop
  | finite {m p : Nat} (few : m < Nat.pow 2 53) (digits : p = 0 ∨ Nat.pow 2 52 ≤ m) (whole : units m p = k) :
    Stands k (.finite false m p)

theorem exponent_le_of_units_eq {m p n q : Nat} (few : m < Nat.pow 2 53) (digits : q = 0 ∨ Nat.pow 2 52 ≤ n)
    (same : units m p = units n q) : q ≤ p := by
  by_contra less
  obtain ⟨c, rfl⟩ : ∃ c, q = p + 1 + c := ⟨q - (p + 1), by omega⟩
  have many := digits.resolve_left (by omega)
  have positive := Nat.two_pow_pos p
  have more : Nat.pow 2 53 * Nat.pow 2 p ≤ units n (p + 1 + c) := by
    calc Nat.pow 2 53 * Nat.pow 2 p = Nat.pow 2 52 * Nat.pow 2 (p + 1) := by
          simp only [Nat.pow_eq, Nat.pow_succ]
          ring
      _ ≤ n * Nat.pow 2 (p + 1 + c) := Nat.mul_le_mul many (Nat.pow_le_pow_right Nat.two_pos (by omega))
  rw [← same] at more
  exact absurd more (Nat.not_le.mpr (Nat.mul_lt_mul_of_pos_right few positive))

section
variable {a b k : Nat} {x y : Binary64}

theorem Stands.unique (first : Stands a x) (second : Stands a y) : x = y := by
  cases first with
  | @finite m p few digits whole =>
    cases second with
    | @finite n q few' digits' whole' =>
      have same : units m p = units n q := whole.trans whole'.symm
      have most := exponent_le_of_units_eq few digits' same
      have exponents : p = q := Nat.le_antisymm (exponent_le_of_units_eq few' digits same.symm) most
      subst exponents
      have significands : m = n := Nat.eq_of_mul_eq_mul_right (Nat.two_pow_pos p) same
      rw [significands]

theorem Stands.value (stands : Stands a x) : x.value = a / unit := by
  cases stands with
  | finite _ _ whole => rw [Binary64.value, number, whole]

theorem stands_zero : Stands 0 (.finite false 0 0) := .finite (Nat.two_pow_pos 53) (.inl rfl) (Nat.zero_mul _)

theorem stands_roundUnits {num den : Nat} (positive : 0 < den) (range : InRange num den) :
    Stands (rounded num den) (roundUnits false num den) := by
  have most := @significand_le num den positive
  have least := @le_significand num den positive
  have exponent := exponentOf_lt range
  unfold roundUnits rounded
  generalize exponentOf num den = p at *
  dsimp only
  by_cases full : divEven num (den * Nat.pow 2 p) = Nat.pow 2 53
  · simp only [full, if_true]
    rw [if_pos (by omega)]
    refine .finite (Nat.pow_lt_pow_right Nat.one_lt_two (by omega)) (.inr (Nat.le_refl _)) ?_
    simp only [units, Nat.pow_eq, Nat.pow_succ]
    ring
  · simp only [full, if_false]
    rw [if_pos (by omega)]
    exact .finite (by omega) ((Nat.eq_zero_or_pos p).imp_right least) rfl

theorem stands_ofNat (few : k < Nat.pow 2 53) : Stands (k * unit) (ofNat k) := by
  rw [← rounded_mul_unit few]
  exact stands_roundUnits Nat.one_pos (inRange_of_le (by decide) (Nat.mul_le_mul_right unit few.le))

theorem Stands.add (first : Stands a x) (second : Stands b y) (range : InRange (a + b) 1) :
    Stands (rounded (a + b) 1) (x.add y) := by
  cases first with
  | finite _ _ whole =>
    cases second with
    | finite _ _ whole' =>
      rw [add_finite, whole, whole']
      split
      next none =>
        rw [none, rounded_zero]
        exact stands_zero
      next => exact stands_roundUnits Nat.one_pos range

theorem Stands.mul (first : Stands a x) (second : Stands (k * unit) y) (range : InRange (a * k) 1) :
    Stands (rounded (a * k) 1) (x.mul y) := by
  cases first with
  | finite _ _ whole =>
    cases second with
    | finite _ _ whole' =>
      have scaled := @rounded_scale (a * k) 1 unit unit_pos
      rw [Nat.one_mul, Nat.mul_assoc] at scaled
      simp only [Binary64.mul, whole, whole', bne_self_eq_false]
      rw [← scaled]
      refine stands_roundUnits unit_pos ?_
      rw [InRange, Nat.mul_one] at range
      rw [InRange, ← Nat.mul_assoc]
      exact Nat.mul_le_mul_right _ range

theorem Stands.div (first : Stands a x) (second : Stands (k * unit) y) (positive : 0 < k) (range : InRange a k) :
    Stands (rounded a k) (x.div y) := by
  cases first with
  | finite _ _ whole =>
    cases second with
    | finite _ _ whole' =>
      have scaled : rounded (a * unit) (k * unit) = rounded a k := rounded_scale unit_pos
      simp only [Binary64.div, whole, whole', significand_pos whole' positive, if_false, bne_self_eq_false]
      rw [← scaled]
      refine stands_roundUnits (Nat.mul_pos positive unit_pos) ?_
      rw [InRange] at range ⊢
      rw [← Nat.mul_assoc]
      exact Nat.mul_le_mul_right _ range

theorem Stands.le_iff (first : Stands a x) (second : Stands b y) : x.le y = true ↔ a ≤ b := by
  cases first with
  | @finite m p _ _ whole =>
    cases second with
    | @finite n q _ _ whole' =>
      have signed (m p : Nat) : signedUnits false m p = (units m p : Int) := rfl
      rw [le, signed, signed, whole, whole', decide_eq_true_iff, Int.ofNat_le]

theorem Stands.min (first : Stands a x) (second : Stands b y) : Stands (Nat.min a b) (x.min y) := by
  have order := first.le_iff second
  have choice : x.min y = if x.le y then x else y := by
    cases first with
    | finite => cases second with
      | finite => rfl
  rw [choice]
  split
  next le =>
    have first' : Nat.min a b = a := Nat.min_eq_left (order.mp le)
    rwa [first']
  next more =>
    have second' : Nat.min a b = b := Nat.min_eq_right (Nat.le_of_not_le fun le => more (order.mpr le))
    rwa [second']

theorem stands_one : Stands unit one := by
  have stands := stands_ofNat (k := 1) (by decide)
  rwa [Nat.one_mul] at stands

theorem Stands.sub_one (stands : Stands a x) (enough : unit ≤ a) (small : a < Nat.pow 2 53 * unit) :
    Stands (a - unit) (x.sub one) := by
  have one := stands_one
  generalize Binary64.one = y at one
  cases stands with
  | @finite m p few _ whole =>
    cases one with
    | @finite n q _ _ whole' =>
      have order : units n q ≤ units m p := by
        rw [whole, whole']
        exact enough
      have kept : rounded (a - unit) 1 = a - unit := whole ▸ rounded_sub_unit few (whole ▸ small)
      rw [sub_finite order, whole, whole']
      split
      next none =>
        rw [none]
        exact stands_zero
      next =>
        have range : InRange (a - unit) 1 := inRange_of_le (by decide) (Nat.le_trans (Nat.sub_le ..) small.le)
        have stands := stands_roundUnits Nat.one_pos range
        rwa [kept] at stands

theorem Stands.floorWithin (stands : Stands a x) (limit : Nat) : x.floorWithin limit = Nat.min limit (a / unit) := by
  cases stands with
  | finite _ _ whole =>
    rw [Binary64.floorWithin, whole]
    rfl

end
end Gatehouse.Binary64

namespace Gatehouse.Duration
open Binary64

/-- What a span is told as, in units. -/
def told (d : Duration) : Nat :=
  rounded (rounded (d.wholeSeconds * unit) 1 + rounded (d.subsecondNanos * unit) nanosPerSecond) 1

section
variable (d : Duration)

theorem fraction_le : rounded (d.subsecondNanos * unit) nanosPerSecond ≤ unit := by
  have less : d.subsecondNanos < nanosPerSecond := Nat.mod_lt _ (by decide)
  have second : rounded (unit * nanosPerSecond) nanosPerSecond = unit := by
    have whole := rounded_mul_unit (k := 1) (by decide)
    have scaled := @rounded_scale unit 1 nanosPerSecond (by decide)
    rw [Nat.one_mul] at whole scaled
    exact scaled.trans whole
  calc rounded (d.subsecondNanos * unit) nanosPerSecond
      ≤ rounded (nanosPerSecond * unit) nanosPerSecond := rounded_mono (by decide) (Nat.mul_le_mul_right unit less.le)
    _ = unit := by rw [Nat.mul_comm, second]

theorem fraction_fine :
    nanosPerSecond ∣ d.subsecondNanos * unit ∨ 2 ^ 52 * nanosPerSecond ≤ d.subsecondNanos * unit := by
  rcases Nat.eq_zero_or_pos d.subsecondNanos with none | some
  · rw [none, Nat.zero_mul]
    exact .inl (Nat.dvd_zero _)
  · refine .inr (Nat.le_trans ?_ (Nat.le_mul_of_pos_left unit some))
    have many : (2 : ℚ) ^ 82 ≤ unit := pow_le_unit (by omega)
    have many' : 2 ^ 82 ≤ unit := by exact_mod_cast many
    exact Nat.le_trans (by decide) many'

theorem stands_toSeconds (short : d.nanos ≤ longest.nanos) :
    Stands d.told d.toSeconds ∧ d.told ≤ Nat.pow 2 67 * unit := by
  have seconds : d.wholeSeconds ≤ Nat.pow 2 64 := by
    have most : longest.nanos / nanosPerSecond ≤ Nat.pow 2 64 := by decide
    exact Nat.le_trans (Nat.div_le_div_right short) most
  have less : d.subsecondNanos < nanosPerSecond := Nat.mod_lt _ (by decide)
  have inRange : d.wholeSeconds * unit ≤ Nat.pow 2 64 * unit := Nat.mul_le_mul_right unit seconds
  have whole := rounded_le_twice (d.wholeSeconds * unit)
  have sum : rounded (d.wholeSeconds * unit) 1 + rounded (d.subsecondNanos * unit) nanosPerSecond ≤
      Nat.pow 2 66 * unit := by
    have fraction := d.fraction_le
    have powers : Nat.pow 2 66 = 4 * Nat.pow 2 64 := by decide
    have one : unit ≤ Nat.pow 2 64 * unit := Nat.le_mul_of_pos_left unit (by decide)
    rw [powers, Nat.mul_assoc]
    omega
  have first : Stands (rounded (d.wholeSeconds * unit) 1) (ofNat d.wholeSeconds) :=
    stands_roundUnits Nat.one_pos (inRange_of_le (by decide) inRange)
  have billion : Stands (nanosPerSecond * unit) (ofNat nanosPerSecond) := stands_ofNat (by decide)
  have second : Stands (rounded (d.subsecondNanos * unit) nanosPerSecond)
      ((ofNat d.subsecondNanos).div (ofNat nanosPerSecond)) := by
    refine (stands_ofNat (Nat.lt_trans less (by decide))).div billion (by decide) ?_
    rw [InRange, Nat.mul_right_comm]
    exact Nat.mul_le_mul_right unit (Nat.le_trans less.le (by decide))
  refine ⟨first.add second (inRange_of_le (by decide) sum), ?_⟩
  have powers : Nat.pow 2 67 = 2 * Nat.pow 2 66 := by decide
  rw [powers, Nat.mul_assoc]
  exact Nat.le_trans (rounded_le_twice _) (Nat.mul_le_mul_left 2 sum)

theorem fraction_near :
    d.subsecondNanos * unit / 10 ^ 9 * shortfall ≤ (rounded (d.subsecondNanos * unit) nanosPerSecond : ℚ) ∧
      (rounded (d.subsecondNanos * unit) nanosPerSecond : ℚ) ≤ d.subsecondNanos * unit / 10 ^ 9 * excess := by
  have least := le_cast_rounded (by decide) d.fraction_fine
  have most := cast_rounded_le (by decide) d.fraction_fine
  have billion : (nanosPerSecond : ℚ) = 10 ^ 9 := by norm_num [nanosPerSecond]
  rw [billion, Nat.cast_mul] at least most
  exact ⟨least, most⟩

theorem told_le : (d.told : ℚ) ≤ d.nanos / 10 ^ 9 * unit * excess ^ 2 := by
  have positive : (0 : ℚ) ≤ excess := by norm_num [excess]
  have whole := cast_rounded_le Nat.one_pos (.inl (Nat.one_dvd (d.wholeSeconds * unit)))
  have fraction := d.fraction_near.2
  have sum := cast_rounded_le Nat.one_pos
    (.inl (Nat.one_dvd (rounded (d.wholeSeconds * unit) 1 + rounded (d.subsecondNanos * unit) nanosPerSecond)))
  have parts : (d.nanos : ℚ) / 10 ^ 9 = d.wholeSeconds + d.subsecondNanos / 10 ^ 9 := by
    have split : 10 ^ 9 * d.wholeSeconds + d.subsecondNanos = d.nanos := Nat.div_add_mod d.nanos nanosPerSecond
    rw [← split]
    push_cast
    ring
  rw [Nat.cast_one, div_one] at whole sum
  calc (d.told : ℚ)
      ≤ (rounded (d.wholeSeconds * unit) 1 + rounded (d.subsecondNanos * unit) nanosPerSecond : Nat) * excess := sum
    _ ≤ (d.wholeSeconds * unit * excess + d.subsecondNanos * unit / 10 ^ 9 * excess) * excess := by
      refine mul_le_mul_of_nonneg_right ?_ positive
      rw [Nat.cast_add]
      rw [Nat.cast_mul] at whole
      exact add_le_add whole fraction
    _ = d.nanos / 10 ^ 9 * unit * excess ^ 2 := by
      rw [parts]
      ring

theorem told_zero : told .zero = 0 := by
  have none : Duration.zero.wholeSeconds = 0 := rfl
  have none' : Duration.zero.subsecondNanos = 0 := rfl
  simp only [told, none, none', Nat.zero_mul, rounded_zero, Nat.add_zero]

variable {d}

theorem units_le_told {k : Nat} (few : k < Nat.pow 2 53) (le : k ≤ d.wholeSeconds) : k * unit ≤ d.told :=
  have whole := units_le_rounded few (Nat.mul_le_mul_right unit le)
  units_le_rounded few (Nat.le_trans whole (Nat.le_add_right ..))

theorem told_mono {d' : Duration} (few : d'.wholeSeconds < Nat.pow 2 53) (le : d ≤ d') : d.told ≤ d'.told := by
  have seconds : d.wholeSeconds ≤ d'.wholeSeconds := Nat.div_le_div_right le
  refine rounded_mono Nat.one_pos ?_
  rcases Nat.lt_or_eq_of_le seconds with less | same
  · -- the fraction of the shorter span does not make up the second that it lacks
    rw [rounded_mul_unit (Nat.lt_trans less few), rounded_mul_unit few]
    calc d.wholeSeconds * unit + rounded (d.subsecondNanos * unit) nanosPerSecond
        ≤ (d.wholeSeconds + 1) * unit := by
          rw [Nat.succ_mul]
          exact Nat.add_le_add_left d.fraction_le _
      _ ≤ d'.wholeSeconds * unit := Nat.mul_le_mul_right unit less
      _ ≤ _ := Nat.le_add_right ..
  · have parts : nanosPerSecond * d.wholeSeconds + d.subsecondNanos = d.nanos := Nat.div_add_mod ..
    have parts' : nanosPerSecond * d'.wholeSeconds + d'.subsecondNanos = d'.nanos := Nat.div_add_mod ..
    have rest : d.subsecondNanos ≤ d'.subsecondNanos := by
      have order : d.nanos ≤ d'.nanos := le
      rw [same] at parts
      omega
    rw [same]
    exact Nat.add_le_add_left (rounded_mono (by decide) (Nat.mul_le_mul_right unit rest)) _

end
end Gatehouse.Duration
