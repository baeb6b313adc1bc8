import Gatehouse.Proofs.Instant

/-!
Instants beyond the range of years. A shift always leads somewhere, where a sum may not exist; and a
comparison with a sum that is cut off at the end of the range comes out as that with the shift does.
-/
namespace Gatehouse.Instant

def ofCount (n : Int) : Instant := ⟨n / nanosPerSecond, (n % nanosPerSecond).toNat⟩

/-- The instant some nanoseconds after another, or before it. A shift that begins in a leap second either
stays there or leaves it: forward to the second after the one it repeats, back from the one after it. -/
def shift (t : Instant) (n : Int) : Instant :=
  if nanosPerSecond ≤ t.nanos ∧ nanosPerSecond ≤ t.nanos + n ∧ t.nanos + n < 2 * nanosPerSecond then
    ⟨t.seconds, (t.nanos + n).toNat⟩
  else ofCount ((if 0 ≤ n then t.lower else t.upper) + n)

theorem ofCount?_eq (n : Int) :
    ofCount? n = if secondInRange (ofCount n).seconds then some (ofCount n) else none := rfl

theorem ofCount_plain (n : Int) : (ofCount n).nanos < nanosPerSecond := by
  simp only [ofCount, nanosPerSecond]
  omega

theorem upper_ofCount (n : Int) : (ofCount n).upper = n := by
  simp only [upper, ofCount, nanosPerSecond]
  omega

theorem lower_of_plain {t : Instant} (plain : t.nanos < nanosPerSecond) : t.lower = t.upper := by
  rw [upper_eq, leap_of_plain plain]
  simp

theorem shift_plain {t : Instant} (plain : t.nanos < nanosPerSecond) (n : Int) :
    t.shift n = ofCount (t.upper + n) := by
  have notLeap : ¬ nanosPerSecond ≤ t.nanos := Nat.not_le.mpr plain
  simp [shift, notLeap, lower_of_plain plain]

theorem whole_and_rest (n : Int) :
    (nanosPerSecond : Int) * n.tdiv nanosPerSecond + n.tmod nanosPerSecond = n ∧
    (0 ≤ n ∧ 0 ≤ n.tdiv nanosPerSecond ∧ 0 ≤ n.tmod nanosPerSecond ∧ n.tmod nanosPerSecond < nanosPerSecond ∨
      n < 0 ∧ n.tdiv nanosPerSecond ≤ 0 ∧ n.tmod nanosPerSecond ≤ 0 ∧
        -nanosPerSecond < n.tmod nanosPerSecond) := by
  refine ⟨Int.mul_tdiv_add_tmod n nanosPerSecond, ?_⟩
  have short := Int.tmod_lt_of_pos n (b := nanosPerSecond) (by decide)
  have short' := Int.lt_tmod_of_pos n (b := nanosPerSecond) (by decide)
  rcases Int.lt_or_le n 0 with back | forward
  · have whole := Int.tdiv_nonneg (a := -n) (by omega) (Int.natCast_nonneg nanosPerSecond)
    have rest := Int.tmod_nonneg (a := -n) nanosPerSecond (by omega)
    rw [Int.neg_tdiv] at whole
    rw [Int.neg_tmod] at rest
    omega
  · exact .inl ⟨forward, Int.tdiv_nonneg forward (Int.natCast_nonneg _), Int.tmod_nonneg _ forward, short⟩

/-- A sum is the shift, if that is in range. -/
theorem add?_eq_shift {t : Instant} (valid : t.Valid) (s : Span) :
    t.add? s = if secondInRange (t.shift s.nanos).seconds then some (t.shift s.nanos) else none := by
  by_cases isLeap : nanosPerSecond ≤ t.nanos
  · obtain ⟨split, sign⟩ := whole_and_rest s.nanos
    have within := valid.within
    by_cases leaves : s.nanos.tdiv nanosPerSecond ≠ 0 ∨
        0 < s.nanos.tmod nanosPerSecond ∧ 2 * (nanosPerSecond : Int) ≤ t.nanos + s.nanos.tmod nanosPerSecond
    · have away : ¬ (nanosPerSecond ≤ t.nanos + s.nanos ∧ t.nanos + s.nanos < 2 * nanosPerSecond) := by
        simp only [nanosPerSecond] at *
        omega
      rw [add?_leap isLeap leaves, ofCount?_eq]
      have count : (if s.nanos.tdiv nanosPerSecond < 0 then t.upper else t.upper - nanosPerSecond) =
          if 0 ≤ s.nanos then t.lower else t.upper := by
        simp only [lower, upper, nanosPerSecond] at *
        grind
      rw [count]
      simp [shift, away]
    · obtain ⟨short, inside⟩ := not_or.mp leaves
      have short := Classical.not_not.mp short
      have rest : s.nanos.tmod nanosPerSecond = s.nanos := by
        rw [short] at split
        simpa using split
      rw [rest] at inside sign
      have same : t.shift s.nanos = ⟨t.seconds, (t.nanos + s.nanos).toNat⟩ := by
        by_cases stays : nanosPerSecond ≤ t.nanos + s.nanos ∧ t.nanos + s.nanos < 2 * nanosPerSecond
        · exact if_pos ⟨isLeap, stays⟩
        · have count : t.upper + s.nanos = t.seconds * nanosPerSecond + (t.nanos + s.nanos) := by
            simp only [upper]
            omega
          have back : ¬ 0 ≤ s.nanos := by
            simp only [nanosPerSecond] at *
            omega
          rw [shift, if_neg (fun h => stays h.2), if_neg back, count]
          simp only [ofCount, mk.injEq, nanosPerSecond] at *
          omega
      have there : secondInRange t.seconds = true := by simp [secondInRange, valid.early, valid.late]
      rw [same, if_pos there]
      simp only [add?, isLeap, short, rest, inside]
      simp
  · rw [add?_plain s (Nat.lt_of_not_le isLeap), shift_plain (Nat.lt_of_not_le isLeap), ofCount?_eq]

theorem not_lt {a b : Instant} : ¬ a < b ↔ b ≤ a := by
  simp only [lt_def, le_def]
  omega

section
variable {t now : Instant} (valid : t.Valid) {n : Int}
include valid

theorem early_of_forward (forward : 0 ≤ n) : earliest.seconds ≤ (t.shift n).seconds := by
  have early := valid.early
  rw [shift, if_pos forward]
  split
  · exact early
  · simp only [ofCount, lower, nanosPerSecond, earliest] at *
    omega

theorem le_shift (forward : 0 ≤ n) : t ≤ t.shift n := by
  have within := valid.within
  rw [shift, if_pos forward, le_def]
  split
  · exact .inr ⟨rfl, by simp only; omega⟩
  · simp only [ofCount, lower, nanosPerSecond] at *
    omega

/-- What is below a microsecond does not lead into a later second. -/
theorem shift_truncated (forward : 0 ≤ n) : (t.truncated.shift n).seconds ≤ (t.shift n).seconds := by
  have within := valid.within
  rw [shift, shift, if_pos forward, if_pos forward]
  split <;> split <;> simp only [truncated, ofCount, lower, nanosPerSecond] at * <;> omega

theorem late_of_back (back : n ≤ 0) : (t.shift n).seconds ≤ latest.seconds := by
  have late := valid.late
  have within := valid.within
  simp only [shift, ofCount, lower, upper, nanosPerSecond, latest] at *
  grind

theorem beyond_latest (far : Span.longest.nanos ≤ n) : latest.seconds < (t.shift n).seconds := by
  have early := valid.early
  have whole : Span.longest.nanos = 9223372036854775807000000 := by decide
  have within := valid.within
  simp only [shift, ofCount, lower, nanosPerSecond, earliest, latest] at *
  grind

theorem beyond_earliest (far : n ≤ -Span.longest.nanos) : (t.shift n).seconds < earliest.seconds := by
  have late := valid.late
  have whole : Span.longest.nanos = 9223372036854775807000000 := by decide
  have within := valid.within
  simp only [shift, ofCount, upper, nanosPerSecond, earliest, latest] at *
  grind

theorem not_lt_latest (d : Duration) (early : now ≤ latest) :
    ¬ (t.add? (.ofDuration d)).getD latest < now ↔ now ≤ t.shift d.nanos := by
  have outside {n : Int} (far : latest.seconds < (t.shift n).seconds) :
      ¬ latest < now ∧ now ≤ t.shift n := by
    simp only [lt_def, le_def] at *
    omega
  rw [add?_eq_shift valid, Span.ofDuration_nanos]
  rcases Int.le_total d.nanos Span.longest.nanos with fits | far
  · rw [Int.min_eq_left fits]
    split
    · exact not_lt
    next none =>
      have beyond : latest.seconds < (t.shift d.nanos).seconds := by
        have notBefore := early_of_forward valid (n := d.nanos) (Int.natCast_nonneg _)
        simpa [secondInRange, notBefore] using none
      exact iff_of_true (outside beyond).1 (outside beyond).2
  · have beyond := beyond_latest valid (n := Span.longest.nanos) (Int.le_refl _)
    have none : ¬ secondInRange (t.shift Span.longest.nanos).seconds = true := by
      simp [secondInRange, beyond]
    rw [Int.min_eq_right far, if_neg none]
    exact iff_of_true (outside beyond).1 (outside (beyond_latest valid far)).2

theorem any_add?_lt (d : Duration) (there : now.Valid) :
    (t.add? (.ofDuration d)).any (· < now) = true ↔ t.shift d.nanos < now := by
  have late := there.late
  have outside {n : Int} (far : latest.seconds < (t.shift n).seconds) : ¬ t.shift n < now := by
    simp only [lt_def] at *
    omega
  rw [add?_eq_shift valid, Span.ofDuration_nanos]
  rcases Int.le_total d.nanos Span.longest.nanos with fits | far
  · rw [Int.min_eq_left fits]
    split
    · simp
    next none =>
      have beyond : latest.seconds < (t.shift d.nanos).seconds := by
        have notBefore := early_of_forward valid (n := d.nanos) (Int.natCast_nonneg _)
        simpa [secondInRange, notBefore] using none
      exact iff_of_false (by simp) (outside beyond)
  · have beyond := beyond_latest valid (n := Span.longest.nanos) (Int.le_refl _)
    have none : ¬ secondInRange (t.shift Span.longest.nanos).seconds = true := by
      simp [secondInRange, beyond]
    rw [Int.min_eq_right far, if_neg none]
    exact iff_of_false (by simp) (outside (beyond_latest valid far))

theorem not_lt_earliest (d : Duration) (there : now.Valid) :
    ¬ now < (t.sub? (.ofDuration d)).getD earliest ↔ t.shift (-d.nanos) ≤ now := by
  have early := there.early
  have outside {n : Int} (far : (t.shift n).seconds < earliest.seconds) :
      ¬ now < earliest ∧ t.shift n ≤ now := by
    have first : earliest.nanos = 0 := rfl
    simp only [lt_def, le_def] at *
    omega
  rw [sub?, add?_eq_shift valid, Span.neg, Span.ofDuration_nanos]
  rcases Int.le_total d.nanos Span.longest.nanos with fits | far
  · rw [Int.min_eq_left fits]
    split
    · exact not_lt
    next none =>
      have beyond : (t.shift (-d.nanos)).seconds < earliest.seconds := by
        have notAfter := late_of_back valid (n := -d.nanos) (by omega)
        simpa [secondInRange, notAfter] using none
      exact iff_of_true (outside beyond).1 (outside beyond).2
  · have beyond := beyond_earliest valid (n := -Span.longest.nanos) (Int.le_refl _)
    have none : ¬ secondInRange (t.shift (-Span.longest.nanos)).seconds = true := by
      simp [secondInRange, Int.not_le.mpr beyond]
    rw [Int.min_eq_right far, if_neg none]
    exact iff_of_true (outside beyond).1 (outside (beyond_earliest valid (Int.neg_le_neg far))).2

end

/-- Outside leap seconds shifts compare as whole numbers of nanoseconds do. -/
theorem shift_le_iff {t now : Instant} (plain : t.nanos < nanosPerSecond)
    (plain' : now.nanos < nanosPerSecond) {n : Int} : t.shift n ≤ now ↔ t.upper + n ≤ now.upper := by
  rw [shift_plain plain]
  have count := upper_ofCount (t.upper + n)
  refine ⟨fun le => ?_, fun le => le_of_counts (ofCount_plain _) plain' (by omega)⟩
  have counts := counts_of_le plain' le
  rwa [lower_of_plain (ofCount_plain _), count] at counts

theorem le_shift_iff {t now : Instant} (plain : t.nanos < nanosPerSecond)
    (plain' : now.nanos < nanosPerSecond) {n : Int} : now ≤ t.shift n ↔ now.upper ≤ t.upper + n := by
  rw [shift_plain plain]
  have count := upper_ofCount (t.upper + n)
  refine ⟨fun le => ?_, fun le => le_of_counts plain' (ofCount_plain _) (by omega)⟩
  have counts := counts_of_le (ofCount_plain _) le
  rwa [lower_of_plain plain', count] at counts

theorem shift_lt_iff {t now : Instant} (plain : t.nanos < nanosPerSecond)
    (plain' : now.nanos < nanosPerSecond) {n : Int} : t.shift n < now ↔ t.upper + n < now.upper := by
  rw [← Int.not_le, ← le_shift_iff plain plain', ← not_lt, Classical.not_not]

end Gatehouse.Instant
