import Gatehouse.Instant

/-!
Arithmetic of instants. Each has two counts of nanoseconds, which agree outside leap seconds: in the lower
one a leap second repeats the second before it, in the upper one it is the second after it. A sum that leads
forward adds to the lower count, one that leads back takes from the upper.
-/
namespace Gatehouse.Instant

def lower (t : Instant) : Int := t.seconds * nanosPerSecond + (t.nanos % nanosPerSecond : Nat)

def upper (t : Instant) : Int := t.seconds * nanosPerSecond + t.nanos

/-- What an instant counts more from above than from below: nothing outside leap seconds. -/
def leap (t : Instant) : Nat := t.nanos / nanosPerSecond * nanosPerSecond

/-- An instant that there is: in range, and in its second or the leap second after it. -/
structure Valid (t : Instant) : Prop where
  early : earliest.seconds ≤ t.seconds
  late : t.seconds ≤ latest.seconds
  within : t.nanos < 2 * nanosPerSecond

theorem upper_eq (t : Instant) : t.upper = t.lower + t.leap := by
  simp only [lower, upper, leap, nanosPerSecond]
  omega

theorem leap_of_plain {t : Instant} (plain : t.nanos < nanosPerSecond) : t.leap = 0 := by
  simp only [leap, nanosPerSecond] at *
  omega

theorem le_refl (t : Instant) : t ≤ t := .inr ⟨rfl, Nat.le_refl _⟩

theorem le_trans {a b c : Instant} (first : a ≤ b) (second : b ≤ c) : a ≤ c := by
  simp only [le_def] at *
  omega

theorem lt_irrefl (t : Instant) : ¬ t < t := by
  simp only [lt_def]
  omega

theorem lt_trans {a b c : Instant} (first : a < b) (second : b < c) : a < c := by
  simp only [lt_def] at *
  omega

theorem lt_trichotomy (a b : Instant) : a < b ∨ a = b ∨ b < a := by
  rcases a with ⟨seconds, nanos⟩
  rcases b with ⟨seconds', nanos'⟩
  simp only [lt_def, mk.injEq]
  omega

theorem lt_of_lt_of_le {a b c : Instant} (first : a < b) (second : b ≤ c) : a < c := by
  simp only [lt_def, le_def] at *
  omega

theorem lt_of_le_of_lt {a b c : Instant} (first : a ≤ b) (second : b < c) : a < c := by
  simp only [lt_def, le_def] at *
  omega

theorem le_of_not_lt {a b : Instant} (h : ¬ a < b) : b ≤ a := by
  simp only [lt_def, le_def] at *
  omega

theorem lt_of_counts {a b : Instant} (plain : a.nanos < nanosPerSecond) (less : a.upper < b.lower) :
    a < b := by
  simp only [lt_def, upper, lower, nanosPerSecond] at *
  omega

theorem counts_of_lt {a b : Instant} (plain : b.nanos < nanosPerSecond) (less : a < b) :
    a.lower < b.upper := by
  simp only [lt_def, upper, lower, nanosPerSecond] at *
  omega

theorem le_of_counts {a b : Instant} (plain : a.nanos < nanosPerSecond) (plain' : b.nanos < nanosPerSecond)
    (less : a.upper ≤ b.upper) : a ≤ b := by
  simp only [le_def, upper, nanosPerSecond] at *
  omega

theorem counts_of_le {a b : Instant} (plain : b.nanos < nanosPerSecond) (less : a ≤ b) :
    a.lower ≤ b.upper := by
  simp only [le_def, upper, lower, nanosPerSecond] at *
  omega

theorem truncated_le (t : Instant) : t.truncated ≤ t := .inr ⟨rfl, Nat.sub_le ..⟩

theorem Valid.truncated {t : Instant} (valid : t.Valid) : t.truncated.Valid :=
  ⟨valid.early, valid.late, Nat.lt_of_le_of_lt (Nat.sub_le ..) valid.within⟩

def ofCount? (n : Int) : Option Instant :=
  if secondInRange (n / nanosPerSecond) then
    some ⟨n / nanosPerSecond, (n % nanosPerSecond).toNat⟩
  else none

theorem ofCount?_eq_some {n : Int} {t : Instant} (h : ofCount? n = some t) :
    t.nanos < nanosPerSecond ∧ t.upper = n ∧ t.Valid := by
  unfold ofCount? at h
  split at h
  next inRange =>
    cases h
    simp only [secondInRange, Bool.and_eq_true, decide_eq_true_eq] at inRange
    refine ⟨?_, ?_, inRange.1, inRange.2, ?_⟩ <;> simp only [upper, nanosPerSecond] <;> omega
  next => cases h

theorem ofCount?_eq_none {n : Int} (h : ofCount? n = none) :
    n < earliest.lower ∨ latest.upper < n := by
  unfold ofCount? at h
  split at h
  next => cases h
  next outside =>
    simp only [secondInRange, Bool.and_eq_true, decide_eq_true_eq] at outside
    simp only [lower, upper, earliest, latest, nanosPerSecond] at *
    omega

theorem ofMicros?_eq (m : Int) : ofMicros? m = ofCount? (m * 1000) := by
  unfold ofMicros? ofCount?
  rw [Int.fdiv_eq_ediv_of_nonneg _ (by decide), Int.fmod_eq_emod_of_nonneg _ (by decide)]
  have seconds : m / 1000000 = m * 1000 / nanosPerSecond := by simp only [nanosPerSecond]; omega
  have nanos : (m % 1000000).toNat * 1000 = (m * 1000 % nanosPerSecond).toNat := by
    simp only [nanosPerSecond]; omega
  rw [seconds, nanos]

theorem ofCount?_carry (seconds total : Int) :
    ofCount? (seconds * nanosPerSecond + total) =
      if secondInRange (seconds + total.fdiv nanosPerSecond) then
        some ⟨seconds + total.fdiv nanosPerSecond, (total.fmod nanosPerSecond).toNat⟩
      else none := by
  unfold ofCount?
  rw [Int.fdiv_eq_ediv_of_nonneg _ (by decide), Int.fmod_eq_emod_of_nonneg _ (by decide)]
  have whole : (seconds * nanosPerSecond + total) / nanosPerSecond =
      seconds + total / nanosPerSecond := by
    simp only [nanosPerSecond]; omega
  have rest : (seconds * nanosPerSecond + total) % nanosPerSecond = total % nanosPerSecond := by
    simp only [nanosPerSecond]; omega
  rw [whole, rest]

theorem add?_plain {t : Instant} (s : Span) (plain : t.nanos < nanosPerSecond) :
    t.add? s = ofCount? (t.upper + s.nanos) := by
  have notLeap : ¬ nanosPerSecond ≤ t.nanos := Nat.not_le.mpr plain
  have split := Int.mul_tdiv_add_tmod s.nanos nanosPerSecond
  have count : t.upper + s.nanos = (t.seconds + s.nanos.tdiv nanosPerSecond) * nanosPerSecond
      + (t.nanos + s.nanos.tmod nanosPerSecond) := by
    simp only [upper]
    grind
  rw [count, ofCount?_carry]
  simp [add?, notLeap]

/-- Out of a leap second a sum leads on from the second that was repeated, or back from the one after. -/
theorem add?_leap {t : Instant} {s : Span} (isLeap : nanosPerSecond ≤ t.nanos)
    (leaves : s.nanos.tdiv nanosPerSecond ≠ 0 ∨
      0 < s.nanos.tmod nanosPerSecond ∧ 2 * (nanosPerSecond : Int) ≤ t.nanos + s.nanos.tmod nanosPerSecond) :
    t.add? s = ofCount? ((if s.nanos.tdiv nanosPerSecond < 0 then t.upper else t.upper - nanosPerSecond)
      + s.nanos) := by
  have split := Int.mul_tdiv_add_tmod s.nanos nanosPerSecond
  have guard : ¬ (nanosPerSecond ≤ t.nanos ∧ s.nanos.tdiv nanosPerSecond = 0 ∧
      ¬ (0 < s.nanos.tmod nanosPerSecond ∧
        2 * (nanosPerSecond : Int) ≤ t.nanos + s.nanos.tmod nanosPerSecond)) := by
    rintro ⟨-, whole, stays⟩
    exact leaves.elim (fun h => h whole) stays
  by_cases back : s.nanos.tdiv nanosPerSecond < 0
  · have count : t.upper + s.nanos = (t.seconds + 1 + s.nanos.tdiv nanosPerSecond) * nanosPerSecond
        + (t.nanos - nanosPerSecond + s.nanos.tmod nanosPerSecond) := by
      simp only [upper]
      grind
    rw [if_pos back, count, ofCount?_carry]
    simp only [add?, guard]
    simp [isLeap, back]
  · have count : t.upper - nanosPerSecond + s.nanos =
        (t.seconds + s.nanos.tdiv nanosPerSecond) * nanosPerSecond
        + (t.nanos - nanosPerSecond + s.nanos.tmod nanosPerSecond) := by
      simp only [upper]
      grind
    rw [if_neg back, count, ofCount?_carry]
    simp only [add?, guard]
    simp [isLeap, back]

/-- A forward sum either leaves the leap second that it began in, or stays there. -/
theorem add?_forward {t : Instant} {s : Span} (within : t.nanos < 2 * nanosPerSecond)
    (forward : 0 ≤ s.nanos) :
    t.add? s = ofCount? (t.lower + s.nanos) ∨
    nanosPerSecond ≤ t.nanos ∧ t.nanos + s.nanos < 2 * nanosPerSecond ∧
      t.add? s = some ⟨t.seconds, t.nanos + s.nanos.toNat⟩ := by
  by_cases isLeap : nanosPerSecond ≤ t.nanos
  · have split := Int.mul_tdiv_add_tmod s.nanos nanosPerSecond
    have whole := Int.tdiv_nonneg forward (Int.natCast_nonneg nanosPerSecond)
    by_cases leaves : s.nanos.tdiv nanosPerSecond ≠ 0 ∨
        0 < s.nanos.tmod nanosPerSecond ∧ 2 * (nanosPerSecond : Int) ≤ t.nanos + s.nanos.tmod nanosPerSecond
    · left
      have lower : t.lower = t.upper - nanosPerSecond := by
        simp only [Instant.lower, upper, nanosPerSecond] at *
        omega
      rw [add?_leap isLeap leaves, if_neg (Int.not_lt.mpr whole), lower]
    · right
      obtain ⟨none, inside⟩ := not_or.mp leaves
      have none := Classical.not_not.mp none
      have fraction : s.nanos.tmod nanosPerSecond = s.nanos := by
        rw [none] at split
        simpa using split
      rw [fraction] at inside
      refine ⟨isLeap, by omega, ?_⟩
      simp only [add?, isLeap, none, fraction, inside]
      simp
      omega
  · left
    rw [add?_plain s (Nat.lt_of_not_le isLeap), upper_eq, leap_of_plain (Nat.lt_of_not_le isLeap)]
    simp

theorem sub?_back {t : Instant} {s : Span} (room : t.leap ≤ s.nanos) :
    t.sub? s = ofCount? (t.upper - s.nanos) := by
  unfold sub?
  by_cases isLeap : nanosPerSecond ≤ t.nanos
  · have second : (nanosPerSecond : Int) ≤ s.nanos := by
      simp only [leap, nanosPerSecond] at *
      omega
    have whole : s.neg.nanos.tdiv nanosPerSecond < 0 := by
      have := Int.le_tdiv_of_mul_le (a := 1) (c := nanosPerSecond) (by decide) (by simpa using second)
      simp only [Span.neg, Int.neg_tdiv]
      omega
    rw [add?_leap isLeap (.inl (by omega)), if_pos whole]
    simp only [Span.neg]
    congr 1
  · rw [add?_plain _ (Nat.lt_of_not_le isLeap)]
    simp only [Span.neg]
    congr 1

/-- The end of a time that begins at an instant, cut off at the last one, is bound by the lower count or in
the leap second in which the time began. -/
theorem add?_latest {t : Instant} {s : Span} (valid : t.Valid) (forward : 0 ≤ s.nanos) :
    ((t.add? s).getD latest).nanos < nanosPerSecond ∧
      ((t.add? s).getD latest).upper ≤ t.lower + s.nanos ∨
    nanosPerSecond ≤ t.nanos ∧ ((t.add? s).getD latest).seconds = t.seconds := by
  rcases add?_forward valid.within forward with sum | ⟨isLeap, -, stays⟩
  · left
    rw [sum]
    cases there : ofCount? (t.lower + s.nanos) with
    | some u =>
      obtain ⟨plain, count, -⟩ := ofCount?_eq_some there
      exact ⟨plain, Int.le_of_eq count⟩
    | none =>
      have early := valid.early
      refine ⟨by decide, ?_⟩
      rcases ofCount?_eq_none there with below | beyond
      · simp only [lower, upper, earliest, latest, nanosPerSecond, Option.getD_none] at *
        omega
      · exact Int.le_of_lt beyond
  · right
    rw [stays]
    exact ⟨isLeap, rfl⟩

/-- Whole microseconds say when an instant was, except that a leap second becomes the one after it. -/
theorem ofMicros?_micros {t u : Instant} (read : ofMicros? t.micros = some u) :
    u.nanos < nanosPerSecond ∧ u.upper ≤ t.upper ∧ u.Valid := by
  rw [ofMicros?_eq] at read
  obtain ⟨plain, count, valid⟩ := ofCount?_eq_some read
  refine ⟨plain, ?_, valid⟩
  rw [count]
  simp only [micros, upper, nanosPerSecond]
  omega

theorem truncated_truncated (t : Instant) : t.truncated.truncated = t.truncated := by
  have whole : (t.nanos - t.nanos % 1000) % 1000 = 0 := by omega
  simp [truncated, whole]

theorem ofMicros?_plain {t : Instant} (valid : t.Valid) (plain : t.nanos < nanosPerSecond) :
    ofMicros? t.micros = some t.truncated := by
  have seconds : t.micros.fdiv 1000000 = t.seconds := by
    rw [Int.fdiv_eq_ediv_of_nonneg _ (by decide)]
    simp only [micros, nanosPerSecond] at *
    omega
  have nanos : (t.micros.fmod 1000000).toNat * 1000 = t.nanos - t.nanos % 1000 := by
    rw [Int.fmod_eq_emod_of_nonneg _ (by decide)]
    simp only [micros, nanosPerSecond] at *
    omega
  have inRange : secondInRange t.seconds = true := by
    simp [secondInRange, valid.early, valid.late]
  simp only [ofMicros?, seconds, nanos, inRange, if_true, truncated]

theorem getD_add?_mono {a b : Instant} {s : Span} (valid : a.Valid) (plain : a.nanos < nanosPerSecond)
    (plain' : b.nanos < nanosPerSecond) (le : a ≤ b) (forward : 0 ≤ s.nanos) :
    (a.add? s).getD latest ≤ (b.add? s).getD latest := by
  have counts : a.upper ≤ b.upper := by
    simp only [le_def, upper, nanosPerSecond] at *
    omega
  rw [add?_plain s plain, add?_plain s plain']
  cases sum : ofCount? (a.upper + s.nanos) with
  | some x =>
    obtain ⟨xPlain, count, there⟩ := ofCount?_eq_some sum
    cases sum' : ofCount? (b.upper + s.nanos) with
    | some y =>
      obtain ⟨yPlain, count', -⟩ := ofCount?_eq_some sum'
      have less : x.upper ≤ y.upper := by omega
      exact le_of_counts xPlain yPlain less
    | none =>
      have late := there.late
      simp only [le_def, latest, nanosPerSecond, Option.getD_none, Option.getD_some] at *
      omega
  | none =>
    -- the earlier sum is past the last instant, so the later one is too
    have early := valid.early
    have beyond : latest.upper < a.upper + s.nanos := by
      refine (ofCount?_eq_none sum).resolve_left fun below => ?_
      simp only [lower, upper, earliest, nanosPerSecond] at *
      omega
    have none' : ofCount? (b.upper + s.nanos) = none := by
      cases sum' : ofCount? (b.upper + s.nanos) with
      | none => rfl
      | some y =>
        obtain ⟨yPlain, count', there⟩ := ofCount?_eq_some sum'
        have late := there.late
        simp only [upper, latest, nanosPerSecond] at *
        omega
    rw [none']
    exact le_refl _

theorem sub?_some {now before : Instant} {keep : Span} (room : now.leap ≤ keep.nanos)
    (cut : now.sub? keep = some before) :
    before.nanos < nanosPerSecond ∧ before.upper = now.upper - keep.nanos := by
  rw [sub?_back room] at cut
  exact ⟨(ofCount?_eq_some cut).1, (ofCount?_eq_some cut).2.1⟩

/-- What lies before a cut has ended by now, also with a skew that the cut leaves room for. -/
theorem ended_of_cut {t now before : Instant} {skew keep : Span} (valid : t.Valid)
    (forward : 0 ≤ skew.nanos) (room : skew.nanos + now.leap ≤ keep.nanos)
    (cut : now.sub? keep = some before) (old : t < before) : (t.add? skew).getD latest < now := by
  obtain ⟨plain, count⟩ := sub?_some (by omega) cut
  have start := counts_of_lt plain old
  have counts := now.upper_eq
  rcases add?_latest valid forward with ⟨ends, bound⟩ | ⟨isLeap, same⟩
  · exact lt_of_counts ends (by omega)
  · -- the leap second of `t` is over before the cut
    have whole : t.seconds < before.seconds := by
      simp only [lt_def] at old
      omega
    simp only [lt_def, same, lower, upper, nanosPerSecond] at *
    omega

/-- The same of a time that is known in whole microseconds only, for which a leap second is later. -/
theorem ended_of_cut_micros {t u now before : Instant} {skew keep : Span}
    (read : ofMicros? t.micros = some u) (forward : 0 ≤ skew.nanos)
    (room : skew.nanos + t.leap + now.leap ≤ keep.nanos) (cut : now.sub? keep = some before)
    (old : t < before) : (u.add? skew).getD latest < now := by
  obtain ⟨plain, bound, valid⟩ := ofMicros?_micros read
  obtain ⟨cutPlain, count⟩ := sub?_some (by omega) cut
  have start := counts_of_lt cutPlain old
  rcases add?_latest valid forward with ⟨ends, sum⟩ | ⟨isLeap, -⟩
  · have counts := now.upper_eq
    have counts' := t.upper_eq
    have counts'' := u.upper_eq
    exact lt_of_counts ends (by omega)
  · exact absurd plain (Nat.not_lt.mpr isLeap)

theorem lt_longest {t u : Instant} {s : Span} (plain : t.nanos < nanosPerSecond) (valid : t.Valid)
    (sum : t.add? s = some u) : s.nanos < Span.longest.nanos := by
  rw [add?_plain s plain] at sum
  obtain ⟨_, count, there⟩ := ofCount?_eq_some sum
  have early := valid.early
  have late := there.late
  have whole : Span.longest.nanos = 9223372036854775807000000 := by decide
  simp only [upper, earliest, latest, nanosPerSecond] at *
  omega

/-- What lasts no longer than a lifetime from an instant is over, with a skew, when a longer time is that
began no sooner. -/
theorem end_le_of_lasting {start expiry later x : Instant} {life skew keep : Span} (valid : start.Valid)
    (valid' : expiry.Valid) (valid'' : later.Valid) (forward : 0 ≤ life.nanos) (forward' : 0 ≤ skew.nanos)
    (lasting : expiry ≤ (start.add? life).getD latest) (plain : later.nanos < nanosPerSecond)
    (since : start ≤ later) (room : min (life.nanos + skew.nanos) Span.longest.nanos ≤ keep.nanos)
    (sum : later.add? keep = some x) : (expiry.add? skew).getD latest ≤ x := by
  have short := lt_longest plain valid'' sum
  rw [add?_plain keep plain] at sum
  obtain ⟨xPlain, count, -⟩ := ofCount?_eq_some sum
  have begun := counts_of_le plain since
  -- if the expiry is in a leap second, that too ends within the lifetime
  have ended : expiry.lower ≤ later.upper + life.nanos ∧ (nanosPerSecond ≤ expiry.nanos →
      (expiry.seconds + 1) * nanosPerSecond ≤ later.upper + life.nanos) := by
    rcases add?_latest valid forward with ⟨ends, bound⟩ | ⟨isLeap, same⟩
    · have counts := counts_of_le ends lasting
      refine ⟨by omega, fun isLeap => ?_⟩
      simp only [le_def, upper, lower, nanosPerSecond] at *
      omega
    · have late := valid'.within
      simp only [le_def, same] at lasting
      simp only [le_def, upper, lower, nanosPerSecond] at *
      omega
  rcases add?_latest valid' forward' with ⟨ends, bound⟩ | ⟨isLeap, same⟩
  · exact le_of_counts ends xPlain (by omega)
  · left
    have after := ended.2 isLeap
    rw [same]
    simp only [upper, nanosPerSecond] at *
    omega

/-- A shorter time that begins outside a leap second does not end later. -/
theorem add?_mono {t x : Instant} {s longer : Span} (plain : t.nanos < nanosPerSecond)
    (shorter : s.nanos ≤ longer.nanos) (sum : t.add? s = some x) :
    x.Valid ∧ x ≤ (t.add? longer).getD latest := by
  rw [add?_plain s plain] at sum
  obtain ⟨xPlain, count, there⟩ := ofCount?_eq_some sum
  refine ⟨there, ?_⟩
  rw [add?_plain longer plain]
  cases sum' : ofCount? (t.upper + longer.nanos) with
  | some y =>
    obtain ⟨yPlain, count', -⟩ := ofCount?_eq_some sum'
    have less : x.upper ≤ y.upper := by omega
    exact le_of_counts xPlain yPlain less
  | none =>
    have late := there.late
    simp only [le_def, latest, nanosPerSecond, Option.getD_none] at *
    omega

end Gatehouse.Instant

namespace Gatehouse.Span

theorem ofDuration_nanos (d : Duration) : (ofDuration d).nanos = min (d.nanos : Int) longest.nanos := by
  have positive : 0 ≤ longest.nanos := by decide
  have least : -longest.nanos ≤ (d.nanos : Int) := by omega
  unfold ofDuration ofDuration?
  by_cases fits : (d.nanos : Int) ≤ longest.nanos
  · rw [Int.min_eq_left fits]
    simp [inRange, least, fits]
  · simp only [inRange, least, fits]
    simp
    omega

theorem ofDuration_nonneg (d : Duration) : 0 ≤ (ofDuration d).nanos := by
  have positive : 0 ≤ longest.nanos := by decide
  rw [ofDuration_nanos]
  omega

theorem ofDuration?_eq_some {d : Duration} {s : Span} (fits : ofDuration? d = some s) : s = ofDuration d := by
  rw [ofDuration, fits]
  rfl

theorem ofDuration_mono {a b : Duration} (le : a ≤ b) : (ofDuration a).nanos ≤ (ofDuration b).nanos := by
  rw [Duration.le_def] at le
  rw [ofDuration_nanos, ofDuration_nanos]
  omega

theorem min_add_le_ofDuration {a b c : Duration} (le : a.saturatingAdd b ≤ c) :
    min ((ofDuration a).nanos + (ofDuration b).nanos) longest.nanos ≤ (ofDuration c).nanos := by
  have whole : longest.nanos ≤ Duration.longest.nanos := by decide
  simp only [Duration.le_def, Duration.saturatingAdd, Nat.min_def] at le
  simp only [ofDuration_nanos]
  split at le <;> omega

end Gatehouse.Span
