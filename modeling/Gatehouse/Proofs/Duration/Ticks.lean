import Gatehouse.Duration

/-!
Ticks, the instants at which timers fire. The tick of an instant is the first one that is not before it, and less than
a millisecond away.
-/
namespace Gatehouse.Moment

theorem not_lt {a b : Moment} : ¬ a < b ↔ b ≤ a := Nat.not_lt

theorem eq_of_le_of_le {a b : Moment} (order : a ≤ b) (back : b ≤ a) : a = b :=
  congrArg Moment.mk (Nat.le_antisymm order back)

theorem tick_iff (m : Moment) : m.tick = m ↔ m.nanos % Duration.nanosPerMilli = 0 := by
  obtain ⟨nanos⟩ := m
  rw [tick, mk.injEq]
  simp only [Duration.nanosPerMilli]
  omega

theorem tick_tick (m : Moment) : m.tick.tick = m.tick := by
  simp only [tick, Duration.nanosPerMilli, mk.injEq]
  omega

theorem tick_add {m : Moment} (whole : m.tick = m) (ms : Nat) :
    (m.add (.ofMillis ms)).tick = m.add (.ofMillis ms) := by
  rw [tick_iff] at whole ⊢
  rw [add, Duration.ofMillis, Nat.add_mul_mod_self_right]
  exact whole

theorem add_le_tick {m : Moment} (whole : m.tick = m) {n : Moment} (later : m < n.tick) :
    m.add (.ofMillis 1) ≤ n.tick := by
  rw [tick_iff] at whole
  simp only [lt_def, le_def, tick, add, Duration.ofMillis, Duration.nanosPerMilli] at whole later ⊢
  omega

theorem tick_le_iff {m tick : Moment} (whole : tick.tick = tick) : m.tick ≤ tick ↔ m ≤ tick := by
  rw [tick_iff] at whole
  simp only [le_def, Moment.tick, Duration.nanosPerMilli] at whole ⊢
  omega

theorem lt_tick_iff {m tick : Moment} (whole : tick.tick = tick) : tick < m.tick ↔ tick < m := by
  rw [← Decidable.not_iff_not, not_lt, not_lt]
  exact tick_le_iff whole

theorem tick_lt (m : Moment) : m.tick < m.add (.ofMillis 1) := by
  simp only [lt_def, tick, add, Duration.ofMillis, Duration.nanosPerMilli]
  omega

theorem lt_tick_add (now : Moment) {d : Duration} (lasts : d ≠ .zero) : now < (now.add d).tick := by
  have positive : 0 < d.nanos := Nat.pos_of_ne_zero fun none => lasts (congrArg Duration.mk none)
  simp only [lt_def, tick, add, Duration.nanosPerMilli]
  omega

theorem millis_mono {a b : Moment} (order : a ≤ b) : a.millis ≤ b.millis := Nat.div_le_div_right order

theorem millis_lt {a b : Moment} (later : a < b) (isTick : b.tick = b) : a.millis < b.millis := by
  rw [← isTick] at later ⊢
  simp only [lt_def, millis, tick, Duration.nanosPerMilli] at later ⊢
  omega

end Gatehouse.Moment
