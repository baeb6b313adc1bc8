import Gatehouse.Binary64

/-!
Spans of time and instants of the monotonic clock, both counted in whole nanoseconds. A span has at
most `2 ^ 64 - 1` seconds and `999999999` nanoseconds; saturating sums stop there. Timers tick in
milliseconds: a timer set for an instant fires at the first tick not before it.
-/
namespace Gatehouse

structure Duration where
  nanos : Nat
  deriving DecidableEq, Repr, Inhabited

/-- An instant of the monotonic clock, counted from its start. -/
structure Moment where
  nanos : Nat
  deriving DecidableEq, Repr, Inhabited

namespace Duration

instance : LE Duration := ⟨fun a b => a.nanos ≤ b.nanos⟩
instance : LT Duration := ⟨fun a b => a.nanos < b.nanos⟩
instance (a b : Duration) : Decidable (a ≤ b) := inferInstanceAs (Decidable (a.nanos ≤ b.nanos))
instance (a b : Duration) : Decidable (a < b) := inferInstanceAs (Decidable (a.nanos < b.nanos))

theorem le_def {a b : Duration} : a ≤ b ↔ a.nanos ≤ b.nanos := Iff.rfl
theorem lt_def {a b : Duration} : a < b ↔ a.nanos < b.nanos := Iff.rfl

def nanosPerSecond : Nat := 1000000000
def nanosPerMilli : Nat := 1000000

def zero : Duration := ⟨0⟩

def longest : Duration := ⟨(Nat.pow 2 64 - 1) * nanosPerSecond + 999999999⟩

def ofSeconds (s : Nat) : Duration := ⟨s * nanosPerSecond⟩
def ofMillis (ms : Nat) : Duration := ⟨ms * nanosPerMilli⟩

def wholeSeconds (d : Duration) : Nat := d.nanos / nanosPerSecond
def subsecondNanos (d : Duration) : Nat := d.nanos % nanosPerSecond

def max (a b : Duration) : Duration := ⟨Nat.max a.nanos b.nanos⟩

/-- The sum, cut off at the longest span. -/
def saturatingAdd (a b : Duration) : Duration := ⟨Nat.min (a.nanos + b.nanos) longest.nanos⟩

/-- Seconds as a floating number: whole seconds and the fraction are rounded on their own, then added. -/
def toSeconds (d : Duration) : Binary64 :=
  Binary64.add (Binary64.ofNat d.wholeSeconds)
    (Binary64.div (Binary64.ofNat d.subsecondNanos) (Binary64.ofNat nanosPerSecond))

/-- The span nearest to a nonnegative number of seconds, ties to even; none beyond the longest. -/
def ofFloatSeconds? : Binary64 → Option Duration
  | .finite false m p =>
    let nanos := Binary64.divEven (Binary64.units m p * nanosPerSecond) Binary64.unit
    if nanos ≤ longest.nanos then some ⟨nanos⟩ else none
  | .finite true 0 _ => some zero
  | _ => none

end Duration

namespace Moment

instance : LE Moment := ⟨fun a b => a.nanos ≤ b.nanos⟩
instance : LT Moment := ⟨fun a b => a.nanos < b.nanos⟩
instance (a b : Moment) : Decidable (a ≤ b) := inferInstanceAs (Decidable (a.nanos ≤ b.nanos))
instance (a b : Moment) : Decidable (a < b) := inferInstanceAs (Decidable (a.nanos < b.nanos))

theorem le_def {a b : Moment} : a ≤ b ↔ a.nanos ≤ b.nanos := Iff.rfl
theorem lt_def {a b : Moment} : a < b ↔ a.nanos < b.nanos := Iff.rfl

def start : Moment := ⟨0⟩

def add (t : Moment) (d : Duration) : Moment := ⟨t.nanos + d.nanos⟩

/-- The span from `earlier` to `t`, nothing if `t` is not later. -/
def since (t earlier : Moment) : Duration := ⟨t.nanos - earlier.nanos⟩

def millis (t : Moment) : Nat := t.nanos / Duration.nanosPerMilli

/-- The tick at which a timer set for `t` fires. -/
def tick (t : Moment) : Moment :=
  ⟨(t.nanos + (Duration.nanosPerMilli - 1)) / Duration.nanosPerMilli * Duration.nanosPerMilli⟩

theorem le_tick (t : Moment) : t ≤ t.tick := by
  simp only [le_def, tick, Duration.nanosPerMilli]; omega

end Moment
end Gatehouse
