import Gatehouse.Duration

/-!
Wall-clock time. An instant is a second counted from the beginning of 1970 and nanoseconds within it; a
second that is followed by a leap second holds up to two thousand million of them. Instants lie in a range
of years, and sums that leave it do not exist. A span is a signed length of time, and is bounded too.
-/
namespace Gatehouse

structure Instant where
  seconds : Int
  nanos : Nat
  deriving DecidableEq, Repr, Inhabited

structure Span where
  nanos : Int
  deriving DecidableEq, Repr, Inhabited

namespace Span

def zero : Span := ⟨0⟩

/-- The longest span: `2 ^ 63 - 1` milliseconds. The shortest is its opposite. -/
def longest : Span := ⟨(Nat.pow 2 63 - 1) * 1000000⟩

def inRange (s : Span) : Bool := -longest.nanos ≤ s.nanos && s.nanos ≤ longest.nanos

def neg (s : Span) : Span := ⟨-s.nanos⟩

def ofDuration? (d : Duration) : Option Span :=
  let s : Span := ⟨d.nanos⟩
  if s.inRange then some s else none

/-- A duration, at most the longest span. -/
def ofDuration (d : Duration) : Span := (ofDuration? d).getD longest

def ofMillis (ms : Int) : Span := ⟨ms * 1000000⟩

def add? (a b : Span) : Option Span :=
  let s : Span := ⟨a.nanos + b.nanos⟩
  if s.inRange then some s else none

def toDuration? (s : Span) : Option Duration :=
  if 0 ≤ s.nanos then some ⟨s.nanos.toNat⟩ else none

end Span

namespace Instant

/-- Instants are ordered by their second, then by the nanoseconds in it. -/
def le (a b : Instant) : Prop := a.seconds < b.seconds ∨ (a.seconds = b.seconds ∧ a.nanos ≤ b.nanos)

def lt (a b : Instant) : Prop := a.seconds < b.seconds ∨ (a.seconds = b.seconds ∧ a.nanos < b.nanos)

instance : LE Instant := ⟨le⟩
instance : LT Instant := ⟨lt⟩
instance (a b : Instant) : Decidable (a ≤ b) :=
  inferInstanceAs (Decidable (a.seconds < b.seconds ∨ (a.seconds = b.seconds ∧ a.nanos ≤ b.nanos)))
instance (a b : Instant) : Decidable (a < b) :=
  inferInstanceAs (Decidable (a.seconds < b.seconds ∨ (a.seconds = b.seconds ∧ a.nanos < b.nanos)))

theorem le_def {a b : Instant} :
    a ≤ b ↔ a.seconds < b.seconds ∨ (a.seconds = b.seconds ∧ a.nanos ≤ b.nanos) := Iff.rfl
theorem lt_def {a b : Instant} :
    a < b ↔ a.seconds < b.seconds ∨ (a.seconds = b.seconds ∧ a.nanos < b.nanos) := Iff.rfl

def nanosPerSecond : Nat := 1000000000

/-- The first instant: the beginning of the year -262143. -/
def earliest : Instant := ⟨-8334601228800, 0⟩

/-- The last instant: the end of the year 262142. -/
def latest : Instant := ⟨8210266876799, 999999999⟩

def secondInRange (seconds : Int) : Bool := earliest.seconds ≤ seconds && seconds ≤ latest.seconds

/-- The instant after a span. Within a leap second the fraction just grows or shrinks; a leap second is
left towards the second after it, or the one it belongs to. -/
def add? (t : Instant) (s : Span) : Option Instant :=
  let wholeSeconds := s.nanos.tdiv nanosPerSecond
  let fraction := s.nanos.tmod nanosPerSecond
  let isLeap := nanosPerSecond ≤ t.nanos
  if isLeap ∧ wholeSeconds = 0 ∧ ¬ (0 < fraction ∧ 2 * nanosPerSecond ≤ t.nanos + fraction) then
    some ⟨t.seconds, (t.nanos + fraction).toNat⟩
  else
    let (seconds, nanos) : Int × Int :=
      if !isLeap then (t.seconds, t.nanos)
      else if wholeSeconds < 0 then (t.seconds + 1, t.nanos - nanosPerSecond)
      else (t.seconds, t.nanos - nanosPerSecond)
    let total := nanos + fraction
    let seconds := seconds + wholeSeconds + total.fdiv nanosPerSecond
    if secondInRange seconds then some ⟨seconds, (total.fmod nanosPerSecond).toNat⟩ else none

def sub? (t : Instant) (s : Span) : Option Instant := t.add? s.neg

def secondOfDay (t : Instant) : Int := t.seconds.emod 86400

/-- The span from `b` to `a`. A leap second between their times of day counts as a second of its own. -/
def since (a b : Instant) : Span :=
  let leap : Int :=
    if b.secondOfDay < a.secondOfDay ∧ nanosPerSecond ≤ b.nanos then 1
    else if a.secondOfDay < b.secondOfDay ∧ nanosPerSecond ≤ a.nanos then -1
    else 0
  ⟨(a.seconds - b.seconds + leap) * nanosPerSecond + (a.nanos - b.nanos)⟩

/-- The instant without what is below a microsecond. -/
def truncated (t : Instant) : Instant := ⟨t.seconds, t.nanos - t.nanos % 1000⟩

/-- Microseconds from the beginning of 1970. -/
def micros (t : Instant) : Int := t.seconds * 1000000 + t.nanos / 1000

def ofMicros? (micros : Int) : Option Instant :=
  let seconds := micros.fdiv 1000000
  if secondInRange seconds then some ⟨seconds, (micros.fmod 1000000).toNat * 1000⟩ else none

end Instant
end Gatehouse
