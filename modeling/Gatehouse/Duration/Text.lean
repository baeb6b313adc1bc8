import Gatehouse.Duration
import Gatehouse.Text.Blank
import Gatehouse.Text.Decimal

/-!
The configuration's text of a span: groups of a number and a unit, such as `1h 30m`. Writing uses the
largest units first and leaves out what is nought. Reading walks over the characters once; blanks
inside a number count for nothing, and a decimal part has to come out in whole nanoseconds, or in
whole seconds for units from hours up.
-/
namespace Gatehouse.Duration

inductive Unit where
  | nano | micro | milli | second | minute | hour | day | week | month | year
  deriving DecidableEq, Repr

namespace Unit

/-- The spellings of a unit; a month is 30.44 days and a year 365.25. -/
def names : Unit → List String
  | nano => ["ns", "nsec", "nanos"]
  | micro => ["us", "usec", "µs"]
  | milli => ["ms", "msec", "millis"]
  | second => ["s", "sec", "secs", "second", "seconds"]
  | minute => ["m", "min", "mins", "minute", "minutes"]
  | hour => ["h", "hr", "hrs", "hour", "hours"]
  | day => ["d", "day", "days"]
  | week => ["w", "wk", "wks", "week", "weeks"]
  | month => ["M", "month", "months"]
  | year => ["y", "yr", "yrs", "year", "years"]

def all : List Unit := [nano, micro, milli, second, minute, hour, day, week, month, year]

def ofName? (name : String) : Option Unit := all.find? fun u => u.names.contains name

/-- Units below a second count in nanoseconds, the rest in seconds. -/
def isSubsecond : Unit → Bool
  | nano | micro | milli => true
  | _ => false

/-- The size of a unit, in nanoseconds below a second and in seconds from there. -/
def size : Unit → Nat
  | nano => 1
  | micro => 1000
  | milli => 1000000
  | second => 1
  | minute => 60
  | hour => 3600
  | day => 86400
  | week => 604800
  | month => 2630016
  | year => 31557600

def nanos (u : Unit) : Nat := if u.isSubsecond then u.size else u.size * nanosPerSecond

/-- The grain in which a fraction of the unit has to come out whole. -/
def grain : Unit → Nat
  | nano | micro | milli | second | minute => 1
  | _ => nanosPerSecond

end Unit

/-- The bound of every intermediate count. -/
def wordLimit : Nat := Nat.pow 2 64

/-- Adds a span to a total. The nanoseconds below a second and the ones added have to fit a word, and so
have the seconds of the sum. -/
def addSpan? (total span : Duration) : Option Duration :=
  if wordLimit ≤ (total.nanos + span.nanos) / nanosPerSecond then none
  else some ⟨total.nanos + span.nanos⟩

def addWhole? (total : Duration) (n : Nat) (u : Unit) : Option Duration :=
  if wordLimit ≤ n * u.size then none
  else if u.isSubsecond && wordLimit ≤ subsecondNanos total + n * u.size then none
  else addSpan? total ⟨n * u.nanos⟩

/-- A decimal part: `numerator / denominator` of the unit. -/
structure Fraction where
  numerator : Nat
  denominator : Nat

/-- The decimal part of a group; there is none of a nanosecond. -/
def addFraction? (total : Duration) (f : Fraction) (u : Unit) : Option Duration :=
  let scaled := f.numerator * (u.nanos / u.grain)
  if u = .nano || wordLimit ≤ scaled || scaled % f.denominator ≠ 0 then none
  else addSpan? total ⟨scaled / f.denominator * u.grain⟩

/-- How far the reader is inside the current group. -/
inductive Progress where
  /-- Nothing but blanks so far. -/
  | start
  /-- Between two groups. -/
  | gap
  | whole (n : Nat)
  | fraction (n : Nat) (f : Fraction)
  | unit (n : Nat) (f : Option Fraction) (name : List Char)

structure Reader where
  total : Duration
  progress : Progress

namespace Reader

def isUnitChar (c : Char) : Bool := c.isAlpha || c = 'µ'

/-- Ends a group by its unit. -/
def close? (total : Duration) (n : Nat) (f : Option Fraction) (name : List Char) :
    Option Duration := do
  let u ← Unit.ofName? (String.ofList name)
  let total ← addWhole? total n u
  match f with
  | none => some total
  | some f => addFraction? total f u

/-- Appends a digit to a count that has to stay within a word. -/
def push? (n d : Nat) : Option Nat :=
  if wordLimit ≤ 10 * n + d then none else some (10 * n + d)

def step (r : Reader) (c : Char) : Option Reader :=
  match r.progress, Text.Decimal.digitValue? c with
  | .start, some d => some { r with progress := .whole d }
  | .start, none => if Text.isBlank c then some r else none
  | .gap, some d => some { r with progress := .whole d }
  | .gap, none => if Text.isBlank c then some r else none
  | .whole n, some d => (push? n d).map fun n => { r with progress := .whole n }
  | .whole n, none =>
    if Text.isBlank c then some r
    else if isUnitChar c then some { r with progress := .unit n none [c] }
    else if c = '.' then some { r with progress := .fraction n ⟨0, 1⟩ }
    else none
  | .fraction n f, some d => do
    let denominator ← push? f.denominator 0
    let numerator ← push? f.numerator d
    some { r with progress := .fraction n ⟨numerator, denominator⟩ }
  | .fraction n f, none =>
    if Text.isBlank c then some r
    else if isUnitChar c && f.denominator ≠ 1 then some { r with progress := .unit n (some f) [c] }
    else none
  | .unit n f name, some d => (close? r.total n f name).map fun t => ⟨t, .whole d⟩
  | .unit n f name, none =>
    if Text.isBlank c then (close? r.total n f name).map fun t => ⟨t, .gap⟩
    else if isUnitChar c then some { r with progress := .unit n f (name ++ [c]) }
    else none

def finish (r : Reader) : Option Duration :=
  match r.progress with
  | .gap => some r.total
  | .unit n f name => close? r.total n f name
  | _ => none

end Reader

def parseChars (cs : List Char) : Option Duration :=
  if cs = ['0'] then some zero
  else (cs.foldlM Reader.step ⟨zero, .start⟩).bind Reader.finish

/-- Reads the text of a span; blanks around it are ignored. -/
def parse (s : String) : Option Duration := parseChars (Text.trimChars s.toList)

/-- The parts of a span from years down to nanoseconds, each with its label. -/
def parts (d : Duration) : List (Nat × String) :=
  let secs := wholeSeconds d
  let nanos := subsecondNanos d
  let plural (n : Nat) (one many : String) := (n, if n = 1 then one else many)
  let yearRest := secs % 31557600
  let monthRest := yearRest % 2630016
  let dayRest := monthRest % 86400
  [plural (secs / 31557600) "year" "years",
   plural (yearRest / 2630016) "month" "months",
   plural (monthRest / 86400) "day" "days",
   (dayRest / 3600, "h"),
   (dayRest % 3600 / 60, "m"),
   (dayRest % 60, "s"),
   (nanos / 1000000, "ms"),
   (nanos / 1000 % 1000, "us"),
   (nanos % 1000, "ns")]

/-- Writes a span; the parts that are nought are left out, and no span at all is `0s`. -/
def format (d : Duration) : String :=
  let shown := (parts d).filter fun part => part.1 ≠ 0
  if shown.isEmpty then "0s"
  else " ".intercalate (shown.map fun part => Text.Decimal.natText part.1 ++ part.2)

/-- A count of `scale`-ths after the point, without trailing noughts. -/
def fractionText (rest width : Nat) : String :=
  if rest = 0 then ""
  else
    let cs := (Text.Decimal.padded width rest).reverse.dropWhile (· = '0')
    String.ofList ('.' :: cs.reverse)

/-- The short form used in messages: one unit, the largest of s, ms, µs and ns with a whole part. -/
def brief (d : Duration) : String :=
  let shown (scale width : Nat) (label : String) :=
    Text.Decimal.natText (d.nanos / scale) ++ fractionText (d.nanos % scale) width ++ label
  if 1000000000 ≤ d.nanos then shown 1000000000 9 "s"
  else if 1000000 ≤ d.nanos then shown 1000000 6 "ms"
  else if 1000 ≤ d.nanos then shown 1000 3 "µs"
  else shown 1 0 "ns"

end Gatehouse.Duration
