import Gatehouse.Instant.Calendar
import Gatehouse.Text.Blank
import Gatehouse.Text.Decimal

/-!
Instants as text. They are written as RFC 3339 has it, in UTC, with a fraction of three, six or nine
digits where one is needed; years beyond four digits have a sign. Reading also takes other offsets,
blanks between the parts, and parts with fewer digits. Messages show an instant with blanks between date,
time and zone.
-/
namespace Gatehouse.Instant

def pad (width n : Nat) : String := String.ofList (Text.Decimal.padded width n)

def yearText (year : Int) : String :=
  if 0 ≤ year ∧ year ≤ 9999 then pad 4 year.toNat
  else (if year < 0 then "-" else "+") ++ pad 4 year.natAbs

def fractionText (nanos : Nat) : String :=
  if nanos = 0 then ""
  else if nanos % 1000000 = 0 then "." ++ pad 3 (nanos / 1000000)
  else if nanos % 1000 = 0 then "." ++ pad 6 (nanos / 1000)
  else "." ++ pad 9 nanos

def textWith (between zone : String) (t : Instant) : String :=
  let d := t.date
  let s := t.secondOfDay.toNat
  let (leap, nanos) := if nanosPerSecond ≤ t.nanos then (1, t.nanos - nanosPerSecond) else (0, t.nanos)
  yearText d.year ++ "-" ++ pad 2 d.month ++ "-" ++ pad 2 d.day ++ between ++ pad 2 (s / 3600) ++ ":" ++
    pad 2 (s / 60 % 60) ++ ":" ++ pad 2 (s % 60 + leap) ++ fractionText nanos ++ zone

def text (t : Instant) : String := t.textWith "T" "Z"

/-- The text in messages. -/
def plain (t : Instant) : String := t.textWith " " " UTC"

def skipBlanks (cs : List Char) : List Char := cs.dropWhile Text.isBlank

/-- A number of one digit at least and `width` at most, after blanks. -/
def number? (width : Nat) (cs : List Char) : Option (Nat × List Char) :=
  let cs := skipBlanks cs
  let ds := (cs.take width).takeWhile Text.Decimal.isDigit
  if ds.isEmpty then none else some (Text.Decimal.value ds, cs.drop ds.length)

/-- A year: four digits at most, or a sign and any number of them. -/
def year? (cs : List Char) : Option (Int × List Char) :=
  match skipBlanks cs with
  | '-' :: rest => signed (-1) rest
  | '+' :: rest => signed 1 rest
  | cs => (number? 4 cs).map fun r => ((r.1 : Int), r.2)
where
  signed (sign : Int) (cs : List Char) : Option (Int × List Char) :=
    let ds := cs.takeWhile Text.Decimal.isDigit
    if ds.isEmpty then none else some (sign * Text.Decimal.value ds, cs.drop ds.length)

/-- A separator, with blanks before it. -/
def expect? (c : Char) (cs : List Char) : Option (List Char) :=
  match skipBlanks cs with
  | d :: rest => if d = c then some rest else none
  | [] => none

/-- A fraction of a second; digits behind the ninth are passed over. -/
def fraction? (cs : List Char) : Option (Nat × List Char) :=
  match cs with
  | '.' :: cs =>
    let ds := cs.takeWhile Text.Decimal.isDigit
    let kept := ds.take 9
    if ds.isEmpty then none
    else some (Text.Decimal.value kept * Nat.pow 10 (9 - kept.length), cs.drop ds.length)
  | cs => some (0, cs)

/-- An offset in seconds: `Z`, `UTC`, or a sign, two digits of hours and two of minutes. -/
def offset? (cs : List Char) : Option (Int × List Char) := do
  match cs with
  | 'Z' :: rest => some (0, rest)
  | 'z' :: rest => some (0, rest)
  | cs =>
    if (cs.take 3).map Char.toUpper = ['U', 'T', 'C'] then some (0, cs.drop 3)
    else
      let (sign, cs) : Int × List Char ←
        match cs with
        | '+' :: rest => some (1, rest)
        | '-' :: rest => some (-1, rest)
        | '−' :: rest => some (-1, rest)
        | _ => none
      let digits2 (cs : List Char) : Option (Nat × List Char) :=
        match cs with
        | a :: b :: rest => (Text.Decimal.value? [a, b]).map fun n => (n, rest)
        | _ => none
      let (hours, cs) ← digits2 cs
      let (minutes, cs) ← digits2 (cs.dropWhile fun c => c = ':' || Text.isBlank c)
      if 60 ≤ minutes ∨ 24 ≤ hours then none else some (sign * (hours * 3600 + minutes * 60 : Nat), cs)

def parseChars (cs : List Char) : Option Instant := do
  let (year, cs) ← year? cs
  let (month, cs) ← number? 2 (← expect? '-' cs)
  let (day, cs) ← number? 2 (← expect? '-' cs)
  let cs ←
    match cs with
    | 'T' :: rest => some rest
    | 't' :: rest => some rest
    | ' ' :: rest => some rest
    | _ => none
  let (hour, cs) ← number? 2 cs
  let (minute, cs) ← number? 2 (← expect? ':' cs)
  let (second, cs) ← number? 2 (← expect? ':' cs)
  let (nanos, cs) ← fraction? cs
  let (offset, cs) ← offset? (skipBlanks cs)
  let date : Date := ⟨year, month, day⟩
  if !(skipBlanks cs).isEmpty || !date.isValid || 24 ≤ hour || 60 ≤ minute || 60 < second then none
  else
    let here := date.days * 86400 + (hour * 3600 + minute * 60 + Nat.min second 59 : Nat)
    let nanos := if second = 60 then nanos + nanosPerSecond else nanos
    if secondInRange here && secondInRange (here - offset) then some ⟨here - offset, nanos⟩
    else none

def parse (s : String) : Option Instant := parseChars s.toList

end Gatehouse.Instant
