import Gatehouse.Text.Blank
import Gatehouse.Json.Reader

/-!
Sets of code points as increasing disjoint ranges. Tables write a set as words: a code point, a range, or
a range of every second code point, all in hexadecimal digits.
-/
namespace Gatehouse.Unicode

structure CharSet where
  ranges : Array (Nat × Nat)
  deriving DecidableEq, Repr, Inhabited

namespace CharSet

def maxCode : Nat := 0x10FFFF

def empty : CharSet := ⟨#[]⟩

def everything : CharSet := ⟨#[(0, maxCode)]⟩

def isEmpty (s : CharSet) : Bool := s.ranges.isEmpty

/-- Joins ranges, in increasing order of their starts, that overlap or touch. -/
def merge : List (Nat × Nat) → List (Nat × Nat)
  | [] => []
  | [r] => [r]
  | (a, b) :: (c, d) :: rest =>
    if c ≤ b + 1 then merge ((a, Nat.max b d) :: rest) else (a, b) :: merge ((c, d) :: rest)
termination_by rs => rs.length

def ofRanges (ranges : List (Nat × Nat)) : CharSet :=
  ⟨(merge (ranges.mergeSort fun a b => a.1 ≤ b.1)).toArray⟩

def ofChar (c : Char) : CharSet := ⟨#[(c.toNat, c.toNat)]⟩

/-- Looks for a code point among the ranges from `low` up to `high`. -/
def search (ranges : Array (Nat × Nat)) (n : Nat) : Nat → Nat → Nat → Bool
  | 0, _, _ => false
  | fuel + 1, low, high =>
    if high ≤ low then false
    else
      let mid := (low + high) / 2
      match ranges[mid]? with
      | none => false
      | some (a, b) =>
        if n < a then search ranges n fuel low mid
        else if b < n then search ranges n fuel (mid + 1) high
        else true

def containsCode (s : CharSet) (n : Nat) : Bool :=
  search s.ranges n (s.ranges.size + 1) 0 s.ranges.size

def contains (s : CharSet) (c : Char) : Bool := s.containsCode c.toNat

def union (a b : CharSet) : CharSet := ofRanges (a.ranges.toList ++ b.ranges.toList)

/-- The gaps between increasing ranges, from `start` on. -/
def gaps (start : Nat) : List (Nat × Nat) → List (Nat × Nat)
  | [] => if start ≤ maxCode then [(start, maxCode)] else []
  | (a, b) :: rest => if start < a then (start, a - 1) :: gaps (b + 1) rest else gaps (b + 1) rest

def complement (s : CharSet) : CharSet := ⟨(gaps 0 s.ranges.toList).toArray⟩

def intersection (a b : CharSet) : CharSet := (a.complement.union b.complement).complement

def difference (a b : CharSet) : CharSet := a.intersection b.complement

def symmetricDifference (a b : CharSet) : CharSet := (a.union b).difference (a.intersection b)

def hexChars (cs : List Char) : Nat := cs.foldl (fun n c => 16 * n + (Json.hexValue? c).getD 0) 0

def hex (s : String) : Nat := hexChars s.toList

/-- The ranges that one word of a table stands for. -/
def wordRanges (word : List Char) : List (Nat × Nat) :=
  let first := word.takeWhile fun c => c ≠ '-'
  let rest := (word.dropWhile fun c => c ≠ '-').drop 1
  if word.isEmpty then []
  else if rest.isEmpty then [(hexChars first, hexChars first)]
  else
    let last := rest.takeWhile fun c => c ≠ '/'
    let a := hexChars first
    let b := hexChars last
    if last.length < rest.length then
      (List.range ((b - a) / 2 + 1)).map fun i => (a + 2 * i, a + 2 * i)
    else [(a, b)]

def parseRanges (text : String) : List (Nat × Nat) :=
  (Text.splitChars (· = ' ') text.toList).flatMap wordRanges

/-- The code points of one word, one by one. -/
def parseCodes (word : String) : List Nat :=
  (wordRanges word.toList).flatMap fun r => (List.range (r.2 - r.1 + 1)).map (r.1 + ·)

def ofText (text : String) : CharSet := ofRanges (parseRanges text)

end CharSet
end Gatehouse.Unicode
