/-!
Decimal digits of natural numbers: `digits` writes the shortest form, `value` reads any run of digits.
-/
namespace Gatehouse.Text.Decimal

def digitChar (d : Nat) : Char := Char.ofNat (48 + d)

def digitValue? (c : Char) : Option Nat :=
  if 48 ≤ c.toNat ∧ c.toNat ≤ 57 then some (c.toNat - 48) else none

def isDigit (c : Char) : Bool := (digitValue? c).isSome

def digits (n : Nat) : List Char :=
  if _h : n < 10 then [digitChar n] else digits (n / 10) ++ [digitChar (n % 10)]
termination_by n
decreasing_by omega

/-- Digits read from the left; a character that is no digit counts as nought. -/
def value (cs : List Char) : Nat :=
  cs.foldl (fun n c => 10 * n + (digitValue? c).getD 0) 0

def value? (cs : List Char) : Option Nat :=
  if cs.isEmpty || !cs.all isDigit then none else some (value cs)

def natText (n : Nat) : String := String.ofList (digits n)

def intText (i : Int) : String :=
  if i < 0 then String.ofList ('-' :: digits i.natAbs) else natText i.natAbs

/-- Digits of `n`, filled with noughts on the left up to `width`. -/
def padded (width n : Nat) : List Char :=
  let ds := digits n
  List.replicate (width - ds.length) '0' ++ ds

theorem digitValue?_digitChar : ∀ d, d < 10 → digitValue? (digitChar d) = some d := by decide

end Gatehouse.Text.Decimal
