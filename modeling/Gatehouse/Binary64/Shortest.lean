import Gatehouse.Binary64
import Gatehouse.Text.Decimal

/-!
The decimal text of a finite value: the fewest significant digits that read back as the same value,
positional from `1e-5` up to `1e16` and with an exponent outside.
-/
namespace Gatehouse.Binary64

/-- A decimal `digits * 10 ^ exponent`. -/
structure Decimal where
  digits : Nat
  exponent : Int
  deriving Repr, DecidableEq

/-- The value on the grid of `10 ^ exponent` nearest to `num / den`. -/
def nearestOnGrid (num den : Nat) (exponent : Int) : Nat :=
  if exponent < 0 then divEven (num * Nat.pow 10 exponent.natAbs) den
  else divEven num (den * Nat.pow 10 exponent.natAbs)

/-- The largest power of ten that is at most `num / den`. -/
def magnitude (num den : Nat) : Int :=
  if den ≤ num then ((Text.Decimal.digits (num / den)).length : Int) - 1
  else -((Text.Decimal.digits ((den - 1) / num)).length : Int)

/-- Tries `count` significant digits, then one more, for `more` rounds. -/
def shortestFrom (m p : Nat) (num den : Nat) (top : Int) : Nat → Nat → Decimal
  | 0, count => ⟨nearestOnGrid num den (top - count + 1), top - count + 1⟩
  | more + 1, count =>
    let exponent := top - count + 1
    let digits := nearestOnGrid num den exponent
    if ofDecimal false digits exponent = finite false m p then ⟨digits, exponent⟩
    else shortestFrom m p num den top more (count + 1)

def shortest (m p : Nat) : Decimal :=
  shortestFrom m p (units m p) unit (magnitude (units m p) unit) 16 1

/-- Drops noughts at the end of the digits. -/
def stripNoughts (cs : List Char) : List Char := (cs.reverse.dropWhile (· = '0')).reverse

def text (x : Binary64) : String :=
  match x with
  | nan => "NaN"
  | infinity s => if s then "-inf" else "inf"
  | finite s m p =>
    let sign := if s then "-" else ""
    if m = 0 then sign ++ "0.0"
    else
      let d := shortest m p
      let all := Text.Decimal.digits d.digits
      let point := d.exponent + all.length
      let ds := stripNoughts all
      if 0 < point ∧ point ≤ 16 then
        let whole := (ds ++ List.replicate (point.natAbs - ds.length) '0').take point.natAbs
        let rest := ds.drop point.natAbs
        sign ++ String.ofList (whole ++ '.' :: if rest.isEmpty then ['0'] else rest)
      else if -5 < point ∧ point ≤ 0 then
        sign ++ String.ofList ('0' :: '.' :: List.replicate point.natAbs '0' ++ ds)
      else
        let rest := ds.drop 1
        sign ++ String.ofList (ds.take 1 ++ if rest.isEmpty then [] else '.' :: rest) ++ "e"
          ++ Text.Decimal.intText (point - 1)

end Gatehouse.Binary64
