/-!
Binary floating point with 53-bit significands. A finite value is `m * 2 ^ p` units of `2 ^ -1074`,
so every magnitude is a natural number of units and rounding is exact integer arithmetic: a
quotient of naturals goes to the nearest value, a tie to the even significand, and an overflow to
infinity. The significand is below `2 ^ 53`, and at least `2 ^ 52` unless `p = 0`.
-/
namespace Gatehouse

inductive Binary64 where
  | nan
  | infinity (negative : Bool)
  | finite (negative : Bool) (m p : Nat)
  deriving DecidableEq, Repr, Inhabited

namespace Binary64

/-- The number of units in one: `1 = unit * 2 ^ -1074`. -/
def unit : Nat := Nat.pow 2 1074

/-- The quotient nearest to `num / den`; of two equally near, the even one. -/
def divEven (num den : Nat) : Nat :=
  let q := num / den
  let r := num % den
  if 2 * r < den then q
  else if den < 2 * r then q + 1
  else if q % 2 = 0 then q else q + 1

/-- The exponent at which `num / den` units have a significand below `2 ^ 53`. -/
def exponentOf (num den : Nat) : Nat := Nat.log2 (num / den) - 52

/-- Rounds the magnitude `num / den`, counted in units. -/
def roundUnits (negative : Bool) (num den : Nat) : Binary64 :=
  let p := exponentOf num den
  let m := divEven num (den * Nat.pow 2 p)
  let (m, p) := if m = Nat.pow 2 53 then (Nat.pow 2 52, p + 1) else (m, p)
  if p ≤ 2045 then finite negative m p else infinity negative

/-- Rounds the rational `num / den`. -/
def ofQuotient (negative : Bool) (num den : Nat) : Binary64 :=
  roundUnits negative (num * unit) den

def ofNat (n : Nat) : Binary64 := ofQuotient false n 1

def zero : Binary64 := finite false 0 0
def one : Binary64 := ofNat 1

/-- The value `digits * 10 ^ exponent`, correctly rounded. -/
def ofDecimal (negative : Bool) (digits : Nat) (exponent : Int) : Binary64 :=
  if digits = 0 then finite negative 0 0
  else if 400 + (Nat.log2 digits : Int) < exponent then infinity negative
  else if exponent < -(400 + (Nat.log2 digits : Int)) then finite negative 0 0
  else if exponent < 0 then ofQuotient negative digits (Nat.pow 10 exponent.natAbs)
  else ofQuotient negative (digits * Nat.pow 10 exponent.natAbs) 1

def units (m p : Nat) : Nat := m * Nat.pow 2 p

def signedUnits (negative : Bool) (m p : Nat) : Int :=
  if negative then -(units m p : Int) else units m p

def isFinite : Binary64 → Bool
  | finite .. => true
  | _ => false

def neg : Binary64 → Binary64
  | nan => nan
  | infinity s => infinity (!s)
  | finite s m p => finite (!s) m p

def add : Binary64 → Binary64 → Binary64
  | nan, _ => nan
  | _, nan => nan
  | infinity s, infinity t => if s = t then infinity s else nan
  | infinity s, finite .. => infinity s
  | finite .., infinity t => infinity t
  | finite s m p, finite t n q =>
    let sum := signedUnits s m p + signedUnits t n q
    if sum = 0 then finite (s && t) 0 0 else roundUnits (decide (sum < 0)) sum.natAbs 1

def sub (x y : Binary64) : Binary64 := add x (neg y)

def mul : Binary64 → Binary64 → Binary64
  | nan, _ => nan
  | _, nan => nan
  | infinity s, infinity t => infinity (s != t)
  | infinity s, finite t n _ => if n = 0 then nan else infinity (s != t)
  | finite s m _, infinity t => if m = 0 then nan else infinity (s != t)
  | finite s m p, finite t n q => roundUnits (s != t) (units m p * units n q) unit

def div : Binary64 → Binary64 → Binary64
  | nan, _ => nan
  | _, nan => nan
  | infinity _, infinity _ => nan
  | infinity s, finite t _ _ => infinity (s != t)
  | finite s _ _, infinity t => finite (s != t) 0 0
  | finite s m p, finite t n q =>
    if n = 0 then (if m = 0 then nan else infinity (s != t))
    else roundUnits (s != t) (units m p * unit) (units n q)

/-- Numeric `≤`: false whenever a side is not a number. -/
def le : Binary64 → Binary64 → Bool
  | nan, _ => false
  | _, nan => false
  | infinity s, infinity t => s || !t
  | infinity s, finite .. => s
  | finite .., infinity t => !t
  | finite s m p, finite t n q => signedUnits s m p ≤ signedUnits t n q

/-- Numeric `<`: false whenever a side is not a number. -/
def lt (x y : Binary64) : Bool := le x y && !le y x

/-- Numeric equality: the zeros are equal, and not-a-number equals nothing. -/
def same (x y : Binary64) : Bool := le x y && le y x

/-- The larger value; a number wins over not-a-number. -/
def max : Binary64 → Binary64 → Binary64
  | nan, y => y
  | x, nan => x
  | x, y => if le x y then y else x

/-- The smaller value; a number wins over not-a-number. -/
def min : Binary64 → Binary64 → Binary64
  | nan, y => y
  | x, nan => x
  | x, y => if le x y then x else y

/-- The whole part of a magnitude, kept within `0 .. limit`; not-a-number counts as zero. -/
def floorWithin (limit : Nat) : Binary64 → Nat
  | nan => 0
  | infinity s => if s then 0 else limit
  | finite s m p => if s then 0 else Nat.min limit (units m p / unit)

/-- One step per binary digit of the exponent: squares the base, and multiplies it in when the digit is one. -/
def powNat (x : Binary64) (n : Nat) (acc : Binary64) : Binary64 :=
  if h : n = 0 then acc
  else
    let acc := if n % 2 = 1 then mul acc x else acc
    if n / 2 = 0 then acc else powNat (mul x x) (n / 2) acc
termination_by n
decreasing_by omega

/-- Integer powers by repeated squaring; a negative exponent takes the reciprocal at the end. -/
def pow (x : Binary64) (n : Int) : Binary64 :=
  let r := powNat x n.natAbs one
  if n < 0 then div one r else r

/-- The 64-bit interchange pattern: sign, biased exponent, fraction. -/
def toBits : Binary64 → Nat
  | nan => 0x7FF8000000000000
  | infinity s => (if s then Nat.pow 2 63 else 0) + 0x7FF0000000000000
  | finite s m p =>
    (if s then Nat.pow 2 63 else 0) + (if m < Nat.pow 2 52 then m else (p + 1) * Nat.pow 2 52 + (m - Nat.pow 2 52))

end Binary64
end Gatehouse
