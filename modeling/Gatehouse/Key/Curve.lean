import Gatehouse.Digest

/-!
The curve of Ed25519 signatures, as far as it takes to find the public key of a private one: a twisted
Edwards curve over the numbers modulo `2 ^ 255 - 19`. Points carry a common denominator, so that adding
needs no division.
-/
namespace Gatehouse.Key.Curve

def modulus : Nat := Nat.pow 2 255 - 19

def power (x : Nat) (n : Nat) (acc : Nat) : Nat :=
  if _h : n = 0 then acc
  else power (x * x % modulus) (n / 2) (if n % 2 = 1 then acc * x % modulus else acc)
termination_by n
decreasing_by omega

def inverse (x : Nat) : Nat := power x (modulus - 2) 1

def minus (a b : Nat) : Nat := (a + (modulus - b % modulus)) % modulus

/-- The constant of the curve, `-121665 / 121666`. -/
def coefficient : Nat := minus 0 (121665 * inverse 121666 % modulus)

/-- A point `(x / z, y / z)`, with `t = x * y / z`. -/
structure Point where
  x : Nat
  y : Nat
  z : Nat
  t : Nat

def neutral : Point := ⟨0, 1, 1, 0⟩

def base : Point :=
  let x := 15112221349535400772501151409588531511454012693041857206046113283949847762202
  let y := 46316835694926478169428394003475163141307993866256225615783033603165251855960
  ⟨x, y, 1, x * y % modulus⟩

def add (p q : Point) : Point :=
  let a := minus p.y p.x * minus q.y q.x % modulus
  let b := (p.y + p.x) * (q.y + q.x) % modulus
  let c := p.t * 2 * coefficient % modulus * q.t % modulus
  let d := p.z * 2 * q.z % modulus
  let e := minus b a
  let f := minus d c
  let g := (d + c) % modulus
  let h := (b + a) % modulus
  ⟨e * f % modulus, g * h % modulus, f * g % modulus, e * h % modulus⟩

/-- A multiple of a point, by doubling. -/
def multiple (p : Point) (n : Nat) (acc : Point) : Point :=
  if _h : n = 0 then acc
  else multiple (add p p) (n / 2) (if n % 2 = 1 then add acc p else acc)
termination_by n
decreasing_by omega

def littleEndian (count n : Nat) : List Nat := (List.range count).map fun i => n / Nat.pow 256 i % 256

def ofLittleEndian (bytes : List Nat) : Nat := Digest.ofBigEndian bytes.reverse

/-- A point as 32 bytes: the second coordinate, and the lowest bit of the first. -/
def encode (p : Point) : List Nat :=
  let z := inverse p.z
  let x := p.x * z % modulus
  let y := p.y * z % modulus
  littleEndian 32 (y + x % 2 * Nat.pow 2 255)

/-- The factor that a private key of 32 bytes stands for: a multiple of eight with its highest bit set. -/
def factor (privateKey : List Nat) : Nat :=
  let n := ofLittleEndian ((Digest.sha512 privateKey).take 32)
  n % Nat.pow 2 254 / 8 * 8 + Nat.pow 2 254

def publicKey (privateKey : List Nat) : List Nat := encode (multiple base (factor privateKey) neutral)

end Gatehouse.Key.Curve
