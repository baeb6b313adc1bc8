import Gatehouse.Text.Quoted

/-!
The hash functions SHA-256 and SHA-512. Both are one scheme over words of 32 or 64 bits; they differ in
the number of rounds and in the distances of rotations. Their constants are the leading bits of the
fractions of roots of the first primes.
-/
namespace Gatehouse.Digest

/-- The largest number whose `k`-th power is at most `n`, found bit by bit from bit `bits` down. -/
def root (k n : Nat) : Nat → Nat → Nat
  | 0, r => r
  | bits + 1, r =>
    let next := r + Nat.pow 2 bits
    root k n bits (if Nat.pow next k ≤ n then next else r)

def isPrime (n : Nat) : Bool :=
  2 ≤ n && ((List.range n).drop 2).all fun d => n % d ≠ 0

/-- The first primes; the eightieth is 409. -/
def primes : List Nat := (List.range 410).filter isPrime

/-- The leading `w` bits of the fraction of the `k`-th root of `n`. -/
def rootFraction (w k n : Nat) : BitVec w := BitVec.ofNat w (root k (n * Nat.pow 2 (k * w)) (w + 8) 0)

/-- What tells the two functions apart: rounds, and distances for mixing. The last distance of a schedule
mix is a shift. -/
structure Variant (w : Nat) where
  rounds : Nat
  mixA : Nat × Nat × Nat
  mixE : Nat × Nat × Nat
  scheduleOld : Nat × Nat × Nat
  scheduleNew : Nat × Nat × Nat
  initial : List (BitVec w)
  roundKeys : List (BitVec w)

def variant32 : Variant 32 :=
  { rounds := 64, mixA := (2, 13, 22), mixE := (6, 11, 25), scheduleOld := (7, 18, 3)
    scheduleNew := (17, 19, 10), initial := (primes.take 8).map (rootFraction 32 2)
    roundKeys := (primes.take 64).map (rootFraction 32 3) }

def variant64 : Variant 64 :=
  { rounds := 80, mixA := (28, 34, 39), mixE := (14, 18, 41), scheduleOld := (1, 8, 7)
    scheduleNew := (19, 61, 6), initial := (primes.take 8).map (rootFraction 64 2)
    roundKeys := (primes.take 80).map (rootFraction 64 3) }

variable {w : Nat}

def mix (distances : Nat × Nat × Nat) (x : BitVec w) : BitVec w :=
  x.rotateRight distances.1 ^^^ x.rotateRight distances.2.1 ^^^ x.rotateRight distances.2.2

def mixSchedule (distances : Nat × Nat × Nat) (x : BitVec w) : BitVec w :=
  x.rotateRight distances.1 ^^^ x.rotateRight distances.2.1 ^^^ (x >>> distances.2.2)

def extend (v : Variant w) (words : List (BitVec w)) : List (BitVec w) :=
  let back (n : Nat) : BitVec w := words.getD (n - 1) 0
  (mixSchedule v.scheduleNew (back 2) + back 7 + mixSchedule v.scheduleOld (back 15) + back 16) :: words

def schedule (v : Variant w) (block : List (BitVec w)) : List (BitVec w) :=
  (Nat.repeat (extend v) (v.rounds - 16) block.reverse).reverse

def round (v : Variant w) (state : List (BitVec w)) (keyed : BitVec w × BitVec w) : List (BitVec w) :=
  match state with
  | [a, b, c, d, e, f, g, h] =>
    let choice := (e &&& f) ^^^ (~~~e &&& g)
    let majority := (a &&& b) ^^^ (a &&& c) ^^^ (b &&& c)
    let t := h + mix v.mixE e + choice + keyed.1 + keyed.2
    [t + mix v.mixA a + majority, a, b, c, d + t, e, f, g]
  | other => other

def absorb (v : Variant w) (state block : List (BitVec w)) : List (BitVec w) :=
  let worked := (v.roundKeys.zip (schedule v block)).foldl (round v) state
  (state.zip worked).map fun p => p.1 + p.2

/-- The bytes of a number, the highest first. -/
def bigEndian (count n : Nat) : List Nat :=
  (List.range count).map fun i => n / Nat.pow 256 (count - 1 - i) % 256

def ofBigEndian (bytes : List Nat) : Nat := bytes.foldl (fun n b => 256 * n + b) 0

/-- Fills a message up to whole blocks: a bit that is set, noughts, and the length in bits. -/
def padded (blockBytes : Nat) (message : List Nat) : List Nat :=
  let lengthBytes := blockBytes / 8
  let used := (message.length + 1 + lengthBytes) % blockBytes
  message ++ 0x80 :: List.replicate ((blockBytes - used) % blockBytes) 0 ++
    bigEndian lengthBytes (8 * message.length)

/-- Cuts a list into pieces of a length; `fuel` bounds their number. -/
def pieces {α : Type} (length : Nat) : Nat → List α → List (List α)
  | 0, _ => []
  | _, [] => []
  | fuel + 1, xs => xs.take length :: pieces length fuel (xs.drop length)

def hash (v : Variant w) (message : List Nat) : List Nat :=
  let wordBytes := w / 8
  let bytes := padded (16 * wordBytes) message
  let words := (pieces wordBytes bytes.length bytes).map fun p => BitVec.ofNat w (ofBigEndian p)
  ((pieces 16 words.length words).foldl (absorb v) v.initial).flatMap fun x =>
    bigEndian wordBytes x.toNat

def sha256 (message : List Nat) : List Nat := hash variant32 message

def sha512 (message : List Nat) : List Nat := hash variant64 message

end Gatehouse.Digest
