import Gatehouse.Proofs.Limiter.Charge
import Mathlib.Algebra.Order.Field.Rat

/-!
The token bucket over numbers of any kind. With floating numbers it is the bucket of the limiter, call by call; with
rationals nothing is rounded, except where a level is told as whole tokens or as a wait.
-/
namespace Gatehouse.Limiter

/-- What a bucket needs of numbers. -/
structure Numbers (α : Type) where
  ofNat : Nat → α
  one : α
  /-- A time in seconds. -/
  seconds : Duration → α
  /-- The span nearest to a number of seconds. -/
  span? : α → Option Duration
  add : α → α → α
  sub : α → α → α
  mul : α → α → α
  div : α → α → α
  min : α → α → α
  le : α → α → Bool
  floorWithin : Nat → α → Nat

def binary64 : Numbers Binary64 where
  ofNat := .ofNat
  one := .one
  seconds := Duration.toSeconds
  span? := Duration.ofFloatSeconds?
  add := Binary64.add
  sub := Binary64.sub
  mul := Binary64.mul
  div := Binary64.div
  min := Binary64.min
  le := Binary64.le
  floorWithin := Binary64.floorWithin

section

-- These are rewritten with, as unfolding a bucket over floating numbers would evaluate its numbers.
@[simp] theorem binary64_ofNat : binary64.ofNat = .ofNat := by simp only [binary64]
@[simp] theorem binary64_one : binary64.one = .one := by simp only [binary64]
@[simp] theorem binary64_seconds : binary64.seconds = Duration.toSeconds := by simp only [binary64]
@[simp] theorem binary64_span? : binary64.span? = Duration.ofFloatSeconds? := by simp only [binary64]
@[simp] theorem binary64_add : binary64.add = Binary64.add := by simp only [binary64]
@[simp] theorem binary64_sub : binary64.sub = Binary64.sub := by simp only [binary64]
@[simp] theorem binary64_mul : binary64.mul = Binary64.mul := by simp only [binary64]
@[simp] theorem binary64_div : binary64.div = Binary64.div := by simp only [binary64]
@[simp] theorem binary64_min : binary64.min = Binary64.min := by simp only [binary64]
@[simp] theorem binary64_le : binary64.le = Binary64.le := by simp only [binary64]
@[simp] theorem binary64_floorWithin : binary64.floorWithin = Binary64.floorWithin := by simp only [binary64]

end

/-- The span nearest to a rational number of seconds, ties to even; none beyond the longest. -/
def spanOf? (q : ℚ) : Option Duration :=
  let nanos := Binary64.divEven (q.num.toNat * Duration.nanosPerSecond) q.den
  if nanos ≤ Duration.longest.nanos then some ⟨nanos⟩ else none

def rational : Numbers ℚ where
  ofNat n := n
  one := 1
  seconds d := d.nanos / Duration.nanosPerSecond
  span? := spanOf?
  add := (· + ·)
  sub := (· - ·)
  mul := (· * ·)
  div := (· / ·)
  min := min
  le x y := x ≤ y
  floorWithin limit x := Nat.min limit x.floor.toNat

structure LevelOf (α : Type) where
  tokens : α
  reckoned : Moment

structure BucketOf (α : Type) where
  rate : Nat
  burst : Nat
  keys : Keyed (LevelOf α) := []

def Numbers.refill {α : Type} (n : Numbers α) (rate burst : Nat) (tokens : α) (d : Duration) : α :=
  n.min (n.add tokens (n.mul (n.seconds d) (n.ofNat rate))) (n.ofNat burst)

namespace BucketOf
section
variable {α : Type} (n : Numbers α) (b : BucketOf α)

def levelOf (now : Moment) (key : String) : α :=
  let l := (b.keys.get? key).getD ⟨n.ofNat b.burst, now⟩
  n.refill b.rate b.burst l.tokens (now.since l.reckoned)

def wait (tokens : α) : Duration :=
  if b.rate = 0 then .longest
  else (n.span? (n.div (n.sub n.one tokens) (n.ofNat b.rate))).getD .longest

def allow (now : Moment) (key : String) : Except Exceeded Unit × BucketOf α :=
  let tokens := b.levelOf n now key
  let keep (tokens : α) : BucketOf α := { b with keys := b.keys.put key ⟨⟨tokens, now⟩, now⟩ }
  if n.le n.one tokens then (.ok (), keep (n.sub tokens n.one))
  else (.error ⟨key, b.wait n tokens⟩, keep tokens)

def remaining (now : Moment) (key : String) : Nat :=
  match b.keys.get? key with
  | none => b.burst
  | some _ => n.floorWithin Config.maxQuota (b.levelOf n now key)

def settled (now : Moment) (l : LevelOf α) : Bool :=
  n.le (n.ofNat b.burst) (n.refill b.rate b.burst l.tokens (now.since l.reckoned))

def step (now : Moment) : Call → Answer × BucketOf α
  | .allow key =>
    let (r, b) := b.allow n now key
    (.allowed r, b)
  | .remaining key => (.remaining (b.remaining n now key), b)
  | .reset key => (.done, { b with keys := b.keys.erase key })
  | .purge idle =>
    let keys := b.keys.purge now idle (b.settled n now)
    (.purged (b.keys.size - keys.size), { b with keys })

def run (b : BucketOf α) : List (Moment × Call) → BucketOf α
  | [] => b
  | (now, call) :: rest => (b.step n now call).2.run rest

def trace (b : BucketOf α) : List (Moment × Call) → List Event
  | [] => []
  | (now, call) :: rest => ⟨now, call, (b.step n now call).1⟩ :: (b.step n now call).2.trace rest

end
end BucketOf

namespace Keyed
variable {σ τ : Type} (f : σ → τ)

def mapStates (k : Keyed σ) : Keyed τ := k.map fun e => (e.1, ⟨f e.2.state, e.2.lastSeen⟩)

@[simp] theorem get?_mapStates (k : Keyed σ) (key : String) : (k.mapStates f).get? key = (k.get? key).map f := by
  induction k with
  | nil => rfl
  | cons e rest ih =>
    obtain ⟨head, e⟩ := e
    change Option.map _ (List.lookup key ((head, _) :: mapStates f rest)) = _
    simp only [get?, lookup_entry] at ih ⊢
    split
    · rfl
    · exact ih

@[simp] theorem put_mapStates (k : Keyed σ) (key : String) (e : Entry σ) :
    (k.put key e).mapStates f = (k.mapStates f).put key ⟨f e.state, e.lastSeen⟩ := by
  induction k with
  | nil => rfl
  | cons head rest ih =>
    simp only [mapStates, put, List.map_cons] at ih ⊢
    split
    · rfl
    · rw [List.map_cons, ih]

@[simp] theorem erase_mapStates (k : Keyed σ) (key : String) :
    (k.erase key).mapStates f = (k.mapStates f).erase key := by
  simp only [mapStates, erase, List.filter_map]
  rfl

@[simp] theorem purge_mapStates (k : Keyed σ) (now : Moment) (idle : Duration) (settled : τ → Bool) :
    (k.mapStates f).purge now idle settled = (k.purge now idle (settled ∘ f)).mapStates f := by
  simp only [mapStates, purge, List.filter_map]
  rfl

@[simp] theorem size_mapStates (k : Keyed σ) : (k.mapStates f).size = k.size := List.length_map ..

end Keyed

namespace Bucket

/-- The bucket of the limiter as one over floating numbers. -/
def general (b : Bucket) : BucketOf Binary64 := ⟨b.rate, b.burst, b.keys.mapStates fun l => ⟨l.tokens, l.reckoned⟩⟩

theorem get?_general (b : Bucket) (key : String) :
    b.general.keys.get? key = (b.keys.get? key).map fun l => ⟨l.tokens, l.reckoned⟩ := by
  rw [general, Keyed.get?_mapStates]

theorem refill_general (b : Bucket) (l : Level) (now : Moment) :
    binary64.refill b.rate b.burst l.tokens (now.since l.reckoned) = b.level l now := by
  simp only [Numbers.refill, binary64_min, binary64_add, binary64_mul, binary64_seconds, binary64_ofNat, level,
    capacity]

theorem levelOf_general (b : Bucket) (now : Moment) (key : String) :
    b.general.levelOf binary64 now key = b.levelOf now key := by
  have rate : b.general.rate = b.rate := rfl
  have burst : b.general.burst = b.burst := rfl
  rw [BucketOf.levelOf, get?_general, levelOf, rate, burst, binary64_ofNat, ← b.refill_general]
  cases b.keys.get? key with
  | none => simp only [Option.map_none, Option.getD_none, full, capacity]
  | some l => simp only [Option.map_some, Option.getD_some]

theorem settled_general (b : Bucket) (now : Moment) :
    b.general.settled binary64 now ∘ (fun l : Level => ⟨l.tokens, l.reckoned⟩) = b.settled now := by
  funext l
  have rate : b.general.rate = b.rate := rfl
  have burst : b.general.burst = b.burst := rfl
  rw [Function.comp, BucketOf.settled, rate, burst, b.refill_general, binary64_le, binary64_ofNat, settled, capacity]

theorem wait_general (b : Bucket) (tokens : Binary64) : b.general.wait binary64 tokens = b.wait tokens := by
  have rate : b.general.rate = b.rate := rfl
  rw [BucketOf.wait, wait, rate, binary64_one, binary64_sub, binary64_div, binary64_span?, binary64_ofNat]

theorem allow_general (b : Bucket) (now : Moment) (key : String) :
    b.general.allow binary64 now key = ((b.allow now key).1, (b.allow now key).2.general) := by
  rw [BucketOf.allow, levelOf_general, allow_eq]
  generalize b.levelOf now key = tokens
  rw [wait_general, binary64_le, binary64_one, binary64_sub]
  cases Binary64.one.le tokens with
  | true => simp only [if_true, general, Keyed.put_mapStates]
  | false => simp only [Bool.false_eq_true, if_false, general, Keyed.put_mapStates]

theorem remaining_general (b : Bucket) (now : Moment) (key : String) :
    b.general.remaining binary64 now key = b.remaining now key := by
  have level := b.levelOf_general now key
  rw [BucketOf.remaining, level, get?_general, remaining, levelOf]
  cases b.keys.get? key <;> rfl

theorem step_general (b : Bucket) (now : Moment) (call : Call) :
    ∃ next : Bucket, ((Limiter.bucket b).step now call) = ((b.general.step binary64 now call).1, .bucket next) ∧
      (b.general.step binary64 now call).2 = next.general := by
  cases call with
  | allow key =>
    refine ⟨(b.allow now key).2, ?_⟩
    simp only [Limiter.step, allow_bucket, BucketOf.step, allow_general, and_self]
  | remaining key =>
    refine ⟨b, ?_, rfl⟩
    simp only [Limiter.step, Limiter.remaining, BucketOf.step, remaining_general]
  | reset key =>
    refine ⟨b.reset key, rfl, ?_⟩
    simp only [BucketOf.step, general, reset, Keyed.erase_mapStates]
  | purge idle =>
    have keys : b.general.keys.purge now idle (b.general.settled binary64 now) = (b.purge now idle).general.keys := by
      rw [general, Keyed.purge_mapStates, ← general, settled_general]
      rfl
    refine ⟨b.purge now idle, ?_, ?_⟩
    · simp only [Limiter.step, BucketOf.step, keys, Limiter.purge, tracked]
      simp only [general, Keyed.size_mapStates]
    · simp only [BucketOf.step, keys]
      rfl

theorem trace_general (b : Bucket) (calls : List (Moment × Call)) :
    (Limiter.bucket b).trace calls = b.general.trace binary64 calls := by
  induction calls generalizing b with
  | nil => rfl
  | cons c rest ih =>
    obtain ⟨now, call⟩ := c
    obtain ⟨next, same, state⟩ := b.step_general now call
    simp only [Limiter.trace, BucketOf.trace, same, state, ih]

theorem run_general (b : Bucket) (calls : List (Moment × Call)) :
    ∃ next : Bucket, (Limiter.bucket b).run calls = .bucket next ∧ b.general.run binary64 calls = next.general := by
  induction calls generalizing b with
  | nil => exact ⟨b, rfl, rfl⟩
  | cons c rest ih =>
    obtain ⟨now, call⟩ := c
    obtain ⟨next, same, state⟩ := b.step_general now call
    obtain ⟨last, result, result'⟩ := ih next
    refine ⟨last, ?_, ?_⟩
    · simpa only [Limiter.run, same] using result
    · simpa only [BucketOf.run, state] using result'

end Bucket

end Gatehouse.Limiter
