import Gatehouse.Config
import Gatehouse.Limiter.Keyed

/-!
The token bucket: a request takes a token from the bucket of its key, which is full at first and refills
at a steady rate. Levels are floating numbers with one rounding for each operation.
-/
namespace Gatehouse.Limiter

/-- A level and the instant it was reckoned at. -/
structure Level where
  tokens : Binary64
  reckoned : Moment
  deriving Repr

structure Bucket where
  /-- Tokens that come back in a second. -/
  rate : Nat
  burst : Nat
  keys : Keyed Level := []
  deriving Repr

namespace Bucket

def capacity (b : Bucket) : Binary64 := .ofNat b.burst

def full (b : Bucket) (now : Moment) : Level := ⟨b.capacity, now⟩

/-- The level now, never above the capacity. -/
def level (b : Bucket) (l : Level) (now : Moment) : Binary64 :=
  (l.tokens.add ((now.since l.reckoned).toSeconds.mul (.ofNat b.rate))).min b.capacity

/-- The wait until there is a whole token, which never ends if nothing comes back. -/
def wait (b : Bucket) (tokens : Binary64) : Duration :=
  if b.rate = 0 then .longest
  else (Duration.ofFloatSeconds? ((Binary64.one.sub tokens).div (.ofNat b.rate))).getD .longest

def allow (b : Bucket) (now : Moment) (key : String) : Except Exceeded Unit × Bucket :=
  let tokens := b.level ((b.keys.get? key).getD (b.full now)) now
  let keep (tokens : Binary64) : Bucket := { b with keys := b.keys.put key ⟨⟨tokens, now⟩, now⟩ }
  if Binary64.one.le tokens then (.ok (), keep (tokens.sub .one))
  else (.error ⟨key, b.wait tokens⟩, keep tokens)

def remaining (b : Bucket) (now : Moment) (key : String) : Nat :=
  match b.keys.get? key with
  | none => b.burst
  | some l => (b.level l now).floorWithin Config.maxQuota

/-- Whether the bucket is as good as full. -/
def settled (b : Bucket) (now : Moment) (l : Level) : Bool := b.capacity.le (b.level l now)

def reset (b : Bucket) (key : String) : Bucket := { b with keys := b.keys.erase key }

def purge (b : Bucket) (now : Moment) (idle : Duration) : Bucket :=
  { b with keys := b.keys.purge now idle (b.settled now) }

end Bucket
end Gatehouse.Limiter
