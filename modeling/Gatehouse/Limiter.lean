import Gatehouse.Duration.Text
import Gatehouse.Limiter.Bucket
import Gatehouse.Limiter.Window

/-!
Rate limiters: one of two algorithms behind the same operations. None of them ever waits.
-/
namespace Gatehouse

inductive Limiter where
  | window (w : Limiter.Window)
  | bucket (b : Limiter.Bucket)
  deriving Repr

namespace Limiter

def Exceeded.message (e : Exceeded) : String :=
  "rate limit exceeded for '" ++ e.key ++ "', retry after " ++ e.retryAfter.brief

def ofConfig (c : Config.RateLimit) : Limiter :=
  match c.algorithm with
  | .slidingWindow => .window { quota := c.quota, length := c.window }
  | .tokenBucket => .bucket { rate := c.requestsPerSecond, burst := c.burst }

/-- Admits a request of a key, or refuses it at once. -/
def allow (l : Limiter) (now : Moment) (key : String) : Except Exceeded Unit × Limiter :=
  match l with
  | window w =>
    let (r, w) := w.allow now key
    (r, .window w)
  | bucket b =>
    let (r, b) := b.allow now key
    (r, .bucket b)

/-- How many requests of a key would be admitted now. -/
def remaining (l : Limiter) (now : Moment) (key : String) : Nat :=
  match l with
  | window w => w.remaining now key
  | bucket b => b.remaining now key

def reset (l : Limiter) (key : String) : Limiter :=
  match l with
  | window w => .window (w.reset key)
  | bucket b => .bucket (b.reset key)

def tracked : Limiter → Nat
  | window w => w.keys.size
  | bucket b => b.keys.size

/-- Forgets idle keys whose state is as good as new. -/
def purge (l : Limiter) (now : Moment) (idle : Duration) : Limiter :=
  match l with
  | window w => .window (w.purge now idle)
  | bucket b => .bucket (b.purge now idle)

/-- The name of the task that forgets idle keys now and then. -/
def cleanupName : String := "rate-limit-cleanup"

end Limiter
end Gatehouse
