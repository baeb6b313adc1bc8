import Gatehouse.Limiter.Keyed

/-!
The sliding window: a request is admitted if fewer than `quota` requests of its key were admitted in the
window that ends now, both of its ends included.
-/
namespace Gatehouse.Limiter

structure Window where
  quota : Nat
  length : Duration
  /-- For each key the instants of its admissions, the oldest first. -/
  keys : Keyed (List Moment) := []
  deriving Repr

namespace Window

def recent (length : Duration) (now : Moment) (admitted : List Moment) : List Moment :=
  admitted.dropWhile fun t => t.add length < now

/-- The wait until the oldest admission leaves the window. -/
def wait (length : Duration) (now : Moment) (admitted : List Moment) : Duration :=
  match admitted with
  | [] => length
  | oldest :: _ => (oldest.add length).since now

def allow (w : Window) (now : Moment) (key : String) : Except Exceeded Unit × Window :=
  let admitted := recent w.length now ((w.keys.get? key).getD [])
  let keep (admitted : List Moment) : Window :=
    { w with keys := w.keys.put key ⟨admitted, now⟩ }
  if w.quota ≤ admitted.length then (.error ⟨key, wait w.length now admitted⟩, keep admitted)
  else (.ok (), keep (admitted ++ [now]))

def remaining (w : Window) (now : Moment) (key : String) : Nat :=
  match w.keys.get? key with
  | none => w.quota
  | some admitted => w.quota - (recent w.length now admitted).length

/-- Whether no admission counts any more. -/
def settled (length : Duration) (now : Moment) (admitted : List Moment) : Bool :=
  match admitted.getLast? with
  | none => true
  | some last => length < now.since last

def reset (w : Window) (key : String) : Window := { w with keys := w.keys.erase key }

def purge (w : Window) (now : Moment) (idle : Duration) : Window :=
  { w with keys := w.keys.purge now idle (settled w.length now) }

end Window
end Gatehouse.Limiter
