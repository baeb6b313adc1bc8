import Gatehouse.Instant
import Gatehouse.Key

/-!
Rings of keys. One key is active and signs; retired keys are kept as long as a token that they signed may
still be valid. A key is looked for by its id, and no id is on a ring twice.
-/
namespace Gatehouse

structure RetainedKey where
  key : Key
  createdAt : Instant
  /-- When the key was last replaced as the active one, or was added without becoming active. -/
  retiredAt : Option Instant
  deriving DecidableEq, Repr, Inhabited

def RetainedKey.id (k : RetainedKey) : String := k.key.id

structure KeyRing where
  keys : List RetainedKey := []
  active : Option String := none
  /-- Keys are retained for this long at least after they retired. -/
  floor : Duration := .zero
  deriving DecidableEq, Repr, Inhabited

namespace KeyRing

def find? (r : KeyRing) (id : String) : Option RetainedKey := r.keys.find? (·.id = id)

def contains (r : KeyRing) (id : String) : Bool := r.keys.any (·.id = id)

def isActive (r : KeyRing) (k : RetainedKey) : Bool := r.active = some k.id

/-- Makes a key active. The one that was active retires. -/
def activate (r : KeyRing) (id : String) (now : Instant) : KeyRing :=
  let turn (k : RetainedKey) : RetainedKey :=
    if k.id = id then { k with retiredAt := none }
    else if r.isActive k then { k with retiredAt := some now }
    else k
  { r with keys := r.keys.map turn, active := some id }

/-- Adds a key; one that is there already stays as it is. It becomes active if asked for, or if no key
is. -/
def add (r : KeyRing) (key : Key) (activates : Bool) (now : Instant) : KeyRing :=
  let r := if r.contains key.id then r else { r with keys := r.keys ++ [⟨key, now, some now⟩] }
  if activates || r.active.isNone then r.activate key.id now else r

def rotate (r : KeyRing) (key : Key) (now : Instant) : KeyRing := r.add key true now

/-- The order of keys: the active one first, then the newest first, then by id. -/
def before (r : KeyRing) (a b : RetainedKey) : Bool :=
  if r.isActive a then true
  else if r.isActive b then false
  else b.createdAt < a.createdAt || (a.createdAt = b.createdAt && a.id ≤ b.id)

def ordered (r : KeyRing) : List RetainedKey := r.keys.mergeSort r.before

def ids (r : KeyRing) : List String := r.ordered.map (·.id)

def signer? (r : KeyRing) : Option String := r.active.filter r.contains

/-- The ids of the keys to verify with: the preferred one first, then all others in order. -/
def verifiers (r : KeyRing) (preferred : Option String) : List String :=
  match preferred with
  | some id => if r.ids.contains id then id :: r.ids.erase id else r.ids
  | none => r.ids

/-- Raises the floor; it is never lowered. -/
def retainAtLeast (r : KeyRing) (lifetime : Duration) : KeyRing :=
  { r with floor := r.floor.max lifetime }

/-- Whether a key retired longer ago than a lifetime. A sum that is no instant is never reached. -/
def isStale (r : KeyRing) (lifetime : Span) (now : Instant) (k : RetainedKey) : Bool :=
  !r.isActive k && ((k.retiredAt.bind (·.add? lifetime)).any (· < now))

/-- Removes keys that retired longer ago than the lifetime and the floor, and returns them. -/
def prune (r : KeyRing) (lifetime : Duration) (now : Instant) : List RetainedKey × KeyRing :=
  let horizon := Span.ofDuration (lifetime.max r.floor)
  (r.keys.filter (r.isStale horizon now),
   { r with keys := r.keys.filter fun k => !r.isStale horizon now k })

end KeyRing
end Gatehouse
