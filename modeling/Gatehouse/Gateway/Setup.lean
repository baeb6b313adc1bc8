import Gatehouse.Config.Load
import Gatehouse.Gateway
import Gatehouse.Policy.Reader

/-!
Gateways from configuration. Keys come first, then the store, then the policies; the first that cannot be
had is the error. Without a configured key the first key of the ring is one that was drawn.
-/
namespace Gatehouse

/-- The ring that signs with the configured key. -/
def KeyRing.ofSource (s : Config.KeySource) (drawn : Key) (now : Instant) :
    Except Token.SigningFault KeyRing :=
  let ring (key : Key) : KeyRing := KeyRing.add {} key true now
  match s with
  | .absent => .ok (ring drawn)
  | .unreadable => .error .unreadableKey
  | .found text =>
    match Key.ofHex? text with
    | some key => .ok (ring key)
    | none => .error .invalidKey

/-- The key in a file. -/
def Key.load (t : FileTree) (path : String) : Except Token.SigningFault Key :=
  match t.read? path with
  | none => .error (.unreadable path)
  | some text =>
    match Key.ofHex? text with
    | some key => .ok key
    | none => .error .invalidKey

def Authority.ofConfig (c : Config) (s : Config.KeySource) (drawn : Key) (now : Instant)
    (external : Option Token.Store) : Except Token.Error Authority := do
  let keys ← (KeyRing.ofSource s drawn now).mapError .signing
  let store ← (Token.Store.ofConfig c.store external).mapError .store
  pure (Authority.ofParts c.tokens keys { store })

namespace Gateway

inductive SetupError where
  | token (e : Token.Error)
  | policy (e : Policy.Error)

def ofConfig (c : Config) (s : Config.KeySource) (drawn : Key) (now : Instant)
    (external : Option Token.Store) : Except SetupError Gateway := do
  let authority ← (Authority.ofConfig c s drawn now external).mapError .token
  let policies ← (Policy.ofValues c.policies).mapError .policy
  pure
    { authority, authorizer := .ofPolicies policies, limiter := .ofConfig c.rateLimit
      traffic := .ofLayers (layers c.bulkhead c.retry c.breaker), limits := c.rateLimit
      rotationInterval := c.keys.rotationInterval }

end Gateway
end Gatehouse
