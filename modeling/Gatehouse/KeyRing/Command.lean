import Gatehouse.KeyRing
import Gatehouse.Text.Ordered
import Gatehouse.Token.Printer

/-!
The operations of a ring of keys as data, so that runs of them can be written down, and their answers.
-/
namespace Gatehouse.KeyRing

inductive Command where
  /-- Adds a key in hexadecimal digits. -/
  | add (hex : String) (activates : Bool)
  /-- Adds a key that was drawn, and makes it active. -/
  | rotate (drawn : Key)
  | prune (lifetime : Duration)
  | retain (lifetime : Duration)
  | active
  | signer
  | find (id : String)
  | ids
  | keys
  | verifiers (preferred : Option String)
  deriving DecidableEq, Repr, Inhabited

inductive Answer where
  | id (id : Option String)
  | ids (ids : List String)
  /-- Keys, and for each whether it is active. -/
  | keys (ks : List (RetainedKey × Bool))
  | pruned (ids : List String)
  | floor (d : Duration)
  | failed (f : Token.SigningFault)
  deriving DecidableEq, Repr, Inhabited

def run (r : KeyRing) (now : Instant) : Command → Answer × KeyRing
  | .add hex activates =>
    match Key.ofHex? hex with
    | some key => (.id key.id, r.add key activates now)
    | none => (.failed .invalidKey, r)
  | .rotate drawn => (.id drawn.id, r.rotate drawn now)
  | .prune lifetime =>
    let (removed, r) := r.prune lifetime now
    (.pruned (Text.Ordered.ofList (removed.map (·.id))), r)
  | .retain lifetime =>
    let r := r.retainAtLeast lifetime
    (.floor r.floor, r)
  | .active => (.id r.active, r)
  | .signer =>
    match r.signer? with
    | some id => (.id id, r)
    | none => (.failed .noActiveKey, r)
  | .find id => (.id ((r.find? id).map (·.id)), r)
  | .ids => (.ids r.ids, r)
  | .keys => (.keys (r.ordered.map fun k => (k, r.isActive k)), r)
  | .verifiers preferred => (.ids (r.verifiers preferred), r)

def keyJson (k : RetainedKey × Bool) : Json :=
  .ofEntries
    [("id", .text k.1.id), ("created_at", Token.instantJson k.1.createdAt),
     ("retired_at", Report.orNull Token.instantJson k.1.retiredAt), ("active", .bool k.2)]

def Answer.toJson : Answer → Json
  | id i => Report.one "id" (Report.orNull .text i)
  | ids is => Report.one "ids" (Report.texts is)
  | keys ks => .array (ks.map keyJson)
  | pruned is => Report.one "pruned" (Report.texts is)
  | floor d => Report.one "floor" (Report.duration d)
  | failed f => (Token.Error.signing f).toJson

end Gatehouse.KeyRing
