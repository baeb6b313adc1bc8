import Gatehouse.Authority.Locks
import Gatehouse.KeyRing.Command
import Gatehouse.Token.Command

/-!
The operations of an authority as data, so that runs of them can be written down, and their answers.
Clocks and whatever is drawn at random come from outside.
-/
namespace Gatehouse.Authority

inductive Command where
  | issue (r : Token.Request)
  | validate (t : Token) (r : Requirement)
  | authenticate (b : Token.Bearer) (r : Requirement)
  | rotate (old : Token) (r : Token.Request)
  /-- Several rotations of one token that are started together. -/
  | rotateMany (old : Token) (r : Token.Request) (n : Nat)
  | refresh (t : Token)
  | revoke (id reason : String) (revokedBy : Option String)
  | get (id : String)
  | list (f : Token.Filter)
  | count (f : Token.Filter)
  | cleanup
  | pruneKeys
  /-- Begins or ends an outage of the store. -/
  | switch (o : Token.Operation) (mode : Option Token.Outage)
  | store (c : Token.Backend.Command)
  | keys (c : KeyRing.Command)
  deriving Repr

inductive Answer where
  | done
  /-- A new token, and how long its record is kept. -/
  | issued (t : Token) (keepFor : Duration)
  | record (t : Token)
  | rotated (rs : List (Except Token.Error Token))
  | changed (b : Bool)
  | tokens (ts : List Token)
  | count (n : Nat)
  | removed (n : Nat)
  | pruned (ids : List String)
  | failed (e : Token.Error)
  | store (a : Except Token.StoreError Token.Backend.Answer)
  | keys (a : KeyRing.Answer)

/-- What a run of an operation takes from outside. -/
structure Outside where
  /-- The clock of the authority. -/
  now : Instant
  /-- The time that the store writes into revocations. -/
  stamp : Instant
  /-- Ids that were never drawn before. -/
  freshId : Nat → String

/-- The answer and what comes with it; an error changes nothing. -/
def settle {α : Type} (a : Authority) (r : Except Token.Error (α × Authority)) (form : α → Answer) :
    Answer × Authority :=
  match r with
  | .ok (x, b) => (form x, b)
  | .error e => (.failed e, a)

def run (a : Authority) (o : Outside) (c : Command) : Answer × Authority :=
  let look {α : Type} (r : Except Token.Error α) (form : α → Answer) : Answer × Authority :=
    a.settle (r.map (·, a)) form
  match c with
  | .issue r => a.settle (a.issue o.now (o.freshId 0) r) fun t => .issued t (a.keepFor t)
  | .validate t r => look (a.validate o.now t r) .record
  | .authenticate b r => look (a.authenticate o.now b r) .record
  | .rotate old r =>
    match a.rotate o.now o.stamp (o.freshId 0) old r with
    | (.ok t, b) => (.issued t (a.keepFor t), b)
    | (.error e, b) => (.failed e, b)
  | .rotateMany old r n =>
    let (results, b) := a.rotateTogether o.now o.stamp ((List.range n).map fun i => ⟨old, r, o.freshId i⟩)
    (.rotated results, b)
  | .refresh t => a.settle (a.refresh o.now (o.freshId 0) t) fun t => .issued t (a.keepFor t)
  | .revoke id reason revokedBy => a.settle (a.revoke id ⟨o.stamp, revokedBy, reason⟩) .changed
  | .get id => look (a.get id) .record
  | .list f => look (a.list f) .tokens
  | .count f => look (a.count f) .count
  | .cleanup => a.settle (a.cleanup o.now) .removed
  | .pruneKeys =>
    let (removed, b) := a.pruneKeys o.now
    (.pruned (Text.Ordered.ofList (removed.map (·.id))), b)
  | .switch op mode => (.done, { a with backend := a.backend.switch op mode })
  | .store c =>
    match a.backend.run c with
    | .ok (answer, backend) => (.store (.ok answer), { a with backend })
    | .error e => (.store (.error e), a)
  | .keys c =>
    let (answer, keys) := a.keys.run o.now c
    (.keys answer, { a with keys })

def Answer.toJson : Answer → Json
  | done => .text "ok"
  | issued t _ => t.toJson
  | record t => t.toJson
  | rotated rs => .array (rs.map (Report.result Token.Error.toJson Token.toJson))
  | changed b => Report.one "changed" (.bool b)
  | tokens ts => Report.one "ids" (Report.texts (ts.map (·.id)))
  | count n => Report.one "count" (.int n)
  | removed n => Report.one "removed" (.int n)
  | pruned ids => Report.one "pruned" (Report.texts ids)
  | failed e => e.toJson
  | store a => Report.result Token.StoreError.toJson Token.Backend.Answer.toJson a
  | keys a => a.toJson

end Gatehouse.Authority
