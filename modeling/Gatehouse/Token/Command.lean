import Gatehouse.Token.Printer
import Gatehouse.Token.Reader
import Gatehouse.Token.Store

/-!
The operations of a store as data, so that runs of them can be written down, and their answers.
-/
namespace Gatehouse.Token.Backend

inductive Command where
  | insert (t : Token)
  | save (t : Token)
  | get (id : String)
  | delete (id : String)
  | list (f : Filter)
  | count (f : Filter)
  | revoke (id : String) (status : Revocation)
  | isRevoked (id : String)
  | cleanup (before : Instant)
  deriving DecidableEq, Repr, Inhabited

inductive Answer where
  | done
  | token (t : Token)
  | tokens (ts : List Token)
  | count (n : Nat)
  | changed (b : Bool)
  | revoked (b : Bool)
  | removed (n : Nat)
  deriving DecidableEq, Repr, Inhabited

/-- Runs an operation. One that fails changes nothing. -/
def run (b : Backend) : Command → Except StoreError (Answer × Backend)
  | .insert t => (b.insert t).map (.done, ·)
  | .save t => (b.save t).map (.done, ·)
  | .get id => (b.get id).map fun t => (.token t, b)
  | .delete id => (b.delete id).map (.done, ·)
  | .list f => (b.list f).map fun ts => (.tokens ts, b)
  | .count f => (b.count f).map fun n => (.count n, b)
  | .revoke id status => (b.revoke id status).map fun r => (.changed r.1, r.2)
  | .isRevoked id => (b.isRevoked id).map fun r => (.revoked r, b)
  | .cleanup before => (b.cleanup before).map fun r => (.removed r.1, r.2)

/-- Reads an operation by its name. Revocations get the time `stamp`. -/
def Command.ofJson? (stamp : Instant) (j : Json) : Option Command := do
  let field (key : String) : Value := .ofJson ((j.field? key).getD .null)
  let id := ((j.field? "id").bind Json.text?).getD ""
  match ← (j.field? "do").bind Json.text? with
  | "insert" => (Token.ofValue? (field "token")).map .insert
  | "save" => (Token.ofValue? (field "token")).map .save
  | "get" => some (.get id)
  | "delete" => some (.delete id)
  | "list" => (Filter.ofValue? (field "filter")).map .list
  | "count" => (Filter.ofValue? (field "filter")).map .count
  | "revoke" => do
    let revokedBy ← orNull text? (field "by")
    let reason ← text? (field "reason")
    some (.revoke id { revokedAt := stamp, revokedBy, reason })
  | "is_revoked" => some (.isRevoked id)
  | "cleanup" => (instant? (field "before")).map .cleanup
  | _ => none

def Answer.toJson : Answer → Json
  | done => .text "ok"
  | token t => t.toJson
  | tokens ts => Report.one "ids" (Report.texts (ts.map (·.id)))
  | count n => Report.one "count" (.int n)
  | changed b => Report.one "changed" (.bool b)
  | revoked b => Report.one "revoked" (.bool b)
  | removed n => Report.one "removed" (.int n)

def operationNames : List (String × Operation) :=
  [("get", .get), ("insert", .insert), ("save", .save), ("delete", .delete), ("list", .list),
   ("count", .count), ("revoke", .revoke), ("is_revoked", .isRevoked), ("cleanup", .cleanup)]

def outageNames : List (String × Outage) := [("error", .refuses), ("false", .ignores)]

end Gatehouse.Token.Backend
