import Gatehouse.Config.Reader
import Gatehouse.Config.Validity
import Gatehouse.FileTree

/-!
Loading settings from files. The policies of a separate file come behind those given in place, and the
settings have to be free of faults. A private key comes from an environment variable that is set, or
else from a file that exists.
-/
namespace Gatehouse

inductive LoadError where
  /-- A file could not be read. -/
  | unreadable
  /-- A text is no YAML or does not fit. -/
  | malformed
  | policiesNotFound (path : String)
  | fault (f : Config.Fault)
  deriving DecidableEq, Repr

/-- The text of an error in the settings; the other errors have none of their own. -/
def LoadError.message? : LoadError → Option String
  | .policiesNotFound path => some ("Configuration error: policies file not found: " ++ path)
  | .fault f => some ("Configuration error: " ++ f.message)
  | _ => none

namespace Config

/-- The policies of a separate file: a list, or a record with a field `policies`. Tags are refused. -/
def policyEntries? (text : String) : Option (List Value) := do
  let v ← Yaml.parseWith text Yaml.Document.value
  if v.isTagged then none
  else
    let distinct (items : List Value) : Option (List Value) :=
      if Value.areDistinct items then some items else none
    match v with
    | .list items => distinct items
    | .map entries => do
      let fields ← Value.fieldsOfEntries? .aside ["policies"] entries
      fields.defaulted 0 (fun v => (v.items? .aside).bind distinct) []
    | _ => none

def load (t : FileTree) (path : String) : Except LoadError Config := do
  let some text := t.read? path | throw .unreadable
  let some config := parse text | throw .malformed
  let config ←
    match config.policiesFile with
    | none => pure config
    | some file => do
      let path := FileTree.join (FileTree.parent path) file
      if !t.contains path then throw (.policiesNotFound path)
      let some text := t.read? path | throw .unreadable
      let some policies := policyEntries? text | throw .malformed
      pure { config with policies := config.policies ++ policies }
  match config.fault? with
  | some f => throw (.fault f)
  | none => pure config

/-- Where a configured private key comes from. -/
inductive KeySource where
  | absent
  | found (text : String)
  | unreadable
  deriving DecidableEq, Repr

def Keys.source (k : Keys) (environment : List (String × String)) (t : FileTree) : KeySource :=
  match k.privateKeyEnv.bind fun name => environment.lookup name with
  | some text => .found (Text.trim text)
  | none =>
    match k.privateKeyFile with
    | none => .absent
    | some path =>
      if !t.contains path then .absent
      else
        match t.read? path with
        | some text => .found (Text.trim text)
        | none => .unreadable

end Config
end Gatehouse
