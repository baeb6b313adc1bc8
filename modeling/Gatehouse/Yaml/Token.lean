/-!
The tokens of a YAML text. Block structure is made explicit: a collection that is told by indentation
has a start and an end of its own, and a key that is told by the colon behind it has a mark in front.
-/
namespace Gatehouse.Yaml

inductive Style where
  | plain | singleQuoted | doubleQuoted | literal | folded
  deriving DecidableEq, Repr

inductive Token where
  | versionDirective (major minor : Nat)
  | tagDirective (handle lead : String)
  | documentStart
  | documentEnd
  | blockSequenceStart
  | blockMappingStart
  | blockEnd
  | flowSequenceStart
  | flowSequenceEnd
  | flowMappingStart
  | flowMappingEnd
  | blockEntry
  | flowEntry
  | key
  | value
  | alias (name : String)
  | anchor (name : String)
  | tag (handle suffix : String)
  | scalar (style : Style) (text : String)
  | streamEnd
  deriving DecidableEq, Repr

end Gatehouse.Yaml
