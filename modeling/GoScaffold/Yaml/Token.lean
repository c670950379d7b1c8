/-! Tokens of YAML. -/

namespace GoScaffold.Yaml

inductive Style where
  | plain | singleQuoted | doubleQuoted | literal | folded
deriving DecidableEq

/-- A token. Blocks have a start and an end, though only indentation shows them. -/
inductive Token where
  | version (major minor : Nat)
  | tagDirective (handle lead : String)
  | documentStart
  | documentEnd
  | blockSequenceStart
  | blockMappingStart
  | blockEnd
  | flowSequenceStart
  | flowSequenceEnd
  | flowMappingStart
  | flowMappingEnd
  | blockEntry
  | flowEntry
  | key
  | value
  | reference (name : String)
  | anchor (name : String)
  | tag (handle suffix : String)
  | scalar (style : Style) (text : String)
deriving DecidableEq

end GoScaffold.Yaml
