/-!
# YAML tokens

The tokens of a YAML text. Indentation has become `blockSequenceStart`, `blockMappingStart` and
`blockEnd`, and the key of a mapping is marked by `key` even where the text marks only its value.
-/

namespace FleetConsole.Yaml

/-- How a scalar is written. -/
inductive ScalarStyle where
  | plain
  | singleQuoted
  | doubleQuoted
  | literal
  | folded
deriving DecidableEq, Repr

/-- A YAML token. -/
inductive Token where
  | documentStart
  | documentEnd
  | versionDirective (major minor : Nat)
  | tagDirective (handle uri : String)
  | blockSequenceStart
  | blockMappingStart
  | blockEnd
  | flowSequenceStart
  | flowSequenceEnd
  | flowMappingStart
  | flowMappingEnd
  | blockEntry
  | flowEntry
  | key
  | value
  | alias (name : String)
  | anchor (name : String)
  | tag (handle suffix : String)
  | scalar (text : String) (style : ScalarStyle)
deriving DecidableEq, Repr

end FleetConsole.Yaml
