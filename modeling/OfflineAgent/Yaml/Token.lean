import OfflineAgent.Yaml.Cursor

/-!
The tokens of YAML.
-/

namespace OfflineAgent.Yaml

inductive Style where
  | plain
  | singleQuoted
  | doubleQuoted
  | literal
  | folded
deriving DecidableEq, Repr

inductive TokenKind where
  | streamEnd
  | version (major minor : Nat)
  | tagHandle (handle lead : String)
  | documentStart
  | documentEnd
  | blockSequenceStart
  | blockMappingStart
  | blockEnd
  | flowSequenceStart
  | flowSequenceEnd
  | flowMappingStart
  | flowMappingEnd
  | blockEntry
  | flowEntry
  | key
  | value
  | reference (name : String)
  | anchor (name : String)
  | tag (handle suffix : String)
  | scalar (text : String) (style : Style)
deriving DecidableEq, Repr

structure Token where
  kind : TokenKind
  start : Mark
  stop : Mark
deriving DecidableEq, Repr

end OfflineAgent.Yaml
