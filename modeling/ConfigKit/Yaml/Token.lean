-- SUMMARY: The tokens of a YAML stream.
import ConfigKit.Text.Utf8

/-!
# YAML tokens

What a YAML stream is made of: scalars, their properties, and the marks that show how collections are
nested. In block collections, which are laid out by indentation, the starts and the ends are tokens of
their own although no character stands for them.
-/

namespace ConfigKit

namespace Yaml

/-- How a scalar is written. -/
inductive ScalarStyle where
  | plain
  | singleQuoted
  | doubleQuoted
  | literal
  | folded
  deriving DecidableEq

inductive Token where
  | versionDirective (major minor : Nat)
  | tagDirective (handle : String) (leading : Bytes)
  | documentStart
  | documentEnd
  | blockSequenceStart
  | blockMappingStart
  | blockEnd
  | flowSequenceStart
  | flowSequenceEnd
  | flowMappingStart
  | flowMappingEnd
  | blockEntry
  | flowEntry
  | key
  | value
  | alias (name : String)
  | anchor (name : String)
  | tag (handle : String) (suffix : Bytes)
  | scalar (style : ScalarStyle) (text : String)
  deriving DecidableEq

end Yaml

end ConfigKit
