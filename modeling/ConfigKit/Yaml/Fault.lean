-- SUMMARY: Why a YAML document is refused or a value cannot be written, and the messages.
/-!
# What can be wrong with a YAML document

Why a document is refused, or a value cannot be written. The message gives the reason, but not the place in
the document.
-/

namespace ConfigKit

namespace Yaml

/-- Why a YAML document is refused, or a value cannot be written. -/
inductive Fault where
  /-- The bytes are no text of YAML characters. -/
  | encoding
  /-- The text breaks the rules for tokens. -/
  | token
  /-- The tokens break the rules for documents. -/
  | document
  /-- An alias has no anchor. -/
  | unknownAnchor
  /-- There is more than one document. -/
  | severalDocuments
  /-- Collections nest too deep. -/
  | nestedTooDeep
  /-- Aliases repeat too much. -/
  | repetition
  /-- A key occurs twice. -/
  | duplicateKey
  /-- A value is not of the kind that is read. -/
  | unexpectedValue
  /-- A record lacks a field. -/
  | missingField
  /-- A text that should be a pattern is none. -/
  | refusedPattern
  /-- Bytes have no text. -/
  | bytes
  deriving DecidableEq

def Fault.message : Fault → String
  | .encoding => "control characters are not allowed"
  | .token => "found character that cannot start any token"
  | .document => "did not find expected node content"
  | .unknownAnchor => "unknown anchor"
  | .severalDocuments => "deserializing from YAML containing more than one document is not supported"
  | .nestedTooDeep => "recursion limit exceeded"
  | .repetition => "repetition limit exceeded"
  | .duplicateKey => "duplicate entry"
  | .unexpectedValue => "invalid value"
  | .missingField => "missing field"
  | .refusedPattern => "invalid regex"
  | .bytes => "serialization and deserialization of bytes in YAML is not implemented"

end Yaml

end ConfigKit
