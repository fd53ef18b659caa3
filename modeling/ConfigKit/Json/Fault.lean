-- SUMMARY: The faults of JSON documents, their places and their messages.
import ConfigKit.Json.Printer
import ConfigKit.Text.Utf8

/-!
# What can be wrong with a JSON document

A `Json.Fault` is a cause, and the place where it was noticed if there is one. `Json.Fault.message` words
it.
-/

namespace ConfigKit

namespace Json

/-- What was found where something else was expected. -/
inductive Found where
  | null
  | bool (value : Bool)
  | number (value : Number)
  | string (text : String)
  | sequence
  | map

def Found.description : Found → String
  | .null => "null"
  | .bool value => s!"boolean `{value}`"
  | .number (.int n) => s!"integer `{n}`"
  | .number (.float x) => s!"floating point `{x.text floats}`"
  | .string text => "string " ++ quoted text
  | .sequence => "sequence"
  | .map => "map"

/-- Why a document is refused, or a value cannot be written. -/
inductive Cause where
  -- The document ends too early.
  | endInList
  | endInObject
  | endInString
  | endInValue
  -- The document is no JSON text.
  | expectedColon
  | expectedCommaOrBracket
  | expectedCommaOrBrace
  | expectedIdent
  | expectedValue
  | invalidEscape
  | invalidNumber
  | numberOutOfRange
  | invalidCodePoint
  | controlCharacter
  | keyMustBeString
  | loneSurrogate
  | endOfHexEscape
  | trailingComma
  | trailingCharacters
  | nestedTooDeep
  -- The document holds something else than what is read.
  | unexpectedType (found : Found) (expected : String)
  | unexpectedValue (found : Found) (expected : String)
  | wrongLength (length : Nat) (expected : String)
  | missingField (name : String)
  | duplicateField (name : String)
  | duplicateEntry (name : String)
  /-- A text that should be a pattern is none; `message` is what the pattern's refusal says. -/
  | refusedPattern (message : String)

def Cause.message : Cause → String
  | .endInList => "EOF while parsing a list"
  | .endInObject => "EOF while parsing an object"
  | .endInString => "EOF while parsing a string"
  | .endInValue => "EOF while parsing a value"
  | .expectedColon => "expected `:`"
  | .expectedCommaOrBracket => "expected `,` or `]`"
  | .expectedCommaOrBrace => "expected `,` or `\x7d`"
  | .expectedIdent => "expected ident"
  | .expectedValue => "expected value"
  | .invalidEscape => "invalid escape"
  | .invalidNumber => "invalid number"
  | .numberOutOfRange => "number out of range"
  | .invalidCodePoint => "invalid unicode code point"
  | .controlCharacter => "control character (\\u0000-\\u001F) found while parsing a string"
  | .keyMustBeString => "key must be a string"
  | .loneSurrogate => "lone leading surrogate in hex escape"
  | .endOfHexEscape => "unexpected end of hex escape"
  | .trailingComma => "trailing comma"
  | .trailingCharacters => "trailing characters"
  | .nestedTooDeep => "recursion limit exceeded"
  | .unexpectedType found expected => "invalid type: " ++ found.description ++ ", expected " ++ expected
  | .unexpectedValue found expected => "invalid value: " ++ found.description ++ ", expected " ++ expected
  | .wrongLength length expected => s!"invalid length {length}, expected " ++ expected
  | .missingField name => s!"missing field `{name}`"
  | .duplicateField name => s!"duplicate field `{name}`"
  | .duplicateEntry name => "duplicate entry with key " ++ quoted name
  | .refusedPattern message => message

/-- A place in a document: the line, from one, and how many bytes of it come before the place. -/
structure Place where
  line : Nat
  column : Nat

/-- The place after some bytes of a document. -/
def Place.after (bytes : Bytes) : Place where
  line := bytes.count 0x0A + 1
  column := (bytes.reverse.takeWhile (· ≠ 0x0A)).length

/-- A cause, and where it was noticed. -/
structure Fault where
  cause : Cause
  place? : Option Place

def Fault.message (fault : Fault) : String :=
  match fault.place? with
  | none => fault.cause.message
  | some place => fault.cause.message ++ s!" at line {place.line} column {place.column}"

end Json

end ConfigKit
