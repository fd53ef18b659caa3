-- SUMMARY: Patterns and rules in documents, and the indented text of a datum.
import ConfigKit.Document.Basic

/-!
# Patterns in documents

A pattern travels as its text. It is shown and written as that text, and a text is read as the pattern it
compiles to. A rule is a pattern with a name.
-/

namespace ConfigKit

namespace Pattern

/-- The pattern with a text, or the failure to report. -/
def ofText (text : String) : Except Failure Pattern :=
  (compile text).mapError .pattern

/-- A pattern is shown as its text. -/
instance : ToString Pattern := ⟨Pattern.text⟩

/-- Reads a pattern from the text that it is shown as. -/
def parse (shown : String) : Except Failure Pattern := ofText shown

end Pattern

/-- A named pattern. -/
structure Rule where
  name : String
  pattern : Pattern
  deriving DecidableEq

namespace Datum

def ofPattern (p : Pattern) : Datum := .text p.text

/-- The datum of a rule, with its fields in the order of the record. -/
def ofRule (r : Rule) : Datum :=
  .dict [(.text "name", .text r.name), (.text "pattern", .ofPattern r.pattern)]

end Datum

namespace Document

def readJsonPattern (bytes : Bytes) : Except Failure Pattern :=
  (Json.readDocument Json.readPattern bytes).mapError .json

end Document

end ConfigKit
