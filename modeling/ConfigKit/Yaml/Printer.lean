-- SUMMARY: Writing a datum as YAML in block style.
import ConfigKit.Datum.Basic
import ConfigKit.Yaml.Fault
import ConfigKit.Yaml.Printer.Scalar

/-!
# Writing YAML

A datum is written in block style. The items of a list that is the value of a key stand flush with the
key; other collections are indented by two columns. Empty collections are written in flow style. A key
that is short and simple stands on one line with its value; any other key is marked with a question mark,
and its value with a colon on a line of its own. Bytes cannot be written.
-/

namespace ConfigKit

namespace Yaml

/-- Every level of collections is indented by so many columns. -/
def indentStep : Nat := 2

/-- A key that stands on the line of its value has so many bytes at most. -/
def maxKeyBytes : Nat := 128

/-- Goes to a new line, unless the text is at the start of one, and indents it. -/
def startLine (indent : Nat) (text : List Char) : List Char :=
  (if text.getLast?.any isBreak then [] else ['\n']) ++ spaces indent

/-- Joins the lines of a collection that starts at a column. -/
def joinLines (indent : Nat) : List (List Char) → List Char
  | [] => []
  | [line] => line
  | line :: lines => line ++ startLine indent line ++ joinLines indent lines

/-- Whether a text stands on the line of its value if it is a key. -/
def isSimpleKey (text : String) : Bool :=
  text.utf8ByteSize ≤ maxKeyBytes && !text.toList.any isAnyBreak

/-- A key, and whether it is simple. -/
def keyChars (indent : Nat) : Datum.Key → Bool × List Char
  | .text text =>
    let simple := isSimpleKey text
    (simple, scalarChars (indent + indentStep) simple text)
  | .int n => (true, (toString n).toList)
  | .bool b => (true, (toString b).toList)
  | .absent => (true, "null".toList)
  | .pair a b =>
    (false, joinLines (indent + indentStep)
      [("- " ++ toString a).toList, ("- " ++ toString b).toList])

mutual

/-- A datum at a column, which is also where its collections start. Its scalars are part of the
collection around it. -/
def datumChars (indent : Nat) : Datum → Except Fault (List Char)
  | .null => .ok "null".toList
  | .bool b => .ok (toString b).toList
  | .number n => .ok (numberText n).toList
  | .text text => .ok (scalarChars indent false text)
  | .bytes _ => .error .bytes
  | .list [] => .ok "[]".toList
  | .list items => do
    let lines ← itemLines indent items
    .ok (joinLines indent lines)
  | .dict [] => .ok "\x7b\x7d".toList
  | .dict entries => do
    let lines ← entryLines indent entries
    .ok (joinLines indent lines)

/-- The items of a list at a column. -/
def itemLines (indent : Nat) : List Datum → Except Fault (List (List Char))
  | [] => .ok []
  | item :: items => do
    let item ← datumChars (indent + indentStep) item
    let lines ← itemLines indent items
    .ok (('-' :: ' ' :: item) :: lines)

/-- The pairs of a dictionary at a column. The value of a simple key stands behind it, and any other value
behind a colon on a line of its own. -/
def entryLines (indent : Nat) : List (Datum.Key × Datum) → Except Fault (List (List Char))
  | [] => .ok []
  | (key, value) :: entries =>
    match keyChars indent key with
    | (true, key) => do
      let value ← behindKey indent value
      let lines ← entryLines indent entries
      .ok ((key ++ ':' :: value) :: lines)
    | (false, key) => do
      let value ← datumChars (indent + indentStep) value
      let lines ← entryLines indent entries
      let marked := '?' :: ' ' :: key
      .ok ((marked ++ startLine indent marked ++ ':' :: ' ' :: value) :: lines)

/-- The value of a simple key of a mapping at a column, from the colon on. -/
def behindKey (indent : Nat) : Datum → Except Fault (List Char)
  | .list (item :: items) => do
    let lines ← itemLines indent (item :: items)
    .ok ('\n' :: spaces indent ++ joinLines indent lines)
  | .dict (entry :: entries) => do
    let lines ← entryLines (indent + indentStep) (entry :: entries)
    .ok ('\n' :: spaces (indent + indentStep) ++ joinLines (indent + indentStep) lines)
  | value => do
    let chars ← datumChars (indent + indentStep) value
    .ok (' ' :: chars)

end

def print (datum : Datum) : Except Fault String := do
  let text ←
    match datum with
    | .text text => .ok (scalarChars indentStep false text)
    | datum => datumChars 0 datum
  .ok (String.ofList (text ++ startLine 0 text))

end Yaml

end ConfigKit
