-- SUMMARY: JSON text in the compact and in the indented layout.
import ConfigKit.Json.Basic
import ConfigKit.Text.Quoted

/-!
# JSON text

The text of a JSON value, in two layouts. The compact one has no blanks. The indented one puts every
item and member on its own line, two spaces further in than its container, and a space after the colon
of a member; empty containers stay on one line in both.
-/

namespace ConfigKit

namespace Json

/-- Floating-point numbers in JSON. The values without a JSON form are written as null. -/
def floats : Decimal.Notation where
  exponentSign := "+"
  positiveInfinity := "null"
  negativeInfinity := "null"
  notANumber := "null"

def numberText : Number → String
  | .int n => toString n
  | .float x => x.text floats

/-- A character within a string. Quote, backslash and controls are escaped, all else stands as it is. -/
def escapeChar (c : Char) : List Char :=
  if c = '"' then ['\\', '"']
  else if c = '\\' then ['\\', '\\']
  else if c = '\x08' then ['\\', 'b']
  else if c = '\x0c' then ['\\', 'f']
  else if c = '\n' then ['\\', 'n']
  else if c = '\r' then ['\\', 'r']
  else if c = '\t' then ['\\', 't']
  else if c.toNat < 0x20 then
    ['\\', 'u', '0', '0', Nat.digitChar (c.toNat / 16), Nat.digitChar (c.toNat % 16)]
  else [c]

/-- A string with its quotes. -/
def stringChars (text : String) : List Char :=
  '"' :: (text.toList.flatMap escapeChar ++ ['"'])

/-- Where blanks go. -/
structure Layout where
  /-- What stands before an item, a member or a closing bracket at this depth. -/
  lineBreak : Nat → List Char
  /-- What stands between the name and the value of a member. -/
  colon : List Char

/-- No blanks at all. -/
def Layout.compact : Layout where
  lineBreak _ := []
  colon := [':']

/-- One line for each item and member. -/
def Layout.indented : Layout where
  lineBreak depth := '\n' :: List.replicate (2 * depth) ' '
  colon := [':', ' ']

mutual

/-- The text of a value that stands at a depth. -/
def render (layout : Layout) (depth : Nat) : Json → List Char
  | .null => "null".toList
  | .bool true => "true".toList
  | .bool false => "false".toList
  | .number n => (numberText n).toList
  | .string text => stringChars text
  | .array [] => ['[', ']']
  | .array (item :: items) =>
    '[' :: (layout.lineBreak (depth + 1) ++ item.render layout (depth + 1)
      ++ renderItems layout (depth + 1) items ++ layout.lineBreak depth ++ [']'])
  | .object [] => ['\x7b', '\x7d']
  | .object ((name, value) :: members) =>
    '\x7b' :: (layout.lineBreak (depth + 1) ++ stringChars name ++ layout.colon
      ++ value.render layout (depth + 1)
      ++ renderMembers layout (depth + 1) members ++ layout.lineBreak depth ++ ['\x7d'])

/-- The text of the items after the first one, each with the comma before it. -/
def renderItems (layout : Layout) (depth : Nat) : List Json → List Char
  | [] => []
  | item :: items =>
    ',' :: (layout.lineBreak depth ++ item.render layout depth ++ renderItems layout depth items)

/-- The text of the members after the first one, each with the comma before it. -/
def renderMembers (layout : Layout) (depth : Nat) : List (String × Json) → List Char
  | [] => []
  | (name, value) :: members =>
    ',' :: (layout.lineBreak depth ++ stringChars name ++ layout.colon ++ value.render layout depth
      ++ renderMembers layout depth members)

end

def compact (value : Json) : String :=
  String.ofList (value.render .compact 0)

def indented (value : Json) : String :=
  String.ofList (value.render .indented 0)

end Json

end ConfigKit
