-- SUMMARY: Turning a YAML tree into a JSON value, or failing at the first key without a name.
import ConfigKit.Failure
import ConfigKit.Json.Basic

/-!
# From YAML trees to JSON values

`Tree.normalize` makes a JSON value of a YAML tree. Tags are dropped. The key of a pair becomes the name
of a member: a text as it is, a truth value or a number by its text. Of two pairs with one name the later
one counts. A key that is null, a sequence or a mapping has no name; the first one met is the failure.
Floating-point numbers that JSON does not have become null.
-/

namespace ConfigKit

namespace Yaml

namespace Tree

/-- The name that a key gives to a member. -/
def keyName : Tree → Except Failure String
  | .string text => .ok text
  | .bool b => .ok (toString b)
  | .number n => .ok (numberText n)
  | .tagged _ value => keyName value
  | key => .error (.key key)

mutual

/-- The JSON value of a tree. -/
def normalize : Tree → Except Failure Json
  | .null => .ok .null
  | .bool b => .ok (.bool b)
  | .number n => .ok (.ofNumber n)
  | .string text => .ok (.string text)
  | .sequence items => do
    let items ← normalizeItems items
    .ok (.array items)
  | .mapping pairs => do
    let members ← normalizePairs [] pairs
    .ok (.object members)
  | .tagged _ value => normalize value

def normalizeItems : List Tree → Except Failure (List Json)
  | [] => .ok []
  | item :: items => do
    let item ← normalize item
    let items ← normalizeItems items
    .ok (item :: items)

/-- Adds the members of some pairs, from the first to the last, each key before its value. -/
def normalizePairs (members : List (String × Json)) :
    List (Tree × Tree) → Except Failure (List (String × Json))
  | [] => .ok members
  | (key, value) :: pairs => do
    let name ← keyName key
    let value ← normalize value
    normalizePairs (Entries.insert name value members) pairs

end

end Tree

end Yaml

end ConfigKit
