-- SUMMARY: Reading JSON text as a YAML tree.
import ConfigKit.Json.Reader
import ConfigKit.Yaml.Tree

/-!
# Trees from JSON

JSON text as a YAML tree: `decodeJsonTree`. The members of an object keep their order, and no two of
them may have the same name.
-/

namespace ConfigKit

namespace Yaml

open Json (Reader)

mutual

def Tree.ofJson : Json → Tree
  | .null => .null
  | .bool value => .bool value
  | .number n => .number n
  | .string text => .string text
  | .array items => .sequence (Tree.ofJsonItems items)
  | .object members => .mapping (Tree.ofJsonMembers members)

def Tree.ofJsonItems : List Json → List Tree
  | [] => []
  | item :: items => Tree.ofJson item :: Tree.ofJsonItems items

def Tree.ofJsonMembers : List (String × Json) → List (Tree × Tree)
  | [] => []
  | (name, value) :: members => (.string name, Tree.ofJson value) :: Tree.ofJsonMembers members

end

/-- Adds the value of a member, unless its name was there before. -/
def readPair (value : Reader Tree) (pairs : List (Tree × Tree)) (name : String) :
    Reader (List (Tree × Tree)) := fun bytes =>
  if Tree.hasKey pairs (.string name) then .error (.unplaced (.duplicateEntry name) bytes)
  else do
    let rest ← Json.readColon bytes
    let (value, rest) ← value rest
    .ok (pairs ++ [(.string name, value)], rest)

/-- Reads a JSON value as a tree. At most `depth` arrays and objects may stand within each other. -/
def readJsonTree (depth : Nat) : Reader Tree := fun bytes =>
  match Json.skipBlanks bytes with
  | 0x5B :: rest =>
    match depth with
    | 0 => .error (.behind .nestedTooDeep (0x5B :: rest))
    | depth + 1 => do
      let (items, rest) ← Json.readArray (fun bytes =>
        Json.readItems (readJsonTree depth) true (bytes.length + 1) bytes) rest
      .ok (.sequence items, rest)
  | 0x7B :: rest =>
    match depth with
    | 0 => .error (.behind .nestedTooDeep (0x7B :: rest))
    | depth + 1 => do
      let (pairs, rest) ← Json.readObject (fun bytes =>
        Json.readMembers (readPair (readJsonTree depth)) true [] (bytes.length + 1) bytes) rest
      .ok (.mapping pairs, rest)
  | rest => do
    -- Anything else holds no other value.
    let (value, rest) ← Json.readValue 0 rest
    .ok (.ofJson value, rest)

def decodeJsonTree (bytes : Bytes) : Except Json.Fault Tree :=
  Json.readDocument (readJsonTree Json.maxDepth) bytes

end Yaml

end ConfigKit
