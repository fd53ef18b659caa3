-- SUMMARY: Data on their way into a document, with keys of several kinds, and their JSON values.
import ConfigKit.FieldMap.Basic
import ConfigKit.Json.Fault
import ConfigKit.KeyedSet

/-!
# Data to write

A `Datum` is a value on its way into a document: a scalar, a list, or a dictionary in a fixed order. The
keys of a dictionary may be texts, integers, truth values, absent, or pairs of integers. YAML can write
all of them. JSON has names for the first three only, so a datum with another key has no JSON form. Bytes
are a list of numbers in JSON, and have no form in YAML.
-/

namespace ConfigKit

namespace Datum

/-- A key of a dictionary. -/
inductive Key where
  | text (text : String)
  | int (value : Int)
  | bool (value : Bool)
  | absent
  | pair (fst snd : Int)

/-- The name that JSON gives to a key. -/
def Key.name? : Key → Option String
  | .text name => some name
  | .int n => some (toString n)
  | .bool b => some (toString b)
  | .absent => none
  | .pair _ _ => none

end Datum

/-- A value to write. -/
inductive Datum where
  | null
  | bool (value : Bool)
  | number (value : Number)
  | text (text : String)
  | bytes (bytes : Bytes)
  | list (items : List Datum)
  | dict (entries : List (Datum.Key × Datum))

namespace Datum

mutual

def ofJson : Json → Datum
  | .null => .null
  | .bool b => .bool b
  | .number n => .number n
  | .string s => .text s
  | .array items => .list (ofItems items)
  | .object members => .dict (ofMembers members)

def ofItems : List Json → List Datum
  | [] => []
  | item :: items => ofJson item :: ofItems items

def ofMembers : List (String × Json) → List (Key × Datum)
  | [] => []
  | (name, value) :: members => (.text name, ofJson value) :: ofMembers members

end

def texts (texts : List String) : Datum :=
  .list (texts.map .text)

/-- The datum of a keyed set: its values in order, without their keys. -/
def ofSet {κ τ : Type} (value : τ → Datum) (s : KeyedSet κ τ) : Datum :=
  .list (s.values.map value)

/-- The datum of a field map, in the order of its keys. -/
def ofMap {κ ν : Type} [Ord κ] (key : κ → Key) (value : ν → Datum) (m : FieldMap κ ν) : Datum :=
  .dict (m.entries.map fun entry => (key entry.1, value entry.2))

mutual

/-- The JSON value of a datum, with members in the order of the entries. -/
def toJson? : Datum → Except Json.Fault Json
  | .null => .ok .null
  | .bool b => .ok (.bool b)
  | .number n => .ok (.ofNumber n)
  | .text s => .ok (.string s)
  | .bytes bs => .ok (.array (bs.map fun byte => .number (.int byte.toNat)))
  | .list items => do
    let items ← toItems? items
    .ok (.array items)
  | .dict entries => do
    let members ← toMembers? entries
    .ok (.object members)

def toItems? : List Datum → Except Json.Fault (List Json)
  | [] => .ok []
  | item :: items => do
    let item ← toJson? item
    let items ← toItems? items
    .ok (item :: items)

def toMembers? : List (Key × Datum) → Except Json.Fault (List (String × Json))
  | [] => .ok []
  | (key, value) :: entries =>
    match key.name? with
    | none => .error ⟨.keyMustBeString, none⟩
    | some name => do
      let value ← toJson? value
      let members ← toMembers? entries
      .ok ((name, value) :: members)

end

end Datum

end ConfigKit
