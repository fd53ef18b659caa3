-- SUMMARY: What a document can be read as: scalars, lists, dictionaries and records.
import ConfigKit.Datum.Basic

/-!
# Shapes

A shape says what a document is read as: any value, a scalar of some kind, a list, a dictionary with
names, or a record with given fields. Each format has a reader that follows a shape.
-/

namespace ConfigKit

/-- What a document is read as. -/
inductive Shape where
  /-- Any value that JSON can hold. -/
  | value
  | text
  /-- An integer from zero to the greatest one of so many bits. -/
  | natural (bits : Nat)
  /-- A signed integer of so many bits. -/
  | integer (bits : Nat)
  | float
  /-- A text that is a pattern. -/
  | pattern
  | list (item : Shape)
  /-- Texts, of which repetitions are dropped. -/
  | textSet
  /-- Signed integers of so many bits, of which repetitions are dropped. -/
  | integerSet (bits : Nat)
  /-- A dictionary with names. -/
  | dict (value : Shape)
  /-- A record by its name and fields. A field with a default may be missing. -/
  | record (name : String) (fields : List (String × Shape × Option Datum))

namespace Shape

/-- A service: a name, a port, and tags that may be missing. -/
def service : Shape :=
  .record "Service"
    [("name", .text, none), ("port", .natural 16, none), ("tags", .list .text, some (.list []))]

/-- A named pattern. -/
def rule : Shape :=
  .record "Rule" [("name", .text, none), ("pattern", .pattern, none)]

/-- Whether an integer lies in the range of a shape. -/
def admits : Shape → Int → Bool
  | .natural bits, n => 0 ≤ n && n < (Nat.pow 2 bits : Nat)
  | .integer bits, n => -(Nat.pow 2 (bits - 1) : Nat) ≤ n && n < (Nat.pow 2 (bits - 1) : Nat)
  | _, _ => false

/-- What a refusal says was expected. -/
def expected : Shape → String
  | .value => "any valid JSON value"
  | .text => "a string"
  | .natural bits => s!"u{bits}"
  | .integer bits => s!"i{bits}"
  | .float => "f64"
  | .pattern => "a string"
  | .list _ => "a sequence"
  | .textSet => "a sequence"
  | .integerSet _ => "a sequence"
  | .dict _ => "a map"
  | .record name _ => s!"struct {name}"

end Shape

end ConfigKit
