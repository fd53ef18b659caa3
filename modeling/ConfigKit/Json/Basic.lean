-- SUMMARY: The values of JSON documents, and when a value is in the form that readers give.
import ConfigKit.FieldMap.Entries
import ConfigKit.Number.Basic

/-!
# JSON values

The values that a JSON document can hold. Reading a document gives objects whose members are in
increasing order of their names, each name once; `Json.Canonical` says so of a value and all inside it.
-/

namespace ConfigKit

/-- A JSON value. -/
inductive Json where
  | null
  | bool (value : Bool)
  | number (value : Number)
  | string (text : String)
  | array (items : List Json)
  | object (members : List (String × Json))

namespace Json

/-- The value of a number. Floating-point numbers that are not finite have none and become null. -/
def ofNumber : Number → Json
  | .int n => .number (.int n)
  | .float x => if x.isFinite then .number (.float x) else .null

mutual

/-- How deep arrays and objects nest: zero for a value that is neither. -/
def depth : Json → Nat
  | .array items => depthItems items + 1
  | .object members => depthMembers members + 1
  | _ => 0

def depthItems : List Json → Nat
  | [] => 0
  | item :: items => max item.depth (depthItems items)

def depthMembers : List (String × Json) → Nat
  | [] => 0
  | (_, value) :: members => max value.depth (depthMembers members)

end

mutual

/-- Whether every number in the value is an integer that a document can hold. -/
def FloatFree : Json → Prop
  | .number (.int n) => Number.minInt ≤ n ∧ n ≤ Number.maxInt
  | .number (.float _) => False
  | .array items => FloatFreeItems items
  | .object members => FloatFreeMembers members
  | _ => True

def FloatFreeItems : List Json → Prop
  | [] => True
  | item :: items => item.FloatFree ∧ FloatFreeItems items

def FloatFreeMembers : List (String × Json) → Prop
  | [] => True
  | (_, value) :: members => value.FloatFree ∧ FloatFreeMembers members

end

mutual

/-- Whether the members of every object in the value are in order of their names, each name once. -/
def Canonical : Json → Prop
  | .array items => CanonicalItems items
  | .object members => Entries.Sorted members ∧ CanonicalMembers members
  | _ => True

def CanonicalItems : List Json → Prop
  | [] => True
  | item :: items => item.Canonical ∧ CanonicalItems items

def CanonicalMembers : List (String × Json) → Prop
  | [] => True
  | (_, value) :: members => value.Canonical ∧ CanonicalMembers members

end

end Json

end ConfigKit
