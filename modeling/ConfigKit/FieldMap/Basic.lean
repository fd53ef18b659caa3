-- SUMMARY: Finite maps as lists in the order of their keys, with insertion, filtering, and copying between maps.
import ConfigKit.FieldMap.Entries

/-!
# Field maps

A field map holds at most one value for each key. Its entries stand in increasing order of the keys, so
two maps with the same entries are the same map.

Next to look-up and insertion there are the operations that move fields between maps: `copyField` takes
one field over, `overlay` takes all of them, and `filterKeys` keeps those whose key passes a test.
-/

namespace ConfigKit

/-- A finite map from keys to values. -/
structure FieldMap (κ ν : Type) [Ord κ] where
  entries : Entries κ ν
  sorted : entries.Sorted

namespace FieldMap

variable {κ ν σ : Type} [Ord κ]

def empty : FieldMap κ ν := ⟨[], List.Pairwise.nil⟩

def get? (m : FieldMap κ ν) (key : κ) : Option ν := m.entries.get? key

def keys (m : FieldMap κ ν) : List κ := m.entries.map (·.1)

/-- The values, in the order of their keys. -/
def values (m : FieldMap κ ν) : List ν := m.entries.map (·.2)

def size (m : FieldMap κ ν) : Nat := m.entries.length

/-- The entries whose key passes a test that may keep a state, and the state after the last question.
The test is asked once for each entry. -/
def filterKeysWith (m : FieldMap κ ν) (test : σ → κ → Bool × σ) (state : σ) : FieldMap κ ν × σ :=
  (⟨(m.entries.filterWith test state).1, m.sorted.filterWith test state⟩,
    (m.entries.filterWith test state).2)

def filterKeys (m : FieldMap κ ν) (test : κ → Bool) : FieldMap κ ν :=
  (m.filterKeysWith (fun (_ : Unit) key => (test key, ())) ()).1

variable [Std.TransOrd κ] [Std.LawfulEqOrd κ]

def insert (m : FieldMap κ ν) (key : κ) (value : ν) : FieldMap κ ν :=
  ⟨m.entries.insert key value, m.sorted.insert key value⟩

/-- The map of a list of entries; of two with the same key the later one counts. -/
def ofList (entries : Entries κ ν) : FieldMap κ ν :=
  ⟨Entries.insertAll [] entries, Entries.Sorted.insertAll List.Pairwise.nil entries⟩

/-- Copies the field `name` of `source`, if it has one, into `target`. Gives the copied value and the
target afterwards. -/
def copyField (name : κ) (source target : FieldMap κ ν) : Option ν × FieldMap κ ν :=
  match source.get? name with
  | none => (none, target)
  | some value => (some value, target.insert name value)

/-- Copies every entry of `source` into `target`. Where both have a key, the value of `source` counts. -/
def overlay (target source : FieldMap κ ν) : FieldMap κ ν :=
  ⟨target.entries.insertAll source.entries, target.sorted.insertAll source.entries⟩

end FieldMap

end ConfigKit
