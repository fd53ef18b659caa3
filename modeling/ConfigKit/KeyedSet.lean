-- SUMMARY: Lists of values with at most one value for each key, with the constructors and the additions that fill them.
/-!
# Keyed sets

A keyed set holds values in the order in which they came, at most one for each key, and beside them the
index of the keys that are taken. The key of a value is computed by a function when the value is added
and is kept from then on, so different additions may use different functions. The first value of a key
stays; later ones are dropped.
-/

namespace ConfigKit

/-- Values, oldest first, and the index of the keys they were added under. -/
structure KeyedSet (κ τ : Type) where
  values : List τ
  index : List κ
  nodup : index.Nodup

namespace KeyedSet

variable {κ τ σ : Type}

def empty : KeyedSet κ τ := ⟨[], [], List.nodup_nil⟩

instance : Inhabited (KeyedSet κ τ) := ⟨empty⟩

def size (s : KeyedSet κ τ) : Nat := s.values.length

def isEmpty (s : KeyedSet κ τ) : Bool := s.values.isEmpty

variable [DecidableEq κ]

def contains (s : KeyedSet κ τ) (key : κ) : Bool := s.index.contains key

omit [DecidableEq κ] in
theorem nodup_index_append {s : KeyedSet κ τ} {key : κ} (h : key ∉ s.index) :
    (s.index ++ [key]).Nodup := by
  refine List.nodup_append.mpr ⟨s.nodup, List.pairwise_singleton _ _, fun a ha b hb => ?_⟩
  rw [List.mem_singleton] at hb
  rintro rfl
  exact h (hb ▸ ha)

/-- Adds a value under a key, unless the key is taken. Tells whether the value was stored. -/
def addUnder (s : KeyedSet κ τ) (key : κ) (item : τ) : Bool × KeyedSet κ τ :=
  if h : key ∈ s.index then (false, s)
  else (true, ⟨s.values ++ [item], s.index ++ [key], nodup_index_append h⟩)

/-- Adds a value under the key that the function gives it. -/
def add (s : KeyedSet κ τ) (item : τ) (keyOf : τ → κ) : Bool × KeyedSet κ τ :=
  s.addUnder (keyOf item) item

/-- Adds values in order under the keys that a function gives them. The function may keep a state, which
is given back after the last value. -/
def addAllWith (s : KeyedSet κ τ) (keyOf : σ → τ → κ × σ) (state : σ) :
    List τ → KeyedSet κ τ × σ
  | [] => (s, state)
  | item :: items =>
    let (key, state) := keyOf state item
    addAllWith (s.addUnder key item).2 keyOf state items

def addAll (s : KeyedSet κ τ) (items : List τ) (keyOf : τ → κ) : KeyedSet κ τ :=
  (s.addAllWith (fun (_ : Unit) item => (keyOf item, ())) () items).1

/-- The set of a list of values under the keys that a function with a state gives them. -/
def ofListWith (keyOf : σ → τ → κ × σ) (state : σ) (items : List τ) : KeyedSet κ τ × σ :=
  empty.addAllWith keyOf state items

/-- The set of a list of values under the keys that the function gives them. -/
def ofListBy (items : List τ) (keyOf : τ → κ) : KeyedSet κ τ :=
  empty.addAll items keyOf

/-- The set of a list of values, each its own key. -/
def ofList [DecidableEq τ] (items : List τ) : KeyedSet τ τ :=
  ofListBy items id

/-- The set of the values that a sequence yields, each its own key. -/
def collect [DecidableEq τ] (items : List τ) : KeyedSet τ τ :=
  ofList items

end KeyedSet

end ConfigKit
