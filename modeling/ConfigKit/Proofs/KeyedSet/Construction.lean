-- SUMMARY: The ways of building a keyed set agree, reading from JSON among them.
import ConfigKit.Document.Basic
import ConfigKit.Proofs.Json.Images
import ConfigKit.Proofs.KeyedSet.History

/-!
# Ways of building a keyed set

A set of values that are their own keys can be built at once, collected, built under the identity as key
function, filled at once or filled value by value, and it can be read from a JSON document. All of them
give the same set (`constructions_agree`), the index included, so no later addition tells them apart.
What is added in two parts is what is added in one, from any set on and under any key function.
-/

namespace ConfigKit

namespace KeyedSet

variable {κ τ σ : Type} [DecidableEq κ]

/-! ## Adding in parts -/

theorem addAllWith_append (s : KeyedSet κ τ) (keyOf : σ → τ → κ × σ) (state : σ)
    (items more : List τ) :
    s.addAllWith keyOf state (items ++ more)
      = (s.addAllWith keyOf state items).1.addAllWith keyOf
          (s.addAllWith keyOf state items).2 more := by
  induction items generalizing s state with
  | nil => rfl
  | cons item items ih => exact ih _ _

theorem addAll_append (s : KeyedSet κ τ) (items more : List τ) (keyOf : τ → κ) :
    s.addAll (items ++ more) keyOf = (s.addAll items keyOf).addAll more keyOf := by
  unfold addAll
  rw [addAllWith_append]

theorem addAll_eq_foldl (s : KeyedSet κ τ) (items : List τ) (keyOf : τ → κ) :
    s.addAll items keyOf = items.foldl (fun s item => (s.add item keyOf).2) s := by
  rw [addAll_eq_replay, replay, List.foldl_map]
  rfl

/-! ## Sets of lists -/

theorem ofListBy_append_singleton (items : List τ) (item : τ) (keyOf : τ → κ) :
    ofListBy (items ++ [item]) keyOf = ((ofListBy items keyOf).addUnder (keyOf item) item).2 := by
  unfold ofListBy
  rw [addAll_append]
  rfl

theorem follows_ofListBy (items : List τ) (keyOf : τ → κ) :
    Follows (items.map fun item => ⟨item, keyOf item⟩) (ofListBy items keyOf) := by
  unfold ofListBy
  rw [addAll_eq_replay]
  exact follows_empty.replay _

theorem mem_index_ofListBy (items : List τ) (keyOf : τ → κ) (key : κ) :
    key ∈ (ofListBy items keyOf).index ↔ key ∈ items.map keyOf := by
  rw [(follows_ofListBy items keyOf).mem_index_iff, List.map_map]
  rfl

/-! ## Values that are their own keys -/

variable [DecidableEq τ]

theorem mem_index_ofList (items : List τ) (key : τ) : key ∈ (ofList items).index ↔ key ∈ items := by
  rw [ofList, mem_index_ofListBy, List.map_id]

/-- The set of a list keeps of each value the first occurrence. -/
theorem values_ofList (items : List τ) : (ofList items).values = items.eraseDups := by
  induction items using List.reverseRecOn with
  | nil => rfl
  | append_singleton items item ih =>
    have hitem : ofList (items ++ [item]) = ((ofList items).addUnder item item).2 :=
      ofListBy_append_singleton items item id
    rw [hitem, values_addUnder, ih, List.eraseDups_append]
    simp only [mem_index_ofList]
    by_cases hknown : item ∈ items
    · simp [hknown, List.removeAll]
    · simp [hknown, List.removeAll, List.eraseDups_cons]

end KeyedSet

namespace Document

open Json

/-! ## Sets from documents -/

variable {α : Type}

theorem readJsonSet_eq_map [DecidableEq α] (item : Reader α) (bytes : Bytes) :
    readJsonSet item bytes = (readJsonList item bytes).map KeyedSet.ofList := by
  unfold readJsonSet readJsonList decodeSet
  cases readDocument (readList maxDepth fun _ => item) bytes with
  | error fault => rfl
  | ok items => rfl

/-- A document that is read as a list, as far as that goes, is read as a set with the repetitions left
out, and refused as a set for the same fault. -/
def DropsRepetitions [DecidableEq α] (toDatum : α → Datum) (list set : Shape) : Prop :=
  ∀ bytes, ∃ items : Except Failure (List α),
    readJson list bytes = items.map (fun values => .list (values.map toDatum)) ∧
    readJson set bytes = items.map fun values => .list ((KeyedSet.ofList values).values.map toDatum)

theorem readJson_of_readImage {shape : Shape} {read : Reader α} {f : α → Datum}
    (h : readShape shape maxDepth = readImage f read) (bytes : Bytes) :
    readJson shape bytes = ((readDocument read bytes).mapError .json).map f := by
  rw [readJson, decode, h, readDocument_readImage]
  cases readDocument read bytes with
  | error fault => rfl
  | ok value => rfl

/-- Where the items of the list shape are read as the images of what the set shape reads, the two agree. -/
theorem dropsRepetitions_of_readImage [DecidableEq α] {toDatum : α → Datum} {list set : Shape}
    (item : Shape) (read : Reader α) (hitem : ∀ depth, readShape item depth = readImage toDatum read)
    (hlist : readShape list maxDepth = readImage .list (readList maxDepth (readShape item)))
    (hset : readShape set maxDepth
      = readImage (fun values => .list ((KeyedSet.ofList values).values.map toDatum))
          (readList maxDepth fun _ => read)) :
    DropsRepetitions toDatum list set := by
  intro bytes
  refine ⟨readJsonList read bytes, readJson_of_readImage ?_ bytes, readJson_of_readImage hset bytes⟩
  rw [hlist, funext hitem, readList_readImage, readImage_readImage]
  rfl

theorem dropsRepetitions_text : DropsRepetitions .text (.list .text) .textSet :=
  dropsRepetitions_of_readImage .text readText (fun _ => rfl) rfl rfl

theorem dropsRepetitions_integer (bits : Nat) :
    DropsRepetitions (fun n => .number (.int n)) (.list (.integer bits)) (.integerSet bits) :=
  dropsRepetitions_of_readImage (.integer bits) (readInteger (.integer bits)) (fun _ => rfl) rfl rfl

end Document

namespace KeyedSet

/-- However a set of values that are their own keys is built from a list, it is the same set: it holds
the first occurrence of each value, in order, and contains just the values of the list. Reading a JSON
document as a set is reading it as a list, with the same refusals, and building the set of that. Under any
key function, with or without a state, building a set from two lists in a row is building it from the
first and adding the second, and the same goes for adding two lists to any set. -/
theorem constructions_agree {τ κ ι σ : Type} [DecidableEq τ] [DecidableEq κ] :
    (∀ items : List τ,
      (ofList items).values = items.eraseDups ∧
      (∀ key, (ofList items).contains key = true ↔ key ∈ items) ∧
      collect items = ofList items ∧
      ofListBy items id = ofList items ∧
      empty.addAll items id = ofList items ∧
      items.foldl (fun s item => (s.add item id).2) empty = ofList items) ∧
    (∀ (item : Json.Reader τ) (bytes : Bytes),
      Document.readJsonSet item bytes = (Document.readJsonList item bytes).map ofList) ∧
    Document.DropsRepetitions .text (.list .text) .textSet ∧
    (∀ bits, Document.DropsRepetitions (fun n => .number (.int n))
      (.list (.integer bits)) (.integerSet bits)) ∧
    (∀ (items more : List ι) (keyOf : ι → κ),
      ofListBy (items ++ more) keyOf = (ofListBy items keyOf).addAll more keyOf) ∧
    (∀ (keyOf : σ → ι → κ × σ) (state : σ) (items more : List ι),
      ofListWith keyOf state (items ++ more)
        = (ofListWith keyOf state items).1.addAllWith keyOf (ofListWith keyOf state items).2 more) ∧
    (∀ (s : KeyedSet κ ι) (items more : List ι) (keyOf : ι → κ),
      s.addAll (items ++ more) keyOf = (s.addAll items keyOf).addAll more keyOf) ∧
    ∀ (s : KeyedSet κ ι) (keyOf : σ → ι → κ × σ) (state : σ) (items more : List ι),
      s.addAllWith keyOf state (items ++ more)
        = (s.addAllWith keyOf state items).1.addAllWith keyOf
            (s.addAllWith keyOf state items).2 more := by
  refine ⟨?_, Document.readJsonSet_eq_map, Document.dropsRepetitions_text,
    Document.dropsRepetitions_integer, addAll_append empty, addAllWith_append empty,
    addAll_append, addAllWith_append⟩
  intro items
  have hcontains (key : τ) : (ofList items).contains key = true ↔ key ∈ items := by
    rw [contains, List.contains_iff_mem, mem_index_ofList]
  have hone : items.foldl (fun s item => (s.add item id).2) empty = ofList items :=
    (addAll_eq_foldl empty items id).symm
  exact ⟨values_ofList items, hcontains, rfl, rfl, rfl, hone⟩

end KeyedSet

end ConfigKit
