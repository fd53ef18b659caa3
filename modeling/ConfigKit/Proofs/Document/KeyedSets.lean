-- SUMMARY: Which keyed sets survive being written as a document and read again.
import ConfigKit.Proofs.Document.JsonRoundTrip
import ConfigKit.Proofs.Json.Lists
import ConfigKit.Proofs.KeyedSet.Rebuilding

/-!
# Keyed sets in JSON documents

A document holds the values of a set in their order and not the keys. Reading takes each value as its own
key, so it gives the same values only if no two of them are equal. Under one key function equal values have
equal keys, and so this is the case (`Run.Uses.nodup_values`). If that function gave each value as its own
key, the set that is read is the one that was written, keys included (`sets_survive`).
-/

namespace ConfigKit

namespace Document

open Utf8 Json KeyedSet

variable {α : Type} {item : Reader α} {toJson : α → Json} {values : List α}

theorem ofItems_map (toJson : α → Json) (values : List α) :
    Datum.ofItems (values.map toJson) = values.map fun value => .ofJson (toJson value) := by
  induction values with
  | nil => rfl
  | cons value values ih => rw [List.map_cons, Datum.ofItems, ih, List.map_cons]

/-- A list is written in either layout and read as it was written. -/
theorem readJsonList_writeJson (hvalues : ∀ value ∈ values, ReadsBack item toJson value)
    (pretty : Bool) :
    ∃ bytes, writeJson (if pretty then .indented else .compact)
        (.list (values.map fun value => .ofJson (toJson value))) = .ok bytes ∧
      readJsonList item bytes = .ok values := by
  have hfree : (Json.array (values.map toJson)).FloatFree :=
    floatFreeItems_map fun value hvalue => (hvalues value hvalue).floatFree
  have hread := readList_render (Layout.sound_of_pretty pretty) hvalues 126 0 [0x0A]
  have hblank : skipBlanks [0x0A] = [] := rfl
  rw [← ofItems_map]
  refine ⟨_, writeJson_ofJson _ hfree, ?_⟩
  simp [readJsonList, readDocument, maxDepth, hread, hblank, Except.mapError]

/-- A set of different values is written in either layout and read as the set in which each value is its
own key. -/
theorem readJsonSet_writeJson [DecidableEq α] {κ : Type} (s : KeyedSet κ α) (hnodup : s.values.Nodup)
    (hvalues : ∀ value ∈ s.values, ReadsBack item toJson value) (pretty : Bool) :
    ∃ bytes, writeJson (if pretty then .indented else .compact)
        (.ofSet (fun value => .ofJson (toJson value)) s) = .ok bytes ∧
      readJsonSet item bytes = .ok ⟨s.values, s.values, hnodup⟩ := by
  obtain ⟨bytes, hwrite, hread⟩ := readJsonList_writeJson hvalues pretty
  refine ⟨bytes, hwrite, ?_⟩
  rw [readJsonSet_eq_map, hread, Except.map, ofList_of_nodup hnodup]

/-! ## Sets of a run -/

/-- The set at the end of a run is written, and read with the same values in the same order. Its values are
its keys then. If they were before, it is the same set, so no question and no later addition tells the two
apart. -/
def Survives [DecidableEq α] (datum : α → Datum) (item : Reader α) (pretty : Bool) (r : Run α α) : Prop :=
  ∃ bytes restored, writeJson (if pretty then .indented else .compact) (.ofSet datum r.final) = .ok bytes ∧
    readJsonSet item bytes = .ok restored ∧ restored.values = r.final.values ∧
    (∀ key, restored.contains key = true ↔ key ∈ r.final.values) ∧ (r.Uses id → restored = r.final)

theorem survives_of_uses [DecidableEq α] (toJson : α → Json) {r : Run α α} {keyOf : α → α}
    (h : r.Uses keyOf) (hitems : ∀ attempt ∈ r.attempts, ReadsBack item toJson attempt.item)
    (pretty : Bool) :
    Survives (fun value => .ofJson (toJson value)) item pretty r := by
  have hvalues : ∀ value ∈ r.final.values, ReadsBack item toJson value := by
    intro value hvalue
    obtain ⟨attempt, hattempt, rfl⟩ := Run.exists_attempt_of_mem_values hvalue
    exact hitems attempt hattempt
  obtain ⟨bytes, hwrite, hread⟩ := readJsonSet_writeJson r.final h.nodup_values hvalues pretty
  refine ⟨bytes, _, hwrite, hread, rfl, fun key => List.contains_iff_mem, fun hself => ?_⟩
  rw [← ofList_of_nodup]
  exact ofListBy_values hself.index_final

/-- Sets of texts and sets of integers of 64 bits survive being written as JSON and read again, in either
layout, if one key function was used throughout. -/
theorem sets_survive (pretty : Bool) :
    (∀ (r : Run String String) (keyOf : String → String), r.Uses keyOf →
      Survives .text readText pretty r) ∧
    ∀ (r : Run Int Int) (keyOf : Int → Int), r.Uses keyOf →
      (∀ attempt ∈ r.attempts, (Shape.integer 64).admits attempt.item = true) →
      Survives (fun n => .number (.int n)) (readInteger (.integer 64)) pretty r := by
  constructor
  · intro r keyOf h
    exact survives_of_uses .string h (fun attempt _ => readsBack_text attempt.item) pretty
  · intro r keyOf h hrange
    exact survives_of_uses (fun n => .number (.int n)) h
      (fun attempt hattempt => readsBack_integer (hrange attempt hattempt)) pretty

/-- Texts by their first letter, and integers that are their own keys. -/
theorem sets_survive_letters :
    let texts : Run String String :=
      ⟨.empty, [.addAll (fun (_ : Unit) text => (String.ofList (text.toList.take 1), ())) ()
        ["ab", "é\n", "ac"]]⟩
    let numbers : Run Int Int := ⟨.distinct [7], [.add (-5) id, .add 7 id]⟩
    (∃ bytes restored, writeJson .indented (.ofSet .text texts.final) = .ok bytes ∧
      readJsonSet readText bytes = .ok restored ∧ restored.values = ["ab", "é\n"]) ∧
    ∃ bytes, writeJson .compact (.ofSet (fun n => .number (.int n)) numbers.final) = .ok bytes ∧
      readJsonSet (readInteger (.integer 64)) bytes = .ok numbers.final := by
  intro texts numbers
  have huses : texts.Uses fun text => String.ofList (text.toList.take 1) := by
    simp [texts, Run.Uses, Run.attempts, Origin.attempts, Operation.attempts, attemptsWith]
  have hself : numbers.Uses id := by
    simp [numbers, Run.Uses, Run.attempts, Origin.attempts, Operation.attempts]
  have hrange : ∀ attempt ∈ numbers.attempts, (Shape.integer 64).admits attempt.item = true := by
    decide
  have hvalues : texts.final.values = ["ab", "é\n"] := by decide
  obtain ⟨bytes, restored, hwrite, hread, hsame, -⟩ := (sets_survive true).1 texts _ huses
  obtain ⟨numberBytes, other, hwrites, hreads, -, -, hfinal⟩ :=
    (sets_survive false).2 numbers id hself hrange
  exact ⟨⟨bytes, restored, hwrite, hread, hsame.trans hvalues⟩,
    ⟨numberBytes, hwrites, hfinal hself ▸ hreads⟩⟩

end Document

end ConfigKit
