-- SUMMARY: A process environment after any updates is a map, as far as expressions can see.
import Mathlib.Data.List.Basic
import Mathlib.Data.List.Induction
import ConfigKit.Proofs.Condition.Truth
import ConfigKit.Proofs.FieldMap.LastWins

/-!
# Runs of a process environment

A program sets and unsets variables, and what a variable holds is what the last of these updates left of
it. The main result `run_behaves_as_map` says that expressions see the process environment as the map of
its variables with their texts. Names that no variable can have make no difference, because no expression
asks for one.
-/

namespace ConfigKit

namespace Entries

variable {κ ν μ : Type} [Ord κ]

theorem get?_map (f : ν → μ) (key : κ) (entries : Entries κ ν) :
    get? key (entries.map fun entry => (entry.1, f entry.2)) = (get? key entries).map f := by
  induction entries with
  | nil => rfl
  | cons head rest ih =>
    obtain ⟨k, v⟩ := head
    simp only [List.map_cons, get?]
    split
    · rfl
    · exact ih

theorem Sorted.map {entries : Entries κ ν} (h : Sorted entries) (f : ν → μ) :
    Sorted (entries.map fun entry => (entry.1, f entry.2)) :=
  List.Pairwise.map _ (fun _ _ hlt => hlt) h

end Entries

namespace ProcessEnvironment

/-! ## Updates -/

/-- A change of one variable. -/
inductive Update where
  | set (name : String) (value : Bytes)
  | unset (name : String)

/-- The variable that an update changes. -/
def Update.name : Update → String
  | .set name _ => name
  | .unset name => name

/-- What an update leaves of its variable. -/
def Update.left? : Update → Option Bytes
  | .set _ value => some value
  | .unset _ => none

def apply (process : ProcessEnvironment) : Update → ProcessEnvironment
  | .set name value => process.set name value
  | .unset name => process.unset name

/-- The environment after some updates. -/
def run (start : ProcessEnvironment) (updates : List Update) : ProcessEnvironment :=
  updates.foldl apply start

/-- What the last update of a variable left of it. Without an update it is as at the start. -/
def lastLeft? (start : ProcessEnvironment) (updates : List Update) (name : String) : Option Bytes :=
  match updates.reverse.find? fun update => update.name = name with
  | some update => update.left?
  | none => FieldMap.get? start name

/-- The text of a value. -/
def decodeText (value : Bytes) : String := String.ofList (Utf8.decodeLossy value)

theorem get?_apply (process : ProcessEnvironment) (update : Update) (name : String) :
    FieldMap.get? (process.apply update) name
      = if update.name = name then update.left? else FieldMap.get? process name := by
  cases update with
  | set other value =>
    simp only [apply, set, Update.name, Update.left?, FieldMap.get?_insert, eq_comm]
  | unset other =>
    simp only [apply, unset, Update.name, Update.left?, FieldMap.get?_filterKeys]
    by_cases h : other = name
    · simp [h]
    · simp [h, Ne.symm h]

theorem lastLeft?_concat (start : ProcessEnvironment) (updates : List Update) (update : Update)
    (name : String) :
    lastLeft? start (updates ++ [update]) name
      = if update.name = name then update.left? else lastLeft? start updates name := by
  unfold lastLeft?
  rw [List.reverse_append, List.reverse_singleton, List.singleton_append, List.find?_cons]
  by_cases h : update.name = name <;> simp [h]

theorem get?_run (start : ProcessEnvironment) (updates : List Update) (name : String) :
    FieldMap.get? (start.run updates) name = lastLeft? start updates name := by
  induction updates using List.reverseRecOn with
  | nil => rfl
  | append_singleton updates update ih =>
    have hrun : start.run (updates ++ [update]) = (start.run updates).apply update :=
      List.foldl_concat ..
    rw [hrun, get?_apply, lastLeft?_concat, ih]

/-! ## The map of texts -/

theorem get?_texts (process : ProcessEnvironment) (name : String) :
    FieldMap.get? process.texts name = (FieldMap.get? process name).map decodeText := by
  have hentries : process.texts.entries
      = process.entries.map fun entry => (entry.1, decodeText entry.2) :=
    (process.sorted.map decodeText).insertAll_nil
  rw [FieldMap.get?, hentries, Entries.get?_map]
  rfl

theorem isUsable_iff {name : String} :
    isUsable name = true ↔ name ≠ "" ∧ '=' ∉ name.toList ∧ '\x00' ∉ name.toList := by
  simp [isUsable, and_assoc]

theorem get?_of_isUsable {name : String} (h : isUsable name = true) (process : ProcessEnvironment) :
    process.get? name = FieldMap.get? process.texts name := by
  rw [get?_texts, get?, if_pos h]
  rfl

end ProcessEnvironment

/-! ## What expressions ask for -/

namespace Condition

open ProcessEnvironment

theorem isUsable_of_isIdentifier {name : String} (h : IsIdentifier name) : isUsable name = true := by
  have hrest := isNameRest_of_isName (isName_iff.mpr h)
  refine isUsable_iff.mpr ⟨?_, fun hmem => ?_, fun hmem => ?_⟩
  · rintro rfl
    exact absurd h (by decide)
  · exact absurd (hrest _ hmem) (by decide)
  · exact absurd (hrest _ hmem) (by decide)

theorem isUsable_of_ofExpression {expression : String} {c : Condition} {name : String}
    (h : ofExpression expression = .ok c) (hleft : c.left = .env name) : isUsable name = true := by
  obtain ⟨l, -, -, rfl⟩ := ofExpression_eq_ok_iff_layout.mp h
  refine isUsable_of_isIdentifier ?_
  have hname : l.name = name := by
    rw [Layout.condition, operand] at hleft
    split at hleft <;> cases hleft
    rfl
  exact hname ▸ l.identifier_name

/-- An expression asks the environment for the variable on its left side only. -/
theorem solve_congr {expression : String} {env other : Environment}
    (h : ∀ c name, ofExpression expression = .ok c → c.left = .env name → env name = other name) :
    solve expression env = solve expression other := by
  unfold solve
  cases hread : ofExpression expression with
  | error failure => rfl
  | ok c =>
    have hleft : c.leftText env = c.leftText other := by
      unfold leftText
      cases hc : c.left with
      | literal text => rfl
      | env name => simp only [h c name hread hc]
    simp only [evaluate, hleft]

end Condition

namespace ProcessEnvironment

open Condition

theorem solve_environment (process : ProcessEnvironment) (expression : String) :
    solve expression process.environment = solve expression process.texts.environment :=
  solve_congr fun _ _ hread hleft => get?_of_isUsable (isUsable_of_ofExpression hread hleft) process

/-- After any updates the process environment is the map of what the last update left of each variable,
read as text. Expressions have the same value in the one and in the other, and what they ask for is a name
that a variable can have, so that nothing is found only where nothing is set. No value is found under any
other name, and the value of the map under all that are left. -/
theorem run_behaves_as_map (start : ProcessEnvironment) (updates : List Update) :
    (∀ name, FieldMap.get? (start.run updates).texts name
      = (lastLeft? start updates name).map decodeText) ∧
    (∀ expression, solve expression (start.run updates).environment
      = solve expression (start.run updates).texts.environment) ∧
    (∀ expression c name, ofExpression expression = .ok c → c.left = .env name →
      (name ≠ "" ∧ '=' ∉ name.toList ∧ '\x00' ∉ name.toList) ∧
        ((start.run updates).get? name = none ↔ lastLeft? start updates name = none)) ∧
    ∀ key, ((key = "" ∨ '=' ∈ key.toList ∨ '\x00' ∈ key.toList) →
        (start.run updates).get? key = none) ∧
      (¬ (key = "" ∨ '=' ∈ key.toList ∨ '\x00' ∈ key.toList) →
        (start.run updates).get? key = FieldMap.get? (start.run updates).texts key) := by
  refine ⟨fun name => ?_, solve_environment _, fun expression c name hread hleft => ?_, fun key => ?_⟩
  · rw [get?_texts, get?_run]
  · have husable := isUsable_of_ofExpression hread hleft
    refine ⟨isUsable_iff.mp husable, ?_⟩
    rw [get?_of_isUsable husable, get?_texts, get?_run, Option.map_eq_none_iff]
  · have hunusable : ¬ (key = "" ∨ '=' ∈ key.toList ∨ '\x00' ∈ key.toList) ↔ isUsable key = true := by
      rw [isUsable_iff, not_or, not_or]
    rw [hunusable]
    refine ⟨fun hkey => ?_, fun husable => get?_of_isUsable husable _⟩
    rw [get?, if_neg (mt hunusable.mpr (not_not_intro hkey))]

/-- A value that is no text is read with a replacement, and nothing is found where the last update took the
variable away or where no variable can be. -/
theorem run_behaves_as_map_replaced :
    let process := run FieldMap.empty
      [.set "A" [0x61], .set "B" [0x61], .set "A" [0x62, 0xFF], .unset "B"]
    process.get? "A" = some "b\ufffd" ∧ process.get? "B" = none ∧ process.get? "A=B" = none := by
  intro process
  obtain ⟨htexts, -, -, hget⟩ := run_behaves_as_map FieldMap.empty
    [.set "A" [0x61], .set "B" [0x61], .set "A" [0x62, 0xFF], .unset "B"]
  refine ⟨?_, ?_, (hget "A=B").1 (by decide)⟩
  · have hdecode : decodeText [0x62, 0xFF] = "b\ufffd" := by decide +kernel
    rw [(hget "A").2 (by decide), htexts, ← hdecode]
    rfl
  · rw [(hget "B").2 (by decide), htexts]
    rfl

end ProcessEnvironment

end ConfigKit
