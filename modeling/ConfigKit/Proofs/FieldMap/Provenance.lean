-- SUMMARY: Where the pairs of a family of maps come from after any steps.
import ConfigKit.FieldMap.Family
import ConfigKit.Proofs.FieldMap.LastWins

/-!
# Where pairs come from

What look-up finds after a field or all fields have been copied, and what a step does to a family of maps.
The main result `run_invents_nothing` follows a run of steps: every pair that some map holds at some time
was in a map of the family at the start, and each step changes its target alone, and there only what it is
to change.
-/

namespace ConfigKit

/-! ## Look-up after copying -/

namespace FieldMap

variable {κ ν : Type} [Ord κ] [Std.TransOrd κ] [Std.LawfulEqOrd κ] [DecidableEq κ]

omit [Std.TransOrd κ] [Std.LawfulEqOrd κ] [DecidableEq κ] in
theorem get?_empty (key : κ) : (empty : FieldMap κ ν).get? key = none := rfl

theorem get?_copyField (name key : κ) (source target : FieldMap κ ν) :
    (copyField name source target).2.get? key
      = if key = name then (source.get? name).or (target.get? name) else target.get? key := by
  unfold copyField
  cases hsource : source.get? name with
  | none =>
    by_cases hkey : key = name
    · simp [hkey]
    · simp [hkey]
  | some value => exact get?_insert target name key value

/-- In the overlay a key has its value of the source, and that of the target if the source lacks it. -/
theorem get?_overlay (target source : FieldMap κ ν) (key : κ) :
    (target.overlay source).get? key = (source.get? key).or (target.get? key) :=
  source.sorted.lastWins.get?_insertAll target.entries key

end FieldMap

/-! ## Steps -/

/-- The map that a step changes. -/
def MapStep.target : MapStep → String
  | .copyField _ _ target => target
  | .overlay _ target => target
  | .filterKeys _ target _ => target

namespace MapFamily

variable {family : MapFamily} {step : MapStep} {steps : List MapStep} {key value : String}

/-- A map of the family has the pair. -/
def Holds (family : MapFamily) (key value : String) : Prop :=
  ∃ name fields, FieldMap.get? family name = some fields ∧ fields.get? key = some value

theorem holds_iff : family.Holds key value ↔ ∃ name, (family.map name).get? key = some value := by
  constructor
  · rintro ⟨name, fields, hname, hkey⟩
    exact ⟨name, by rwa [map, hname]⟩
  · rintro ⟨name, hkey⟩
    unfold map at hkey
    cases hname : FieldMap.get? family name with
    | none =>
      rw [hname, Option.getD_none, FieldMap.get?_empty] at hkey
      cases hkey
    | some fields => exact ⟨name, fields, hname, by rwa [hname] at hkey⟩

/-- The target of a step after the step. -/
def outcome (family : MapFamily) : MapStep → TextMap
  | .copyField name source target =>
    (FieldMap.copyField name (family.map source) (family.map target)).2
  | .overlay source target => FieldMap.overlay (family.map target) (family.map source)
  | .filterKeys source _ test => FieldMap.filterKeys (family.map source) test

theorem get?_step (family : MapFamily) (step : MapStep) (name : String) :
    FieldMap.get? (family.step step) name
      = if name = step.target then some (family.outcome step) else FieldMap.get? family name := by
  cases step <;> exact FieldMap.get?_insert family _ name _

theorem map_step_target (family : MapFamily) (step : MapStep) :
    (family.step step).map step.target = family.outcome step := by
  rw [map, get?_step, if_pos rfl, Option.getD_some]

/-- What a step makes of its target, key by key. -/
def Effect (before after : MapFamily) : MapStep → Prop
  | .copyField name source target =>
    (∀ value, (before.map source).get? name = some value →
      (after.map target).get? name = some value) ∧
    ((before.map source).get? name = none → after.map target = before.map target) ∧
    ∀ key, key ≠ name → (after.map target).get? key = (before.map target).get? key
  | .overlay source target => ∀ key,
    (∀ value, (before.map source).get? key = some value →
      (after.map target).get? key = some value) ∧
    ((before.map source).get? key = none →
      (after.map target).get? key = (before.map target).get? key)
  | .filterKeys source target test => ∀ key value,
    (after.map target).get? key = some value ↔
      (before.map source).get? key = some value ∧ test key = true

theorem effect_step (family : MapFamily) (step : MapStep) : Effect family (family.step step) step := by
  have htarget := map_step_target family step
  cases step with
  | copyField name source target =>
    simp only [MapStep.target, outcome] at htarget
    refine ⟨fun value hvalue => ?_, fun hmiss => ?_, fun key hkey => ?_⟩
    · rw [htarget, FieldMap.get?_copyField, if_pos rfl, hvalue, Option.some_or]
    · rw [htarget, FieldMap.copyField, hmiss]
    · rw [htarget, FieldMap.get?_copyField, if_neg hkey]
  | overlay source target =>
    simp only [MapStep.target, outcome] at htarget
    intro key
    rw [htarget, FieldMap.get?_overlay]
    refine ⟨fun value hvalue => ?_, fun hmiss => ?_⟩
    · rw [hvalue, Option.some_or]
    · rw [hmiss, Option.none_or]
  | filterKeys source target test =>
    simp only [MapStep.target, outcome] at htarget
    intro key value
    rw [htarget, FieldMap.get?_filterKeys]
    cases test key <;> simp

/-! ## Pairs -/

/-- A step takes the pairs of its target from the maps that are there. -/
theorem holds_of_outcome (h : (family.outcome step).get? key = some value) : family.Holds key value := by
  rw [holds_iff]
  cases step with
  | copyField name source target =>
    rw [outcome, FieldMap.get?_copyField] at h
    split at h
    · rename_i hkey
      rw [hkey]
      rcases Option.or_eq_some_iff.mp h with hsource | ⟨-, htarget⟩
      · exact ⟨source, hsource⟩
      · exact ⟨target, htarget⟩
    · exact ⟨target, h⟩
  | overlay source target =>
    rw [outcome, FieldMap.get?_overlay] at h
    rcases Option.or_eq_some_iff.mp h with hsource | ⟨-, htarget⟩
    · exact ⟨source, hsource⟩
    · exact ⟨target, htarget⟩
  | filterKeys source target test =>
    rw [outcome, FieldMap.get?_filterKeys] at h
    split at h
    · exact ⟨source, h⟩
    · cases h

theorem holds_of_step (h : (family.step step).Holds key value) : family.Holds key value := by
  obtain ⟨name, fields, hname, hkey⟩ := h
  rw [get?_step] at hname
  split at hname
  · cases hname
    exact holds_of_outcome hkey
  · exact ⟨name, fields, hname, hkey⟩

theorem holds_of_run (h : (family.run steps).Holds key value) : family.Holds key value := by
  induction steps generalizing family with
  | nil => exact h
  | cons step steps ih => exact holds_of_step (ih h)

theorem run_concat (family : MapFamily) (steps : List MapStep) (step : MapStep) :
    family.run (steps ++ [step]) = (family.run steps).step step := by
  rw [run, List.foldl_append]
  rfl

/-- A run of steps moves pairs, and makes none. -/
structure OnlyMoves (family : MapFamily) (steps : List MapStep) : Prop where
  /-- A pair that a map holds at some point of the run was in a map at the start. -/
  provenance : ∀ done rest, steps = done ++ rest → ∀ key value,
    (family.run done).Holds key value → family.Holds key value
  /-- Of all maps a step changes its target only. -/
  elsewhere : ∀ done step rest, steps = done ++ step :: rest → ∀ name, name ≠ step.target →
    FieldMap.get? (family.run (done ++ [step])) name = FieldMap.get? (family.run done) name
  effect : ∀ done step rest, steps = done ++ step :: rest →
    Effect (family.run done) (family.run (done ++ [step])) step

theorem run_invents_nothing (family : MapFamily) (steps : List MapStep) : OnlyMoves family steps where
  provenance done rest _ key value := holds_of_run
  elsewhere done step rest _ name hname := by rw [run_concat, get?_step, if_neg hname]
  effect done step rest _ := by
    rw [run_concat]
    exact effect_step (family.run done) step

end MapFamily

end ConfigKit
