-- SUMMARY: Keyed sets that are built again from their values, under the same or a coarser key function.
import ConfigKit.Proofs.KeyedSet.Construction

/-!
# Building sets from the values of sets

A set that used one key function throughout is built again from its own values, and adding values whose
keys are taken changes no set. A key function is coarser than another if it does not tell apart what the
other takes for the same. Dropping repetitions under a finer key first makes no difference to the set
under the coarser one (`ofListBy_coarser`): of the values with one coarse key the first is also the first
with its fine key, so it is still there.
-/

namespace ConfigKit

namespace KeyedSet

variable {κ ι τ : Type} [DecidableEq κ]

/-! ## Keys that are taken -/

theorem addUnder_of_mem {s : KeyedSet κ τ} {key : κ} (h : key ∈ s.index) (item : τ) :
    s.addUnder key item = (false, s) :=
  dif_pos h

theorem addUnder_of_not_mem {s : KeyedSet κ τ} {key : κ} (h : key ∉ s.index) (item : τ) :
    s.addUnder key item
      = (true, ⟨s.values ++ [item], s.index ++ [key], nodup_index_append h⟩) :=
  dif_neg h

/-- Attempts under keys that are taken change nothing. -/
theorem replay_of_taken {s : KeyedSet κ τ} {log : List (Attempt κ τ)}
    (h : ∀ attempt ∈ log, attempt.key ∈ s.index) : s.replay log = s := by
  induction log with
  | nil => rfl
  | cons attempt log ih =>
    have hfirst : (s.addUnder attempt.key attempt.item).2 = s := by
      rw [addUnder_of_mem (h attempt List.mem_cons_self)]
    rw [replay, List.foldl_cons, hfirst]
    exact ih fun other hother => h other (List.mem_cons_of_mem _ hother)

theorem addAll_of_taken {s : KeyedSet κ τ} {items : List τ} {keyOf : τ → κ}
    (h : ∀ item ∈ items, s.contains (keyOf item) = true) : s.addAll items keyOf = s := by
  rw [addAll_eq_replay]
  refine replay_of_taken fun attempt hattempt => ?_
  obtain ⟨item, hitem, rfl⟩ := List.mem_map.mp hattempt
  exact List.contains_iff_mem.mp (h item hitem)

/-! ## One key function -/

/-- Every attempt of the run was made under the key that one function gives to the value. -/
def Run.Uses {κ τ : Type} (r : Run κ τ) (keyOf : τ → κ) : Prop :=
  ∀ attempt ∈ r.attempts, attempt.key = keyOf attempt.item

theorem mem_of_mem_firsts {log : List (Attempt κ τ)} {attempt : Attempt κ τ}
    (h : attempt ∈ firsts log) : attempt ∈ log := by
  obtain ⟨entry, hentry, rfl⟩ := List.mem_map.mp h
  exact List.fst_mem_of_mem_zipIdx (List.mem_of_mem_filter hentry)

/-- Under one key function the index can be reckoned from the values. -/
theorem Run.Uses.index_final {r : Run κ τ} {keyOf : τ → κ} (h : r.Uses keyOf) :
    r.final.index = r.final.values.map keyOf := by
  rw [r.follows.index_eq, r.follows.values_eq, List.map_map]
  exact List.map_congr_left fun attempt hattempt => h attempt (mem_of_mem_firsts hattempt)

/-- Equal values have equal keys, so no value is there twice. -/
theorem Run.Uses.nodup_values {r : Run κ τ} {keyOf : τ → κ} (h : r.Uses keyOf) : r.final.values.Nodup := by
  have hindex := r.final.nodup
  rw [h.index_final] at hindex
  exact hindex.of_map

theorem Run.exists_attempt_of_mem_values {r : Run κ τ} {value : τ} (h : value ∈ r.final.values) :
    ∃ attempt ∈ r.attempts, attempt.item = value := by
  rw [r.follows.values_eq] at h
  obtain ⟨attempt, hattempt, rfl⟩ := List.mem_map.mp h
  exact ⟨attempt, mem_of_mem_firsts hattempt, rfl⟩

/-- Values with different keys are all kept, in order. -/
theorem ofListBy_of_nodup (items : List τ) (keyOf : τ → κ) (h : (items.map keyOf).Nodup) :
    ofListBy items keyOf = ⟨items, items.map keyOf, h⟩ := by
  induction items using List.reverseRecOn with
  | nil => rfl
  | append_singleton items item ih =>
    have hnew : (items.map keyOf ++ [keyOf item]).Nodup := by simpa using h
    obtain ⟨hitems, -, hfresh⟩ := List.nodup_append.mp hnew
    have hitem : keyOf item ∉ items.map keyOf :=
      fun hmem => hfresh _ hmem _ (List.mem_singleton_self _) rfl
    rw [ofListBy_append_singleton, ih hitems, addUnder_of_not_mem hitem]
    simp

theorem ofList_of_nodup [DecidableEq τ] {items : List τ} (h : items.Nodup) :
    ofList items = ⟨items, items, h⟩ := by
  have hkeys : (items.map id).Nodup := by rwa [List.map_id]
  have hset := ofListBy_of_nodup items id hkeys
  simp only [List.map_id] at hset
  exact hset

/-- A set whose index holds the keys of its values is built again from its values. -/
theorem ofListBy_values {s : KeyedSet κ τ} {keyOf : τ → κ} (h : s.index = s.values.map keyOf) :
    ofListBy s.values keyOf = s := by
  obtain ⟨values, index, hnodup⟩ := s
  obtain rfl : index = values.map keyOf := h
  exact ofListBy_of_nodup values keyOf hnodup

/-! ## Coarser keys -/

variable [DecidableEq ι]

theorem ofListBy_values_ofListBy (items : List τ) {fine : τ → κ} {coarse : τ → ι}
    (h : ∀ a b, fine a = fine b → coarse a = coarse b) :
    ofListBy (ofListBy items fine).values coarse = ofListBy items coarse := by
  induction items using List.reverseRecOn with
  | nil => rfl
  | append_singleton items item ih =>
    rw [ofListBy_append_singleton items item fine, ofListBy_append_singleton items item coarse,
      values_addUnder]
    split
    · -- An earlier value has the same fine key, and so the same coarse key.
      rename_i hfine
      obtain ⟨earlier, hearlier, hkey⟩ := List.mem_map.mp ((mem_index_ofListBy _ _ _).mp hfine)
      have hcoarse : coarse item ∈ (ofListBy items coarse).index :=
        (mem_index_ofListBy _ _ _).mpr (List.mem_map.mpr ⟨earlier, hearlier, h _ _ hkey⟩)
      rw [List.append_nil, ih, addUnder_of_mem hcoarse]
    · rw [ofListBy_append_singleton, ih]

/-- Dropping repetitions under a coarser key gives the same set, whether or not repetitions under a finer
key were dropped before: the same values in the same order, and the same keys. In particular doing it
twice under one key is doing it once; a set that used one key function throughout is built again from its
own values; and adding values whose keys are all taken leaves any set as it is. -/
theorem ofListBy_coarser (items : List τ) (fine : τ → κ) (coarse : τ → ι)
    (h : ∀ a b, fine a = fine b → coarse a = coarse b) :
    (ofListBy (ofListBy items fine).values coarse).values = (ofListBy items coarse).values ∧
    (∀ key, (ofListBy (ofListBy items fine).values coarse).contains key
      = (ofListBy items coarse).contains key) ∧
    ofListBy (ofListBy items fine).values fine = ofListBy items fine ∧
    (∀ r : Run κ τ, r.Uses fine → ofListBy r.final.values fine = r.final) ∧
    ∀ (s : KeyedSet κ τ) (more : List τ),
      (∀ item ∈ more, s.contains (fine item) = true) → s.addAll more fine = s := by
  have hsame := ofListBy_values_ofListBy items h
  refine ⟨by rw [hsame], fun key => by rw [hsame], ?_, ?_, ?_⟩
  · exact ofListBy_values_ofListBy items fun _ _ => id
  · exact fun r hr => ofListBy_values hr.index_final
  · exact fun s more hmore => addAll_of_taken hmore

/-- Numbers by their last digit, after they were kept apart. -/
theorem ofListBy_coarser_digits :
    (ofListBy (ofListBy [13, 3, 13, 7, 23] id).values (· % 10)).values = [13, 7] ∧
      (ofListBy [13, 3, 13, 7, 23] (· % 10)).addAll [33, 17] (· % 10)
        = ofListBy [13, 3, 13, 7, 23] (· % 10) := by
  have hfine := ofListBy_coarser [13, 3, 13, 7, 23] id (· % 10) fun _ _ hkey => congrArg (· % 10) hkey
  have hsame := ofListBy_coarser [13, 3, 13, 7, 23] (· % 10) (· % 10) fun _ _ => id
  exact ⟨hfine.1, hsame.2.2.2.2 _ [33, 17] (by decide)⟩

end KeyedSet

end ConfigKit
