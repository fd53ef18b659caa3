-- SUMMARY: Which keys a set holds does not depend on the order of additions.
import ConfigKit.Proofs.KeyedSet.Rebuilding

/-!
# The order of additions

What a run offers to a set is a list of values, each with the function that gives it its key. Two runs that
offer the same, in whatever order and however the values are gathered into one addition or another, end
with sets of the same keys (`final_of_perm`). Which value stands for a key, and where, is up to the order.
-/

namespace ConfigKit

namespace KeyedSet

/-- A value on offer, with the function that gives it its key. -/
structure Offer (κ τ : Type) where
  item : τ
  keyOf : τ → κ

/-- The attempt to add what is on offer. -/
def Offer.attempt {κ τ : Type} (offer : Offer κ τ) : Attempt κ τ :=
  ⟨offer.item, offer.keyOf offer.item⟩

/-- The run attempts to add what is on offer, one after the other. -/
def Run.Makes {κ τ : Type} (r : Run κ τ) (offers : List (Offer κ τ)) : Prop :=
  r.attempts = offers.map Offer.attempt

variable {κ τ : Type}

theorem Run.Makes.uses {r : Run κ τ} {offers : List (Offer κ τ)} {keyOf : τ → κ}
    (h : r.Makes offers) (hkey : ∀ offer ∈ offers, offer.keyOf = keyOf) : r.Uses keyOf := by
  intro attempt hattempt
  rw [h] at hattempt
  obtain ⟨offer, hoffer, rfl⟩ := List.mem_map.mp hattempt
  rw [Offer.attempt, hkey offer hoffer]

variable [DecidableEq κ]

theorem Run.mem_index_final (r : Run κ τ) (key : κ) :
    key ∈ r.final.index ↔ key ∈ r.attempts.map (·.key) :=
  r.follows.mem_index_iff key

/-- The keys of a set do not tell in which order they were attempted. -/
theorem Run.index_final_perm {r r' : Run κ τ} (h : r.attempts.Perm r'.attempts) :
    r.final.index.Perm r'.final.index := by
  refine (List.perm_ext_iff_of_nodup r.final.nodup r'.final.nodup).mpr fun key => ?_
  rw [r.mem_index_final, r'.mem_index_final]
  exact (h.map (·.key)).mem_iff

/-- Two runs that offer the same values with the same key functions, in any order and in any grouping, end
with sets of the same size, which contain the same keys and hold the same index but for its order. Under
one key function the values of the two sets have the same keys, each as often in the one as in the other. -/
theorem final_of_perm {r r' : Run κ τ} {offers offers' : List (Offer κ τ)} (hr : r.Makes offers)
    (hr' : r'.Makes offers') (hperm : offers.Perm offers') :
    r.final.size = r'.final.size ∧
    (∀ key, r.final.contains key = r'.final.contains key) ∧
    r.final.index.Perm r'.final.index ∧
    ∀ keyOf, (∀ offer ∈ offers, offer.keyOf = keyOf) →
      (r.final.values.map keyOf).Perm (r'.final.values.map keyOf) := by
  have hattempts : r.attempts.Perm r'.attempts := by
    rw [hr, hr']
    exact hperm.map Offer.attempt
  have hindex := Run.index_final_perm hattempts
  refine ⟨?_, fun key => ?_, hindex, fun keyOf hkey => ?_⟩
  · rw [← r.follows.length_index, ← r'.follows.length_index]
    exact hindex.length_eq
  · exact hindex.contains_eq
  · have hkey' : ∀ offer ∈ offers', offer.keyOf = keyOf :=
      fun offer hoffer => hkey offer (hperm.mem_iff.mpr hoffer)
    rw [← (hr.uses hkey).index_final, ← (hr'.uses hkey').index_final]
    exact hindex

/-- Three numbers by their last digit, all at once and in two parts: the sets agree on the digits, and each
keeps the number that came first. -/
theorem final_of_perm_digits :
    let digit (n : Nat) : Nat := n % 10
    let whole : Run Nat Nat := ⟨.keyed (fun (_ : Unit) n => (digit n, ())) () [13, 7, 3], []⟩
    let parts : Run Nat Nat :=
      ⟨.empty, [.add 3 digit, .addAll (fun (_ : Unit) n => (digit n, ())) () [13, 7]]⟩
    (whole.final.size = parts.final.size ∧
      (∀ key, whole.final.contains key = parts.final.contains key) ∧
      (whole.final.values.map digit).Perm (parts.final.values.map digit)) ∧
    whole.final.values = [13, 7] ∧ parts.final.values = [3, 7] := by
  intro digit whole parts
  let offer (n : Nat) : Offer Nat Nat := ⟨n, digit⟩
  have hwhole : whole.Makes ([offer 13, offer 7] ++ [offer 3]) := rfl
  have hparts : parts.Makes ([offer 3] ++ [offer 13, offer 7]) := rfl
  obtain ⟨hsize, hcontains, -, hkeys⟩ := final_of_perm hwhole hparts List.perm_append_comm
  exact ⟨⟨hsize, hcontains, hkeys digit (by simp [offer])⟩, rfl, rfl⟩

end KeyedSet

end ConfigKit
