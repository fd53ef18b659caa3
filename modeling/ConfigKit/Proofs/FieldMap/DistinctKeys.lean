-- SUMMARY: Entries make a map without loss just if no key is repeated.
import Mathlib.Data.List.Nodup
import Mathlib.Data.List.Perm.Subperm
import ConfigKit.Proofs.FieldMap.LastWins

/-!
# Entries with distinct keys

A list of entries makes a map with as many entries exactly if no key occurs twice in it, and then the map
holds the entries of the list and no others. Every repetition costs an entry.
-/

namespace ConfigKit

namespace Entries

variable {κ ν : Type} [Ord κ] [Std.TransOrd κ] [Std.LawfulEqOrd κ] {entries map : Entries κ ν}

omit [Std.TransOrd κ] in
theorem Sorted.nodup_keys (h : Sorted entries) : (entries.map (·.1)).Nodup := by
  apply List.pairwise_map.mpr
  apply List.Pairwise.imp _ h
  rintro ⟨key, value⟩ ⟨other, value'⟩ hlt rfl
  simp at hlt

namespace LastWins

theorem perm (h : LastWins entries map) (hkeys : (entries.map (·.1)).Nodup) : map.Perm entries := by
  have hentries : entries.Nodup := List.Nodup.of_map (·.1) hkeys
  refine (List.perm_ext_iff_of_nodup h.sorted.nodup hentries).mpr fun entry => ⟨h.mem, fun hentry => ?_⟩
  obtain ⟨before, after, rfl⟩ := List.append_of_mem hentry
  obtain ⟨key, value⟩ := entry
  rw [List.map_append, List.map_cons] at hkeys
  have hafter : key ∉ after.map (·.1) := (List.nodup_cons.mp (List.Nodup.of_append_right hkeys)).1
  exact mem_of_get? (h.get?_last before key value after rfl hafter)

/-- The map has fewer entries than the list exactly if a key occurs twice in the list. -/
theorem length_lt_iff (h : LastWins entries map) :
    map.length < entries.length ↔ ¬ (entries.map (·.1)).Nodup := by
  constructor
  · intro hlt hkeys
    exact Nat.ne_of_lt hlt (h.perm hkeys).length_eq
  · intro hkeys
    have hsub : (map.map (·.1)).Subperm (entries.map (·.1)) :=
      List.subperm_of_subset h.sorted.nodup_keys fun key hkey => (h.same_keys key).mp hkey
    apply Nat.lt_of_not_le
    intro hle
    have hperm := hsub.perm_of_length_le (by simpa using hle)
    exact hkeys (hperm.nodup_iff.mp h.sorted.nodup_keys)

end LastWins

end Entries

end ConfigKit
