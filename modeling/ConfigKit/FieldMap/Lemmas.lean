-- SUMMARY: Look-up in a field map after insertion and after filtering.
import ConfigKit.FieldMap.Basic

/-!
# Look-up in field maps

What look-up finds after insertion and after filtering, and that the entries of a field map are exactly
what look-up finds.
-/

namespace ConfigKit

namespace Entries

variable {κ ν σ : Type} [Ord κ]

theorem get?_cons_self [Std.ReflOrd κ] (key : κ) (value : ν) (rest : Entries κ ν) :
    get? key ((key, value) :: rest) = some value := by
  simp [get?]

theorem get?_cons_ne [Std.LawfulEqOrd κ] {key other : κ} (h : key ≠ other) (value : ν)
    (rest : Entries κ ν) : get? key ((other, value) :: rest) = get? key rest := by
  simp [get?, Std.LawfulEqCmp.compare_eq_iff_eq, h]

theorem get?_insert [DecidableEq κ] [Std.TransOrd κ] [Std.LawfulEqOrd κ] (key other : κ) (value : ν)
    (entries : Entries κ ν) :
    get? other (entries.insert key value) = if other = key then some value else get? other entries := by
  induction entries with
  | nil =>
    by_cases h : other = key
    · subst h; simp [insert, get?_cons_self]
    · simp [insert, get?_cons_ne h, h]
  | cons head rest ih =>
    obtain ⟨k, v⟩ := head
    simp only [insert]
    split
    · by_cases h : other = key
      · subst h; simp [get?_cons_self]
      · simp [get?_cons_ne h, h]
    · rename_i heq
      obtain rfl := Std.LawfulEqCmp.eq_of_compare heq
      by_cases h : other = key
      · subst h; simp [get?_cons_self]
      · simp [get?_cons_ne h, h]
    · rename_i hgt
      by_cases hk : other = k
      · subst hk
        have hne : other ≠ key := by
          rintro rfl
          simp at hgt
        simp [get?_cons_self, hne]
      · rw [get?_cons_ne hk, ih, get?_cons_ne hk]

theorem mem_of_get? [Std.LawfulEqOrd κ] {key : κ} {value : ν} {entries : Entries κ ν}
    (h : get? key entries = some value) : (key, value) ∈ entries := by
  induction entries with
  | nil => simp [get?] at h
  | cons head rest ih =>
    obtain ⟨k, v⟩ := head
    simp only [get?] at h
    split at h
    · rename_i heq
      obtain rfl := Std.LawfulEqCmp.eq_of_compare heq
      simp_all
    · exact List.mem_cons_of_mem _ (ih h)

theorem Sorted.get?_of_mem [Std.TransOrd κ] [Std.LawfulEqOrd κ] {key : κ} {value : ν}
    {entries : Entries κ ν} (hs : Sorted entries) (h : (key, value) ∈ entries) :
    get? key entries = some value := by
  induction entries with
  | nil => simp at h
  | cons head rest ih =>
    obtain ⟨k, v⟩ := head
    rcases List.mem_cons.mp h with heq | hmem
    · obtain ⟨rfl, rfl⟩ := Prod.mk.inj heq
      exact get?_cons_self _ _ _
    · have hlt : compare k key = .lt := List.rel_of_pairwise_cons hs hmem
      have hne : key ≠ k := by
        rintro rfl
        simp at hlt
      rw [get?_cons_ne hne]
      exact ih hs.of_cons hmem

omit [Ord κ] in
theorem filterWith_fst (test : κ → Bool) (entries : Entries κ ν) :
    (filterWith (fun (_ : Unit) key => (test key, ())) () entries).1
      = entries.filter fun entry => test entry.1 := by
  induction entries with
  | nil => rfl
  | cons head rest ih =>
    obtain ⟨k, v⟩ := head
    simp [filterWith, List.filter_cons, ih]

end Entries

namespace FieldMap

variable {κ ν : Type} [Ord κ]

theorem entries_filterKeys (m : FieldMap κ ν) (test : κ → Bool) :
    (m.filterKeys test).entries = m.entries.filter fun entry => test entry.1 :=
  Entries.filterWith_fst test m.entries

variable [Std.TransOrd κ] [Std.LawfulEqOrd κ]

theorem get?_eq_some_iff {m : FieldMap κ ν} {key : κ} {value : ν} :
    m.get? key = some value ↔ (key, value) ∈ m.entries :=
  ⟨Entries.mem_of_get?, m.sorted.get?_of_mem⟩

theorem get?_insert [DecidableEq κ] (m : FieldMap κ ν) (key other : κ) (value : ν) :
    (m.insert key value).get? other = if other = key then some value else m.get? other :=
  Entries.get?_insert key other value m.entries

theorem get?_filterKeys (m : FieldMap κ ν) (test : κ → Bool) (key : κ) :
    (m.filterKeys test).get? key = if test key then m.get? key else none := by
  ext value
  rw [get?_eq_some_iff, entries_filterKeys, List.mem_filter]
  split
  · rename_i h
    simp [h, get?_eq_some_iff]
  · rename_i h
    simp [h]

end FieldMap

end ConfigKit
