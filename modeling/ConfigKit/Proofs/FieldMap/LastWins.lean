-- SUMMARY: Insertion in order makes the map in which the last entry of each key counts.
import ConfigKit.FieldMap.Lemmas

/-!
# The later entry counts

Entries with repeated keys make a finite map in which the last entry of each key counts. `LastWins` says
so of a list and a map; insertion in order makes the one map of which it holds.
-/

namespace ConfigKit

namespace Entries

variable {κ ν : Type} [Ord κ]

/-! ## Keys and look-up -/

omit [Ord κ] in
/-- Of the entries with a key that occurs there is a last one. -/
theorem exists_last_of_mem_keys {key : κ} {entries : Entries κ ν} (h : key ∈ entries.map (·.1)) :
    ∃ before value after, entries = before ++ (key, value) :: after ∧ key ∉ after.map (·.1) := by
  induction entries with
  | nil => simp at h
  | cons head rest ih =>
    by_cases hrest : key ∈ rest.map (·.1)
    · obtain ⟨before, value, after, rfl, hafter⟩ := ih hrest
      exact ⟨head :: before, value, after, rfl, hafter⟩
    · obtain ⟨k, v⟩ := head
      rw [List.map_cons, List.mem_cons] at h
      obtain rfl : key = k := h.resolve_right hrest
      exact ⟨[], v, rest, rfl, hrest⟩

variable [Std.LawfulEqOrd κ]

theorem mem_keys_iff [DecidableEq κ] (key : κ) (entries : Entries κ ν) :
    key ∈ entries.map (·.1) ↔ (get? key entries).isSome = true := by
  induction entries with
  | nil => simp [get?]
  | cons head rest ih =>
    obtain ⟨k, v⟩ := head
    by_cases h : key = k
    · subst h
      simp [get?_cons_self]
    · rw [List.map_cons, List.mem_cons, ih, get?_cons_ne h]
      exact or_iff_right h

theorem Sorted.nodup {entries : Entries κ ν} (h : Sorted entries) : entries.Nodup := by
  refine List.Pairwise.imp (fun hlt => ?_) h
  rintro rfl
  simp at hlt

variable [Std.TransOrd κ]

theorem Sorted.mem_iff_get? {entries : Entries κ ν} (h : Sorted entries) (entry : κ × ν) :
    entry ∈ entries ↔ get? entry.1 entries = some entry.2 :=
  ⟨h.get?_of_mem, mem_of_get?⟩

/-- Entries in order are determined by what look-up finds. -/
theorem Sorted.ext {entries others : Entries κ ν} (hentries : Sorted entries) (hothers : Sorted others)
    (h : ∀ key, get? key entries = get? key others) : entries = others := by
  have hperm : entries.Perm others := by
    refine (List.perm_ext_iff_of_nodup hentries.nodup hothers.nodup).mpr fun entry => ?_
    rw [hentries.mem_iff_get?, hothers.mem_iff_get?, h]
  refine hperm.eq_of_pairwise (fun a b _ _ hab hba => ?_) hentries hothers
  rw [Std.OrientedCmp.gt_of_lt hab] at hba
  cases hba

/-! ## Insertion in order -/

omit [Std.LawfulEqOrd κ] [Std.TransOrd κ] in
theorem insertAll_append (entries more others : Entries κ ν) :
    insertAll entries (more ++ others) = insertAll (insertAll entries more) others :=
  List.foldl_append

variable [DecidableEq κ]

theorem mem_keys_insert (key other : κ) (value : ν) (entries : Entries κ ν) :
    other ∈ (insert key value entries).map (·.1) ↔ other = key ∨ other ∈ entries.map (·.1) := by
  rw [mem_keys_iff, mem_keys_iff, get?_insert]
  by_cases h : other = key
  · simp [h]
  · simp [h]

theorem mem_keys_insertAll (key : κ) (entries more : Entries κ ν) :
    key ∈ (insertAll entries more).map (·.1) ↔
      key ∈ entries.map (·.1) ∨ key ∈ more.map (·.1) := by
  induction more generalizing entries with
  | nil => simp [insertAll]
  | cons entry more ih =>
    have hinsert := ih (insert entry.1 entry.2 entries)
    rw [mem_keys_insert, or_comm (a := key = entry.1), or_assoc] at hinsert
    simpa [insertAll] using hinsert

theorem get?_insertAll_of_not_mem {key : κ} {more : Entries κ ν} (h : key ∉ more.map (·.1))
    (entries : Entries κ ν) : get? key (insertAll entries more) = get? key entries := by
  induction more generalizing entries with
  | nil => rfl
  | cons entry more ih =>
    rw [List.map_cons, List.mem_cons, not_or] at h
    calc get? key (insertAll (insert entry.1 entry.2 entries) more)
        = get? key (insert entry.1 entry.2 entries) := ih h.2 _
      _ = get? key entries := by rw [get?_insert, if_neg h.1]

theorem get?_insertAll_last {key : κ} {after : Entries κ ν} (h : key ∉ after.map (·.1))
    (entries before : Entries κ ν) (value : ν) :
    get? key (insertAll entries (before ++ (key, value) :: after)) = some value := by
  rw [insertAll_append]
  calc get? key (insertAll (insert key value (insertAll entries before)) after)
      = get? key (insert key value (insertAll entries before)) := get?_insertAll_of_not_mem h _
    _ = some value := by rw [get?_insert, if_pos rfl]

/-- The map of a list of entries: its keys are those of the list, and each has the value of its last
entry. -/
structure LastWins (entries map : Entries κ ν) : Prop where
  sorted : Sorted map
  same_keys : ∀ key, key ∈ map.map (·.1) ↔ key ∈ entries.map (·.1)
  get?_last : ∀ before key value after, entries = before ++ (key, value) :: after →
    key ∉ after.map (·.1) → get? key map = some value

theorem lastWins_insertAll (entries : Entries κ ν) : LastWins entries (insertAll [] entries) where
  sorted := Sorted.insertAll List.Pairwise.nil entries
  same_keys key := by simp [mem_keys_insertAll]
  get?_last before key value after heq h := by rw [heq, get?_insertAll_last h]

/-- After insertion a key of the list has its last value there, and any other key what it had. -/
theorem LastWins.get?_insertAll {entries map : Entries κ ν} (h : LastWins entries map)
    (base : Entries κ ν) (key : κ) :
    get? key (insertAll base entries) = (get? key map).or (get? key base) := by
  by_cases hkey : key ∈ entries.map (·.1)
  · obtain ⟨before, value, after, rfl, hafter⟩ := exists_last_of_mem_keys hkey
    rw [get?_insertAll_last hafter, h.get?_last before key value after rfl hafter, Option.some_or]
  · have hmap := mt (h.same_keys key).mp hkey
    rw [mem_keys_iff, Option.not_isSome_iff_eq_none] at hmap
    rw [get?_insertAll_of_not_mem hkey, hmap, Option.none_or]

theorem LastWins.unique {entries map other : Entries κ ν} (hmap : LastWins entries map)
    (hother : LastWins entries other) : map = other := by
  refine hmap.sorted.ext hother.sorted fun key => ?_
  calc get? key map
      = get? key (insertAll [] entries) := by rw [hmap.get?_insertAll, get?, Option.or_none]
    _ = get? key other := by rw [hother.get?_insertAll, get?, Option.or_none]

omit [DecidableEq κ] in
/-- Entries in order are a map of themselves in any other order. -/
theorem Sorted.lastWins_of_perm {entries map : Entries κ ν} (h : Sorted map)
    (hperm : entries.Perm map) : LastWins entries map where
  sorted := h
  same_keys _ := (hperm.map (·.1)).mem_iff.symm
  get?_last before key value after heq _ := by
    have hmem : (key, value) ∈ entries := by simp [heq]
    exact h.get?_of_mem (hperm.mem_iff.mp hmem)

omit [DecidableEq κ] in
/-- Entries in order are a map of themselves: no key occurs twice. -/
theorem Sorted.lastWins {entries : Entries κ ν} (h : Sorted entries) : LastWins entries entries :=
  h.lastWins_of_perm (List.Perm.refl entries)

omit [DecidableEq κ] in
/-- The map holds nothing but entries of the list. -/
theorem LastWins.mem {entries map : Entries κ ν} (h : LastWins entries map) {entry : κ × ν}
    (hentry : entry ∈ map) : entry ∈ entries := by
  have hkey := (h.same_keys entry.1).mp (List.mem_map_of_mem hentry)
  obtain ⟨before, value, after, rfl, hafter⟩ := exists_last_of_mem_keys hkey
  have hlast := h.get?_last before entry.1 value after rfl hafter
  have hvalue := h.sorted.get?_of_mem hentry
  rw [hlast] at hvalue
  obtain rfl : value = entry.2 := Option.some.inj hvalue
  exact List.mem_append_right before List.mem_cons_self

theorem Sorted.insertAll_nil {entries : Entries κ ν} (h : Sorted entries) :
    Entries.insertAll [] entries = entries :=
  (lastWins_insertAll entries).unique h.lastWins

end Entries

end ConfigKit
