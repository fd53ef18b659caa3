-- SUMMARY: Operations on lists of entries in the order of their keys: look-up, insertion and filtering.
/-!
# Entries in order of their keys

A finite map is the list of its entries, strictly increasing in their keys. This file holds the
operations on such lists: look-up, insertion that replaces, and filtering by key. A list that is not in
order can be looked up as well; the first entry of a key counts.
-/

namespace ConfigKit

/-- The entries of a finite map. -/
abbrev Entries (κ ν : Type) := List (κ × ν)

namespace Entries

variable {κ ν σ : Type} [Ord κ]

/-- The keys increase strictly; in particular no key occurs twice. -/
def Sorted (entries : Entries κ ν) : Prop :=
  entries.Pairwise fun a b => compare a.1 b.1 = .lt

/-- The value of the first entry with this key. -/
def get? (key : κ) : Entries κ ν → Option ν
  | [] => none
  | (k, v) :: rest => if compare key k = .eq then some v else get? key rest

/-- Puts an entry at its place in the order. An entry with the same key gives way. -/
def insert (key : κ) (value : ν) : Entries κ ν → Entries κ ν
  | [] => [(key, value)]
  | (k, v) :: rest =>
    match compare key k with
    | .lt => (key, value) :: (k, v) :: rest
    | .eq => (key, value) :: rest
    | .gt => (k, v) :: insert key value rest

/-- Inserts every entry of the second list into the first, in order. -/
def insertAll (entries more : Entries κ ν) : Entries κ ν :=
  more.foldl (fun done entry => done.insert entry.1 entry.2) entries

/-- The entries whose key passes the test. The test may keep a state; it is asked once for each entry,
in order. -/
def filterWith (test : σ → κ → Bool × σ) (state : σ) : Entries κ ν → Entries κ ν × σ
  | [] => ([], state)
  | (k, v) :: rest =>
    let (kept, state) := test state k
    let (more, state) := filterWith test state rest
    (if kept then (k, v) :: more else more, state)

/-! ## The order is kept -/

theorem mem_insert {key : κ} {value : ν} {entry : κ × ν} {entries : Entries κ ν}
    (h : entry ∈ insert key value entries) : entry = (key, value) ∨ entry ∈ entries := by
  induction entries with
  | nil => simpa [insert] using h
  | cons head rest ih =>
    obtain ⟨k, v⟩ := head
    simp only [insert] at h
    split at h <;> grind

theorem Sorted.insert [Std.TransOrd κ] [Std.LawfulEqOrd κ] {entries : Entries κ ν}
    (h : Sorted entries) (key : κ) (value : ν) : Sorted (entries.insert key value) := by
  induction entries with
  | nil => simp [Entries.insert, Sorted]
  | cons head rest ih =>
    obtain ⟨k, v⟩ := head
    have hrest : Sorted rest := h.of_cons
    have hhead : ∀ entry ∈ rest, compare k entry.1 = .lt :=
      fun _ he => List.rel_of_pairwise_cons h he
    simp only [Entries.insert]
    split
    · rename_i hlt
      refine List.Pairwise.cons (fun entry he => ?_) h
      rcases List.mem_cons.mp he with rfl | he
      · exact hlt
      · exact Std.TransCmp.lt_trans hlt (hhead entry he)
    · rename_i heq
      obtain rfl := Std.LawfulEqCmp.eq_of_compare heq
      exact List.Pairwise.cons hhead hrest
    · rename_i hgt
      refine List.Pairwise.cons (fun entry he => ?_) (ih hrest)
      rcases mem_insert he with rfl | he
      · exact Std.OrientedCmp.lt_of_gt hgt
      · exact hhead entry he

theorem Sorted.insertAll [Std.TransOrd κ] [Std.LawfulEqOrd κ] {entries : Entries κ ν}
    (h : Sorted entries) (more : Entries κ ν) : Sorted (entries.insertAll more) := by
  induction more generalizing entries with
  | nil => exact h
  | cons entry rest ih => exact ih (h.insert entry.1 entry.2)

omit [Ord κ] in
theorem filterWith_sublist (test : σ → κ → Bool × σ) (state : σ) (entries : Entries κ ν) :
    (filterWith test state entries).1.Sublist entries := by
  induction entries generalizing state with
  | nil => exact List.Sublist.refl []
  | cons head rest ih =>
    obtain ⟨k, v⟩ := head
    simp only [filterWith]
    split
    · exact (ih _).cons_cons _
    · exact (ih _).cons _

theorem Sorted.filterWith {entries : Entries κ ν} (h : Sorted entries)
    (test : σ → κ → Bool × σ) (state : σ) : Sorted (entries.filterWith test state).1 :=
  h.sublist (filterWith_sublist test state entries)

end Entries

end ConfigKit
