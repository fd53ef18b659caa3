-- SUMMARY: The effect of storing a file at a path, links on the way included.
import ConfigKit.FileTree.System
import ConfigKit.Proofs.FileTree.Steps

/-!
# Storing files

What storing a file does to the tree, whatever links there are on the way. A file that is stored is found
and read at its path afterwards, and every other entry is as it was (`stored_of_store`).
-/

namespace ConfigKit

namespace FileTree

open ConfigKit.Path

variable {tree later : FileTree} {mode : Mode} {links : Nat} {current location : Location}
  {steps : List Path.Step} {place : Place} {path : String} {bytes : Bytes}

theorem hasRoom_of_file {content : Bytes} (h : tree.node? location = some (.file content)) :
    tree.hasRoom location = true := by
  have hnil : location ≠ [] := by
    rintro rfl
    cases h
  rw [node?_of_ne_nil hnil] at h
  obtain ⟨name, hlast, hordinary, hparent⟩ := tree.inDirectory location _ h
  have hparent : tree.node? location.dropLast = some .directory := hparent
  rw [← node?_of_ne_nil hnil] at h
  simp [hasRoom, hlast, hordinary, hparent, h]

/-- A file can be stored where the walk ends. -/
def Place.Open (location : Location) (place : Place) : Prop :=
  place = .vacant location ∨ ∃ content, place = .found location (.file content)

theorem Place.Open.hasRoom (hopen : place.Open location) (hin : place.In tree) :
    tree.hasRoom location = true := by
  rcases hopen with rfl | ⟨content, rfl⟩
  · exact hin.1
  · exact hasRoom_of_file hin

/-- Before its end a walk meets directories and links only, so once the file is there a walk leads to it. -/
theorem walk_stored (hnode : ∀ other, later.node? other
      = if other = location then some (.file bytes) else tree.node? other)
    (hopen : place.Open location) (hin : place.In tree)
    (hwalk : tree.walk .create links current steps = .ok place) :
    later.walk .follow links current steps = .ok (.found location (.file bytes)) := by
  have hfile : later.node? location = some (.file bytes) := by rw [hnode, if_pos rfl]
  have hbefore (other : Location) (node : Node) (hother : tree.node? other = some node)
      (hmet : ∀ content, node ≠ .file content) : later.node? other = some node := by
    rw [hnode, if_neg, hother]
    rintro rfl
    rcases hopen with rfl | ⟨content, rfl⟩
    · simp [Place.In, hother] at hin
    · obtain rfl : node = .file content := by simpa [Place.In, hother] using hin
      exact hmet content rfl
  fun_induction walk tree .create links current steps with
  | case1 =>
    cases hwalk
    rcases hopen with hopen | ⟨content, hopen⟩ <;> cases hopen
  | case2 links current rest ih | case3 links current rest ih | case4 links current rest ih
  | case5 links current rest ih => rw [walk, ih hwalk]
  | case6 => cases hwalk
  | case7 => cases hwalk
  | case8 links current name hshort hnone hcreate =>
    cases hwalk
    rcases hopen with hopen | ⟨content, hopen⟩ <;> cases hopen
    exact walk_file (by simp) hshort hfile
  | case9 => cases hwalk
  | case10 links current name rest hcreate hshort hdirectory ih =>
    rw [walk_directory (by simp) hshort (hbefore _ _ hdirectory (by simp))]
    exact ih hwalk
  | case11 links current name hshort content hfound hcreate =>
    cases hwalk
    rcases hopen with hopen | ⟨content, hopen⟩ <;> cases hopen
    exact walk_file (by simp) hshort hfile
  | case12 => cases hwalk
  | case13 links current name rest hcreate hshort target hlink hend => cases hend.1
  | case14 => cases hwalk
  | case15 => cases hwalk
  | case16 current name rest hcreate hshort target hlink hend links steps htarget ih =>
    rw [walk_link (by simp) hshort (hbefore _ _ hlink (by simp)) (by simp), htarget]
    exact ih hwalk

/-- What storing a file leaves: the file at the path, and every other entry as it was. -/
structure Stored (tree later : FileTree) (path : String) (bytes : Bytes) : Prop where
  load : later.load path = .ok bytes
  elsewhere : ∃ location, later.find .follow path = .ok (location, .file bytes) ∧
    ∀ other, other ≠ location → later.node? other = tree.node? other

theorem exists_open_of_store (h : tree.store path bytes = .ok later) :
    ∃ place location, tree.locate .create path = .ok place ∧ place.Open location ∧
      later = tree.place location (.file bytes) := by
  unfold store at h
  cases hlocate : tree.locate .create path with
  | error error =>
    rw [hlocate] at h
    cases h
  | ok place =>
    rw [hlocate] at h
    cases place with
    | vacant location =>
      cases h
      exact ⟨_, location, rfl, .inl rfl, rfl⟩
    | found location node =>
      cases node with
      | file content =>
        cases h
        exact ⟨_, location, rfl, .inr ⟨content, rfl⟩, rfl⟩
      | directory => cases h
      | link target => cases h

/-- A file is stored wherever the path leads to a file or to room for one. -/
theorem exists_store_iff :
    (∃ later, tree.store path bytes = .ok later) ↔
      ∃ place location, tree.locate .create path = .ok place ∧ place.Open location := by
  constructor
  · rintro ⟨later, h⟩
    obtain ⟨place, location, hlocate, hopen, -⟩ := exists_open_of_store h
    exact ⟨place, location, hlocate, hopen⟩
  · rintro ⟨place, location, hlocate, rfl | ⟨content, rfl⟩⟩
    · exact ⟨_, by rw [store, hlocate]⟩
    · exact ⟨_, by rw [store, hlocate]⟩

/-- Storing a file goes where the path leads to a file, or to a place where nothing is. -/
def Receives (tree : FileTree) (path : String) (location : Location) : Prop :=
  (∃ content, tree.find .follow path = .ok (location, .file content)) ∨
    tree.find .follow path = .error .notFound ∧ tree.node? location = none

theorem receives_of_locate (hlocate : tree.locate .create path = .ok place) (hopen : place.Open location)
    (hin : place.In tree) : tree.Receives path location := by
  have hfollow := locate_follow_of_create hlocate
  rcases hopen with rfl | ⟨content, rfl⟩
  · exact .inr ⟨by simp [find, hfollow], hin.2⟩
  · exact .inl ⟨content, by simp [find, hfollow]⟩

theorem exists_place_of_store (h : tree.store path bytes = .ok later) :
    ∃ location, tree.Receives path location ∧ later.find .follow path = .ok (location, .file bytes) ∧
      ∀ other, other ≠ location → later.node? other = tree.node? other := by
  obtain ⟨place, location, hlocate, hopen, rfl⟩ := exists_open_of_store h
  obtain ⟨steps, hsteps, hresolve⟩ := locate_eq_ok_iff_resolve.mp hlocate
  have hin := resolve_in (ordinary_of_steps hsteps) hresolve
  have hnode := node?_place (hopen.hasRoom hin) (.file bytes)
  refine ⟨location, receives_of_locate hlocate hopen hin, ?_, fun other hother => ?_⟩
  · refine find_eq_ok_iff.mpr ⟨steps, hsteps, ?_⟩
    obtain ⟨start, hstart, hwalk⟩ := resolve_eq_ok_iff.mp hresolve
    refine resolve_eq_ok_iff.mpr ⟨start, ?_, walk_stored hnode hopen hin hwalk⟩
    rw [← hstart, start?, start?, working?_place]
  · rw [hnode, if_neg hother]

theorem stored_of_store (h : tree.store path bytes = .ok later) : tree.Stored later path bytes := by
  obtain ⟨location, -, hfind, hother⟩ := exists_place_of_store h
  exact
    { load := by simp [load, hfind]
      elsewhere := ⟨location, hfind, hother⟩ }

end FileTree

end ConfigKit
