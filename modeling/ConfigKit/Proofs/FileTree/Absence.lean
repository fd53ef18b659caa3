-- SUMMARY: A removed path leads nowhere.
import ConfigKit.Proofs.FileTree.Removal
import ConfigKit.Proofs.FileTree.Steps

/-!
# Paths after a removal

Once what a path stays at has been removed, the path leads nowhere, with links followed or without
(`find_ne_ok_of_removeTree`). This holds for every path, also for one that leads through the content that
was removed.
-/

namespace ConfigKit

namespace FileTree

open ConfigKit.Path

variable {tree later : FileTree} {mode : Mode} {links : Nat} {current goal location : Location}
  {steps tail : List Path.Step} {node : Node} {path : String}

/-- A walk that ends at an entry goes the same way in a tree that has grown. -/
theorem Grows.walk (h : tree.Grows later)
    (hwalk : tree.walk mode links current steps = .ok (.found goal node)) :
    later.walk mode links current steps = .ok (.found goal node) := by
  fun_induction FileTree.walk tree mode links current steps with
  | case1 => simpa [FileTree.walk] using hwalk
  | case2 links current rest ih | case3 links current rest ih | case4 links current rest ih
  | case5 links current rest ih => rw [FileTree.walk, ih hwalk]
  | case6 => cases hwalk
  | case7 => cases hwalk
  | case8 => cases hwalk
  | case9 => cases hwalk
  | case10 links current name rest hcreate hshort hnode ih =>
    rw [walk_directory hcreate hshort (h.node?_eq_some _ _ hnode)]
    exact ih hwalk
  | case11 links current name hshort content hnode hcreate =>
    rw [walk_file hcreate hshort (h.node?_eq_some _ _ hnode)]
    exact hwalk
  | case12 => cases hwalk
  | case13 links current name rest hcreate hshort target hnode hend =>
    rw [walk_link_end hcreate hshort (h.node?_eq_some _ _ hnode) hend]
    exact hwalk
  | case14 => cases hwalk
  | case15 => cases hwalk
  | case16 current name rest hcreate hshort target hnode hend links steps htarget ih =>
    rw [walk_link hcreate hshort (h.node?_eq_some _ _ hnode) hend, htarget]
    exact ih hwalk

theorem Grows.resolve (h : tree.Grows later)
    (hresolve : tree.resolve mode steps = .ok (.found goal node)) :
    later.resolve mode steps = .ok (.found goal node) := by
  obtain ⟨start, hstart, hwalk⟩ := resolve_eq_ok_iff.mp hresolve
  exact resolve_eq_ok_iff.mpr ⟨start, h.start? hstart, h.walk hwalk⟩

/-! ## Removals -/

theorem ne_nil_of_walk_stay {front : List Path.Step} {name : String}
    (hwalk : tree.walk .stay links current (front ++ [.name name]) = .ok (.found location node)) :
    location ≠ [] := by
  rw [walk_append .stay (by simp) (by simp)] at hwalk
  cases hreach : tree.approach links current front with
  | error error =>
    rw [hreach] at hwalk
    cases hwalk
  | ok reached =>
    simp only [hreach, Except.bind, walk_stay_name] at hwalk
    split at hwalk <;> try cases hwalk
    split at hwalk <;> cases hwalk
    simp

theorem ne_nil_of_resolve_stay {front : List Path.Step} {name : String}
    (h : tree.resolve .stay (front ++ [.name name]) = .ok (.found location node)) : location ≠ [] := by
  obtain ⟨start, -, hwalk⟩ := resolve_eq_ok_iff.mp h
  exact ne_nil_of_walk_stay hwalk

/-- A directory that is removed is found under the name of the last move. -/
theorem removeDirectory_ok {list moves : List Path.Step} (hsteps : Path.steps path = .ok list)
    (hmoves : Moves list moves) (h : tree.removeDirectory path = .ok later) :
    ∃ location, tree.resolve .stay moves = .ok (.found location .directory) ∧
      location ≠ [] ∧ later = tree.erase location := by
  unfold removeDirectory at h
  simp only [hsteps, hmoves.trimmed_eq] at h
  cases hresolve : tree.resolve .stay moves with
  | error error => simp [hresolve] at h
  | ok place =>
    cases place with
    | vacant location => simp [hresolve] at h
    | found location node =>
      simp only [hresolve] at h
      split at h <;> try cases h
      split at h <;> try cases h
      split at h <;> try cases h
      split at h <;> try cases h
      split at h <;> try cases h
      rename_i hhere hup hroot hnode _
      obtain rfl : node = .directory := by simpa using hnode
      refine ⟨location, rfl, ?_, rfl⟩
      obtain ⟨front, last, rfl⟩ := List.eq_nil_or_concat' moves |>.resolve_left hmoves.ne_nil
      cases last with
      | here => simp at hhere
      | up => simp at hup
      | root => simp at hroot
      | slash => exact absurd (by simp) hmoves.slash_not_mem
      | name name => exact ne_nil_of_resolve_stay hresolve

/-- Where a walk that stays finds something, there is a directory to remove, or a reason not to. -/
theorem removeDirectory_ne_notFound {list moves : List Path.Step} (hsteps : Path.steps path = .ok list)
    (hmoves : Moves list moves)
    (hresolve : tree.resolve .stay moves = .ok (.found location node)) :
    tree.removeDirectory path ≠ .error .notFound := by
  unfold removeDirectory
  simp only [hsteps, hmoves.trimmed_eq, hresolve]
  repeat' split
  all_goals simp

theorem exists_resolve_moves {list moves : List Path.Step} (hmoves : Moves list moves)
    (hmode : mode ≠ .create) (h : tree.resolve mode list = .ok (.found goal node)) :
    ∃ place other, tree.resolve .stay moves = .ok (.found place other) := by
  obtain ⟨tail, rfl⟩ := hmoves.front
  exact exists_resolve_stay hmode (start?_append hmoves.ne_nil) h

/-- What is erased is not found again. -/
theorem resolve_erase_ne_ok (hordinary : Ordinary steps) (hroot : location ≠ [])
    (hresolve : tree.resolve .stay steps = .ok (.found location node)) (place : Location)
    (other : Node) :
    (tree.erase location).resolve .stay steps ≠ .ok (.found place other) := by
  intro hlater
  have hsame := (erase_grows tree location).resolve hlater
  rw [hresolve] at hsame
  cases hsame
  have hnode : (tree.erase location).node? location = some node := resolve_in hordinary hlater
  rw [node?_erase hroot, if_pos List.prefix_rfl] at hnode
  cases hnode

/-- A removal takes away a link, or empties a directory and then removes it, unless it is gone by then. -/
theorem removeTree_ok (hok : (tree.removeTree path).1 = .ok ()) :
    ∃ location,
      (∃ target, tree.find .stay path = .ok (location, .link target) ∧
        (tree.removeTree path).2 = tree.erase location) ∨
      tree.find .stay path = .ok (location, .directory) ∧
        ((tree.clear location).removeDirectory path = .ok (tree.removeTree path).2 ∨
          (tree.clear location).removeDirectory path = .error .notFound ∧
            (tree.removeTree path).2 = tree.clear location) := by
  unfold removeTree at hok ⊢
  cases hfind : tree.find .stay path with
  | error error =>
    rw [hfind] at hok
    cases hok
  | ok found =>
    obtain ⟨location, node⟩ := found
    refine ⟨location, ?_⟩
    rw [hfind] at hok
    cases node with
    | file content => cases hok
    | link target => exact .inl ⟨target, rfl, rfl⟩
    | directory =>
      refine .inr ⟨rfl, ?_⟩
      simp only at hok ⊢
      cases hremoved : (tree.clear location).removeDirectory path with
      | ok later => exact .inl rfl
      | error error =>
        rw [hremoved] at hok
        cases error with
        | notFound => exact .inr ⟨rfl, rfl⟩
        | _ => cases hok

/-- After a removal the path leads nowhere. -/
theorem find_ne_ok_of_removeTree (hmode : mode ≠ .create) (hok : (tree.removeTree path).1 = .ok ())
    (goal : Location) (node : Node) : (tree.removeTree path).2.find mode path ≠ .ok (goal, node) := by
  intro hlater
  obtain ⟨list, hsteps, hfound⟩ := find_eq_ok_iff.mp hlater
  obtain ⟨moves, hmoves⟩ := exists_moves_of_steps hsteps
  obtain ⟨location, ⟨target, hfind, htree⟩ | ⟨hfind, hremoved | ⟨hmissing, htree⟩⟩⟩ := removeTree_ok hok
  · obtain ⟨_, hsteps', hresolve⟩ := find_eq_ok_iff.mp hfind
    rw [hsteps] at hsteps'
    cases hsteps'
    have hroot : location ≠ [] := by
      rintro rfl
      cases resolve_in hmoves.ordinary_list hresolve
    obtain ⟨place, other, hstay⟩ := exists_find_stay hmode hlater
    obtain ⟨_, hsteps', hstay⟩ := find_eq_ok_iff.mp hstay
    rw [hsteps] at hsteps'
    cases hsteps'
    rw [htree] at hstay
    exact resolve_erase_ne_ok hmoves.ordinary_list hroot hresolve place other hstay
  · obtain ⟨root, hresolve, hroot, htree⟩ := removeDirectory_ok hsteps hmoves hremoved
    obtain ⟨place, other, hstay⟩ := exists_resolve_moves hmoves hmode hfound
    rw [htree] at hstay
    exact resolve_erase_ne_ok hmoves.ordinary hroot hresolve place other hstay
  · obtain ⟨place, other, hstay⟩ := exists_resolve_moves hmoves hmode hfound
    rw [htree] at hstay
    exact removeDirectory_ne_notFound hsteps hmoves hstay hmissing

end FileTree

end ConfigKit
