-- SUMMARY: What the modes of a walk have in common.
import ConfigKit.Proofs.FileTree.Approach

/-!
# Modes of walking

What a walk is for matters only at its end. A walk that finds its end without staying at a link there finds
the same when it follows links (`walk_follow_of_ok`), and along the way to what any walk finds a walk that
stays finds an entry too (`exists_walk_stay`).
-/

namespace ConfigKit

namespace FileTree

variable {tree : FileTree} {mode : Mode} {links : Nat} {current goal location : Location}
  {steps tail : List Path.Step} {place : Place} {node : Node} {path : String}

/-! ## Paths and walks -/

theorem resolve_eq_ok_iff :
    tree.resolve mode steps = .ok place ↔
      ∃ start, tree.start? steps = some start ∧ tree.walk mode maxLinks start steps = .ok place := by
  unfold resolve
  cases tree.start? steps with
  | none => simp
  | some start => simp

theorem locate_eq_ok_iff_resolve :
    tree.locate mode path = .ok place ↔
      ∃ steps, Path.steps path = .ok steps ∧ tree.resolve mode steps = .ok place := by
  unfold locate
  cases Path.steps path with
  | error error => simp
  | ok steps => simp

theorem find_eq_ok_iff_locate :
    tree.find mode path = .ok (location, node) ↔ tree.locate mode path = .ok (.found location node) := by
  unfold find
  cases tree.locate mode path with
  | error error => simp
  | ok place => cases place <;> simp

theorem find_eq_ok_iff :
    tree.find mode path = .ok (location, node) ↔
      ∃ steps, Path.steps path = .ok steps ∧
        tree.resolve mode steps = .ok (.found location node) :=
  find_eq_ok_iff_locate.trans locate_eq_ok_iff_resolve

/-! ## Following links -/

/-- Following links at the end makes a difference only to a walk that stays at one. -/
theorem walk_follow_of_ok (hwalk : tree.walk mode links current steps = .ok place)
    (hplace : mode = .stay → ∀ location target, place ≠ .found location (.link target)) :
    tree.walk .follow links current steps = .ok place := by
  fun_induction FileTree.walk tree mode links current steps with
  | case1 => rwa [walk]
  | case2 links current rest ih | case3 links current rest ih | case4 links current rest ih
  | case5 links current rest ih =>
    rw [walk, ih hwalk]
  | case8 links current name hshort hnode hcreate =>
    rw [walk_none (by simp) hshort hnode]
    exact hwalk
  | case10 links current name rest hcreate hshort hnode ih =>
    rw [walk_directory (by simp) hshort hnode]
    exact ih hwalk
  | case11 links current name hshort content hnode hcreate =>
    rw [walk_file (by simp) hshort hnode]
    exact hwalk
  | case13 links current name rest hcreate hshort target hnode hend =>
    cases hwalk
    exact absurd rfl (hplace hend.1 _ target)
  | case16 current name rest hcreate hshort target hnode hend links steps htarget ih =>
    rw [walk_link (by simp) hshort hnode (by simp), htarget]
    exact ih hwalk
  | case6 | case7 | case9 | case12 | case14 | case15 => cases hwalk

theorem resolve_follow_of_ok (h : tree.resolve mode steps = .ok place)
    (hplace : mode = .stay → ∀ location target, place ≠ .found location (.link target)) :
    tree.resolve .follow steps = .ok place := by
  obtain ⟨start, hstart, hwalk⟩ := resolve_eq_ok_iff.mp h
  exact resolve_eq_ok_iff.mpr ⟨start, hstart, walk_follow_of_ok hwalk hplace⟩

theorem locate_follow_of_create (h : tree.locate .create path = .ok place) :
    tree.locate .follow path = .ok place := by
  obtain ⟨steps, hsteps, hresolve⟩ := locate_eq_ok_iff_resolve.mp h
  exact locate_eq_ok_iff_resolve.mpr ⟨steps, hsteps, resolve_follow_of_ok hresolve (by simp)⟩

theorem find_follow_of_stay (h : tree.find .stay path = .ok (location, node))
    (hnode : ∀ target, node ≠ .link target) : tree.find .follow path = .ok (location, node) := by
  obtain ⟨steps, hsteps, hresolve⟩ := find_eq_ok_iff.mp h
  refine find_eq_ok_iff.mpr ⟨steps, hsteps, resolve_follow_of_ok hresolve fun _ _ target hlink => ?_⟩
  cases hlink
  exact hnode target rfl

/-! ## Staying -/

/-- Along the way to an entry a walk that stays finds an entry as well: each step before the last one leads
to a directory or to a link. -/
theorem exists_walk_stay (hmode : mode ≠ .create)
    (hwalk : tree.walk mode links current (steps ++ tail) = .ok (.found goal node)) :
    ∃ place other, tree.walk .stay links current steps = .ok (.found place other) := by
  fun_induction FileTree.walk tree .stay links current steps with
  | case1 links current => exact ⟨current, .directory, rfl⟩
  | case2 links current rest ih | case3 links current rest ih | case4 links current rest ih
  | case5 links current rest ih => exact ih (by rwa [List.cons_append, walk] at hwalk)
  | case6 links current name rest hcreate => cases hcreate.1
  | case7 links current name rest hcreate hlong =>
    simp [walk, hmode, hlong] at hwalk
  | case8 links current name hshort hnode hcreate =>
    rw [List.cons_append, walk_none (fun h => hmode h.1) hshort hnode] at hwalk
    split at hwalk <;> cases hwalk
  | case9 links current name rest hcreate hshort hnode hrest =>
    rw [List.cons_append, walk_none (fun h => hmode h.1) hshort hnode] at hwalk
    split at hwalk <;> cases hwalk
  | case10 links current name rest hcreate hshort hnode ih =>
    rw [List.cons_append, walk_directory (fun h => hmode h.1) hshort hnode] at hwalk
    exact ih hwalk
  | case11 links current name hshort content hnode hcreate => exact ⟨_, _, rfl⟩
  | case12 links current name rest hcreate hshort content hnode hrest =>
    rw [List.cons_append, walk_file (fun h => hmode h.1) hshort hnode, if_neg (by simp [hrest])] at hwalk
    cases hwalk
  | case13 links current name rest hcreate hshort target hnode hend => exact ⟨_, _, rfl⟩
  | case14 current name rest hcreate hshort target hnode hend =>
    have hrest : rest ≠ [] := fun h => hend ⟨rfl, h⟩
    rw [List.cons_append, walk_link_zero (fun h => hmode h.1) hshort hnode (by simp [hrest])] at hwalk
    cases hwalk
  | case15 current name rest hcreate hshort target hnode hend links error htarget =>
    have hrest : rest ≠ [] := fun h => hend ⟨rfl, h⟩
    rw [List.cons_append, walk_link (fun h => hmode h.1) hshort hnode (by simp [hrest]), htarget] at hwalk
    cases hwalk
  | case16 current name rest hcreate hshort target hnode hend links steps htarget ih =>
    have hrest : rest ≠ [] := fun h => hend ⟨rfl, h⟩
    rw [List.cons_append, walk_link (fun h => hmode h.1) hshort hnode (by simp [hrest]), htarget] at hwalk
    refine ih ?_
    rw [List.append_assoc]
    exact hwalk

theorem exists_resolve_stay (hmode : mode ≠ .create)
    (hstart : tree.start? (steps ++ tail) = tree.start? steps)
    (h : tree.resolve mode (steps ++ tail) = .ok (.found goal node)) :
    ∃ place other, tree.resolve .stay steps = .ok (.found place other) := by
  obtain ⟨start, hsome, hwalk⟩ := resolve_eq_ok_iff.mp h
  obtain ⟨place, other, hstay⟩ := exists_walk_stay hmode hwalk
  exact ⟨place, other, resolve_eq_ok_iff.mpr ⟨start, hstart ▸ hsome, hstay⟩⟩

/-- A path that leads anywhere leads there at once or by a link. -/
theorem exists_find_stay (hmode : mode ≠ .create) (h : tree.find mode path = .ok (goal, node)) :
    ∃ location other, tree.find .stay path = .ok (location, other) := by
  obtain ⟨steps, hsteps, hresolve⟩ := find_eq_ok_iff.mp h
  rw [← List.append_nil steps] at hresolve
  obtain ⟨location, other, hstay⟩ := exists_resolve_stay hmode (by rw [List.append_nil]) hresolve
  exact ⟨location, other, find_eq_ok_iff.mpr ⟨steps, hsteps, hstay⟩⟩

theorem find_stay_of_follow (h : tree.find .follow path = .ok (goal, node)) :
    tree.find .stay path = .ok (goal, node) ∨
      ∃ location target, tree.find .stay path = .ok (location, .link target) := by
  obtain ⟨location, other, hstay⟩ := exists_find_stay (by simp) h
  by_cases hlink : ∃ target, other = .link target
  · obtain ⟨target, rfl⟩ := hlink
    exact .inr ⟨location, target, hstay⟩
  · have hfollow := find_follow_of_stay hstay fun target htarget => hlink ⟨target, htarget⟩
    left
    rwa [← hfollow, h] at hstay

end FileTree

end ConfigKit
