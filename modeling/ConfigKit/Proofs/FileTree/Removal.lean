-- SUMMARY: What removing a directory takes away, also where a path leads through its content.
import ConfigKit.FileTree.System
import ConfigKit.Proofs.FileTree.NamedPath

/-!
# Removing directories

Removing what a path of names stays at takes away that place and all below it, and nothing else
(`cleared_of_removeTree`). Of a directory on the way to itself the place may be left, as an empty
directory: the path leads through its content, so it cannot be found again once the content is gone.
-/

namespace ConfigKit

namespace FileTree

open ConfigKit.Path

variable {tree later : FileTree} {front : List String} {name : String} {root other : Location}
  {node : Node}

/-- The second tree is the first one without what is at and below a place. At the place itself an empty
directory may be left. -/
structure Cleared (tree later : FileTree) (root : Location) : Prop where
  outside : ∀ other, ¬ root <+: other → later.node? other = tree.node? other
  inside : ∀ other, root <+: other →
    later.node? other = none ∨ (other = root ∧ later.node? other = some .directory)
  grows : later.Grows tree

theorem ne_nil_of_below (hroot : root ≠ []) (h : root <+: other) : other ≠ [] := by
  rintro rfl
  exact hroot (List.prefix_nil.mp h)

theorem cleared_erase (tree : FileTree) (hroot : root ≠ []) : tree.Cleared (tree.erase root) root where
  outside other hother := by
    by_cases hnil : other = []
    · rw [hnil]
      rfl
    · rw [node?_erase hnil, if_neg hother]
  inside other hother := by
    rw [node?_erase (ne_nil_of_below hroot hother), if_pos hother]
    exact .inl rfl
  grows := erase_grows tree root

theorem cleared_clear (hnode : tree.node? root = some .directory) :
    tree.Cleared (tree.clear root) root where
  outside other hother := by rw [node?_clear, if_neg (fun h => hother h.1)]
  inside other hother := by
    by_cases hsame : other = root
    · rw [node?_clear, if_neg (fun h => h.2 hsame), hsame]
      exact .inr ⟨rfl, hnode⟩
    · rw [node?_clear, if_pos ⟨hother, hsame⟩]
      exact .inl rfl
  grows := clear_grows tree root

theorem cleared_erase_clear (tree : FileTree) (hroot : root ≠ []) :
    tree.Cleared ((tree.clear root).erase root) root where
  outside other hother := by
    rw [(cleared_erase (tree.clear root) hroot).outside other hother, node?_clear,
      if_neg (fun h => hother h.1)]
  inside := (cleared_erase (tree.clear root) hroot).inside
  grows := (erase_grows _ root).trans (clear_grows tree root)

theorem below_clear (tree : FileTree) (root : Location) : (tree.clear root).below root = [] := by
  refine below_eq_nil_iff.mpr fun other hbelow hne => ?_
  rw [node?_clear, if_pos ⟨hbelow, hne⟩]

theorem removeDirectory_ofNames (hordinary : ∀ n ∈ front ++ [name], ordinaryName n = true)
    (hfits : Fits (ofNames (front ++ [name]))) :
    tree.removeDirectory (ofNames (front ++ [name]))
      = (tree.reach (descent front)).bind fun reached =>
          if maxNameBytes < name.utf8ByteSize then .error .nameTooLong
          else
            match tree.node? (reached.2 ++ [name]) with
            | none => .error .notFound
            | some node =>
              if node ≠ .directory then .error .notDirectory
              else if tree.below (reached.2 ++ [name]) ≠ [] then .error .notEmpty
              else .ok (tree.erase (reached.2 ++ [name])) := by
  have hlast : (descent (front ++ [name])).getLast? = some (.name name) := by simp [descent]
  rw [removeDirectory, steps_ofNames (by simp) hordinary hfits]
  simp only [trimmed_descent, hlast, resolve_descent]
  cases tree.reach (descent front) with
  | error error => rfl
  | ok reached =>
    simp only [Except.bind, walk_stay_name]
    by_cases hlong : maxNameBytes < name.utf8ByteSize
    · simp only [if_pos hlong]
    · cases tree.node? (reached.2 ++ [name]) with
      | none => simp [hlong]
      | some node => simp [hlong]

theorem removeTree_link {target : String} {path : String}
    (hfind : tree.find .stay path = .ok (root, .link target)) :
    tree.removeTree path = (.ok (), tree.erase root) := by
  rw [removeTree, hfind]

/-- Of a directory the content goes first, and then the directory itself, unless the path leads to it
through that content and is lost by then. -/
theorem removeTree_directory (hordinary : ∀ n ∈ front ++ [name], ordinaryName n = true)
    (hfind : tree.find .stay (ofNames (front ++ [name])) = .ok (root, .directory)) :
    (tree.clear root).find .stay (ofNames (front ++ [name])) = .ok (root, .directory) ∧
        tree.removeTree (ofNames (front ++ [name])) = (.ok (), (tree.clear root).erase root) ∨
      (tree.clear root).find .stay (ofNames (front ++ [name])) = .error .notFound ∧
        tree.removeTree (ofNames (front ++ [name])) = (.ok (), tree.clear root) := by
  obtain ⟨hfits, hshort, left, directory, hreach, hroot, hnode⟩ := (find_stay_iff hordinary).mp hfind
  have hempty : (tree.clear root).node? root = some .directory := by
    rw [node?_clear, if_neg (fun h => h.2 rfl), hnode]
  rw [removeTree, hfind]
  simp only [removeDirectory_ofNames hordinary hfits]
  rcases (clear_grows tree root).reach_or_notFound hreach with hagain | hlost
  · left
    refine ⟨(find_stay_iff hordinary).mpr ⟨hfits, hshort, left, directory, hagain, hroot, hempty⟩, ?_⟩
    simp only [hagain, Except.bind, if_neg (Nat.not_lt.mpr hshort), ← hroot, hempty, below_clear]
    rfl
  · right
    refine ⟨?_, ?_⟩
    · rw [find_eq_resolve .stay (by simp) hordinary hfits, resolve_descent, hlost]
      rfl
    · simp only [hlost, Except.bind]

theorem cleared_of_removeTree (hordinary : ∀ n ∈ front ++ [name], ordinaryName n = true)
    (hok : (tree.removeTree (ofNames (front ++ [name]))).1 = .ok ()) :
    ∃ root node, tree.find .stay (ofNames (front ++ [name])) = .ok (root, node) ∧
      tree.Cleared (tree.removeTree (ofNames (front ++ [name]))).2 root := by
  cases hfind : tree.find .stay (ofNames (front ++ [name])) with
  | error error =>
    rw [removeTree, hfind] at hok
    cases hok
  | ok found =>
    obtain ⟨root, node⟩ := found
    obtain ⟨-, -, left, directory, -, hroot, hnode⟩ := (find_stay_iff hordinary).mp hfind
    have hne : root ≠ [] := by simp [hroot]
    refine ⟨root, node, rfl, ?_⟩
    cases node with
    | file bytes =>
      rw [removeTree, hfind] at hok
      cases hok
    | link target =>
      rw [removeTree_link hfind]
      exact cleared_erase tree hne
    | directory =>
      rcases removeTree_directory hordinary hfind with ⟨-, hremoved⟩ | ⟨-, hremoved⟩
      · rw [hremoved]
        exact cleared_erase_clear tree hne
      · rw [hremoved]
        exact cleared_clear hnode

end FileTree

end ConfigKit
