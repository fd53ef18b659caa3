-- SUMMARY: When a deletion succeeds, what it takes away, and that a failure changes nothing.
import ConfigKit.FileTree.Directory
import ConfigKit.Proofs.FileTree.Absence
import ConfigKit.Proofs.FileTree.Outcomes
import ConfigKit.Proofs.Results

/-!
# Deleting directories

What is deleted is checked with links followed and removed without. So of a path that ends in a link to a
directory the link goes, and what the link leads to stays. The main result `delete_effect` says for every
path of names when a deletion succeeds, what it takes away then, and that every other deletion changes
nothing. The lenient deletion differs only where the path leads nowhere.
-/

namespace ConfigKit

namespace FileTree

open ConfigKit.Path

variable {tree later : FileTree} {front : List String} {name : String} {root goal : Location}
  {node : Node} {path target : String}

/-- The tree after what a path stayed at was removed. -/
structure Removed (tree later : FileTree) (path : String) (root : Location) : Prop where
  /-- The path leads nowhere any more, and to no link. -/
  absent : ∀ mode, mode ≠ .create → ∀ goal node, later.find mode path ≠ .ok (goal, node)
  outside : ∀ location, ¬ root <+: location → later.node? location = tree.node? location
  below : ∀ location, root <+: location → location ≠ root → later.node? location = none
  /-- An empty directory is left only of one that the path leads to through its content. -/
  gone : later.node? root = none ∨
    later.node? root = some .directory ∧ (tree.clear root).find .stay path = .error .notFound

theorem removed_of_removeTree (hordinary : ∀ n ∈ front ++ [name], ordinaryName n = true)
    (hfind : tree.find .stay (ofNames (front ++ [name])) = .ok (root, node))
    (hok : (tree.removeTree (ofNames (front ++ [name]))).1 = .ok ()) :
    Removed tree (tree.removeTree (ofNames (front ++ [name]))).2 (ofNames (front ++ [name])) root := by
  obtain ⟨root', node', hfind', hcleared⟩ := cleared_of_removeTree hordinary hok
  obtain ⟨rfl, rfl⟩ : root = root' ∧ node = node' := by simpa [hfind] using hfind'
  obtain ⟨-, -, left, directory, -, hroot, hnode⟩ := (find_stay_iff hordinary).mp hfind
  have hne : root ≠ [] := by simp [hroot]
  have herased (tree : FileTree) : (tree.erase root).node? root = none := by
    rw [node?_erase hne, if_pos List.prefix_rfl]
  refine ⟨fun mode hmode => find_ne_ok_of_removeTree hmode hok, hcleared.outside, ?_, ?_⟩
  · intro location hbelow hother
    exact (hcleared.inside location hbelow).resolve_right fun h => hother h.1
  · cases node with
    | file bytes =>
      rw [removeTree, hfind] at hok
      cases hok
    | link target =>
      rw [removeTree_link hfind]
      exact .inl (herased tree)
    | directory =>
      rcases removeTree_directory hordinary hfind with ⟨-, hremoved⟩ | ⟨hlost, hremoved⟩
      · rw [hremoved]
        exact .inl (herased _)
      · rw [hremoved]
        refine .inr ⟨?_, hlost⟩
        rw [node?_clear, if_neg (fun h => h.2 rfl), hnode]

/-- Of a link and the directory that it led to only the link is gone. The link may itself have been in
that directory. -/
structure LinkRemoved (tree later : FileTree) (root goal : Location) : Prop where
  node?_eq : ∀ location, later.node? location = if location = root then none else tree.node? location
  directory : later.node? goal = some .directory
  content : ∀ entry, goal ++ entry.1 ≠ root → (entry ∈ later.below goal ↔ entry ∈ tree.below goal)

theorem linkRemoved_erase (hlink : tree.node? root = some (.link target))
    (hgoal : tree.node? goal = some .directory) : LinkRemoved tree (tree.erase root) root goal where
  node?_eq := node?_erase_link hlink
  directory := by
    rw [node?_erase_link hlink, if_neg, hgoal]
    rintro rfl
    rw [hlink] at hgoal
    cases hgoal
  content entry hentry := by
    rw [mem_below_iff, mem_below_iff, node?_erase_link hlink, if_neg hentry]

theorem removeTree_of_leads (hordinary : ∀ n ∈ front ++ [name], ordinaryName n = true)
    (h : tree.find .follow (ofNames (front ++ [name])) = .ok (goal, .directory)) :
    (tree.removeTree (ofNames (front ++ [name]))).1 = .ok () := by
  rcases find_stay_of_follow h with hfind | ⟨location, target, hfind⟩
  · rcases removeTree_directory hordinary hfind with ⟨-, hremoved⟩ | ⟨-, hremoved⟩
    · rw [hremoved]
    · rw [hremoved]
  · rw [removeTree_link hfind]

end FileTree

namespace Directory

open FileTree ConfigKit.Path

variable {tree : FileTree} {names : List String} {path : String} {goal : Location} {node : Node}

/-! ## The check -/

theorem remove_ok (hok : (remove tree path node).result = .ok ()) :
    (tree.removeTree path).1 = .ok () ∧ (remove tree path node).tree = (tree.removeTree path).2 := by
  unfold remove at hok ⊢
  by_cases hnode : node = .directory
  · rw [if_pos hnode] at hok ⊢
    exact ⟨mapError_eq_ok_iff.mp hok, rfl⟩
  · rw [if_neg hnode] at hok
    cases hok

theorem remove_of_ne (hnode : node ≠ .directory) :
    remove tree path node = .unchanged tree (.error (.notDirectory path)) :=
  if_neg hnode

theorem delete_of_find (h : tree.find .follow path = .ok (goal, node)) :
    delete tree path = remove tree path node := by
  rw [delete, h]

theorem deleteIfPresent_of_find (h : tree.find .follow path = .ok (goal, node)) :
    deleteIfPresent tree path = remove tree path node := by
  rw [deleteIfPresent, h]

/-- A deletion that succeeds has removed what the path stays at. -/
theorem delete_ok (hok : (delete tree path).result = .ok ()) :
    ∃ goal, tree.find .follow path = .ok (goal, .directory) ∧
      (tree.removeTree path).1 = .ok () ∧ (delete tree path).tree = (tree.removeTree path).2 := by
  cases hfind : tree.find .follow path with
  | error error =>
    rw [delete, hfind] at hok
    cases hok
  | ok found =>
    obtain ⟨goal, node⟩ := found
    rw [delete_of_find hfind] at hok ⊢
    by_cases hnode : node = .directory
    · subst hnode
      exact ⟨goal, rfl, remove_ok hok⟩
    · rw [remove_of_ne hnode] at hok
      cases hok

theorem deleteIfPresent_ok (hne : names ≠ []) (hordinary : ∀ n ∈ names, ordinaryName n = true)
    (hok : (deleteIfPresent tree (ofNames names)).result = .ok ()) :
    (deleteIfPresent tree (ofNames names)).tree = tree ∨
      ∃ root node, tree.find .stay (ofNames names) = .ok (root, node) ∧
        tree.Cleared (deleteIfPresent tree (ofNames names)).tree root := by
  cases hfind : tree.find .follow (ofNames names) with
  | error error =>
    rw [deleteIfPresent, hfind]
    exact .inl rfl
  | ok found =>
    rw [deleteIfPresent_of_find hfind] at hok ⊢
    obtain ⟨hremoved, htree⟩ := remove_ok hok
    obtain ⟨front, last, rfl⟩ := List.eq_nil_or_concat' names |>.resolve_left hne
    exact .inr (htree ▸ cleared_of_removeTree hordinary hremoved)

/-! ## The effect -/

/-- What a deletion takes away: the directory that the path names, or the link that the path ends in. -/
inductive Deleted (tree later : FileTree) (path : String) : Prop where
  | directory (root : Location) (hfind : tree.find .stay path = .ok (root, .directory))
      (hremoved : Removed tree later path root)
  | link (root goal : Location) (target : String)
      (hfind : tree.find .stay path = .ok (root, .link target))
      (hgoal : tree.find .follow path = .ok (goal, .directory))
      (hremoved : Removed tree later path root) (hlink : LinkRemoved tree later root goal)

/-- What deleting the directory at a path comes to. -/
structure DeletesExactly (tree : FileTree) (names : List String) : Prop where
  succeeds_iff : (delete tree (ofNames names)).result = .ok () ↔
    ∃ goal, tree.find .follow (ofNames names) = .ok (goal, .directory)
  deleted : (delete tree (ofNames names)).result = .ok () →
    Deleted tree (delete tree (ofNames names)).tree (ofNames names)
  notDirectory : ∀ goal node, tree.find .follow (ofNames names) = .ok (goal, node) →
    node ≠ .directory →
      delete tree (ofNames names) = .unchanged tree (.error (.notDirectory (ofNames names))) ∧
      deleteIfPresent tree (ofNames names)
        = .unchanged tree (.error (.notDirectory (ofNames names)))
  unresolved : ∀ error, tree.find .follow (ofNames names) = .error error →
    delete tree (ofNames names) = .unchanged tree (.error (.io (ofNames names) (.system error))) ∧
      deleteIfPresent tree (ofNames names) = .unchanged tree (.ok ())
  agree : ∀ goal node, tree.find .follow (ofNames names) = .ok (goal, node) →
    deleteIfPresent tree (ofNames names) = delete tree (ofNames names)

theorem deleted_of_delete (hne : names ≠ []) (hordinary : ∀ n ∈ names, ordinaryName n = true)
    (hok : (delete tree (ofNames names)).result = .ok ()) :
    Deleted tree (delete tree (ofNames names)).tree (ofNames names) := by
  obtain ⟨goal, hfollow, hremoved, htree⟩ := delete_ok hok
  obtain ⟨front, last, rfl⟩ := List.eq_nil_or_concat' names |>.resolve_left hne
  rw [htree]
  rcases find_stay_of_follow hfollow with hfind | ⟨root, target, hfind⟩
  · exact .directory goal hfind (removed_of_removeTree hordinary hfind hremoved)
  · refine .link root goal target hfind hfollow (removed_of_removeTree hordinary hfind hremoved) ?_
    rw [removeTree_link hfind]
    exact linkRemoved_erase (node?_of_find hfind) (node?_of_find hfollow)

theorem delete_effect (tree : FileTree) (hne : names ≠ [])
    (hordinary : ∀ n ∈ names, ordinaryName n = true) : DeletesExactly tree names where
  succeeds_iff := by
    constructor
    · intro hok
      obtain ⟨goal, hfollow, -⟩ := delete_ok hok
      exact ⟨goal, hfollow⟩
    · rintro ⟨goal, hfollow⟩
      obtain ⟨front, last, rfl⟩ := List.eq_nil_or_concat' names |>.resolve_left hne
      rw [delete_of_find hfollow, remove, if_pos rfl]
      exact mapError_eq_ok_iff.mpr (removeTree_of_leads hordinary hfollow)
  deleted := deleted_of_delete hne hordinary
  notDirectory goal node hfollow hnode := by
    rw [deleteIfPresent_of_find hfollow, delete_of_find hfollow, remove_of_ne hnode]
    exact ⟨rfl, rfl⟩
  unresolved error hfollow := by
    rw [delete, deleteIfPresent, hfollow]
    exact ⟨rfl, rfl⟩
  agree goal node hfollow := by
    rw [deleteIfPresent_of_find hfollow, delete_of_find hfollow]

/-- A link to a directory with a file: the link goes, and the file stays. -/
theorem delete_effect_link :
    let tree := ((FileTree.empty.place ["d"] .directory).place ["d", "f"] (.file [])).place ["l"] (.link "d")
    DeletesExactly tree ["l"] ∧ (delete tree (ofNames ["l"])).tree.node? ["l"] = none ∧
      (delete tree (ofNames ["l"])).tree.node? ["d", "f"] = some (.file []) := by
  intro tree
  refine ⟨delete_effect tree (by simp) (by decide), ?_⟩
  have hsteps : steps (ofNames ["l"]) = .ok [.name "l"] ∧ steps "d" = .ok [.name "d"] := ⟨rfl, rfl⟩
  have hworking : tree.working? = some [] := rfl
  have hdirectory : tree.node? ["d"] = some .directory := by decide
  have hlink : tree.node? ["l"] = some (.link "d") := by decide
  have hstay : tree.find .stay (ofNames ["l"]) = .ok (["l"], .link "d") := by
    simp +decide [find, locate, hsteps, resolve, start?, hworking, walk, maxLinks, hlink]
  have hfollow : tree.find .follow (ofNames ["l"]) = .ok (["d"], .directory) := by
    simp +decide [find, locate, hsteps, resolve, start?, hworking, walk, maxLinks, hlink, hdirectory]
  rw [delete_of_find hfollow]
  simp only [remove, removeTree, hstay]
  decide

/-- A path that leads through a directory to that directory: its content goes, and it stays itself. -/
example :
    let tree := (FileTree.empty.place ["d"] .directory).place ["d", "up"] (.link "..")
    (delete tree "d/up/d").result = .ok () ∧
      (delete tree "d/up/d").tree.node? ["d"] = some .directory := by
  intro tree
  have hsteps : steps "d/up/d" = .ok [.name "d", .name "up", .name "d"] ∧ steps ".." = .ok [.up] :=
    ⟨rfl, rfl⟩
  have hworking : tree.working? = some [] ∧ (tree.clear ["d"]).working? = some [] := ⟨rfl, rfl⟩
  have hdirectory : tree.node? ["d"] = some .directory := by decide
  have hlink : tree.node? ["d", "up"] = some (.link "..") := by decide
  have hcleared : (tree.clear ["d"]).node? ["d"] = some .directory ∧
      (tree.clear ["d"]).node? ["d", "up"] = none := by decide
  have hfind (mode : Mode) (hmode : mode ≠ .create) : tree.find mode "d/up/d" = .ok (["d"], .directory) := by
    simp +decide [find, locate, hsteps, resolve, start?, hworking, walk, maxLinks, hdirectory, hlink, hmode]
  have hgone : (tree.clear ["d"]).removeDirectory "d/up/d" = .error .notFound := by
    simp +decide [removeDirectory, hsteps, trimmed, resolve, start?, hworking, walk, hcleared]
  rw [delete_of_find (hfind .follow (by simp))]
  simp only [remove, removeTree, hfind .stay (by simp), hgone]
  exact ⟨rfl, hcleared.1⟩

end Directory

end ConfigKit
