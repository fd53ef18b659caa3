-- SUMMARY: What making sure of an empty directory leaves, and that nothing outside is touched.
import ConfigKit.Proofs.FileTree.Deletion
import ConfigKit.Proofs.FileTree.NewDirectories

/-!
# Making sure of an empty directory

The operation removes what the path stays at and makes the path anew. The main result `ensureEmpty_effect`
says what a success leaves at the path, and that it changes nothing outside the place that the path named
before. Where the path named no place, it adds the directories that were missing on the way, and no more.
-/

namespace ConfigKit

namespace FileTree

open ConfigKit.Path

variable {tree : FileTree} {root location : Location} {node : Node}

namespace Gap

variable {cleared : FileTree} {gap : cleared.Gap} {target : String}
  (hordinary : ∀ name ∈ gap.route, ordinaryName name = true) (hcleared : tree.Cleared cleared root)
  (hfind : tree.find .stay (ofNames gap.route) = .ok (root, node))
include hordinary hcleared hfind

/-- After a removal the way to the path ends at the place that was removed, or below. -/
theorem gap_below_root : root <+: gap.directory ++ [gap.name] := by
  have hnode := node?_ne_none_of_find hordinary (hcleared.grows.reach gap.reached) hfind
  by_contra houtside
  exact hnode (hcleared.outside _ houtside ▸ gap.vacant)

theorem node?_extend_outside (houtside : ¬ root <+: location) :
    (cleared.extend gap.directory gap.missing).node? location = tree.node? location := by
  rw [(gap.hasSpace hordinary).node?_extend_of_ne, hcleared.outside location houtside]
  rintro chain hne hchain rfl
  exact houtside ((gap.gap_below_root hordinary hcleared hfind).trans (gap.prefix_of_chain hne hchain))

/-- Where a link was removed is a directory. -/
theorem node?_extend_link (hnode : tree.node? root = some (.link target)) :
    (cleared.extend gap.directory gap.missing).node? root = some .directory := by
  have hplace : gap.directory ++ [gap.name] = root :=
    eq_of_prefix_of_link hnode (gap.gap_below_root hordinary hcleared hfind)
      (node?_ne_none_of_find hordinary (hcleared.grows.reach gap.reached) hfind)
  rw [← hplace]
  exact (gap.hasSpace hordinary).node?_extend_front (by simp) (List.prefix_append [gap.name] gap.rest)

end Gap

end FileTree

namespace Directory

open FileTree ConfigKit.Path

variable {tree : FileTree} {names : List String}

/-- What a success rests on: at most one place is removed, and a gap is closed then. -/
theorem ensureEmpty_ok (hne : names ≠ []) (hordinary : ∀ n ∈ names, ordinaryName n = true)
    (hok : (ensureEmpty tree (ofNames names)).result = .ok ()) :
    Fits (ofNames names) ∧ ∃ cleared : FileTree, ∃ gap : cleared.Gap,
      gap.route = names ∧ gap.missing.all isShort = true ∧
      (ensureEmpty tree (ofNames names)).tree = cleared.extend gap.directory gap.missing ∧
      (cleared = tree ∨
        ∃ root node, tree.find .stay (ofNames names) = .ok (root, node) ∧ tree.Cleared cleared root) := by
  obtain ⟨⟨⟩, hdeleted, hcreated, htree⟩ := Outcome.andThen_ok hok
  obtain ⟨hfits, gap, hroute, hshort, hextend⟩ := create_ok hne hordinary hcreated
  exact ⟨hfits, _, gap, hroute, hshort, htree.trans hextend, deleteIfPresent_ok hne hordinary hdeleted⟩

/-- What a success leaves behind. -/
structure LeavesEmpty (tree later : FileTree) (names : List String) : Prop where
  isEmptyDirectory : later.IsEmptyDirectory (ofNames names)
  listFiles : ∀ ext, (later.listFiles (ofNames names) ext).1 = []
  /-- Where the path named a place, nothing outside that place is changed. -/
  replaced : ∀ root node, tree.find .stay (ofNames names) = .ok (root, node) →
    ∀ location, ¬ root <+: location → later.node? location = tree.node? location
  /-- Where the path named no place, only directories on the way to it are new. -/
  added : (∀ root node, tree.find .stay (ofNames names) ≠ .ok (root, node)) →
    ∀ location, later.node? location = tree.node? location ∨
      tree.node? location = none ∧ ∃ front, front ≠ [] ∧ front <+: names ∧
        later.find .stay (ofNames front) = .ok (location, .directory)
  /-- A link that the path named has become a directory, and every other entry is still there: of what
  the link led to nothing is lost. -/
  link : ∀ root target, tree.find .stay (ofNames names) = .ok (root, .link target) →
    later.node? root = some .directory ∧
      ∀ location node, location ≠ root → tree.node? location = some node →
        later.node? location = some node

theorem ensureEmpty_effect (tree : FileTree) (hne : names ≠ [])
    (hordinary : ∀ n ∈ names, ordinaryName n = true) :
    ((ensureEmpty tree (ofNames names)).result = .ok () →
      LeavesEmpty tree (ensureEmpty tree (ofNames names)).tree names) ∧
    (∀ goal node, tree.find .follow (ofNames names) = .ok (goal, node) → node ≠ .directory →
      ensureEmpty tree (ofNames names)
        = .unchanged tree (.error (.notDirectory (ofNames names)))) := by
  constructor
  · intro hok
    obtain ⟨hfits, cleared, gap, rfl, hshort, htree, hcleared⟩ := ensureEmpty_ok hne hordinary hok
    have hempty := gap.isEmptyDirectory_extend hordinary hshort hfits
    rw [htree]
    refine ⟨hempty, hempty.listFiles, ?_, ?_, ?_⟩
    · intro root node hfind location houtside
      rcases hcleared with rfl | ⟨root', node', hfind', hcleared⟩
      · exact absurd hfind (gap.find_ne_ok hordinary)
      · obtain ⟨rfl, rfl⟩ : root = root' ∧ node = node' := by simpa [hfind] using hfind'
        exact gap.node?_extend_outside hordinary hcleared hfind houtside
    · intro hnone location
      rcases hcleared with rfl | ⟨root, node, hfind, -⟩
      · exact (gap.adds_extend hordinary hshort hfits).node?_cases location
      · exact absurd hfind (hnone root node)
    · intro root target hfind
      rcases hcleared with rfl | ⟨root', node', hfind', hcleared⟩
      · exact absurd hfind (gap.find_ne_ok hordinary)
      · obtain ⟨rfl, rfl⟩ : root = root' ∧ .link target = node' := by simpa [hfind] using hfind'
        have hlink := node?_of_find hfind
        refine ⟨gap.node?_extend_link hordinary hcleared hfind hlink, fun location node hother hnode => ?_⟩
        rw [gap.node?_extend_outside hordinary hcleared hfind, hnode]
        exact fun hbelow => hother (eq_of_prefix_of_link hlink hbelow (by simp [hnode]))
  · intro goal node hfind hnode
    simp [ensureEmpty, deleteIfPresent, hfind, remove, hnode, Outcome.andThen, Outcome.unchanged]

/-- A link to a directory with a file: the link gives way to a directory, and the file is refused. -/
theorem ensureEmpty_effect_link :
    let tree := ((FileTree.empty.place ["d"] .directory).place ["d", "f"] (.file [])).place ["l"] (.link "d")
    LeavesEmpty tree (ensureEmpty tree (ofNames ["l"])).tree ["l"] ∧
      ensureEmpty tree (ofNames ["d", "f"])
        = .unchanged tree (.error (.notDirectory (ofNames ["d", "f"]))) := by
  intro tree
  let later := tree.erase ["l"]
  have hworking : tree.working? = some [] ∧ later.working? = some [] := ⟨rfl, rfl⟩
  have hdirectory : tree.node? ["d"] = some .directory := by decide
  have hlink : tree.node? ["l"] = some (.link "d") := by decide
  have hfile : tree.node? ["d", "f"] = some (.file []) := by decide
  have hnone : later.node? ["l"] = none := by decide
  have hpaths : steps (ofNames ["l"]) = .ok [.name "l"] ∧ steps "d" = .ok [.name "d"] ∧
      steps (ofNames ["d", "f"]) = .ok [.name "d", .name "f"] :=
    ⟨rfl, rfl, rfl⟩
  have hstay : tree.find .stay (ofNames ["l"]) = .ok (["l"], .link "d") := by
    simp +decide [find, locate, hpaths, resolve, start?, hworking, walk, maxLinks, hlink]
  have hfollow : tree.find .follow (ofNames ["l"]) = .ok (["d"], .directory) := by
    simp +decide [find, locate, hpaths, resolve, start?, hworking, walk, maxLinks, hlink, hdirectory]
  have hfind : tree.find .follow (ofNames ["d", "f"]) = .ok (["d", "f"], .file []) := by
    simp +decide [find, locate, hpaths, resolve, start?, hworking, walk, maxLinks, hdirectory, hfile]
  have hresolve (mode : Mode) : later.resolve mode [.name "l"] = .ok (.vacant ["l"]) := by
    simp +decide [resolve, start?, hworking, walk, hnone]
  have hgone : later.find .follow (ofNames ["l"]) = .error .notFound := by
    simp [find, locate, hpaths, hresolve]
  have hdeleted : deleteIfPresent tree (ofNames ["l"]) = ⟨.ok (), later, [removingEvent (ofNames ["l"])]⟩ := by
    simp only [deleteIfPresent, hfollow, remove, removeTree, hstay]
    rfl
  have hmade : later.makeDirectories (ofNames ["l"]) = (.ok (), later.place ["l"] .directory) := by
    simp +decide [makeDirectories, hpaths, ancestors, significant, initialParts, makeFirstPossible, makeDirectory,
      trimmed, hresolve, makeEach]
  have hok : (ensureEmpty tree (ofNames ["l"])).result = .ok () := by
    simp only [ensureEmpty, hdeleted, Outcome.andThen, create, pathExists, hgone, make, hmade]
    rfl
  exact ⟨(ensureEmpty_effect tree (by simp) (by decide)).1 hok,
    (ensureEmpty_effect tree (by simp) (by decide)).2 _ _ hfind (by simp)⟩

end Directory

end ConfigKit
