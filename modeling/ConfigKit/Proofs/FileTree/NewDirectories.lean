-- SUMMARY: Making a directory adds directories on its path, and nothing else.
import Mathlib.Data.List.TakeWhile
import ConfigKit.FileTree.Directory
import ConfigKit.FileTree.Listing
import ConfigKit.Proofs.FileTree.Creation
import ConfigKit.Proofs.FileTree.Modes
import ConfigKit.Proofs.FileTree.Outcomes

/-!
# New directories

Making a directory closes the gap on the way to it. The main result `create_effect` says for every path of
names that the tree only grows, by directories that a front of the path names, whether the call succeeds
or fails. A success leaves an empty directory at the path. A failure leaves new directories only where a
name behind the gap is too long.
-/

namespace ConfigKit

namespace FileTree

open ConfigKit.Path

variable {tree later : FileTree} {names front rest : List String} {name : String}
  {directory root location : Location} {node : Node} {left : Nat}

/-! ## Empty directories -/

/-- At the path is a directory and no link to one, and nothing is in it. -/
def IsEmptyDirectory (tree : FileTree) (path : String) : Prop :=
  ∃ location, tree.find .stay path = .ok (location, .directory) ∧ tree.below location = []

theorem IsEmptyDirectory.listFiles {path : String} (h : tree.IsEmptyDirectory path) (ext : String) :
    (tree.listFiles path ext).1 = [] := by
  obtain ⟨location, hfind, hbelow⟩ := h
  simp [FileTree.listFiles, filesFrom, filesBelow, hfind, hbelow]

/-! ## Added directories -/

/-- An entry is at the place in the second tree, and none in the first. -/
def New (tree later : FileTree) (location : Location) : Prop :=
  tree.node? location = none ∧ later.node? location ≠ none

/-- The second tree is the first one with directories that fronts of the path name, each in the one
before. -/
structure Adds (tree later : FileTree) (names : List String) : Prop where
  kept : tree.Grows later
  directory : ∀ location, New tree later location → later.node? location = some .directory
  named : ∀ location, New tree later location → ∃ front, front ≠ [] ∧ front <+: names ∧
    later.find .stay (ofNames front) = .ok (location, .directory)
  /-- There is nothing in a new directory but new directories. -/
  content : ∀ location, New tree later location → ∀ other, location <+: other →
    later.node? other ≠ none → New tree later other
  /-- Of two new directories one is in the other, so that each holds one other at most. -/
  nested : ∀ first second, New tree later first → New tree later second →
    first <+: second ∨ second <+: first

theorem New.of_prefix {other : Location} (h : New tree later location) (hbelow : location <+: other)
    (hother : later.node? other ≠ none) : New tree later other := by
  by_cases hsame : other = location
  · rwa [hsame]
  · exact ⟨node?_below_eq_none (by simp [h.1]) hbelow hsame, hother⟩

theorem adds_refl (tree : FileTree) (names : List String) : Adds tree tree names where
  kept := grows_refl tree
  directory _ hnew := absurd hnew.1 hnew.2
  named _ hnew := absurd hnew.1 hnew.2
  content _ hnew := absurd hnew.1 hnew.2
  nested _ _ hnew := absurd hnew.1 hnew.2

theorem Adds.of_front (h : Adds tree later front) (hfront : front <+: names) : Adds tree later names where
  kept := h.kept
  directory := h.directory
  named location hnew := by
    obtain ⟨front', hne, hprefix, hfind⟩ := h.named location hnew
    exact ⟨front', hne, hprefix.trans hfront, hfind⟩
  content := h.content
  nested := h.nested

/-- After directories were added each place is as it was, or one of the new directories is there. -/
theorem Adds.node?_cases (h : Adds tree later names) (location : Location) :
    later.node? location = tree.node? location ∨
      tree.node? location = none ∧ ∃ front, front ≠ [] ∧ front <+: names ∧
        later.find .stay (ofNames front) = .ok (location, .directory) := by
  cases hnode : tree.node? location with
  | some node => exact .inl (h.kept.node?_eq_some location node hnode)
  | none =>
    by_cases hlater : later.node? location = none
    · exact .inl hlater
    · exact .inr ⟨rfl, h.named location ⟨hnode, hlater⟩⟩

/-! ## Closing a gap -/

/-- A path that is found leads past each of its names. -/
theorem node?_ne_none_of_find (hordinary : ∀ n ∈ front ++ name :: rest, ordinaryName n = true)
    (hreach : tree.reach (descent front) = .ok (left, directory))
    (hfind : tree.find .stay (ofNames (front ++ name :: rest)) = .ok (root, node)) :
    tree.node? (directory ++ [name]) ≠ none := by
  induction rest using List.reverseRecOn with
  | nil =>
    obtain ⟨-, -, left', directory', hreach', rfl, hnode⟩ := (find_stay_iff hordinary).mp hfind
    rw [hreach] at hreach'
    cases hreach'
    rw [hnode]
    simp
  | append_singleton middle last =>
    have hnames : front ++ name :: (middle ++ [last]) = (front ++ name :: middle) ++ [last] := by simp
    rw [hnames] at hfind hordinary
    obtain ⟨-, -, left', directory', hreach', -, -⟩ := (find_stay_iff hordinary).mp hfind
    intro hnone
    rw [reach_descent_append, hreach] at hreach'
    simp only [Except.bind, descent, List.map_cons, approach, hnone] at hreach'
    split at hreach' <;> cases hreach'

namespace Gap

variable {gap : tree.Gap} (hordinary : ∀ name ∈ gap.route, ordinaryName name = true)
include hordinary

/-- A path with a gap on the way is not found. -/
theorem find_ne_ok : tree.find .stay (ofNames gap.route) ≠ .ok (root, node) :=
  fun hfind => node?_ne_none_of_find hordinary gap.reached hfind gap.vacant

theorem exists_find_error : ∃ error, tree.find .follow (ofNames gap.route) = .error error := by
  cases hfind : tree.find .follow (ofNames gap.route) with
  | error error => exact ⟨error, rfl⟩
  | ok found =>
    obtain ⟨location, node, hstay⟩ := exists_find_stay (by simp) hfind
    exact absurd hstay (gap.find_ne_ok hordinary)

variable (hshort : gap.missing.all isShort = true)
include hshort

theorem reach_extend {chain : List String} (hchain : chain <+: gap.missing) :
    (tree.extend gap.directory gap.missing).reach (descent (gap.front ++ chain))
      = .ok (gap.left, gap.directory ++ chain) := by
  have hspace := gap.hasSpace hordinary
  induction chain using List.reverseRecOn with
  | nil => simpa using hspace.grows_extend.reach gap.reached
  | append_singleton chain last ih =>
    have hlast : isShort last = true :=
      List.all_eq_true.mp hshort last (hchain.sublist.mem (by simp))
    have hnode := hspace.node?_extend_front (by simp) hchain
    rw [← List.append_assoc] at hnode
    have hreach := ih ((List.prefix_append chain [last]).trans hchain)
    simpa using reach_descent_concat hreach hlast hnode

/-- Once the gap is closed, each of the new directories is found by its path. -/
theorem find_extend (hfits : Fits (ofNames gap.route)) {chain : List String} (hne : chain ≠ [])
    (hchain : chain <+: gap.missing) :
    (tree.extend gap.directory gap.missing).find .stay (ofNames (gap.front ++ chain))
      = .ok (gap.directory ++ chain, .directory) := by
  induction chain using List.reverseRecOn with
  | nil => exact absurd rfl hne
  | append_singleton chain last =>
    have hnode := (gap.hasSpace hordinary).node?_extend_front (by simp) hchain
    have hreach :=
      gap.reach_extend hordinary hshort ((List.prefix_append chain [last]).trans hchain)
    have hlast : isShort last = true :=
      List.all_eq_true.mp hshort last (hchain.sublist.mem (by simp))
    obtain ⟨more, hmore⟩ := hchain
    have hnames : gap.route = (gap.front ++ chain ++ [last]) ++ more := by
      simp [route, ← hmore]
    rw [hnames] at hordinary hfits
    rw [← List.append_assoc]
    refine (find_stay_iff fun n hn => hordinary n (List.mem_append_left _ hn)).mpr
      ⟨hfits.front (by simp), by simpa [isShort] using hlast, gap.left, gap.directory ++ chain,
        hreach, by simp, hnode⟩

theorem isEmptyDirectory_extend (hfits : Fits (ofNames gap.route)) :
    (tree.extend gap.directory gap.missing).IsEmptyDirectory (ofNames gap.route) := by
  refine ⟨_, gap.find_extend hordinary hshort hfits (by simp [missing]) List.prefix_rfl,
    below_eq_nil_iff.mpr fun other hbelow hother => ?_⟩
  exact (gap.hasSpace hordinary).node?_extend_below (by simp [missing]) hbelow hother

omit hshort in
theorem exists_chain_of_new (hnew : New tree (tree.extend gap.directory gap.missing) location) :
    ∃ chain, chain ≠ [] ∧ chain <+: gap.missing ∧ location = gap.directory ++ chain := by
  by_contra hnone
  refine hnew.2 ?_
  rw [(gap.hasSpace hordinary).node?_extend_of_ne, hnew.1]
  exact fun chain hne hchain hlocation => hnone ⟨chain, hne, hchain, hlocation⟩

/-- Closing a gap adds the missing directories, and changes nothing else. -/
theorem adds_extend (hfits : Fits (ofNames gap.route)) :
    Adds tree (tree.extend gap.directory gap.missing) gap.route where
  kept := (gap.hasSpace hordinary).grows_extend
  directory location hnew := by
    obtain ⟨chain, hne, hchain, rfl⟩ := gap.exists_chain_of_new hordinary hnew
    exact (gap.hasSpace hordinary).node?_extend_front hne hchain
  named location hnew := by
    obtain ⟨chain, hne, hchain, rfl⟩ := gap.exists_chain_of_new hordinary hnew
    exact ⟨gap.front ++ chain, by simp [hne], (List.prefix_append_right_inj gap.front).mpr hchain,
      gap.find_extend hordinary hshort hfits hne hchain⟩
  content _ hnew _ := hnew.of_prefix
  nested first second hfirst hsecond := by
    obtain ⟨chain, -, hchain, rfl⟩ := gap.exists_chain_of_new hordinary hfirst
    obtain ⟨chain', -, hchain', rfl⟩ := gap.exists_chain_of_new hordinary hsecond
    rw [List.prefix_append_right_inj, List.prefix_append_right_inj]
    exact List.prefix_or_prefix_of_prefix hchain hchain'

end Gap

/-- The gap with only the names before the first one that is too long. -/
def Gap.possible (gap : tree.Gap) : tree.Gap := { gap with rest := gap.rest.takeWhile isShort }

theorem Gap.missing_possible (gap : tree.Gap) :
    gap.possible.missing = gap.missing.takeWhile isShort := by
  rw [missing, missing, List.takeWhile_cons_of_pos gap.short]
  rfl

theorem Gap.route_possible (gap : tree.Gap) : gap.possible.route <+: gap.route := by
  rw [route, route, gap.missing_possible]
  exact (List.prefix_append_right_inj gap.front).mpr (List.takeWhile_prefix isShort)

/-- What is added of a gap, also where the last of its names cannot be made. -/
theorem Gap.adds (gap : tree.Gap) (hordinary : ∀ name ∈ gap.route, ordinaryName name = true)
    (hfits : Fits (ofNames gap.route)) :
    Adds tree (tree.extend gap.directory (gap.missing.takeWhile isShort)) gap.route := by
  have hshort : gap.possible.missing.all isShort = true := by
    rw [missing_possible]
    exact List.all_takeWhile
  obtain ⟨more, hmore⟩ := gap.route_possible
  rw [← hmore] at hordinary hfits
  have hadds := gap.possible.adds_extend (fun name hname => hordinary name (List.mem_append_left _ hname))
    hshort (hfits.front (by simp [route, missing]))
  rw [missing_possible] at hadds
  exact hadds.of_front gap.route_possible

end FileTree

namespace Directory

open FileTree ConfigKit.Path

variable {tree : FileTree} {names : List String} {path : String} {error : OsError}

/-! ## The check -/

theorem create_of_find {goal : Location} {node : Node} (h : tree.find .follow path = .ok (goal, node)) :
    create tree path = .unchanged tree (.error (.alreadyExists path)) ∧
      createIfMissing tree path = .unchanged tree (.ok ()) := by
  have hexists : tree.pathExists path = true := by rw [pathExists, h]
  rw [create, createIfMissing, if_pos hexists, if_pos hexists]
  exact ⟨rfl, rfl⟩

theorem create_of_not_found (h : tree.find .follow path = .error error) :
    create tree path = make tree path ∧ createIfMissing tree path = make tree path := by
  have hexists : ¬ tree.pathExists path = true := by simp [pathExists, h]
  rw [create, createIfMissing, if_neg hexists, if_neg hexists]
  exact ⟨rfl, rfl⟩

/-! ## The effect -/

theorem make_route {gap : tree.Gap} (hordinary : ∀ name ∈ gap.route, ordinaryName name = true)
    (hfits : Fits (ofNames gap.route)) :
    make tree (ofNames gap.route)
      = ⟨if gap.missing.all isShort then .ok () else .error (.io (ofNames gap.route) (.system .nameTooLong)),
          tree.extend gap.directory (gap.missing.takeWhile isShort), [creatingEvent (ofNames gap.route)]⟩ := by
  rw [make, gap.makeDirectories_route hordinary hfits]
  split <;> rfl

/-- What making a directory comes to where the path leads nowhere: the system refuses, the gap on the way
is closed, or it is closed up to a name that is too long. -/
inductive Makes (tree : FileTree) (names : List String) : Outcome Unit → Prop where
  | refused (error : OsError) (events : List Event) :
      Makes tree names ⟨.error (.io (ofNames names) (.system error)), tree, events⟩
  | closed (gap : tree.Gap) (hfits : Fits (ofNames names)) (hroute : gap.route = names)
      (hshort : gap.missing.all isShort = true) (events : List Event) :
      Makes tree names ⟨.ok (), tree.extend gap.directory gap.missing, events⟩
  | cut (gap : tree.Gap) (hfits : Fits (ofNames names)) (hroute : gap.route = names)
      (events : List Event) :
      Makes tree names
        ⟨.error (.io (ofNames names) (.system .nameTooLong)),
          tree.extend gap.directory (gap.missing.takeWhile isShort), events⟩

theorem makes_of_not_found (hne : names ≠ []) (hordinary : ∀ n ∈ names, ordinaryName n = true)
    (h : tree.find .follow (ofNames names) = .error error) :
    Makes tree names (make tree (ofNames names)) := by
  have hlost (hfits : Fits (ofNames names)) (left : Nat) (goal : Location) :
      tree.reach (descent names) ≠ .ok (left, goal) := by
    intro hreach
    rw [(find_follow_directory_iff hne hordinary).mpr ⟨hfits, left, hreach⟩] at h
    cases h
  rcases makeDirectories_of_not_reached hne hordinary hlost with ⟨refusal, hrefusal⟩ | ⟨hfits, gap, rfl⟩
  · rw [make, hrefusal]
    exact .refused refusal _
  · rw [make_route hordinary hfits]
    by_cases hshort : gap.missing.all isShort = true
    · rw [if_pos hshort, List.takeWhile_eq_self_iff.mpr (List.all_eq_true.mp hshort)]
      exact .closed gap hfits rfl hshort _
    · rw [if_neg hshort]
      exact .cut gap hfits rfl _

namespace Makes

variable {outcome : Outcome Unit} {failure : Failure}

theorem adds (h : Makes tree names outcome) (hordinary : ∀ n ∈ names, ordinaryName n = true) :
    Adds tree outcome.tree names := by
  cases h with
  | refused refusal events => exact adds_refl tree names
  | closed gap hfits hroute hshort events =>
    subst hroute
    exact gap.adds_extend hordinary hshort hfits
  | cut gap hfits hroute events =>
    subst hroute
    exact gap.adds hordinary hfits

theorem ok (h : Makes tree names outcome) (hok : outcome.result = .ok ()) :
    Fits (ofNames names) ∧ ∃ gap : tree.Gap, gap.route = names ∧ gap.missing.all isShort = true ∧
      outcome.tree = tree.extend gap.directory gap.missing := by
  cases h with
  | refused refusal events => cases hok
  | closed gap hfits hroute hshort events => exact ⟨hfits, gap, hroute, hshort, rfl⟩
  | cut gap hfits hroute events => cases hok

theorem failed (h : Makes tree names outcome) (hfailure : outcome.result = .error failure) :
    ∃ error, failure = .io (ofNames names) (.system error) ∧
      (outcome.tree = tree ∨ error = .nameTooLong) := by
  cases h with
  | refused refusal events =>
    cases hfailure
    exact ⟨refusal, rfl, .inl rfl⟩
  | closed gap hfits hroute hshort events => cases hfailure
  | cut gap hfits hroute events =>
    cases hfailure
    exact ⟨.nameTooLong, rfl, .inr rfl⟩

end Makes

/-- A directory is made only where the path leads nowhere, so there is a gap on the way. -/
theorem create_ok (hne : names ≠ []) (hordinary : ∀ n ∈ names, ordinaryName n = true)
    (hok : (create tree (ofNames names)).result = .ok ()) :
    Fits (ofNames names) ∧ ∃ gap : tree.Gap, gap.route = names ∧ gap.missing.all isShort = true ∧
      (create tree (ofNames names)).tree = tree.extend gap.directory gap.missing := by
  cases hfind : tree.find .follow (ofNames names) with
  | ok found =>
    rw [(create_of_find hfind).1] at hok
    cases hok
  | error error =>
    rw [(create_of_not_found hfind).1] at hok ⊢
    exact (makes_of_not_found hne hordinary hfind).ok hok

/-- Whatever making a directory comes to, the tree has only grown. -/
theorem create_adds (hne : names ≠ []) (hordinary : ∀ n ∈ names, ordinaryName n = true) :
    Adds tree (create tree (ofNames names)).tree names ∧
      Adds tree (createIfMissing tree (ofNames names)).tree names := by
  cases hfind : tree.find .follow (ofNames names) with
  | ok found =>
    obtain ⟨hcreate, hlenient⟩ := create_of_find hfind
    rw [hcreate, hlenient]
    exact ⟨adds_refl tree names, adds_refl tree names⟩
  | error error =>
    obtain ⟨hcreate, hlenient⟩ := create_of_not_found hfind
    rw [hcreate, hlenient]
    have hadds := (makes_of_not_found hne hordinary hfind).adds hordinary
    exact ⟨hadds, hadds⟩

/-- What making a directory at a path comes to. -/
structure CreatesOnly (tree : FileTree) (names : List String) : Prop where
  adds : Adds tree (create tree (ofNames names)).tree names
  adds_lenient : Adds tree (createIfMissing tree (ofNames names)).tree names
  /-- Where the path leads anywhere, nothing is done. -/
  existing : ∀ goal node, tree.find .follow (ofNames names) = .ok (goal, node) →
    create tree (ofNames names) = .unchanged tree (.error (.alreadyExists (ofNames names))) ∧
      createIfMissing tree (ofNames names) = .unchanged tree (.ok ())
  /-- Where the path leads nowhere, the two operations are one. -/
  agree : ∀ error, tree.find .follow (ofNames names) = .error error →
    createIfMissing tree (ofNames names) = create tree (ofNames names)
  succeeds_iff : (create tree (ofNames names)).result = .ok () ↔
    Fits (ofNames names) ∧ ∃ gap : tree.Gap, gap.route = names ∧ gap.missing.all isShort = true
  isEmptyDirectory : (create tree (ofNames names)).result = .ok () →
    (create tree (ofNames names)).tree.IsEmptyDirectory (ofNames names)
  /-- A failure that leaves new directories is that of a name which is too long. -/
  failed : ∀ error failure, tree.find .follow (ofNames names) = .error error →
    (create tree (ofNames names)).result = .error failure →
      ∃ refusal, failure = .io (ofNames names) (.system refusal) ∧
        ((create tree (ofNames names)).tree = tree ∨ refusal = .nameTooLong)

theorem create_effect (tree : FileTree) (hne : names ≠ [])
    (hordinary : ∀ n ∈ names, ordinaryName n = true) : CreatesOnly tree names where
  adds := (create_adds hne hordinary).1
  adds_lenient := (create_adds hne hordinary).2
  existing _ _ := create_of_find
  agree error hfind := by
    obtain ⟨hcreate, hlenient⟩ := create_of_not_found hfind
    rw [hcreate, hlenient]
  succeeds_iff := by
    constructor
    · intro hok
      obtain ⟨hfits, gap, hroute, hshort, -⟩ := create_ok hne hordinary hok
      exact ⟨hfits, gap, hroute, hshort⟩
    · rintro ⟨hfits, gap, rfl, hshort⟩
      obtain ⟨error, hfind⟩ := gap.exists_find_error hordinary
      rw [(create_of_not_found hfind).1, make_route hordinary hfits]
      exact if_pos hshort
  isEmptyDirectory hok := by
    obtain ⟨hfits, gap, rfl, hshort, htree⟩ := create_ok hne hordinary hok
    rw [htree]
    exact gap.isEmptyDirectory_extend hordinary hshort hfits
  failed error failure hfind hfailure := by
    rw [(create_of_not_found hfind).1] at hfailure ⊢
    exact (makes_of_not_found hne hordinary hfind).failed hfailure

/-- Behind a link: the new directory is in the one that the link leads to. -/
theorem create_effect_link :
    let tree := (FileTree.empty.place ["d"] .directory).place ["l"] (.link "d")
    CreatesOnly tree ["l", "a"] ∧
      (create tree (ofNames ["l", "a"])).tree.node? ["d", "a"] = some .directory := by
  intro tree
  refine ⟨create_effect tree (by simp) (by decide), ?_⟩
  have hsteps : steps (ofNames ["l", "a"]) = .ok [.name "l", .name "a"] := rfl
  have htarget : steps "d" = .ok [.name "d"] := rfl
  have hworking : tree.working? = some [] := rfl
  have hlink : tree.node? ["l"] = some (.link "d") := by decide
  have hdirectory : tree.node? ["d"] = some .directory := by decide
  have hnone : tree.node? ["d", "a"] = none := by decide
  have hresolve (mode : Mode) : tree.resolve mode [.name "l", .name "a"] = .ok (.vacant ["d", "a"]) := by
    simp +decide [resolve, start?, hworking, walk, maxLinks, hlink, hdirectory, hnone, htarget]
  have hfind : tree.find .follow (ofNames ["l", "a"]) = .error .notFound := by
    simp [find, locate, hsteps, hresolve]
  have hmade : tree.makeDirectories (ofNames ["l", "a"]) = (.ok (), tree.place ["d", "a"] .directory) := by
    simp +decide [makeDirectories, hsteps, ancestors, significant, initialParts, makeFirstPossible, makeDirectory,
      trimmed, hresolve, makeEach]
  simp only [create, pathExists, hfind, make, hmade]
  decide

end Directory

end ConfigKit
