-- SUMMARY: Exactly which files a search lists, from any root.
import ConfigKit.Proofs.FileTree.Absence
import ConfigKit.Proofs.FileTree.Creation
import ConfigKit.Proofs.FileTree.PathEnd

/-!
# Searching for files

A search goes down from its root through directories alone and meets the files and links on its way. Links
are met and not followed, the root apart. `listFiles_exact` says which of them are listed under an
extension, that each is listed once, and from which roots there is nothing to list. A directory whose path
is too long cannot be opened, and so what it holds is not listed.
-/

namespace ConfigKit

namespace FileTree

variable {tree : FileTree} {links : Nat} {current goal location start : Location}
  {steps : List Path.Step} {node : Node} {names : List String} {path root : String}

/-! ## Going down -/

/-- What names lead to from a directory, if all on the way are directories. -/
inductive Reaches (tree : FileTree) : Location → List String → Node → Prop where
  | entry {location : Location} {name : String} {node : Node}
      (h : tree.node? (location ++ [name]) = some node) : Reaches tree location [name] node
  | down {location : Location} {name : String} {names : List String} {node : Node}
      (h : tree.node? (location ++ [name]) = some .directory)
      (hmore : Reaches tree (location ++ [name]) names node) : Reaches tree location (name :: names) node

/-- Every entry below a location is reached from there, because only directories hold entries. -/
theorem reaches_iff :
    tree.Reaches location names node ↔ names ≠ [] ∧ tree.node? (location ++ names) = some node := by
  constructor
  · intro h
    induction h with
    | entry h => exact ⟨by simp, h⟩
    | down h hmore ih => exact ⟨by simp, by simpa using ih.2⟩
  · rintro ⟨hne, hnode⟩
    induction names generalizing location with
    | nil => exact absurd rfl hne
    | cons name names ih =>
      by_cases hnames : names = []
      · subst hnames
        exact .entry hnode
      · rw [List.append_cons] at hnode
        exact .down (node?_above hnode hnames) (ih hnames hnode)

theorem Reaches.ordinary (h : tree.Reaches location names node) :
    ∀ name ∈ names, ordinaryName name = true :=
  fun name hname => ordinaryName_of_node? (reaches_iff.mp h).2 name (List.mem_append_right _ hname)

/-! ## Roots -/

/-- A walk that does not end in a directory ends with the name of what it finds. -/
theorem getLast?_of_walk_stay (h : tree.walk .stay links current steps = .ok (.found goal node))
    (hnode : node ≠ .directory) :
    ∃ name, steps.getLast? = some (.name name) ∧ goal.getLast? = some name := by
  have hcons (step : Path.Step) {rest : List Path.Step} {name : String}
      (hlast : rest.getLast? = some (.name name)) : (step :: rest).getLast? = some (.name name) := by
    rw [List.getLast?_cons, hlast]
    rfl
  fun_induction FileTree.walk tree .stay links current steps with
  | case1 links current =>
    cases h
    exact absurd rfl hnode
  | case2 links current rest ih | case3 links current rest ih | case4 links current rest ih
  | case5 links current rest ih =>
    obtain ⟨name, hlast, hgoal⟩ := ih h
    exact ⟨name, hcons _ hlast, hgoal⟩
  | case6 links current name rest hcreate => cases h
  | case7 links current name rest hcreate hlong => cases h
  | case8 links current name hshort hentry hcreate => cases h
  | case9 links current name rest hcreate hshort hentry hrest => cases h
  | case10 links current name rest hcreate hshort hentry ih =>
    obtain ⟨last, hlast, hgoal⟩ := ih h
    exact ⟨last, hcons _ hlast, hgoal⟩
  | case11 links current name hshort content hentry hcreate =>
    cases h
    exact ⟨name, rfl, by simp⟩
  | case12 links current name rest hcreate hshort content hentry hrest => cases h
  | case13 links current name rest hcreate hshort target hentry hend =>
    cases h
    exact ⟨name, by simp [hend.2], by simp⟩
  | case14 current name rest hcreate hshort target hentry hend => cases h
  | case15 current name rest hcreate hshort target hentry hend links error htarget => cases h
  | case16 current name rest hcreate hshort target hentry hend links steps htarget ih =>
    have hrest : rest ≠ [] := fun hrest => hend ⟨rfl, hrest⟩
    obtain ⟨last, hlast, hgoal⟩ := ih h
    rw [List.getLast?_append_of_ne_nil _ hrest] at hlast
    exact ⟨last, hcons _ hlast, hgoal⟩

theorem lastName_of_find_stay (h : tree.find .stay path = .ok (location, node))
    (hnode : node ≠ .directory) : location.getLast? = some (lastName path) := by
  obtain ⟨steps, hsteps, hresolve⟩ := find_eq_ok_iff.mp h
  obtain ⟨start, -, hwalk⟩ := resolve_eq_ok_iff.mp hresolve
  obtain ⟨name, hlast, hname⟩ := getLast?_of_walk_stay hwalk hnode
  rw [hname, Path.lastName_of_steps hsteps hlast]

/-! ## What a search meets -/

/-- The paths under which a search from a root meets files and links, with the locations of these. `opens`
says which paths of directories can be opened. -/
inductive Meets (tree : FileTree) (opens : String → Prop) (root : String) : String → Location → Prop where
  /-- The root is a file. -/
  | file {location : Location} {bytes : Bytes} (h : tree.find .stay root = .ok (location, .file bytes)) :
      Meets tree opens root root location
  /-- The root is a link that leads somewhere. -/
  | link {location goal : Location} {target : String} {node : Node}
      (h : tree.find .stay root = .ok (location, .link target))
      (hgoal : tree.find .follow root = .ok (goal, node)) : Meets tree opens root root location
  /-- The root is a directory, or a link to one, and the names lead down from there. -/
  | below {start : Location} {names : List String} {node : Node}
      (h : tree.find .follow root = .ok (start, .directory)) (hreach : tree.Reaches start names node)
      (hnode : node ≠ .directory)
      (hopens : ∀ front, front <+: names → front ≠ names → opens (Path.joinAll root front)) :
      Meets tree opens root (Path.joinAll root names) (start ++ names)

/-- The paths that the system takes. -/
def shortPath (path : String) : Prop := path.utf8ByteSize < Path.pathBytesLimit

/-- The longest path of a directory on the way decides. -/
theorem shortPath_fronts_iff {front : List String} {name : String} :
    (∀ other, other <+: front ++ [name] → other ≠ front ++ [name] → shortPath (Path.joinAll root other)) ↔
      shortPath (Path.joinAll root front) := by
  constructor
  · exact fun h => h front (List.prefix_append _ _) (by simp)
  · intro h other hother hne
    obtain ⟨more, rfl⟩ := (List.prefix_concat_iff.mp hother).resolve_left hne
    rw [Path.joinAll_append] at h
    exact Nat.lt_of_le_of_lt (Path.utf8ByteSize_le_joinAll _ _) h

theorem mem_filesBelow_iff :
    path ∈ tree.filesBelow root start ↔ ∃ names node, tree.Reaches start names node ∧ node ≠ .directory ∧
      (∀ front, front <+: names → front ≠ names → shortPath (Path.joinAll root front)) ∧
      Path.joinAll root names = path := by
  unfold filesBelow
  constructor
  · intro h
    obtain ⟨⟨names, node⟩, hentry, hpath⟩ := List.mem_map.mp h
    obtain ⟨hbelow, hmet⟩ := List.mem_filter.mp hentry
    have hreach := reaches_iff.mpr (mem_below_iff.mp hbelow)
    obtain ⟨front, name, rfl⟩ := List.eq_nil_or_concat' names |>.resolve_left (mem_below_iff.mp hbelow).1
    simp only [isMet, Bool.and_eq_true, decide_eq_true_eq, List.dropLast_concat] at hmet
    exact ⟨_, node, hreach, hmet.1, shortPath_fronts_iff.mpr hmet.2, hpath⟩
  · rintro ⟨names, node, hreach, hnode, hopens, rfl⟩
    have hbelow := mem_below_iff.mpr (reaches_iff.mp hreach)
    obtain ⟨front, name, rfl⟩ := List.eq_nil_or_concat' names |>.resolve_left (mem_below_iff.mp hbelow).1
    refine List.mem_map.mpr ⟨(_, node), List.mem_filter.mpr ⟨hbelow, ?_⟩, rfl⟩
    simp only [isMet, Bool.and_eq_true, decide_eq_true_eq, List.dropLast_concat]
    exact ⟨hnode, shortPath_fronts_iff.mp hopens⟩

theorem exists_meets_below (hroot : tree.find .follow root = .ok (start, .directory))
    (hpath : path ∈ tree.filesBelow root start) : ∃ location, tree.Meets shortPath root path location := by
  obtain ⟨names, node, hreach, hnode, hopens, rfl⟩ := mem_filesBelow_iff.mp hpath
  exact ⟨_, .below hroot hreach hnode hopens⟩

/-- A search meets what it gives, by what its root is. -/
theorem exists_meets_of_mem (hpath : path ∈ tree.filesFrom root) :
    ∃ location, tree.Meets shortPath root path location := by
  unfold filesFrom at hpath
  split at hpath
  · cases hpath
  · rename_i hroot
    exact exists_meets_below (find_follow_of_stay hroot (by simp)) hpath
  · rename_i hroot
    obtain rfl := List.mem_singleton.mp hpath
    exact ⟨_, .file hroot⟩
  · rename_i hroot
    split at hpath
    · cases hpath
    · rename_i hgoal
      rcases List.mem_cons.mp hpath with rfl | hbelow
      · exact ⟨_, .link hroot hgoal⟩
      · exact exists_meets_below hgoal hbelow
    · rename_i hgoal
      obtain rfl := List.mem_singleton.mp hpath
      exact ⟨_, .link hroot hgoal⟩

/-- Below a root that leads to a directory, at once or by a link, everything is given. -/
theorem filesBelow_subset (hroot : tree.find .follow root = .ok (start, .directory)) :
    tree.filesBelow root start ⊆ tree.filesFrom root := by
  obtain ⟨location, node, hstay⟩ := exists_find_stay (by simp) hroot
  cases node with
  | directory =>
    rw [find_follow_of_stay hstay (by simp)] at hroot
    cases hroot
    simp [filesFrom, hstay]
  | file bytes =>
    rw [find_follow_of_stay hstay (by simp)] at hroot
    cases hroot
  | link target =>
    simp [filesFrom, hstay, hroot]

theorem mem_filesFrom_iff :
    path ∈ tree.filesFrom root ↔ ∃ location, tree.Meets shortPath root path location := by
  refine ⟨exists_meets_of_mem, ?_⟩
  rintro ⟨location, hmeets⟩
  cases hmeets with
  | file hroot => simp [filesFrom, hroot]
  | link hroot hgoal =>
    simp only [filesFrom, hroot, hgoal]
    split <;> simp_all
  | below hroot hreach hnode hopens =>
    exact filesBelow_subset hroot (mem_filesBelow_iff.mpr ⟨_, _, hreach, hnode, hopens, rfl⟩)

theorem Meets.getLast?_eq {opens : String → Prop} (h : tree.Meets opens root path location) :
    location.getLast? = some (lastName path) := by
  cases h with
  | file hroot => exact lastName_of_find_stay hroot (by simp)
  | link hroot hgoal => exact lastName_of_find_stay hroot (by simp)
  | below hroot hreach hnode hopens =>
    rename_i start names node
    obtain ⟨front, name, rfl⟩ := List.eq_nil_or_concat' names |>.resolve_left (reaches_iff.mp hreach).1
    have hordinary := hreach.ordinary name (by simp)
    rw [Path.joinAll_concat, Path.lastName_join _ (Path.ordinaryName_iff.mp hordinary).2.2.2]
    simp [← List.append_assoc]

/-! ## No path twice -/

theorem nodup_filesBelow (tree : FileTree) (root : String) (start : Location) :
    (tree.filesBelow root start).Nodup := by
  refine List.pairwise_map.mpr (List.Pairwise.imp_of_mem ?_ ((tree.below_pairwise start).filter _))
  rintro ⟨names, node⟩ ⟨others, node'⟩ hentry hentry' hne hpath
  have hnames := mem_below_iff.mp (List.mem_filter.mp hentry).1
  have hothers := mem_below_iff.mp (List.mem_filter.mp hentry').1
  exact hne (Path.joinAll_inj hnames.1 (reaches_iff.mpr hnames).ordinary hothers.1
    (reaches_iff.mpr hothers).ordinary hpath)

theorem root_not_mem_filesBelow (tree : FileTree) (root : String) (start : Location) :
    root ∉ tree.filesBelow root start := by
  intro hroot
  obtain ⟨names, node, hreach, -, -, hpath⟩ := mem_filesBelow_iff.mp hroot
  exact Path.joinAll_ne_root (reaches_iff.mp hreach).1 hreach.ordinary hpath

theorem nodup_filesFrom (tree : FileTree) (root : String) : (tree.filesFrom root).Nodup := by
  unfold filesFrom
  split
  · exact List.nodup_nil
  · exact nodup_filesBelow _ _ _
  · exact List.pairwise_singleton _ root
  · split
    · exact List.nodup_nil
    · exact List.nodup_cons.mpr ⟨root_not_mem_filesBelow _ _ _, nodup_filesBelow _ _ _⟩
    · exact List.pairwise_singleton _ root

/-! ## Listing -/

/-- An extension is given as it is wanted, or with one dot before it. -/
def Spells (ext wanted : String) : Prop :=
  ext = "." ++ wanted ∨ ext = wanted ∧ ∀ rest, ext ≠ "." ++ rest

theorem exists_wanted (tree : FileTree) (root ext : String) :
    ∃ wanted, Spells ext wanted ∧ (tree.listFiles root ext).1
      = (tree.filesFrom root).filter fun path => Path.extension (lastName path) = wanted := by
  refine ⟨_, ?_, rfl⟩
  split
  · rename_i hdot
    obtain ⟨cs, hcs⟩ := List.head?_eq_some_iff.mp hdot
    exact .inl (String.toList_inj.mp (by simp [hcs]))
  · rename_i hdot
    refine .inr ⟨rfl, ?_⟩
    rintro rest rfl
    simp at hdot

/-- Listing gives each file or link that a search from the root meets under the wanted extension, and each
once: the root itself if it is a file or a link that leads somewhere, and what is below a root that leads
to a directory. From a root that leads nowhere there is nothing to list. -/
theorem listFiles_exact (tree : FileTree) (root ext : String) :
    (tree.listFiles root ext).1.Nodup ∧
    (∃ wanted, Spells ext wanted ∧ ∀ path, path ∈ (tree.listFiles root ext).1 ↔
      ∃ location name, tree.Meets shortPath root path location ∧ location.getLast? = some name ∧
        Path.HasExtension name wanted) ∧
    ((∀ location node, tree.find .follow root ≠ .ok (location, node)) →
      (tree.listFiles root ext).1 = []) := by
  obtain ⟨wanted, hspells, hlist⟩ := exists_wanted tree root ext
  have hmem (path : String) : path ∈ (tree.listFiles root ext).1 ↔
      ∃ location name, tree.Meets shortPath root path location ∧ location.getLast? = some name ∧
        Path.HasExtension name wanted := by
    rw [hlist, List.mem_filter, mem_filesFrom_iff, decide_eq_true_eq, Path.extension_eq_iff]
    constructor
    · rintro ⟨⟨location, hmeets⟩, hext⟩
      exact ⟨location, _, hmeets, hmeets.getLast?_eq, hext⟩
    · rintro ⟨location, name, hmeets, hname, hext⟩
      obtain rfl : lastName path = name := by simpa [hmeets.getLast?_eq] using hname
      exact ⟨⟨location, hmeets⟩, hext⟩
  refine ⟨hlist ▸ (nodup_filesFrom tree root).filter _, ⟨wanted, hspells, hmem⟩, fun hnowhere => ?_⟩
  rw [List.eq_nil_iff_forall_not_mem]
  intro path hpath
  obtain ⟨location, name, hmeets, -⟩ := (hmem path).mp hpath
  cases hmeets with
  | file hroot => exact hnowhere _ _ (find_follow_of_stay hroot (by simp))
  | link hroot hgoal => exact hnowhere _ _ hgoal
  | below hroot => exact hnowhere _ _ hroot

theorem Spells.eq_of_dot {ext plain wanted : String} (h : Spells ext wanted) (hext : ext = "." ++ plain) :
    wanted = plain := by
  rcases h with hdot | ⟨-, hplain⟩
  · have hchars := congrArg String.toList (hext.symm.trans hdot)
    exact (String.toList_inj.mp (by simpa using hchars)).symm
  · exact absurd hext (hplain plain)

/-- A link to a directory as the root: the link in it is listed as itself, also where it leads nowhere. Taken
as the root, that link gives nothing. -/
theorem listFiles_exact_link :
    let tree := ((FileTree.empty.place ["d"] .directory).place ["d", "l.txt"] (.link "away")).place ["r"]
      (.link "d")
    (∃ location name, tree.Meets shortPath "r" "r/l.txt" location ∧ location.getLast? = some name ∧
      Path.HasExtension name "txt") ∧
    (tree.listFiles "d/l.txt" ".txt").1 = [] := by
  intro tree
  have hworking : tree.working? = some [] := rfl
  have hdirectory : tree.node? ["d"] = some .directory := by decide
  have hroot : tree.node? ["r"] = some (.link "d") := by decide
  have hlink : tree.node? ["d", "l.txt"] = some (.link "away") := by decide
  have hnone : tree.node? ["d", "away"] = none := by decide
  have hpaths : Path.steps "r" = .ok [.name "r"] ∧ Path.steps "d" = .ok [.name "d"] ∧
      Path.steps "away" = .ok [.name "away"] ∧ Path.steps "d/l.txt" = .ok [.name "d", .name "l.txt"] :=
    ⟨rfl, rfl, rfl, rfl⟩
  have hstay : tree.find .stay "r" = .ok (["r"], .link "d") := by
    simp +decide [find, locate, hpaths, resolve, start?, hworking, walk, maxLinks, hroot]
  have hfollow : tree.find .follow "r" = .ok (["d"], .directory) := by
    simp +decide [find, locate, hpaths, resolve, start?, hworking, walk, maxLinks, hroot, hdirectory]
  have hfind : tree.find .follow "d/l.txt" = .error .notFound := by
    simp +decide [find, locate, hpaths, resolve, start?, hworking, walk, maxLinks, hdirectory, hlink, hnone]
  have hlist : (tree.listFiles "r" ".txt").1 = ["r/l.txt"] := by
    simp only [listFiles, filesFrom, hstay, hfollow]
    decide +kernel
  clear_value tree
  obtain ⟨-, ⟨wanted, hspells, hmem⟩, -⟩ := listFiles_exact tree "r" ".txt"
  obtain rfl : wanted = "txt" := hspells.eq_of_dot (by decide)
  refine ⟨(hmem "r/l.txt").mp (by rw [hlist]; exact List.mem_singleton_self _), ?_⟩
  refine (listFiles_exact tree "d/l.txt" ".txt").2.2 fun location node h => ?_
  rw [hfind] at h
  cases h

/-- What a directory with a path that is too long holds is not given. -/
theorem not_mem_filesFrom_of_long {front : List String}
    (hroot : tree.find .stay root = .ok (start, .directory)) (hreach : tree.Reaches start names node)
    (hfront : front <+: names) (hne : front ≠ names) (hlong : ¬ shortPath (Path.joinAll root front)) :
    Path.joinAll root names ∉ tree.filesFrom root := by
  have hfiles : tree.filesFrom root = tree.filesBelow root start := by
    simp [filesFrom, hroot]
  rw [hfiles, mem_filesBelow_iff]
  rintro ⟨others, node', hothers, -, hopens, hpath⟩
  obtain rfl := Path.joinAll_inj (reaches_iff.mp hothers).1 hothers.ordinary (reaches_iff.mp hreach).1
    hreach.ordinary hpath
  exact hlong (hopens front hfront hne)

/-- A file is not listed below a root with slashes at its end if they make the path of its directory too
long. -/
theorem not_listed_of_long {long : String} (hlong : ordinaryName long = true)
    (hsteps : Path.steps root = .ok [.name "d", .slash])
    (hsize : Path.pathBytesLimit ≤ root.utf8ByteSize + long.utf8ByteSize) :
    let tree := (FileTree.empty.extend [] ["d", long]).place ["d", long, "x.yaml"] (.file [])
    ¬ ∀ path, path ∈ (tree.listFiles root ".yaml").1 ↔
      ∃ location name, tree.Meets (fun _ => True) root path location ∧ location.getLast? = some name ∧
        Path.HasExtension name "yaml" := by
  intro tree h
  have hspace : FileTree.empty.HasSpace [] ["d", long] := by
    refine ⟨rfl, ?_, fun _ _ => rfl⟩
    simp [hlong, show ordinaryName "d" = true by decide]
  have hroom : (FileTree.empty.extend [] ["d", long]).hasRoom (["d", long] ++ ["x.yaml"]) = true := by
    refine hasRoom_concat.mpr ⟨by decide, hspace.node?_extend_front (by simp) (List.prefix_refl _), ?_⟩
    have hnone : (FileTree.empty.extend [] ["d", long]).node? (["d", long] ++ ["x.yaml"]) = none :=
      hspace.node?_extend_below (by simp) (List.prefix_append _ _) (by simp)
    rw [hnone]
    exact Option.some_ne_none _ ∘ Eq.symm
  have hplaced (other : Location) : tree.node? other = if other = ["d", long, "x.yaml"]
      then some (.file []) else (FileTree.empty.extend [] ["d", long]).node? other :=
    node?_place hroom (.file []) other
  have hdirectory : tree.node? ([] ++ ["d"]) = some .directory := by
    rw [hplaced, if_neg (by simp)]
    exact hspace.node?_extend_front (by simp) (by simp)
  have hreach : tree.Reaches ["d"] [long, "x.yaml"] (.file []) :=
    reaches_iff.mpr ⟨by simp, (hplaced _).trans (if_pos rfl)⟩
  have hroot (mode : Mode) (hmode : mode ≠ .create) : tree.find mode root = .ok (["d"], .directory) := by
    have hworking : tree.working? = some [] := by
      rw [working?_place]
      exact hspace.grows_extend.working?_eq_some [] rfl
    refine find_eq_ok_iff.mpr ⟨_, hsteps, resolve_eq_ok_iff.mpr ⟨[], hworking, ?_⟩⟩
    rw [walk_directory (by simp [hmode]) (by decide) hdirectory, walk, walk, List.nil_append]
  have hjoined : ¬ shortPath (Path.joinAll root [long]) :=
    Nat.not_lt.mpr (Nat.le_trans hsize (Path.utf8ByteSize_le_join root long))
  refine not_mem_filesFrom_of_long (hroot .stay (by simp)) hreach (List.prefix_append [long] ["x.yaml"])
    (by simp) hjoined (List.mem_filter.mp ((h _).mpr ?_)).1
  exact ⟨_, "x.yaml", .below (hroot .follow (by simp)) hreach (by simp) (fun _ _ _ => trivial), rfl,
    .dotted (show "x.yaml" = "x" ++ "." ++ "yaml" by decide) (by decide) (by decide)⟩

/-- With 3900 slashes after the root, a directory with a name of 200 letters cannot be opened. -/
theorem listFiles_of_long_path :
    let long := String.ofList (List.replicate 200 'n')
    let tree := (FileTree.empty.extend [] ["d", long]).place ["d", long, "x.yaml"] (.file [])
    let root := "d" ++ String.ofList (List.replicate 3900 '/')
    ¬ ∀ path, path ∈ (tree.listFiles root ".yaml").1 ↔
      ∃ location name, tree.Meets (fun _ => True) root path location ∧ location.getLast? = some name ∧
        Path.HasExtension name "yaml" := by
  refine not_listed_of_long (by decide +kernel)
    (Path.steps_slashes (by decide) (by decide) (by decide)) ?_
  rw [String.utf8ByteSize_append, Path.utf8ByteSize_replicate rfl, Path.utf8ByteSize_replicate rfl]
  decide

end FileTree

end ConfigKit
