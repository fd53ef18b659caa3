-- SUMMARY: What making directories does at the first gap on the way.
import ConfigKit.FileTree.System
import ConfigKit.Proofs.FileTree.NamedPath

/-!
# Making directories

Making a directory at a path of names that leads to none finds the first name on the way under which
nothing is, the gap, or changes nothing (`makeDirectories_of_not_reached`). At the gap it puts a chain of
new directories, one for each name from that one on. A name that is too long ends the chain early
(`Gap.makeDirectories_route`).
-/

namespace ConfigKit

namespace FileTree

open ConfigKit.Path

variable {tree : FileTree} {directory other : Location} {names new : List String} {name : String}

/-! ## Chains of new directories -/

/-- Whether a name is short enough for an entry. -/
def isShort (name : String) : Bool := name.utf8ByteSize ≤ maxNameBytes

/-- A chain of directories under these names, each in the one before. -/
def extend (tree : FileTree) (directory : Location) : List String → FileTree
  | [] => tree
  | name :: rest => (tree.place (directory ++ [name]) .directory).extend (directory ++ [name]) rest

/-- A chain of directories can be put under these names. -/
structure HasSpace (tree : FileTree) (directory : Location) (names : List String) : Prop where
  node?_directory : tree.node? directory = some .directory
  ordinary : ∀ name ∈ names, ordinaryName name = true
  vacant : ∀ name ∈ names.head?, tree.node? (directory ++ [name]) = none

namespace HasSpace

theorem hasRoom (h : tree.HasSpace directory (name :: names)) :
    tree.hasRoom (directory ++ [name]) = true := by
  refine hasRoom_concat.mpr ⟨h.ordinary name List.mem_cons_self, h.node?_directory, ?_⟩
  rw [h.vacant name rfl]
  simp

theorem node?_place (h : tree.HasSpace directory (name :: names)) (other : Location) :
    (tree.place (directory ++ [name]) .directory).node? other
      = if other = directory ++ [name] then some .directory else tree.node? other :=
  FileTree.node?_place h.hasRoom .directory other

/-- Nothing is where the first directory goes, nor below. -/
theorem node?_eq_none (h : tree.HasSpace directory (name :: names))
    (hbelow : directory ++ [name] <+: other) : tree.node? other = none := by
  have hvacant := h.vacant name rfl
  by_cases hsame : other = directory ++ [name]
  · rw [hsame, hvacant]
  · exact node?_below_eq_none (by simp [hvacant]) hbelow hsame

theorem place (h : tree.HasSpace directory (name :: names)) :
    (tree.place (directory ++ [name]) .directory).HasSpace (directory ++ [name]) names where
  node?_directory := by rw [h.node?_place, if_pos rfl]
  ordinary other hother := h.ordinary other (List.mem_cons_of_mem _ hother)
  vacant next _ := by
    rw [h.node?_place, if_neg (by simp)]
    exact h.node?_eq_none (List.prefix_append (directory ++ [name]) [next])

theorem grows_extend (h : tree.HasSpace directory names) : tree.Grows (tree.extend directory names) := by
  induction names generalizing tree directory with
  | nil => exact grows_refl tree
  | cons name rest ih => exact (grows_place (h.vacant name rfl) .directory).trans (ih h.place)

/-- The chain changes nothing outside its own places. -/
theorem node?_extend_of_ne (h : tree.HasSpace directory names)
    (hother : ∀ front, front ≠ [] → front <+: names → other ≠ directory ++ front) :
    (tree.extend directory names).node? other = tree.node? other := by
  induction names generalizing tree directory with
  | nil => rfl
  | cons name rest ih =>
    have hname : other ≠ directory ++ [name] :=
      hother [name] (by simp) (List.prefix_append [name] rest)
    rw [extend, ih h.place, h.node?_place, if_neg hname]
    intro front _ hfront
    have hlonger := hother (name :: front) (by simp) ((List.prefix_cons_inj name).mpr hfront)
    rwa [List.append_assoc, List.singleton_append]

/-- A directory of the chain stands at each of its places. -/
theorem node?_extend_front (h : tree.HasSpace directory names) {front : List String} (hne : front ≠ [])
    (hfront : front <+: names) :
    (tree.extend directory names).node? (directory ++ front) = some .directory := by
  induction names generalizing tree directory front with
  | nil => exact absurd (List.prefix_nil.mp hfront) hne
  | cons name rest ih =>
    cases front with
    | nil => exact absurd rfl hne
    | cons first more =>
      obtain ⟨rfl, hmore⟩ := List.cons_prefix_cons.mp hfront
      have hplaces : directory ++ first :: more = (directory ++ [first]) ++ more := by simp
      rw [extend, hplaces]
      by_cases hnil : more = []
      · rw [hnil, List.append_nil, h.place.node?_extend_of_ne (by simp_all)]
        exact h.place.node?_directory
      · exact ih h.place hnil hmore

/-- Nothing is below the last place of the chain. -/
theorem node?_extend_below (h : tree.HasSpace directory names) (hne : names ≠ [])
    (hbelow : directory ++ names <+: other) (hother : other ≠ directory ++ names) :
    (tree.extend directory names).node? other = none := by
  rw [h.node?_extend_of_ne]
  · cases names with
    | nil => exact absurd rfl hne
    | cons name rest =>
      have hfirst : directory ++ [name] <+: directory ++ name :: rest :=
        (List.prefix_append_right_inj directory).mpr (List.prefix_append [name] rest)
      exact h.node?_eq_none (hfirst.trans hbelow)
  · rintro front - hfront rfl
    have hnames := (List.prefix_append_right_inj directory).mp hbelow
    exact hother (by rw [hfront.eq_of_length_le hnames.length_le])

end HasSpace

/-! ## One directory after the other -/

theorem makeDirectory_descent (tree : FileTree) (front : List String) (name : String) :
    tree.makeDirectory (descent (front ++ [name]))
      = (tree.reach (descent front)).bind fun reached =>
          if maxNameBytes < name.utf8ByteSize then .error .nameTooLong
          else if tree.node? (reached.2 ++ [name]) = none then
            .ok (tree.place (reached.2 ++ [name]) .directory)
          else .error .fileExists := by
  rw [makeDirectory, trimmed_descent, resolve_descent]
  cases tree.reach (descent front) with
  | error error => rfl
  | ok reached =>
    simp only [Except.bind, walk_stay_name]
    by_cases hlong : maxNameBytes < name.utf8ByteSize
    · simp only [if_pos hlong]
    · cases tree.node? (reached.2 ++ [name]) with
      | none => simp [hlong]
      | some node => simp [hlong]

theorem leadsToDirectory_iff (tree : FileTree) (steps : List Step) :
    tree.leadsToDirectory steps = true ↔
      ∃ left goal, tree.reach steps = .ok (left, goal) := by
  constructor
  · intro h
    unfold leadsToDirectory at h
    split at h
    · rename_i goal hresolve
      obtain ⟨left, hreach⟩ := resolve_follow_iff.mp hresolve
      exact ⟨left, goal, hreach⟩
    · cases h
  · rintro ⟨left, goal, hreach⟩
    rw [leadsToDirectory, resolve_follow_iff.mpr ⟨left, hreach⟩]

theorem reach_descent_concat {front : List String} {left : Nat}
    (hreach : tree.reach (descent front) = .ok (left, directory))
    (hshort : isShort name = true) (hnode : tree.node? (directory ++ [name]) = some .directory) :
    tree.reach (descent (front ++ [name])) = .ok (left, directory ++ [name]) := by
  have hname : ¬ maxNameBytes < name.utf8ByteSize := by simpa [isShort] using hshort
  rw [reach_descent_append, hreach]
  simp [Except.bind, descent, approach, hname, hnode]

/-- The names of a path with one, two and more of the further names. -/
def continuations (front : List String) : List String → List (List String)
  | [] => []
  | name :: rest => (front ++ [name]) :: continuations (front ++ [name]) rest

theorem continuations_concat (front names : List String) (name : String) :
    continuations front (names ++ [name]) = continuations front names ++ [front ++ names ++ [name]] := by
  induction names generalizing front with
  | nil => simp [continuations]
  | cons first rest ih => simp [continuations, ih]

theorem makeEach_continuations {front : List String} {left : Nat}
    (hreach : tree.reach (descent front) = .ok (left, directory))
    (hspace : tree.HasSpace directory new) :
    tree.makeEach ((continuations front new).map descent)
      = (if new.all isShort then .ok () else .error .nameTooLong,
          tree.extend directory (new.takeWhile isShort)) := by
  induction new generalizing tree front directory with
  | nil => rfl
  | cons name rest ih =>
    rw [continuations, List.map_cons, makeEach, makeDirectory_descent, hreach]
    by_cases hshort : isShort name = true
    · have hname : ¬ maxNameBytes < name.utf8ByteSize := by simpa [isShort] using hshort
      have hgrown := (grows_place (hspace.vacant name rfl) .directory).reach hreach
      have hnext := reach_descent_concat hgrown hshort hspace.place.node?_directory
      simp only [Except.bind, if_neg hname, hspace.vacant name rfl, if_true]
      rw [ih hnext hspace.place, List.all_cons, hshort, Bool.true_and,
        List.takeWhile_cons_of_pos hshort, extend]
    · have hname : maxNameBytes < name.utf8ByteSize := by simpa [isShort] using hshort
      simp [Except.bind, hname, hshort, List.takeWhile_cons_of_neg hshort, extend]

/-! ## The first gap on the way -/

theorem initialParts_concat (steps : List Step) (step : Step) :
    initialParts (steps ++ [step]) = (steps ++ [step]) :: initialParts steps := by
  induction steps with
  | nil => rfl
  | cons first rest ih => simp [initialParts, ih]

theorem significant_descent (names : List String) : significant (descent names) = descent names := by
  cases names with
  | nil => rfl
  | cons name rest => simp [descent, significant, List.filter_eq_self]

theorem ancestors_descent (hne : names ≠ []) :
    ancestors (descent names) = initialParts (descent names) := by
  induction names using List.reverseRecOn with
  | nil => exact absurd rfl hne
  | append_singleton front name =>
    have hconcat : descent (front ++ [name]) = descent front ++ [.name name] := descent_append _ _
    rw [ancestors, significant_descent, hconcat, List.dropLast_concat, initialParts_concat]

/-- The first name of a path under which nothing is: the names before it lead to a directory. -/
structure Gap (tree : FileTree) where
  front : List String
  name : String
  rest : List String
  left : Nat
  directory : Location
  reached : tree.reach (descent front) = .ok (left, directory)
  short : isShort name = true
  vacant : tree.node? (directory ++ [name]) = none

namespace Gap

/-- The names of the directories that are missing. -/
def missing (gap : tree.Gap) : List String := gap.name :: gap.rest

/-- All names of the path that has the gap. -/
def route (gap : tree.Gap) : List String := gap.front ++ gap.missing

/-- A further name does not change where the first gap is. -/
def before (gap : tree.Gap) (last : String) : tree.Gap := { gap with rest := gap.rest ++ [last] }

theorem route_before (gap : tree.Gap) (last : String) :
    (gap.before last).route = gap.route ++ [last] := by
  simp [before, route, missing]

theorem hasSpace (gap : tree.Gap) (hordinary : ∀ name ∈ gap.route, ordinaryName name = true) :
    tree.HasSpace gap.directory gap.missing where
  node?_directory := node?_of_reach gap.reached
  ordinary name hname := hordinary name (List.mem_append_right _ hname)
  vacant name hname := by
    obtain rfl : gap.name = name := by simpa [missing] using hname
    exact gap.vacant

theorem prefix_of_chain {gap : tree.Gap} {chain : List String} (hne : chain ≠ [])
    (hchain : chain <+: gap.missing) :
    gap.directory ++ [gap.name] <+: gap.directory ++ chain := by
  cases chain with
  | nil => exact absurd rfl hne
  | cons first rest =>
    obtain ⟨rfl, -⟩ := List.cons_prefix_cons.mp hchain
    exact (List.prefix_append_right_inj _).mpr (List.prefix_append [gap.name] rest)

end Gap

theorem reach_nil {start : Location} (hworking : tree.working? = some start) :
    tree.reach (descent []) = .ok (maxLinks, start) := by
  rw [reach, start?_descent, hworking]
  simp [descent, approach]

/-- Either the system refuses to make the directory or one above it, or the path has a gap. -/
theorem exists_gap_of_not_reached {start : Location} (hworking : tree.working? = some start)
    (hlost : ∀ left goal, tree.reach (descent names) ≠ .ok (left, goal)) :
    (∃ error, tree.makeFirstPossible (initialParts (descent names)) = .error error) ∨
      ∃ gap : tree.Gap, gap.route = names := by
  induction names using List.reverseRecOn with
  | nil => exact absurd (reach_nil hworking) (hlost maxLinks start)
  | append_singleton front name ih =>
    have hconcat : descent (front ++ [name]) = descent front ++ [.name name] := descent_append _ _
    have hnot : tree.leadsToDirectory (descent (front ++ [name])) = false := by
      rw [Bool.eq_false_iff, ne_eq, leadsToDirectory_iff]
      rintro ⟨left, goal, hreach⟩
      exact hlost left goal hreach
    rw [hconcat, initialParts_concat, ← hconcat, makeFirstPossible, makeDirectory_descent]
    cases hreach : tree.reach (descent front) with
    | ok reached =>
      obtain ⟨left, directory⟩ := reached
      simp only [Except.bind]
      by_cases hlong : maxNameBytes < name.utf8ByteSize
      · exact .inl ⟨.nameTooLong, by simp [hlong]⟩
      · by_cases hvacant : tree.node? (directory ++ [name]) = none
        · have hshort : isShort name = true := by simpa [isShort] using hlong
          exact .inr ⟨⟨front, name, [], left, directory, hreach, hshort, hvacant⟩, rfl⟩
        · exact .inl ⟨.fileExists, by simp [hlong, hvacant, hnot]⟩
    | error error =>
      -- The front is not reached either, so only a missing directory on the way lets the search go on.
      have hlostFront : ∀ left goal, tree.reach (descent front) ≠ .ok (left, goal) := by
        intro left goal
        rw [hreach]
        simp
      simp only [Except.bind, hnot]
      by_cases hmissing : error = .notFound
      · subst hmissing
        rcases ih hlostFront with ⟨error, herror⟩ | ⟨gap, rfl⟩
        · exact .inl ⟨error, by simp [herror]⟩
        · exact .inr ⟨gap.before name, gap.route_before name⟩
      · refine .inl ⟨error, ?_⟩
        cases error <;> simp_all

namespace Gap

theorem reach_route (gap : tree.Gap) :
    tree.reach (descent gap.route) = .error .notFound := by
  have hshort : ¬ maxNameBytes < gap.name.utf8ByteSize := by simpa [isShort] using gap.short
  rw [route, reach_descent_append, gap.reached]
  simp [Except.bind, missing, descent, approach, hshort, gap.vacant]

/-- Of the directories that are missing the first one is made, and the others are left to be made in it. -/
theorem makeFirstPossible_route (gap : tree.Gap) :
    tree.makeFirstPossible (initialParts (descent gap.route))
      = .ok (tree.place (gap.directory ++ [gap.name]) .directory,
          (continuations (gap.front ++ [gap.name]) gap.rest).map descent) := by
  obtain ⟨front, name, rest, left, directory, hreached, hshort, hvacant⟩ := gap
  have hname : ¬ maxNameBytes < name.utf8ByteSize := by simpa [isShort] using hshort
  induction rest using List.reverseRecOn with
  | nil =>
    have hconcat : descent (front ++ [name]) = descent front ++ [.name name] := descent_append _ _
    simp only [route, missing, continuations, List.map_nil]
    rw [hconcat, initialParts_concat, ← hconcat, makeFirstPossible, makeDirectory_descent, hreached]
    simp [Except.bind, hname, hvacant]
  | append_singleton rest last ih =>
    -- Its own directory is missing, so the last name waits for the names before it.
    let shorter : tree.Gap := ⟨front, name, rest, left, directory, hreached, hshort, hvacant⟩
    have hconcat : descent (shorter.route ++ [last]) = descent shorter.route ++ [.name last] :=
      descent_append _ _
    have hroute : front ++ name :: (rest ++ [last]) = shorter.route ++ [last] := by
      simp [shorter, route, missing]
    have hnames : front ++ [name] ++ rest ++ [last] = shorter.route ++ [last] := by
      simp [shorter, route, missing]
    simp only [route, missing] at ih ⊢
    rw [hroute, hconcat, initialParts_concat, ← hconcat, makeFirstPossible, makeDirectory_descent,
      shorter.reach_route, continuations_concat, hnames]
    simp only [Except.bind, shorter, route, missing, ih, List.map_append, List.map_cons, List.map_nil]

/-- The directories from the gap on are made, up to the first name that is too long. -/
theorem makeDirectories_route (gap : tree.Gap) (hordinary : ∀ name ∈ gap.route, ordinaryName name = true)
    (hfits : Fits (ofNames gap.route)) :
    tree.makeDirectories (ofNames gap.route)
      = (if gap.missing.all isShort then .ok () else .error .nameTooLong,
          tree.extend gap.directory (gap.missing.takeWhile isShort)) := by
  have hne : gap.route ≠ [] := by simp [route, missing]
  have hspace := gap.hasSpace hordinary
  have hgrown := (grows_place gap.vacant .directory).reach gap.reached
  have hreach := reach_descent_concat hgrown gap.short hspace.place.node?_directory
  rw [makeDirectories, if_neg (not_isTop_ofNames hne hordinary), steps_ofNames hne hordinary hfits]
  simp only [ancestors_descent hne, gap.makeFirstPossible_route,
    makeEach_continuations hreach hspace.place]
  rw [missing, List.takeWhile_cons_of_pos gap.short, List.all_cons, gap.short, Bool.true_and, extend]

end Gap

section Lost

/-! Without a working directory no directory is made at a path of names. -/

variable (hlost : tree.working? = none)
include hlost

theorem makeDirectory_of_lost (names : List String) :
    tree.makeDirectory (descent names) = .error .notFound := by
  rw [makeDirectory, trimmed_descent, resolve, start?_descent, hlost]

/-- Every directory on the way is left to be made. -/
theorem makeFirstPossible_of_lost (names : List String) :
    tree.makeFirstPossible (initialParts (descent names))
      = .ok (tree, (continuations [] names).map descent) := by
  induction names using List.reverseRecOn with
  | nil => rfl
  | append_singleton front name ih =>
    have hconcat : descent (front ++ [name]) = descent front ++ [.name name] := descent_append _ _
    rw [hconcat, initialParts_concat, ← hconcat, makeFirstPossible, makeDirectory_of_lost hlost,
      continuations_concat]
    simp [ih]

theorem makeDirectories_of_lost (hne : names ≠ [])
    (hordinary : ∀ name ∈ names, ordinaryName name = true) (hfits : Fits (ofNames names)) :
    tree.makeDirectories (ofNames names) = (.error .notFound, tree) := by
  rw [makeDirectories, if_neg (not_isTop_ofNames hne hordinary), steps_ofNames hne hordinary hfits]
  simp only [ancestors_descent hne, makeFirstPossible_of_lost hlost]
  obtain ⟨name, rest, rfl⟩ := List.exists_cons_of_ne_nil hne
  rw [continuations, List.map_cons, makeEach, makeDirectory_of_lost hlost]
  simp

end Lost

/-- Making a directory that the path does not lead to: the system refuses at once, or there is a gap on
the way. -/
theorem makeDirectories_of_not_reached (hne : names ≠ [])
    (hordinary : ∀ name ∈ names, ordinaryName name = true)
    (hlost : Fits (ofNames names) →
      ∀ left goal, tree.reach (descent names) ≠ .ok (left, goal)) :
    (∃ error, tree.makeDirectories (ofNames names) = (.error error, tree)) ∨
      Fits (ofNames names) ∧ ∃ gap : tree.Gap, gap.route = names := by
  by_cases hfits : Fits (ofNames names)
  · cases hworking : tree.working? with
    | none => exact .inl ⟨.notFound, makeDirectories_of_lost hworking hne hordinary hfits⟩
    | some start =>
      rcases exists_gap_of_not_reached hworking (hlost hfits) with ⟨error, herror⟩ | hgap
      · left
        rw [makeDirectories, if_neg (not_isTop_ofNames hne hordinary), steps_ofNames hne hordinary hfits]
        exact ⟨error, by simp only [ancestors_descent hne, herror]⟩
      · exact .inr ⟨hfits, hgap⟩
  · left
    obtain ⟨error, herror⟩ := exists_error_of_not_fits hfits
    rw [makeDirectories, if_neg (not_isTop_ofNames hne hordinary), herror]
    exact ⟨error, rfl⟩

end FileTree

end ConfigKit
