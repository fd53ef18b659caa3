-- SUMMARY: The way to the directory of a path, and walks as approaches with one more step.
import ConfigKit.FileTree.Walk
import ConfigKit.Proofs.FileTree.Nodes

/-!
# Approaches

The steps before the last one of a walk lead to a directory, whatever the walk is for. `approach` follows
them and gives that directory, together with the number of links that may still be followed from there.
A walk is an approach and one more step (`walk_append`), so what a walk finds can be read off its last
step alone.
-/

namespace ConfigKit

namespace FileTree

variable {tree later : FileTree} {mode : Mode} {links left : Nat} {current goal : Location}
  {steps last : List Path.Step} {name : String}

/-! ## One step of a walk -/

section Step

variable {rest : List Path.Step} {target : String}
  (hcreate : ¬ (mode = .create ∧ rest = [.slash])) (hshort : ¬ Path.maxNameBytes < name.utf8ByteSize)
include hcreate hshort

theorem walk_none (hnode : tree.node? (current ++ [name]) = none) :
    tree.walk mode links current (.name name :: rest)
      = if rest = [] then .ok (.vacant (current ++ [name])) else .error .notFound := by
  rw [walk, if_neg hcreate, if_neg hshort, hnode]

theorem walk_directory (hnode : tree.node? (current ++ [name]) = some .directory) :
    tree.walk mode links current (.name name :: rest)
      = tree.walk mode links (current ++ [name]) rest := by
  rw [walk, if_neg hcreate, if_neg hshort, hnode]

theorem walk_file {bytes : Bytes} (hnode : tree.node? (current ++ [name]) = some (.file bytes)) :
    tree.walk mode links current (.name name :: rest)
      = if rest = [] then .ok (.found (current ++ [name]) (.file bytes)) else .error .notDirectory := by
  rw [walk, if_neg hcreate, if_neg hshort, hnode]

variable (hnode : tree.node? (current ++ [name]) = some (.link target))
include hnode

/-- At the end of a walk that stays, a link is what is found. -/
theorem walk_link_end (hend : mode = .stay ∧ rest = []) :
    tree.walk mode links current (.name name :: rest)
      = .ok (.found (current ++ [name]) (.link target)) := by
  rw [walk, if_neg hcreate, if_neg hshort, hnode]
  simp only [if_pos hend]

variable (hend : ¬ (mode = .stay ∧ rest = []))
include hend

theorem walk_link_zero :
    tree.walk mode 0 current (.name name :: rest) = .error .tooManyLinks := by
  rw [walk, if_neg hcreate, if_neg hshort, hnode]
  simp only [if_neg hend]

/-- Every other link is replaced by the steps that it holds. -/
theorem walk_link :
    tree.walk mode (links + 1) current (.name name :: rest)
      = (Path.steps target).bind fun steps => tree.walk mode links current (steps ++ rest) := by
  rw [walk, if_neg hcreate, if_neg hshort, hnode]
  simp only [if_neg hend]
  cases Path.steps target <;> rfl

end Step

/-! ## Approaches -/

/-- Follows steps from a directory to a directory. -/
def approach (tree : FileTree) (links : Nat) (current : Location) :
    List Path.Step → Except OsError (Nat × Location)
  | [] => .ok (links, current)
  | .here :: rest => approach tree links current rest
  | .slash :: rest => approach tree links current rest
  | .up :: rest => approach tree links current.dropLast rest
  | .root :: rest => approach tree links [] rest
  | .name name :: rest =>
    if Path.maxNameBytes < name.utf8ByteSize then .error .nameTooLong
    else
      match tree.node? (current ++ [name]) with
      | none => .error .notFound
      | some .directory => approach tree links (current ++ [name]) rest
      | some (.file _) => .error .notDirectory
      | some (.link target) =>
        match links with
        | 0 => .error .tooManyLinks
        | links + 1 =>
          match Path.steps target with
          | .error error => .error error
          | .ok steps => approach tree links current (steps ++ rest)
termination_by steps => (links, steps.length)

theorem approach_append (steps more : List Path.Step) :
    tree.approach links current (steps ++ more)
      = (tree.approach links current steps).bind fun reached =>
          tree.approach reached.1 reached.2 more := by
  fun_induction approach tree links current steps with
  | case1 => rfl
  | case2 links current rest ih | case3 links current rest ih | case4 links current rest ih
  | case5 links current rest ih => rw [List.cons_append, approach, ih]
  | case6 links current name rest hlong =>
    rw [List.cons_append, approach, if_pos hlong]
    rfl
  | case7 links current name rest hshort hnode =>
    rw [List.cons_append, approach, if_neg hshort, hnode]
    rfl
  | case8 links current name rest hshort hnode ih =>
    rw [List.cons_append, approach, if_neg hshort, hnode]
    exact ih
  | case9 links current name rest hshort bytes hnode =>
    rw [List.cons_append, approach, if_neg hshort, hnode]
    rfl
  | case10 current name rest hshort target hnode =>
    rw [List.cons_append, approach, if_neg hshort, hnode]
    rfl
  | case11 current name rest hshort target hnode links error hsteps =>
    rw [List.cons_append, approach, if_neg hshort, hnode]
    simp only [hsteps]
    rfl
  | case12 current name rest hshort target hnode links steps hsteps ih =>
    rw [List.cons_append, approach, if_neg hshort, hnode]
    simp only [hsteps]
    rw [← List.append_assoc, ih]

/-- A walk is an approach and a walk from there. A slash at the end is no step of its own. -/
theorem walk_append (mode : Mode) (hlast : last ≠ []) (hslash : last ≠ [.slash]) :
    tree.walk mode links current (steps ++ last)
      = (tree.approach links current steps).bind fun reached =>
          tree.walk mode reached.1 reached.2 last := by
  -- Before the last step a walk is never at its end.
  have hnil (rest : List Path.Step) : rest ++ last ≠ [] := by simp [hlast]
  have hend (rest : List Path.Step) : rest ++ last ≠ [.slash] := by
    simp [List.append_eq_singleton_iff, hlast, hslash]
  fun_induction approach tree links current steps with
  | case1 => rfl
  | case2 links current rest ih | case3 links current rest ih | case4 links current rest ih
  | case5 links current rest ih => rw [List.cons_append, walk, ih]
  | case6 links current name rest hlong =>
    rw [List.cons_append, walk, if_neg (fun h => hend rest h.2), if_pos hlong]
    rfl
  | case7 links current name rest hshort hnode =>
    rw [List.cons_append, walk_none (fun h => hend rest h.2) hshort hnode, if_neg (hnil rest)]
    rfl
  | case8 links current name rest hshort hnode ih =>
    rw [List.cons_append, walk_directory (fun h => hend rest h.2) hshort hnode]
    exact ih
  | case9 links current name rest hshort bytes hnode =>
    rw [List.cons_append, walk_file (fun h => hend rest h.2) hshort hnode, if_neg (hnil rest)]
    rfl
  | case10 current name rest hshort target hnode =>
    rw [List.cons_append,
      walk_link_zero (fun h => hend rest h.2) hshort hnode (fun h => hnil rest h.2)]
    rfl
  | case11 current name rest hshort target hnode links error hsteps =>
    rw [List.cons_append, walk_link (fun h => hend rest h.2) hshort hnode (fun h => hnil rest h.2),
      hsteps]
    rfl
  | case12 current name rest hshort target hnode links steps hsteps ih =>
    rw [List.cons_append, walk_link (fun h => hend rest h.2) hshort hnode (fun h => hnil rest h.2),
      hsteps, ← ih, List.append_assoc]
    rfl

theorem walk_follow_iff :
    tree.walk .follow links current steps = .ok (.found goal .directory) ↔
      ∃ left, tree.approach links current steps = .ok (left, goal) := by
  fun_induction approach tree links current steps with
  | case1 links current =>
    rw [walk]
    simp
  | case2 links current rest ih | case3 links current rest ih | case4 links current rest ih
  | case5 links current rest ih => rw [walk, ih]
  | case6 links current name rest hlong =>
    rw [walk, if_neg (by simp), if_pos hlong]
    simp
  | case7 links current name rest hshort hnode =>
    rw [walk_none (by simp) hshort hnode]
    split <;> simp
  | case8 links current name rest hshort hnode ih =>
    rw [walk_directory (by simp) hshort hnode]
    exact ih
  | case9 links current name rest hshort bytes hnode =>
    rw [walk_file (by simp) hshort hnode]
    split <;> simp
  | case10 current name rest hshort target hnode =>
    rw [walk_link_zero (by simp) hshort hnode (by simp)]
    simp
  | case11 current name rest hshort target hnode links error hsteps =>
    rw [walk_link (by simp) hshort hnode (by simp), hsteps]
    simp [Except.bind]
  | case12 current name rest hshort target hnode links steps hsteps ih =>
    rw [walk_link (by simp) hshort hnode (by simp), hsteps]
    exact ih

/-- An approach goes the same way in a tree that has grown. -/
theorem Grows.approach (h : tree.Grows later)
    (hreach : tree.approach links current steps = .ok (left, goal)) :
    later.approach links current steps = .ok (left, goal) := by
  fun_induction FileTree.approach tree links current steps with
  | case1 => simpa [FileTree.approach] using hreach
  | case2 links current rest ih | case3 links current rest ih | case4 links current rest ih
  | case5 links current rest ih => rw [FileTree.approach, ih hreach]
  | case8 links current name rest hshort hnode ih =>
    rw [FileTree.approach, if_neg hshort, h.node?_eq_some _ _ hnode]
    exact ih hreach
  | case12 current name rest hshort target hnode links steps hsteps ih =>
    rw [FileTree.approach, if_neg hshort, h.node?_eq_some _ _ hnode]
    simp only [hsteps]
    exact ih hreach
  | case6 => cases hreach
  | case7 => cases hreach
  | case9 => cases hreach
  | case10 => cases hreach
  | case11 => cases hreach

/-- In a tree that has lost entries an approach goes the same way, or ends where an entry is missing. -/
theorem Grows.approach_or_notFound (h : later.Grows tree)
    (hreach : tree.approach links current steps = .ok (left, goal)) :
    later.approach links current steps = .ok (left, goal) ∨
      later.approach links current steps = .error .notFound := by
  have hlater (location : Location) (node : Node) (hnode : tree.node? location = some node) :
      later.node? location = some node ∨ later.node? location = none := by
    cases hother : later.node? location with
    | none => exact .inr rfl
    | some other =>
      have hsame := h.node?_eq_some _ _ hother
      rw [hnode] at hsame
      exact .inl hsame.symm
  fun_induction FileTree.approach tree links current steps with
  | case1 =>
    left
    simpa [FileTree.approach] using hreach
  | case2 links current rest ih | case3 links current rest ih | case4 links current rest ih
  | case5 links current rest ih =>
    simpa only [FileTree.approach] using ih hreach
  | case8 links current name rest hshort hnode ih =>
    rw [FileTree.approach, if_neg hshort]
    rcases hlater _ _ hnode with hsame | hnone
    · rw [hsame]
      exact ih hreach
    · rw [hnone]
      exact .inr rfl
  | case12 current name rest hshort target hnode links steps hsteps ih =>
    rw [FileTree.approach, if_neg hshort]
    rcases hlater _ _ hnode with hsame | hnone
    · rw [hsame]
      simp only [hsteps]
      exact ih hreach
    · rw [hnone]
      exact .inr rfl
  | case6 | case7 | case9 | case10 | case11 => cases hreach

theorem node?_of_approach (hcurrent : tree.node? current = some .directory)
    (hreach : tree.approach links current steps = .ok (left, goal)) :
    tree.node? goal = some .directory := by
  fun_induction FileTree.approach tree links current steps with
  | case1 =>
    cases hreach
    exact hcurrent
  | case2 links current rest ih => exact ih hcurrent hreach
  | case3 links current rest ih => exact ih hcurrent hreach
  | case4 links current rest ih => exact ih (node?_dropLast hcurrent) hreach
  | case5 links current rest ih => exact ih rfl hreach
  | case8 links current name rest hshort hnode ih => exact ih hnode hreach
  | case12 current name rest hshort target hnode links steps hsteps ih => exact ih hcurrent hreach
  | case6 => cases hreach
  | case7 => cases hreach
  | case9 => cases hreach
  | case10 => cases hreach
  | case11 => cases hreach

/-! ## Approaches from the start -/

/-- Follows steps to a directory from where they start. -/
def reach (tree : FileTree) (steps : List Path.Step) : Except OsError (Nat × Location) :=
  match tree.start? steps with
  | none => .error .notFound
  | some start => tree.approach maxLinks start steps

theorem start?_append (hsteps : steps ≠ []) : tree.start? (steps ++ last) = tree.start? steps := by
  rw [start?, start?, List.head?_append_of_ne_nil _ hsteps]

theorem node?_of_start? {start : Location} (h : tree.start? steps = some start) :
    tree.node? start = some .directory := by
  unfold start? at h
  split at h
  · cases h
    rfl
  · exact tree.working_isDirectory start h

/-- To follow steps is to reach a directory and to walk on from there. -/
theorem resolve_append (mode : Mode) (hsteps : tree.start? (steps ++ last) = tree.start? steps)
    (hlast : last ≠ []) (hslash : last ≠ [.slash]) :
    tree.resolve mode (steps ++ last)
      = (tree.reach steps).bind fun reached => tree.walk mode reached.1 reached.2 last := by
  rw [resolve, reach, hsteps]
  cases tree.start? steps with
  | none => rfl
  | some start => exact walk_append mode hlast hslash

theorem reach_append (hsteps : tree.start? (steps ++ last) = tree.start? steps) :
    tree.reach (steps ++ last)
      = (tree.reach steps).bind fun reached => tree.approach reached.1 reached.2 last := by
  rw [reach, reach, hsteps]
  cases tree.start? steps with
  | none => rfl
  | some start => exact approach_append steps last

theorem resolve_follow_iff :
    tree.resolve .follow steps = .ok (.found goal .directory) ↔
      ∃ left, tree.reach steps = .ok (left, goal) := by
  rw [resolve, reach]
  cases tree.start? steps with
  | none => simp
  | some start => exact walk_follow_iff

theorem node?_of_reach (hreach : tree.reach steps = .ok (left, goal)) :
    tree.node? goal = some .directory := by
  unfold reach at hreach
  split at hreach
  · cases hreach
  · rename_i start hstart
    exact node?_of_approach (node?_of_start? hstart) hreach

theorem Grows.start? (h : tree.Grows later) {start : Location} (hstart : tree.start? steps = some start) :
    later.start? steps = some start := by
  unfold FileTree.start? at hstart ⊢
  split
  · rwa [if_pos ‹_›] at hstart
  · rw [if_neg ‹_›] at hstart
    exact h.working?_eq_some start hstart

theorem Grows.reach (h : tree.Grows later) (hreach : tree.reach steps = .ok (left, goal)) :
    later.reach steps = .ok (left, goal) := by
  unfold FileTree.reach at hreach ⊢
  split at hreach
  · cases hreach
  · rename_i start hstart
    rw [h.start? hstart]
    exact h.approach hreach

/-- In a tree that has lost entries, the working directory may be among them. -/
theorem Grows.reach_or_notFound (h : later.Grows tree) (hreach : tree.reach steps = .ok (left, goal)) :
    later.reach steps = .ok (left, goal) ∨ later.reach steps = .error .notFound := by
  unfold FileTree.reach at hreach ⊢
  cases hlater : later.start? steps with
  | none => exact .inr rfl
  | some start =>
    rw [h.start? hlater] at hreach
    exact h.approach_or_notFound hreach

/-! ## Paths from the root -/

/-- A walk depends on the entries alone. -/
theorem walk_congr (h : ∀ location, later.node? location = tree.node? location) (mode : Mode) (links : Nat)
    (current : Location) (steps : List Path.Step) :
    later.walk mode links current steps = tree.walk mode links current steps := by
  fun_induction FileTree.walk tree mode links current steps with
  | case1 => rw [walk]
  | case2 links current rest ih | case3 links current rest ih | case4 links current rest ih
  | case5 links current rest ih => rw [walk, ih]
  | case6 links current name rest hcreate => rw [walk, if_pos hcreate]
  | case7 links current name rest hcreate hlong => rw [walk, if_neg hcreate, if_pos hlong]
  | case8 links current name hshort hnode hcreate =>
    rw [walk_none hcreate hshort ((h _).trans hnode), if_pos rfl]
  | case9 links current name rest hcreate hshort hnode hrest =>
    rw [walk_none hcreate hshort ((h _).trans hnode), if_neg hrest]
  | case10 links current name rest hcreate hshort hnode ih =>
    rw [walk_directory hcreate hshort ((h _).trans hnode), ih]
  | case11 links current name hshort bytes hnode hcreate =>
    rw [walk_file hcreate hshort ((h _).trans hnode), if_pos rfl]
  | case12 links current name rest hcreate hshort bytes hnode hrest =>
    rw [walk_file hcreate hshort ((h _).trans hnode), if_neg hrest]
  | case13 links current name rest hcreate hshort target hnode hend =>
    rw [walk_link_end hcreate hshort ((h _).trans hnode) hend]
  | case14 current name rest hcreate hshort target hnode hend =>
    rw [walk_link_zero hcreate hshort ((h _).trans hnode) hend]
  | case15 current name rest hcreate hshort target hnode hend links error hsteps =>
    rw [walk_link hcreate hshort ((h _).trans hnode) hend, hsteps]
    rfl
  | case16 current name rest hcreate hshort target hnode hend links steps hsteps ih =>
    rw [walk_link hcreate hshort ((h _).trans hnode) hend, hsteps, ← ih]
    rfl

theorem head?_of_steps {path : String} (hslash : path.toList.head? = some '/')
    (hsteps : Path.steps path = .ok steps) : steps.head? = some .root := by
  simp only [Path.steps] at hsteps
  split at hsteps <;> try cases hsteps
  split at hsteps <;> try cases hsteps
  split at hsteps <;> try cases hsteps
  simp [Path.moves, hslash]

/-- A path with a slash at the start leads to the same place from every working directory. -/
theorem locate_of_slash (h : ∀ location, later.node? location = tree.node? location) {path : String}
    (hslash : path.toList.head? = some '/') (mode : Mode) : later.locate mode path = tree.locate mode path := by
  unfold locate
  cases hsteps : Path.steps path with
  | error error => rfl
  | ok steps =>
    simp only [resolve, start?, if_pos (head?_of_steps hslash hsteps), walk_congr h]

/-- A link whose target has a slash at the start leads where the target leads from the root. -/
theorem walk_link_of_slash {target : String} (hslash : target.toList.head? = some '/')
    (hshort : ¬ Path.maxNameBytes < name.utf8ByteSize)
    (hnode : tree.node? (current ++ [name]) = some (.link target)) (hsteps : Path.steps target = .ok steps)
    (hmode : mode ≠ .stay) :
    tree.walk mode (links + 1) current [.name name] = tree.walk mode links [] steps := by
  rw [walk_link (by simp) hshort hnode (fun h => hmode h.1), hsteps]
  obtain ⟨rest, rfl⟩ : ∃ rest, steps = .root :: rest :=
    List.head?_eq_some_iff.mp (head?_of_steps hslash hsteps)
  rw [Except.bind, List.append_nil, walk, walk]

/-- From the working directory `w`, the link `l` there leads to the directory `d` of the root. -/
example (tree : FileTree) (hworking : tree.working? = some ["w"]) (hlink : tree.node? ["w", "l"] = some (.link "/d"))
    (hdirectory : tree.node? ["d"] = some .directory) : tree.find .follow "l" = .ok (["d"], .directory) := by
  have hsteps : Path.steps "l" = .ok [.name "l"] ∧ Path.steps "/d" = .ok [.root, .name "d"] := ⟨rfl, rfl⟩
  simp +decide [find, locate, hsteps, resolve, start?, hworking, walk, maxLinks, hlink, hdirectory]

end FileTree

end ConfigKit
