-- SUMMARY: Loading and storing in trees without links.
import ConfigKit.Proofs.FileTree.Creation

/-!
# Trees without links

In a tree without links a path of names leads from the working directory to the location of these names in
it, whatever the walk is for. So loading such a path reads the node at the location
(`LinkFree.load_eq_ok_iff`), and storing there puts a file at the location and nothing else
(`LinkFree.store_eq_ok_iff`).
-/

namespace ConfigKit

namespace FileTree

open ConfigKit.Path

/-- No entry of the tree is a link. -/
def LinkFree (tree : FileTree) : Prop :=
  ∀ location target, tree.node? location ≠ some (.link target)

variable {tree later : FileTree} {links : Nat} {current start location other : Location}
  {names : List String} {name : String} {bytes : Bytes}

theorem node?_of_directory_below (h : tree.node? (current ++ name :: names) = some .directory) :
    tree.node? (current ++ [name]) = some .directory := by
  rw [List.append_cons] at h
  by_cases hnames : names = []
  · rwa [hnames, List.append_nil] at h
  · exact node?_above h hnames

theorem linkFree_empty : empty.LinkFree := by
  intro location target
  unfold empty node? nodeAt?
  split
  · simp
  · simp [FieldMap.empty, FieldMap.get?, Entries.get?]

/-- Putting a file somewhere brings no link. -/
theorem LinkFree.place (hfree : tree.LinkFree) (hroom : tree.hasRoom location = true) (bytes : Bytes) :
    (tree.place location (.file bytes)).LinkFree := by
  intro other target
  rw [node?_place hroom]
  split
  · simp
  · exact hfree other target

namespace LinkFree

variable (hfree : tree.LinkFree)
include hfree

/-! ## Walks -/

/-- Names lead one below the other, as long as there are directories. -/
theorem approach_eq_ok_iff (hcurrent : tree.node? current = some .directory) {reached : Nat × Location} :
    tree.approach links current (descent names) = .ok reached ↔
      reached = (links, current ++ names) ∧ names.all isShort = true ∧
        tree.node? (current ++ names) = some .directory := by
  induction names generalizing current with
  | nil => simp [descent, approach, hcurrent, eq_comm]
  | cons name rest ih =>
    rw [descent, List.map_cons, approach]
    by_cases hlong : maxNameBytes < name.utf8ByteSize
    · simp [isShort, hlong, Nat.not_le.mpr hlong]
    · have hshort : isShort name = true := by simpa [isShort] using hlong
      cases hnode : tree.node? (current ++ [name]) with
      | none =>
        have hbelow : tree.node? (current ++ name :: rest) ≠ some .directory := by
          intro h
          simp [node?_of_directory_below h] at hnode
        simp [hlong, hbelow]
      | some node =>
        cases node with
        | directory =>
          rw [if_neg hlong]
          simp only
          rw [← descent, ih hnode, List.all_cons, hshort, Bool.true_and, List.append_assoc,
            List.singleton_append]
        | file content =>
          have hbelow : tree.node? (current ++ name :: rest) ≠ some .directory := by
            intro h
            simp [node?_of_directory_below h] at hnode
          simp [hlong, hbelow]
        | link target => exact absurd hnode (hfree _ target)

/-- The last step of a walk does not depend on what the walk is for. -/
theorem walk_name (mode : Mode) (links : Nat) (current : Location) (name : String) :
    tree.walk mode links current [.name name] = tree.walk .stay links current [.name name] := by
  rw [walk_stay_name, walk, if_neg (by simp)]
  split
  · rfl
  · cases hnode : tree.node? (current ++ [name]) with
    | none => simp
    | some node =>
      cases node with
      | directory => simp [walk]
      | file bytes => simp
      | link target => exact absurd hnode (hfree _ target)

theorem reach_eq_ok_iff (hworking : tree.working? = some start) {reached : Nat × Location} :
    tree.reach (descent names) = .ok reached ↔
      reached = (maxLinks, start ++ names) ∧ names.all isShort = true ∧
        tree.node? (start ++ names) = some .directory := by
  rw [reach, start?_descent, hworking]
  exact hfree.approach_eq_ok_iff (tree.working_isDirectory start hworking)

theorem resolve_eq_ok_iff (hworking : tree.working? = some start) (hne : names ≠ []) (mode : Mode)
    (place : Place) :
    tree.resolve mode (descent names) = .ok place ↔
      names.all isShort = true ∧ tree.node? (start ++ names).dropLast = some .directory ∧
        place = match tree.node? (start ++ names) with
          | none => .vacant (start ++ names)
          | some node => .found (start ++ names) node := by
  obtain ⟨front, name, rfl⟩ := List.eq_nil_or_concat' names |>.resolve_left hne
  have hreach (reached : Nat × Location) :
      tree.reach (descent front) = .ok reached ↔
        reached = (maxLinks, start ++ front) ∧ front.all isShort = true ∧
          tree.node? (start ++ front) = some .directory :=
    hfree.reach_eq_ok_iff hworking
  rw [resolve_descent, List.all_append, ← List.append_assoc, List.dropLast_concat]
  cases hfront : tree.reach (descent front) with
  | error error =>
    constructor
    · intro h
      cases h
    · rintro ⟨hshort, hnode, -⟩
      have hreached := (hreach _).mpr ⟨rfl, (Bool.and_eq_true_iff.mp hshort).1, hnode⟩
      rw [hfront] at hreached
      cases hreached
  | ok reached =>
    obtain ⟨rfl, hshort, hnode⟩ := (hreach reached).mp hfront
    simp only [Except.bind, hshort, Bool.true_and, hnode, true_and]
    rw [hfree.walk_name, walk_stay_name]
    by_cases hlong : maxNameBytes < name.utf8ByteSize
    · simp [isShort, hlong, Nat.not_le.mpr hlong]
    · have hname : isShort name = true := by simpa [isShort] using hlong
      cases tree.node? (start ++ front ++ [name]) <;> simp [hlong, hname, eq_comm]

/-- What a path of names leads to. -/
theorem locate_eq_ok_iff (hne : names ≠ []) (hordinary : ∀ name ∈ names, ordinaryName name = true)
    (mode : Mode) (place : Place) :
    tree.locate mode (ofNames names) = .ok place ↔
      Fits (ofNames names) ∧ names.all isShort = true ∧
        ∃ start, tree.working? = some start ∧ tree.node? (start ++ names).dropLast = some .directory ∧
          place = match tree.node? (start ++ names) with
            | none => .vacant (start ++ names)
            | some node => .found (start ++ names) node := by
  by_cases hfits : Fits (ofNames names)
  · rw [locate, steps_ofNames hne hordinary hfits, and_iff_right hfits]
    cases hworking : tree.working? with
    | none => simp [resolve, start?_descent, hworking]
    | some start => simp [hfree.resolve_eq_ok_iff hworking hne]
  · refine iff_of_false (fun h => ?_) (fun h => hfits h.1)
    obtain ⟨error, herror⟩ := exists_error_of_not_fits hfits
    rw [locate, herror] at h
    cases h

/-! ## Files -/

/-- Loading a path of names reads the file at their location. -/
theorem load_eq_ok_iff (hne : names ≠ []) (hordinary : ∀ name ∈ names, ordinaryName name = true) :
    tree.load (ofNames names) = .ok bytes ↔
      Fits (ofNames names) ∧ names.all isShort = true ∧
        ∃ start, tree.working? = some start ∧ tree.node? (start ++ names) = some (.file bytes) := by
  have hplace := hfree.locate_eq_ok_iff hne hordinary .follow
  rw [load, find]
  cases hlocate : tree.locate .follow (ofNames names) with
  | error error =>
    constructor
    · intro h
      cases h
    · rintro ⟨hfits, hshort, start, hworking, hnode⟩
      have hfound := (hplace _).mpr ⟨hfits, hshort, start, hworking, node?_dropLast hnode, rfl⟩
      rw [hlocate] at hfound
      cases hfound
  | ok place =>
    obtain ⟨hfits, hshort, start, hworking, -, rfl⟩ := (hplace place).mp hlocate
    simp only [and_iff_right hfits, and_iff_right hshort, hworking, Option.some.injEq,
      exists_eq_left']
    cases tree.node? (start ++ names) with
    | none => simp
    | some node => cases node <;> simp

/-- Storing at a path of names puts a file at their location, where no directory is. -/
theorem store_eq_ok_iff (hne : names ≠ []) (hordinary : ∀ name ∈ names, ordinaryName name = true) :
    tree.store (ofNames names) bytes = .ok later ↔
      Fits (ofNames names) ∧ names.all isShort = true ∧
        ∃ start, tree.working? = some start ∧ tree.hasRoom (start ++ names) = true ∧
          later = tree.place (start ++ names) (.file bytes) := by
  have hplace := hfree.locate_eq_ok_iff hne hordinary .create
  obtain ⟨front, name, rfl⟩ := List.eq_nil_or_concat' names |>.resolve_left hne
  have hname : ordinaryName name = true := hordinary name (by simp)
  simp only [← List.append_assoc, List.dropLast_concat] at hplace
  simp only [← List.append_assoc, hasRoom_concat, and_iff_right hname]
  rw [store]
  cases hlocate : tree.locate .create (ofNames (front ++ [name])) with
  | error error =>
    constructor
    · intro h
      cases h
    · rintro ⟨hfits, hshort, start, hworking, ⟨hnode, -⟩, -⟩
      have hfound := (hplace _).mpr ⟨hfits, hshort, start, hworking, hnode, rfl⟩
      rw [hlocate] at hfound
      cases hfound
  | ok place =>
    obtain ⟨hfits, hshort, start, hworking, hnode, rfl⟩ := (hplace place).mp hlocate
    simp only [and_iff_right hfits, and_iff_right hshort, hworking, Option.some.injEq,
      exists_eq_left', and_iff_right hnode]
    cases hlast : tree.node? (start ++ front ++ [name]) with
    | none => simp [eq_comm]
    | some node =>
      cases node with
      | directory => simp
      | file content => simp [eq_comm]
      | link target => exact absurd hlast (hfree _ target)

end LinkFree

end FileTree

end ConfigKit
