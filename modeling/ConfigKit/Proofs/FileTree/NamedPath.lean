-- SUMMARY: Paths of ordinary names, followed name by name.
import ConfigKit.Proofs.FileTree.Approach

/-!
# Paths of ordinary names

A path that is ordinary names with one slash between each two of them is followed name by name, unless it
is too long or holds a NUL. It starts at the working directory. What such a path leads to is what stands
under the last name in the directory that the names before it lead to.
-/

namespace ConfigKit

namespace Path

/-- The names with one slash between each two of them. -/
def ofNames (names : List String) : String := "/".intercalate names

/-- The steps into the directories or entries of these names, one after the other. -/
def descent (names : List String) : List Step := names.map .name

/-- Whether a path can be given to the system at all. -/
def Fits (path : String) : Prop := '\x00' ∉ path.toList ∧ path.utf8ByteSize < pathBytesLimit

theorem ordinaryName_iff {name : String} :
    ordinaryName name = true ↔ name ≠ "" ∧ name ≠ "." ∧ name ≠ ".." ∧ '/' ∉ name.toList := by
  simp [ordinaryName, and_assoc]

theorem descent_append (names more : List String) :
    descent (names ++ more) = descent names ++ descent more :=
  List.map_append

theorem trimmed_descent (names : List String) : trimmed (descent names) = descent names := by
  refine if_neg fun hlast => ?_
  obtain ⟨name, -, hname⟩ := List.mem_map.mp (List.mem_of_getLast? hlast)
  cases hname

theorem segments_eq_splitOn (cs : List Char) : segments cs = cs.splitOn '/' := by
  induction cs with
  | nil => rfl
  | cons c cs ih =>
    rw [List.splitOn_cons_eq_if_modifyHead, segments, ih]
    by_cases hc : c = '/'
    · simp [hc]
    · cases hsplit : cs.splitOn '/' with
      | nil => exact absurd hsplit (List.splitOn_ne_nil _ _)
      | cons segment rest => simp [hc]

variable {names : List String}

theorem segments_ofNames (hne : names ≠ []) (hordinary : ∀ name ∈ names, ordinaryName name = true) :
    segments (ofNames names).toList = names.map String.toList := by
  rw [segments_eq_splitOn, ofNames, String.toList_intercalate]
  refine List.splitOn_intercalate '/' (fun cs hcs => ?_) (by simpa using hne)
  obtain ⟨name, hname, rfl⟩ := List.mem_map.mp hcs
  exact (ordinaryName_iff.mp (hordinary name hname)).2.2.2

theorem step?_of_ordinary {name : String} (h : ordinaryName name = true) :
    step? name.toList = some (.name name) := by
  obtain ⟨hempty, hdot, hdots, -⟩ := ordinaryName_iff.mp h
  have hne (text : String) (hname : name ≠ text) : name.toList ≠ text.toList :=
    fun heq => hname (String.toList_inj.mp heq)
  have hnil : name.toList ≠ [] := hne "" hempty
  have hhere : name.toList ≠ ['.'] := hne "." hdot
  have hup : name.toList ≠ ['.', '.'] := hne ".." hdots
  rw [step?, if_neg hnil, if_neg hhere, if_neg hup, String.ofList_toList]

theorem filterMap_step?_ofNames (hordinary : ∀ name ∈ names, ordinaryName name = true) :
    (names.map String.toList).filterMap step? = descent names := by
  rw [List.filterMap_map, descent, ← List.filterMap_eq_map]
  exact List.filterMap_congr fun name hname => step?_of_ordinary (hordinary name hname)

theorem toList_ofNames_cons (name : String) (rest : List String) :
    ∃ more, (ofNames (name :: rest)).toList = name.toList ++ more := by
  by_cases hrest : rest = []
  · exact ⟨[], by simp [ofNames, hrest]⟩
  · exact ⟨_, by
      rw [ofNames, String.intercalate_cons_of_ne_nil hrest, String.toList_append,
        String.toList_append, List.append_assoc]⟩

theorem toList_ofNames_concat (front : List String) (name : String) :
    ∃ before, (ofNames (front ++ [name])).toList = before ++ name.toList := by
  by_cases hfront : front = []
  · exact ⟨[], by simp [ofNames, hfront]⟩
  · exact ⟨_, by
      rw [ofNames, String.intercalate_append_of_ne_nil hfront (by simp),
        String.intercalate_singleton, String.toList_append]⟩

theorem head?_ofNames (hordinary : ∀ name ∈ names, ordinaryName name = true) (hne : names ≠ []) :
    ∃ c, (ofNames names).toList.head? = some c ∧ c ≠ '/' := by
  cases names with
  | nil => exact absurd rfl hne
  | cons name rest =>
    obtain ⟨hempty, -, -, hslash⟩ := ordinaryName_iff.mp (hordinary name List.mem_cons_self)
    obtain ⟨more, hmore⟩ := toList_ofNames_cons name rest
    cases hname : name.toList with
    | nil => exact absurd (String.toList_eq_nil_iff.mp hname) hempty
    | cons c cs =>
      refine ⟨c, by rw [hmore, hname]; rfl, ?_⟩
      rintro rfl
      exact hslash (by rw [hname]; exact List.mem_cons_self)

theorem ofNames_ne_empty (hne : names ≠ []) (hordinary : ∀ name ∈ names, ordinaryName name = true) :
    ofNames names ≠ "" := by
  obtain ⟨c, hhead, -⟩ := head?_ofNames hordinary hne
  intro heq
  simp [heq] at hhead

theorem not_isTop_ofNames (hne : names ≠ []) (hordinary : ∀ name ∈ names, ordinaryName name = true) :
    ¬ isTop (ofNames names) = true := by
  obtain ⟨c, hhead, hc⟩ := head?_ofNames hordinary hne
  simp [isTop, ofNames_ne_empty hne hordinary, hhead, hc]

theorem getLast?_ofNames_ne (hordinary : ∀ name ∈ names, ordinaryName name = true) (hne : names ≠ []) :
    (ofNames names).toList.getLast? ≠ some '/' := by
  induction names using List.reverseRecOn with
  | nil => exact absurd rfl hne
  | append_singleton front name =>
    obtain ⟨hempty, -, -, hslash⟩ := ordinaryName_iff.mp (hordinary name (by simp))
    obtain ⟨before, hbefore⟩ := toList_ofNames_concat front name
    intro hlast
    rw [hbefore, List.getLast?_append_of_ne_nil _ (mt String.toList_eq_nil_iff.mp hempty)] at hlast
    exact hslash (List.mem_of_getLast? hlast)

theorem steps_ofNames (hne : names ≠ []) (hordinary : ∀ name ∈ names, ordinaryName name = true)
    (hfits : Fits (ofNames names)) : steps (ofNames names) = .ok (descent names) := by
  obtain ⟨c, hhead, hc⟩ := head?_ofNames hordinary hne
  have hempty : (ofNames names).toList ≠ [] := fun h => by simp [h] at hhead
  have hslash : (ofNames names).toList.head? ≠ some '/' := by simpa [hhead] using hc
  unfold steps
  rw [if_neg (by simpa using hfits.1), if_neg hempty, if_neg (Nat.not_le.mpr hfits.2),
    if_neg (getLast?_ofNames_ne hordinary hne), moves, if_neg hslash, segments_ofNames hne hordinary,
    filterMap_step?_ofNames hordinary, List.nil_append, List.append_nil]

theorem exists_error_of_not_fits {path : String} (h : ¬ Fits path) :
    ∃ error, steps path = .error error := by
  unfold steps
  by_cases hnul : '\x00' ∈ path.toList
  · exact ⟨_, if_pos (by simpa using hnul)⟩
  · by_cases hempty : path.toList = []
    · exact ⟨_, by rw [if_neg (by simpa using hnul), if_pos hempty]⟩
    · refine ⟨.nameTooLong, ?_⟩
      have hlong : pathBytesLimit ≤ path.utf8ByteSize := by
        by_contra hshort
        exact h ⟨hnul, Nat.not_le.mp hshort⟩
      rw [if_neg (by simpa using hnul), if_neg hempty, if_pos hlong]

/-- The front of a path that can be given to the system can be given as well. -/
theorem Fits.front {front rest : List String} (hfits : Fits (ofNames (front ++ rest)))
    (hfront : front ≠ []) : Fits (ofNames front) := by
  by_cases hrest : rest = []
  · rwa [hrest, List.append_nil] at hfits
  · unfold Fits ofNames at hfits ⊢
    rw [String.intercalate_append_of_ne_nil hfront hrest] at hfits
    simp only [String.toList_append, List.mem_append, not_or, String.utf8ByteSize_append] at hfits
    exact ⟨hfits.1.1.1, by omega⟩

end Path

namespace FileTree

open ConfigKit.Path

variable {tree : FileTree} {front names : List String} {name : String} {location goal : Location}
  {node : Node}

/-- The last step of a walk that stays at what it finds. -/
theorem walk_stay_name (tree : FileTree) (links : Nat) (current : Location) (name : String) :
    tree.walk .stay links current [.name name]
      = if maxNameBytes < name.utf8ByteSize then .error .nameTooLong
        else
          match tree.node? (current ++ [name]) with
          | none => .ok (.vacant (current ++ [name]))
          | some node => .ok (.found (current ++ [name]) node) := by
  rw [walk, if_neg (by simp)]
  split
  · rfl
  · cases hnode : tree.node? (current ++ [name]) with
    | none => simp
    | some node =>
      cases node with
      | directory => simp [walk]
      | file bytes => simp
      | link target => simp

/-- A path of names starts at the working directory. -/
theorem start?_descent (tree : FileTree) (names : List String) :
    tree.start? (descent names) = tree.working? := by
  cases names <;> rfl

theorem start?_descent_append (tree : FileTree) (front more : List String) :
    tree.start? (descent front ++ descent more) = tree.start? (descent front) := by
  rw [← descent_append, start?_descent, start?_descent]

theorem resolve_descent (tree : FileTree) (mode : Mode) (front : List String) (name : String) :
    tree.resolve mode (descent (front ++ [name]))
      = (tree.reach (descent front)).bind fun reached =>
          tree.walk mode reached.1 reached.2 [.name name] := by
  rw [descent_append]
  exact resolve_append mode (tree.start?_descent_append front [name]) (by simp [descent])
    (by simp [descent])

theorem reach_descent_append (tree : FileTree) (front more : List String) :
    tree.reach (descent (front ++ more))
      = (tree.reach (descent front)).bind fun reached =>
          tree.approach reached.1 reached.2 (descent more) := by
  rw [descent_append]
  exact reach_append (tree.start?_descent_append front more)

theorem find_eq_resolve (mode : Mode) (hne : names ≠ [])
    (hordinary : ∀ name ∈ names, ordinaryName name = true) (hfits : Fits (ofNames names)) :
    tree.find mode (ofNames names)
      = match tree.resolve mode (descent names) with
        | .error error => .error error
        | .ok (.vacant _) => .error .notFound
        | .ok (.found location node) => .ok (location, node) := by
  have hsteps := steps_ofNames hne hordinary hfits
  cases hresolve : tree.resolve mode (descent names) with
  | error error => simp [find, locate, hsteps, hresolve]
  | ok place => cases place <;> simp [find, locate, hsteps, hresolve]

theorem fits_of_find {mode : Mode} {path : String} (h : tree.find mode path = .ok (location, node)) :
    Fits path := by
  by_contra hfits
  obtain ⟨error, herror⟩ := exists_error_of_not_fits hfits
  simp [find, locate, herror] at h

/-- A path of names finds what stands under its last name where the names before it lead. -/
theorem find_stay_iff (hordinary : ∀ n ∈ front ++ [name], ordinaryName n = true) :
    tree.find .stay (ofNames (front ++ [name])) = .ok (location, node) ↔
      Fits (ofNames (front ++ [name])) ∧ name.utf8ByteSize ≤ maxNameBytes ∧
        ∃ left directory, tree.reach (descent front) = .ok (left, directory) ∧
          location = directory ++ [name] ∧ tree.node? location = some node := by
  by_cases hfits : Fits (ofNames (front ++ [name]))
  · rw [find_eq_resolve .stay (by simp) hordinary hfits, resolve_descent]
    cases hreach : tree.reach (descent front) with
    | error error => simp [Except.bind]
    | ok reached =>
      obtain ⟨left, directory⟩ := reached
      simp only [Except.bind, walk_stay_name]
      by_cases hlong : maxNameBytes < name.utf8ByteSize
      · simp [hlong, Nat.not_le.mpr hlong]
      · cases hnode : tree.node? (directory ++ [name]) with
        | none =>
          simp only [if_neg hlong]
          constructor
          · intro h
            cases h
          · rintro ⟨-, -, _, _, hsame, rfl, hsome⟩
            cases hsame
            rw [hnode] at hsome
            cases hsome
        | some other =>
          simp only [if_neg hlong, Except.ok.injEq, Prod.mk.injEq]
          constructor
          · rintro ⟨rfl, rfl⟩
            exact ⟨hfits, Nat.not_lt.mp hlong, left, directory, ⟨rfl, rfl⟩, rfl, hnode⟩
          · rintro ⟨-, -, _, _, ⟨rfl, rfl⟩, rfl, hsome⟩
            rw [hnode] at hsome
            cases hsome
            exact ⟨rfl, rfl⟩
  · exact iff_of_false (fun h => hfits (fits_of_find h)) (fun h => hfits h.1)

theorem find_follow_directory_iff (hne : names ≠ [])
    (hordinary : ∀ name ∈ names, ordinaryName name = true) :
    tree.find .follow (ofNames names) = .ok (goal, .directory) ↔
      Fits (ofNames names) ∧ ∃ left, tree.reach (descent names) = .ok (left, goal) := by
  by_cases hfits : Fits (ofNames names)
  · rw [find_eq_resolve .follow hne hordinary hfits, ← resolve_follow_iff, and_iff_right hfits]
    cases tree.resolve .follow (descent names) with
    | error error => simp
    | ok place => cases place <;> simp
  · exact iff_of_false (fun h => hfits (fits_of_find h)) (fun h => hfits h.1)

end FileTree

end ConfigKit
