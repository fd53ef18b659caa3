-- SUMMARY: The steps of a path go by ordinary names, and its end is in the tree or has room there.
import ConfigKit.Proofs.FileTree.Modes
import ConfigKit.Proofs.FileTree.NamedPath

/-!
# Steps of paths

Every path that can be given to the system is some moves and perhaps a slash, and all its steps into entries
go by ordinary names (`exists_moves_of_steps`). So where a walk along it ends is an entry of the tree, or
room for one (`walk_in`).
-/

namespace ConfigKit

namespace Path

/-- All steps into entries go by ordinary names. -/
def Ordinary (steps : List Step) : Prop := ∀ name, Step.name name ∈ steps → ordinaryName name = true

theorem Ordinary.of_cons {step : Step} {rest : List Step} (h : Ordinary (step :: rest)) : Ordinary rest :=
  fun name hname => h name (List.mem_cons_of_mem step hname)

theorem Ordinary.append {steps more : List Step} (h : Ordinary steps) (hmore : Ordinary more) :
    Ordinary (steps ++ more) := by
  intro name hname
  rcases List.mem_append.mp hname with hname | hname
  · exact h name hname
  · exact hmore name hname

theorem slash_not_mem_of_mem_segments {cs segment : List Char} (h : segment ∈ segments cs) :
    '/' ∉ segment := by
  induction cs generalizing segment with
  | nil => simp_all [segments]
  | cons c cs ih =>
    unfold segments at h
    split at h
    · rcases List.mem_cons.mp h with rfl | h
      · simp
      · exact ih h
    · rename_i hc
      split at h
      · obtain rfl := List.mem_singleton.mp h
        simpa using Ne.symm hc
      · rename_i first rest hsegments
        rcases List.mem_cons.mp h with rfl | h
        · have hfirst := ih (hsegments ▸ List.mem_cons_self)
          simp [hfirst, Ne.symm hc]
        · exact ih (hsegments ▸ List.mem_cons_of_mem _ h)

theorem ordinaryName_of_step? {segment : List Char} {name : String} (hslash : '/' ∉ segment)
    (h : step? segment = some (.name name)) : ordinaryName name = true := by
  unfold step? at h
  split at h
  · cases h
  · split at h
    · cases h
    · split at h
      · cases h
      · cases h
        rename_i hempty hhere hup
        refine ordinaryName_iff.mpr ⟨?_, ?_, ?_, by rwa [String.toList_ofList]⟩
        · exact fun heq => hempty (by simpa using congrArg String.toList heq)
        · exact fun heq => hhere (by simpa using congrArg String.toList heq)
        · exact fun heq => hup (by simpa using congrArg String.toList heq)

theorem step?_ne_slash (segment : List Char) : step? segment ≠ some .slash := by
  unfold step?
  split
  · simp
  · split
    · simp
    · split <;> simp

theorem exists_step?_cons (c : Char) (segment : List Char) : ∃ step, step? (c :: segment) = some step := by
  unfold step?
  split
  · contradiction
  · split
    · exact ⟨_, rfl⟩
    · split <;> exact ⟨_, rfl⟩

theorem exists_segment_cons {c : Char} (hc : c ≠ '/') (cs : List Char) :
    ∃ segment rest, segments (c :: cs) = (c :: segment) :: rest := by
  rw [segments, if_neg hc]
  cases segments cs with
  | nil => exact ⟨[], [], rfl⟩
  | cons segment rest => exact ⟨segment, rest, rfl⟩

theorem moves_ne_nil {cs : List Char} (h : cs ≠ []) : moves cs ≠ [] := by
  obtain ⟨c, cs, rfl⟩ := List.exists_cons_of_ne_nil h
  by_cases hc : c = '/'
  · simp [moves, hc]
  · obtain ⟨segment, rest, hsegments⟩ := exists_segment_cons hc cs
    obtain ⟨step, hstep⟩ := exists_step?_cons c segment
    simp [moves, hsegments, hstep]

theorem slash_not_mem_moves (cs : List Char) : Step.slash ∉ moves cs := by
  intro hslash
  rcases List.mem_append.mp hslash with hroot | hmove
  · split at hroot <;> simp at hroot
  · obtain ⟨segment, -, hsegment⟩ := List.mem_filterMap.mp hmove
    exact step?_ne_slash segment hsegment

theorem ordinary_moves (cs : List Char) : Ordinary (moves cs) := by
  intro name hname
  rcases List.mem_append.mp hname with hroot | hmove
  · split at hroot <;> simp at hroot
  · obtain ⟨segment, hmem, hsegment⟩ := List.mem_filterMap.mp hmove
    exact ordinaryName_of_step? (slash_not_mem_of_mem_segments hmem) hsegment

/-- The steps of a path: some moves, at least one, and perhaps a slash at the end. -/
structure Moves (list moves : List Step) : Prop where
  ne_nil : moves ≠ []
  slash_not_mem : Step.slash ∉ moves
  ordinary : Ordinary moves
  eq_or : list = moves ∨ list = moves ++ [.slash]

theorem exists_moves_of_steps {path : String} {list : List Step} (h : steps path = .ok list) :
    ∃ moves, Moves list moves := by
  simp only [steps] at h
  split at h <;> try cases h
  split at h <;> try cases h
  split at h <;> try cases h
  rename_i hempty _
  refine ⟨moves path.toList, moves_ne_nil hempty, slash_not_mem_moves _, ordinary_moves _, ?_⟩
  split
  · exact .inr rfl
  · exact .inl (List.append_nil _)

namespace Moves

variable {list moves : List Step} (h : Moves list moves)
include h

theorem ordinary_list : Ordinary list := by
  rcases h.eq_or with rfl | rfl
  · exact h.ordinary
  · exact h.ordinary.append fun name hname => by simp at hname

theorem front : moves <+: list := by
  rcases h.eq_or with rfl | rfl
  · exact List.prefix_rfl
  · exact List.prefix_append moves [.slash]

theorem trimmed_eq : trimmed list = moves := by
  unfold trimmed
  rcases h.eq_or with rfl | rfl
  · exact if_neg fun hlast => h.slash_not_mem (List.mem_of_getLast? hlast)
  · simp

end Moves

theorem ordinary_of_steps {path : String} {list : List Step} (h : steps path = .ok list) :
    Ordinary list := by
  obtain ⟨moves, hmoves⟩ := exists_moves_of_steps h
  exact hmoves.ordinary_list

end Path

namespace FileTree

open ConfigKit.Path

variable {tree : FileTree} {mode : Mode} {links : Nat} {current location : Location}
  {steps : List Path.Step} {place : Place} {node : Node} {path : String}

/-! ## Ends of walks -/

/-- The place is an entry of the tree, or has room for one. -/
def Place.In (tree : FileTree) : Place → Prop
  | .found location node => tree.node? location = some node
  | .vacant location => tree.hasRoom location = true ∧ tree.node? location = none

theorem walk_in (hcurrent : tree.node? current = some .directory) (hsteps : Ordinary steps)
    (hwalk : tree.walk mode links current steps = .ok place) : place.In tree := by
  fun_induction walk tree mode links current steps with
  | case1 =>
    cases hwalk
    exact hcurrent
  | case2 links current rest ih => exact ih hcurrent hsteps.of_cons hwalk
  | case3 links current rest ih => exact ih hcurrent hsteps.of_cons hwalk
  | case4 links current rest ih => exact ih (node?_dropLast hcurrent) hsteps.of_cons hwalk
  | case5 links current rest ih => exact ih rfl hsteps.of_cons hwalk
  | case6 => cases hwalk
  | case7 => cases hwalk
  | case8 links current name hshort hnode hcreate =>
    cases hwalk
    refine ⟨hasRoom_concat.mpr ⟨hsteps name List.mem_cons_self, hcurrent, ?_⟩, hnode⟩
    simp [hnode]
  | case9 => cases hwalk
  | case10 links current name rest hcreate hshort hnode ih => exact ih hnode hsteps.of_cons hwalk
  | case11 links current name hshort content hnode hcreate =>
    cases hwalk
    exact hnode
  | case12 => cases hwalk
  | case13 links current name rest hcreate hshort target hnode hend =>
    cases hwalk
    exact hnode
  | case14 => cases hwalk
  | case15 => cases hwalk
  | case16 current name rest hcreate hshort target hnode hend links steps htarget ih =>
    exact ih hcurrent ((ordinary_of_steps htarget).append hsteps.of_cons) hwalk

theorem resolve_in (hsteps : Ordinary steps) (h : tree.resolve mode steps = .ok place) :
    place.In tree := by
  obtain ⟨start, hstart, hwalk⟩ := resolve_eq_ok_iff.mp h
  exact walk_in (node?_of_start? hstart) hsteps hwalk

theorem node?_of_find (h : tree.find mode path = .ok (location, node)) :
    tree.node? location = some node := by
  obtain ⟨steps, hsteps, hresolve⟩ := find_eq_ok_iff.mp h
  exact resolve_in (ordinary_of_steps hsteps) hresolve

end FileTree

end ConfigKit
