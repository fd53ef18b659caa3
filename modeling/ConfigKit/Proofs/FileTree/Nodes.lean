-- SUMMARY: The nodes of a tree after each of its changes.
import Mathlib.Data.List.Infix
import ConfigKit.FileTree.Basic

/-!
# Nodes of a changed tree

What stands at a location after each of the changes of a tree, and what a node says about the locations
above and below it: what is above a node is a directory, and nothing is below a place without a node.
-/

namespace ConfigKit

namespace FileTree

variable {tree : FileTree} {location other : Location} {node : Node} {name : String}

theorem node?_of_ne_nil (h : location ≠ []) : tree.node? location = tree.nodes.get? location :=
  if_neg h

/-! ## Above and below -/

theorem node?_dropLast (h : tree.node? location = some node) :
    tree.node? location.dropLast = some .directory := by
  by_cases hnil : location = []
  · subst hnil
    rfl
  · rw [node?_of_ne_nil hnil] at h
    obtain ⟨-, -, -, hparent⟩ := tree.inDirectory location node h
    exact hparent

/-- Only directories are above a node. -/
theorem node?_above (h : tree.node? (location ++ other) = some node) (hother : other ≠ []) :
    tree.node? location = some .directory := by
  induction other using List.reverseRecOn generalizing node with
  | nil => exact absurd rfl hother
  | append_singleton other name ih =>
    have hparent := node?_dropLast h
    rw [← List.append_assoc, List.dropLast_concat] at hparent
    by_cases hnil : other = []
    · rwa [hnil, List.append_nil] at hparent
    · exact ih hparent hnil

theorem ordinaryName_of_node? (h : tree.node? location = some node) :
    ∀ name ∈ location, ordinaryName name = true := by
  induction location using List.reverseRecOn generalizing node with
  | nil => simp
  | append_singleton front last ih =>
    rw [node?_of_ne_nil (by simp)] at h
    obtain ⟨name, hname, hordinary, hparent⟩ := tree.inDirectory _ _ h
    rw [List.dropLast_concat] at hparent
    obtain rfl : last = name := by simpa using hname
    intro other hother
    rcases List.mem_append.mp hother with hfront | hlast
    · exact ih hparent other hfront
    · rwa [List.mem_singleton.mp hlast]

/-- Nothing is below a place that is no directory. -/
theorem node?_below_eq_none (h : tree.node? location ≠ some .directory) (hbelow : location <+: other)
    (hne : other ≠ location) : tree.node? other = none := by
  obtain ⟨more, rfl⟩ := hbelow
  cases hnode : tree.node? (location ++ more) with
  | none => rfl
  | some node =>
    refine absurd (node?_above hnode ?_) h
    rintro rfl
    simp at hne

/-- The entry of a link has nothing below it. -/
theorem eq_of_prefix_of_link {target : String} (h : tree.node? location = some (.link target))
    (hbelow : location <+: other) (hnode : tree.node? other ≠ none) : other = location := by
  by_contra hne
  refine hnode (node?_below_eq_none ?_ hbelow hne)
  rw [h]
  simp

theorem length_lt_iff_ne (h : location <+: other) :
    location.length < other.length ↔ other ≠ location := by
  constructor
  · rintro hlt rfl
    exact absurd hlt (Nat.lt_irrefl _)
  · intro hne
    refine Nat.lt_of_le_of_ne h.length_le fun hlength => hne ?_
    exact (h.eq_of_length hlength).symm

theorem below_entry_iff {entry other : Location × Node} :
    (if location.isPrefixOf entry.1 && decide (location.length < entry.1.length) then
        some (entry.1.drop location.length, entry.2)
      else none) = some other ↔ other.1 ≠ [] ∧ entry = (location ++ other.1, other.2) := by
  obtain ⟨place, node⟩ := entry
  obtain ⟨names, node'⟩ := other
  simp only [Bool.and_eq_true, List.isPrefixOf_iff_prefix, decide_eq_true_eq, Option.ite_none_right_eq_some,
    Option.some.injEq, Prod.mk.injEq]
  constructor
  · rintro ⟨⟨⟨more, rfl⟩, hlength⟩, hdrop, rfl⟩
    obtain rfl : more = names := by simpa using hdrop
    refine ⟨?_, rfl, rfl⟩
    rintro rfl
    simp at hlength
  · rintro ⟨hne, rfl, rfl⟩
    refine ⟨⟨List.prefix_append _ _, ?_⟩, by simp, rfl⟩
    simpa using List.length_pos_iff.mpr hne

/-- Below a location are the entries that names lead to from there. -/
theorem mem_below_iff {names : List String} :
    (names, node) ∈ tree.below location ↔ names ≠ [] ∧ tree.node? (location ++ names) = some node := by
  unfold below entries
  simp only [List.mem_filterMap, below_entry_iff]
  constructor
  · rintro ⟨entry, hentry, hne, rfl⟩
    exact ⟨hne, (node?_of_ne_nil (by simp [hne])).trans (FieldMap.get?_eq_some_iff.mpr hentry)⟩
  · rintro ⟨hne, hnode⟩
    rw [node?_of_ne_nil (by simp [hne])] at hnode
    exact ⟨_, FieldMap.get?_eq_some_iff.mp hnode, hne, rfl⟩

theorem below_pairwise (tree : FileTree) (location : Location) :
    (tree.below location).Pairwise fun a b => a.1 ≠ b.1 := by
  unfold below entries
  rw [List.pairwise_filterMap]
  refine tree.nodes.sorted.imp fun {a b} hlt a' ha b' hb hnames => ?_
  obtain ⟨-, rfl⟩ := below_entry_iff.mp ha
  obtain ⟨-, rfl⟩ := below_entry_iff.mp hb
  simp [hnames] at hlt

theorem below_eq_nil_iff :
    tree.below location = [] ↔
      ∀ other, location <+: other → other ≠ location → tree.node? other = none := by
  rw [List.eq_nil_iff_forall_not_mem]
  constructor
  · rintro h _ ⟨names, rfl⟩ hne
    cases hnode : tree.node? (location ++ names) with
    | none => rfl
    | some node => exact absurd (mem_below_iff.mpr ⟨by simpa using hne, hnode⟩) (h (names, node))
  · rintro h ⟨names, node⟩ hentry
    obtain ⟨hne, hnode⟩ := mem_below_iff.mp hentry
    rw [h _ (List.prefix_append _ _) (by simpa using hne)] at hnode
    cases hnode

/-! ## Changes -/

theorem hasRoom_concat :
    tree.hasRoom (location ++ [name]) = true ↔
      ordinaryName name = true ∧ tree.node? location = some .directory ∧
        tree.node? (location ++ [name]) ≠ some .directory := by
  simp [hasRoom, and_assoc]

theorem node?_place (h : tree.hasRoom location = true) (node : Node) (other : Location) :
    (tree.place location node).node? other = if other = location then some node else tree.node? other := by
  have hnil : location ≠ [] := by
    rintro rfl
    simp [hasRoom] at h
  unfold place
  rw [dif_pos h]
  by_cases hother : other = []
  · subst hother
    rw [if_neg (Ne.symm hnil)]
    rfl
  · rw [node?_of_ne_nil hother, node?_of_ne_nil hother]
    exact FieldMap.get?_insert tree.nodes location other node

theorem node?_without (doomed : Location → Bool)
    (h : ∀ location, doomed location.dropLast = true → doomed location = true) (hother : other ≠ []) :
    (tree.without doomed h).node? other = if doomed other = true then none else tree.node? other := by
  rw [node?_of_ne_nil hother, node?_of_ne_nil hother]
  refine (FieldMap.get?_filterKeys tree.nodes _ other).trans ?_
  cases doomed other <;> rfl

theorem node?_erase (hother : other ≠ []) :
    (tree.erase location).node? other = if location <+: other then none else tree.node? other := by
  unfold erase
  rw [node?_without _ _ hother]
  simp only [List.isPrefixOf_iff_prefix]

/-- Erasing a link takes away this one entry. -/
theorem node?_erase_link {target : String} (h : tree.node? location = some (.link target))
    (other : Location) :
    (tree.erase location).node? other = if other = location then none else tree.node? other := by
  have hne : location ≠ [] := by
    rintro rfl
    cases h
  by_cases hbelow : location <+: other
  · have hother : other ≠ [] := fun hnil => hne (List.prefix_nil.mp (hnil ▸ hbelow))
    rw [node?_erase hother, if_pos hbelow]
    by_cases hsame : other = location
    · rw [if_pos hsame]
    · rw [if_neg hsame, node?_below_eq_none (by simp [h]) hbelow hsame]
  · have hsame : other ≠ location := fun hsame => hbelow (hsame ▸ List.prefix_rfl)
    rw [if_neg hsame]
    by_cases hother : other = []
    · subst hother
      rfl
    · rw [node?_erase hother, if_neg hbelow]

theorem node?_clear (tree : FileTree) (location other : Location) :
    (tree.clear location).node? other
      = if location <+: other ∧ other ≠ location then none else tree.node? other := by
  by_cases hother : other = []
  · subst hother
    rw [if_neg (by simp)]
    rfl
  · unfold clear
    rw [node?_without _ _ hother]
    by_cases hbelow : location <+: other
    · simp [List.isPrefixOf_iff_prefix, hbelow, length_lt_iff_ne hbelow]
    · simp [List.isPrefixOf_iff_prefix, hbelow]

/-! ## Growth -/

/-- Every entry of the first tree is one of the second, and a working directory stays what it is. -/
structure Grows (tree later : FileTree) : Prop where
  node?_eq_some : ∀ location node, tree.node? location = some node → later.node? location = some node
  working?_eq_some : ∀ location, tree.working? = some location → later.working? = some location

theorem grows_refl (tree : FileTree) : tree.Grows tree :=
  ⟨fun _ _ hnode => hnode, fun _ hworking => hworking⟩

theorem Grows.trans {tree later last : FileTree} (h : tree.Grows later) (hlast : later.Grows last) :
    tree.Grows last where
  node?_eq_some location node hnode := hlast.node?_eq_some location node (h.node?_eq_some location node hnode)
  working?_eq_some location hworking := hlast.working?_eq_some location (h.working?_eq_some location hworking)

@[simp] theorem working?_place (tree : FileTree) (location : Location) (node : Node) :
    (tree.place location node).working? = tree.working? := by
  unfold place
  split <;> rfl

theorem grows_place (h : tree.node? location = none) (node : Node) :
    tree.Grows (tree.place location node) where
  node?_eq_some other value hother := by
    by_cases hroom : tree.hasRoom location = true
    · have hne : other ≠ location := by
        rintro rfl
        rw [h] at hother
        cases hother
      rw [node?_place hroom, if_neg hne, hother]
    · unfold place
      rwa [dif_neg hroom]
  working?_eq_some other hworking := by rw [working?_place, hworking]

/-- A tree from which entries are taken away has lost its working directory, or has it still. -/
theorem without_grows (doomed : Location → Bool)
    (h : ∀ location, doomed location.dropLast = true → doomed location = true) :
    (tree.without doomed h).Grows tree where
  node?_eq_some other node hnode := by
    by_cases hother : other = []
    · subst hother
      exact hnode
    · rw [node?_without doomed h hother] at hnode
      split at hnode
      · cases hnode
      · exact hnode
  working?_eq_some _ hworking := (Option.filter_eq_some_iff.mp hworking).1

theorem erase_grows (tree : FileTree) (location : Location) : (tree.erase location).Grows tree :=
  without_grows _ _

theorem clear_grows (tree : FileTree) (location : Location) : (tree.clear location).Grows tree :=
  without_grows _ _

end FileTree

end ConfigKit
