-- SUMMARY: Trees of directories, files and links as maps from locations to nodes, with the changes that keep them well formed.
import ConfigKit.FieldMap.Lemmas
import ConfigKit.Text.Utf8

/-!
# File trees

A file tree holds directories, files and symbolic links under one directory, its root. A location is the
list of names that leads from the root to an entry, and the tree is a map from locations to nodes. The
root is not among the entries. Every entry lies in a directory and has an ordinary name, so a tree never
holds an entry below a file or a link.

One of the directories is the working directory, from which paths start. It may be removed like any other,
and then the tree is left without one.

There are three ways to change a tree: `place` puts a node where no directory is, `erase` takes away an
entry with everything below it, and `clear` takes away what is below a location.
-/

namespace ConfigKit

/-- The names that lead from the root of a tree to an entry. -/
abbrev Location := List String

/-- What stands at a location. -/
inductive Node where
  | directory
  | file (bytes : Bytes)
  /-- A symbolic link, with the path that it stands for. -/
  | link (target : String)
  deriving DecidableEq

/-- Whether an entry can have this name. -/
def ordinaryName (name : String) : Bool :=
  name ≠ "" && name ≠ "." && name ≠ ".." && !name.toList.contains '/'

/-- The node at a location in a map of nodes. The root is a directory. -/
def nodeAt? (nodes : FieldMap Location Node) (location : Location) : Option Node :=
  if location = [] then some .directory else nodes.get? location

/-- Whether a location is an ordinary name in a directory. -/
def InDirectory (nodes : FieldMap Location Node) (location : Location) : Prop :=
  ∃ name, location.getLast? = some name ∧ ordinaryName name = true ∧
    nodeAt? nodes location.dropLast = some .directory

/-- A tree of directories, files and links. -/
structure FileTree where
  nodes : FieldMap Location Node
  inDirectory : ∀ location node, nodes.get? location = some node → InDirectory nodes location
  /-- The working directory, unless it has been removed. -/
  working? : Option Location
  working_isDirectory : ∀ location, working? = some location → nodeAt? nodes location = some .directory

namespace FileTree

/-- The tree without entries. Its root is the working directory. -/
def empty : FileTree where
  nodes := FieldMap.empty
  inDirectory := by
    intro location node h
    simp [FieldMap.empty, FieldMap.get?, Entries.get?] at h
  working? := some []
  working_isDirectory := by
    rintro _ ⟨⟩
    rfl

def node? (tree : FileTree) (location : Location) : Option Node :=
  nodeAt? tree.nodes location

/-- All entries with their locations. A directory comes before its content. -/
def entries (tree : FileTree) : List (Location × Node) :=
  tree.nodes.entries

/-! ## Changes -/

/-- Whether a node can be put at a location: under an ordinary name, into a directory, and not in the
place of a directory. -/
def hasRoom (tree : FileTree) (location : Location) : Bool :=
  match location.getLast? with
  | none => false
  | some name =>
    ordinaryName name && decide (tree.node? location.dropLast = some .directory) &&
      decide (tree.node? location ≠ some .directory)

section HasRoom

variable {tree : FileTree} {location : Location} (h : tree.hasRoom location = true)
include h

theorem inDirectory_of_hasRoom :
    InDirectory tree.nodes location ∧ tree.node? location ≠ some .directory := by
  unfold hasRoom at h
  split at h
  · simp at h
  · rename_i name hname
    simp only [Bool.and_eq_true, decide_eq_true_eq] at h
    exact ⟨⟨name, hname, h.1.1, h.1.2⟩, h.2⟩

/-- What is put into a tree takes the place of no directory. -/
theorem isDirectory_insert (node : Node) {other : Location} (hother : tree.node? other = some .directory) :
    nodeAt? (tree.nodes.insert location node) other = some .directory := by
  have hne : other ≠ location := fun heq => (inDirectory_of_hasRoom h).2 (heq ▸ hother)
  unfold node? nodeAt? at hother
  unfold nodeAt?
  rw [FieldMap.get?_insert, if_neg hne, hother]

theorem inDirectory_insert (node : Node) (other : Location) (value : Node)
    (hother : (tree.nodes.insert location node).get? other = some value) :
    InDirectory (tree.nodes.insert location node) other := by
  have hin : InDirectory tree.nodes other := by
    rw [FieldMap.get?_insert] at hother
    split at hother
    · rename_i heq
      exact heq ▸ (inDirectory_of_hasRoom h).1
    · exact tree.inDirectory other value hother
  obtain ⟨name, hname, hordinary, hparent⟩ := hin
  exact ⟨name, hname, hordinary, isDirectory_insert h node hparent⟩

end HasRoom

/-- Puts a node at a location. Where there is no room for it, the tree stays as it is. -/
def place (tree : FileTree) (location : Location) (node : Node) : FileTree :=
  if h : tree.hasRoom location = true then
    { tree with
      nodes := tree.nodes.insert location node
      inDirectory := inDirectory_insert h node
      working_isDirectory := fun other hother =>
        isDirectory_insert h node (tree.working_isDirectory other hother) }
  else tree

theorem isDirectory_filterKeys {tree : FileTree} {doomed : Location → Bool} {location : Location}
    (hkept : doomed location = false) (h : tree.node? location = some .directory) :
    nodeAt? (tree.nodes.filterKeys fun l => !doomed l) location = some .directory := by
  unfold node? nodeAt? at h
  unfold nodeAt?
  rw [FieldMap.get?_filterKeys, hkept]
  exact h

theorem inDirectory_filterKeys {tree : FileTree} {doomed : Location → Bool}
    (h : ∀ location, doomed location.dropLast = true → doomed location = true)
    (location : Location) (node : Node)
    (hnode : (tree.nodes.filterKeys fun l => !doomed l).get? location = some node) :
    InDirectory (tree.nodes.filterKeys fun l => !doomed l) location := by
  rw [FieldMap.get?_filterKeys] at hnode
  split at hnode
  · rename_i hkept
    obtain ⟨name, hname, hordinary, hparent⟩ := tree.inDirectory location node hnode
    have hdrop : doomed location.dropLast = false := by
      have := h location
      cases hd : doomed location.dropLast <;> simp_all
    exact ⟨name, hname, hordinary, isDirectory_filterKeys hdrop hparent⟩
  · simp at hnode

/-- Takes away the entries at the doomed locations. With a location everything below it is doomed. -/
def without (tree : FileTree) (doomed : Location → Bool)
    (h : ∀ location, doomed location.dropLast = true → doomed location = true) : FileTree where
  nodes := tree.nodes.filterKeys fun location => !doomed location
  inDirectory := inDirectory_filterKeys h
  working? := tree.working?.filter fun location => !doomed location
  working_isDirectory := by
    intro location hworking
    obtain ⟨hworking, hkept⟩ := Option.filter_eq_some_iff.mp hworking
    exact isDirectory_filterKeys (by simpa using hkept) (tree.working_isDirectory location hworking)

/-- Takes away the entry at a location and everything below it. -/
def erase (tree : FileTree) (location : Location) : FileTree :=
  tree.without (fun other => location.isPrefixOf other) (by
    intro other h
    rw [List.isPrefixOf_iff_prefix] at h ⊢
    exact h.trans (List.dropLast_prefix other))

/-- Takes away everything below a location. -/
def clear (tree : FileTree) (location : Location) : FileTree :=
  tree.without (fun other => location.isPrefixOf other && decide (location.length < other.length)) (by
    intro other h
    simp only [Bool.and_eq_true, List.isPrefixOf_iff_prefix, decide_eq_true_eq] at h ⊢
    refine ⟨h.1.trans (List.dropLast_prefix other), ?_⟩
    have := h.2
    rw [List.length_dropLast] at this
    omega)

/-- The entries below a location, by the names that lead there from it. -/
def below (tree : FileTree) (location : Location) : List (Location × Node) :=
  tree.entries.filterMap fun entry =>
    if location.isPrefixOf entry.1 && decide (location.length < entry.1.length) then
      some (entry.1.drop location.length, entry.2)
    else none

end FileTree

end ConfigKit
