-- SUMMARY: Walking a path through a file tree from the root or the working directory, links included.
import ConfigKit.FileTree.Basic
import ConfigKit.FileTree.Path

/-!
# Walking paths

A walk follows the steps of a path through a tree and ends at an entry, or at a place in a directory
where nothing is. Links on the way are followed: the steps of the link's own path come in its place. What
happens to a link at the end depends on the mode. The number of links that a walk may follow is limited,
so walks end even where links lead in circles.

A path starts at the root or at the working directory. Where the working directory has been removed, no
path that starts there leads anywhere.
-/

namespace ConfigKit

namespace FileTree

/-- What a walk is for. -/
inductive Mode where
  /-- To reach what a link at the end stands for. -/
  | follow
  /-- To reach a link at the end itself. -/
  | stay
  /-- As `follow`, to find or create a file. -/
  | create
  deriving DecidableEq

/-- Where a walk ends. -/
inductive Place where
  | found (location : Location) (node : Node)
  /-- A place in a directory without an entry. -/
  | vacant (location : Location)

/-- A walk follows at most so many links. -/
def maxLinks : Nat := 40

/-- Follows steps from a directory. The directory above the root is the root. -/
def walk (tree : FileTree) (mode : Mode) (links : Nat) (current : Location) :
    List Path.Step → Except OsError Place
  | [] => .ok (.found current .directory)
  | .here :: rest => walk tree mode links current rest
  | .slash :: rest => walk tree mode links current rest
  | .up :: rest => walk tree mode links current.dropLast rest
  | .root :: rest => walk tree mode links [] rest
  | .name name :: rest =>
    if mode = .create ∧ rest = [.slash] then .error .isDirectory
    else if Path.maxNameBytes < name.utf8ByteSize then .error .nameTooLong
    else
      match tree.node? (current ++ [name]) with
      | none => if rest = [] then .ok (.vacant (current ++ [name])) else .error .notFound
      | some .directory => walk tree mode links (current ++ [name]) rest
      | some (.file bytes) =>
        if rest = [] then .ok (.found (current ++ [name]) (.file bytes)) else .error .notDirectory
      | some (.link target) =>
        if mode = .stay ∧ rest = [] then .ok (.found (current ++ [name]) (.link target))
        else
          match links with
          | 0 => .error .tooManyLinks
          | links + 1 =>
            match Path.steps target with
            | .error error => .error error
            | .ok steps => walk tree mode links current (steps ++ rest)
termination_by steps => (links, steps.length)

/-- Where steps start. -/
def start? (tree : FileTree) (steps : List Path.Step) : Option Location :=
  if steps.head? = some .root then some [] else tree.working?

/-- Follows steps from where they start. -/
def resolve (tree : FileTree) (mode : Mode) (steps : List Path.Step) : Except OsError Place :=
  match tree.start? steps with
  | none => .error .notFound
  | some start => tree.walk mode maxLinks start steps

/-- Follows a path. -/
def locate (tree : FileTree) (mode : Mode) (path : String) : Except OsError Place :=
  match Path.steps path with
  | .error error => .error error
  | .ok steps => tree.resolve mode steps

/-- The location and the node that a path leads to. -/
def find (tree : FileTree) (mode : Mode) (path : String) : Except OsError (Location × Node) :=
  match tree.locate mode path with
  | .error error => .error error
  | .ok (.vacant _) => .error .notFound
  | .ok (.found location node) => .ok (location, node)

/-- Whether a path leads to anything, links followed. -/
def pathExists (tree : FileTree) (path : String) : Bool :=
  match tree.find .follow path with
  | .ok _ => true
  | .error _ => false

end FileTree

end ConfigKit
