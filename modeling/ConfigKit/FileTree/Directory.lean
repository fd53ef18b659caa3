-- SUMMARY: Making, deleting and emptying directories, strictly or leniently, with the events that announce a change.
import ConfigKit.FileTree.Outcome

/-!
# Directories

Making and deleting directories. The strict operations refuse a path where something is, or where nothing
is; the lenient ones accept that the work is done already. Everything that may change the tree reports an
event first.
-/

namespace ConfigKit

namespace Directory

def creatingEvent (path : String) : Event :=
  { level := .debug, message := "creating directory", fields := [("path", path)] }

def removingEvent (path : String) : Event :=
  { level := .debug, message := "removing directory tree", fields := [("path", path)] }

/-- Makes a directory at a path, and the missing ones above it. -/
def make (tree : FileTree) (path : String) : Outcome Unit :=
  let made := tree.makeDirectories path
  ⟨made.1.mapError (Failure.ofSystem path), made.2, [creatingEvent path]⟩

/-- Makes a directory, with the missing ones above it, where nothing is. -/
def create (tree : FileTree) (path : String) : Outcome Unit :=
  if tree.pathExists path then .unchanged tree (.error (.alreadyExists path)) else make tree path

/-- Makes a directory, with the missing ones above it, unless something is there. -/
def createIfMissing (tree : FileTree) (path : String) : Outcome Unit :=
  if tree.pathExists path then .unchanged tree (.ok ()) else make tree path

/-- Deletes what a path leads to, which has to be a directory. Of a link only the link goes. -/
def remove (tree : FileTree) (path : String) (node : Node) : Outcome Unit :=
  if node = .directory then
    let removed := tree.removeTree path
    ⟨removed.1.mapError (Failure.ofSystem path), removed.2, [removingEvent path]⟩
  else .unchanged tree (.error (.notDirectory path))

/-- Deletes a directory with its content. -/
def delete (tree : FileTree) (path : String) : Outcome Unit :=
  match tree.find .follow path with
  | .error error => .unchanged tree (.error (.ofSystem path error))
  | .ok (_, node) => remove tree path node

/-- Deletes a directory with its content if the path leads anywhere. -/
def deleteIfPresent (tree : FileTree) (path : String) : Outcome Unit :=
  match tree.find .follow path with
  | .error _ => .unchanged tree (.ok ())
  | .ok (_, node) => remove tree path node

/-- Makes sure that there is an empty directory at a path. -/
def ensureEmpty (tree : FileTree) (path : String) : Outcome Unit :=
  (deleteIfPresent tree path).andThen fun _ tree => create tree path

end Directory

end ConfigKit
