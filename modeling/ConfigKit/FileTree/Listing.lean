-- SUMMARY: Listing the files below a path whose names have a given extension.
import ConfigKit.Event
import ConfigKit.FileTree.Walk

/-!
# Listing files

The files and links below a path whose name has a given extension. Links are listed as themselves, and
what they stand for is not searched. Only the path to start from may be a link to a directory. What cannot
be opened is passed over.
-/

namespace ConfigKit

namespace FileTree

/-- Whether a search from `root` meets an entry that is no directory. A directory is opened by its path, so
nothing is met in one whose path is too long. -/
def isMet (root : String) (entry : Location × Node) : Bool :=
  entry.2 ≠ .directory && (Path.joinAll root entry.1.dropLast).utf8ByteSize < Path.pathBytesLimit

/-- The paths of the files and links that a search meets below the directory that `root` leads to. -/
def filesBelow (tree : FileTree) (root : String) (location : Location) : List String :=
  ((tree.below location).filter (isMet root)).map fun entry => Path.joinAll root entry.1

/-- The paths of the files and links that a search from `root` meets. -/
def filesFrom (tree : FileTree) (root : String) : List String :=
  match tree.find .stay root with
  | .error _ => []
  | .ok (location, .directory) => tree.filesBelow root location
  | .ok (_, .file _) => [root]
  | .ok (_, .link _) =>
    match tree.find .follow root with
    | .error _ => []
    | .ok (location, .directory) => root :: tree.filesBelow root location
    | .ok _ => [root]

def lastName (path : String) : String :=
  String.ofList ((Path.segments path.toList).getLast?.getD [])

/-- The paths below `root` with an extension, which may be given with or without its dot. -/
def listFiles (tree : FileTree) (root ext : String) : List String × Event :=
  let wanted := if ext.toList.head? = some '.' then String.ofList ext.toList.tail else ext
  let files := (tree.filesFrom root).filter fun path => Path.extension (lastName path) = wanted
  (files,
    { level := .debug, message := "listed files"
      fields := [("root", root), ("ext", ext), ("count", toString files.length)] })

end FileTree

end ConfigKit
