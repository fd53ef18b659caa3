-- SUMMARY: The operations of the file system by path: files, links, directories, and the working directory.
import ConfigKit.FileTree.Walk

/-!
# Operations of the file system

Reading and writing files, making and removing directories and links, and changing the working directory,
by path. An operation on a single entry changes the tree only if it succeeds. Making several directories, or
removing a directory with its content, may fail halfway; then the tree shows what was done before.
-/

namespace ConfigKit

namespace FileTree

/-! ## Files and links -/

def load (tree : FileTree) (path : String) : Except OsError Bytes :=
  match tree.find .follow path with
  | .error error => .error error
  | .ok (_, .file bytes) => .ok bytes
  | .ok (_, .directory) => .error .isDirectory
  | .ok (_, .link _) => .error .tooManyLinks

/-- Makes a file, or replaces the content of one. -/
def store (tree : FileTree) (path : String) (bytes : Bytes) : Except OsError FileTree :=
  match tree.locate .create path with
  | .error error => .error error
  | .ok (.vacant location) => .ok (tree.place location (.file bytes))
  | .ok (.found location (.file _)) => .ok (tree.place location (.file bytes))
  | .ok (.found _ .directory) => .error .isDirectory
  | .ok (.found _ (.link _)) => .error .tooManyLinks

def makeLink (tree : FileTree) (target path : String) : Except OsError FileTree :=
  match tree.locate .stay path with
  | .error error => .error error
  | .ok (.vacant location) => .ok (tree.place location (.link target))
  | .ok (.found _ _) => .error .fileExists

/-- Makes what a path leads to the working directory. -/
def enter (tree : FileTree) (path : String) : Except OsError FileTree :=
  match tree.find .follow path with
  | .error error => .error error
  | .ok (location, _) =>
    if h : tree.node? location = some .directory then
      .ok
        { tree with
          working? := some location
          working_isDirectory := by
            rintro _ ⟨⟩
            exact h }
    else .error .notDirectory

/-! ## Making directories -/

/-- Makes one directory at the end of some steps. -/
def makeDirectory (tree : FileTree) (steps : List Path.Step) : Except OsError FileTree :=
  match tree.resolve .stay (Path.trimmed steps) with
  | .error error => .error error
  | .ok (.vacant location) => .ok (tree.place location .directory)
  | .ok (.found _ _) => .error .fileExists

/-- Whether steps lead to a directory. -/
def leadsToDirectory (tree : FileTree) (steps : List Path.Step) : Bool :=
  match tree.resolve .follow steps with
  | .ok (.found _ .directory) => true
  | _ => false

/-- Tries to make the directory of the first steps, and while its own directory is missing, that of the
next. Gives the tree afterwards and the steps that are still to be made, the last one first. -/
def makeFirstPossible (tree : FileTree) :
    List (List Path.Step) → Except OsError (FileTree × List (List Path.Step))
  | [] => .ok (tree, [])
  | steps :: more =>
    match tree.makeDirectory steps with
    | .ok tree => .ok (tree, [])
    | .error .notFound =>
      match makeFirstPossible tree more with
      | .error error => .error error
      | .ok (tree, pending) => .ok (tree, pending ++ [steps])
    | .error error =>
      if error = .fileExists ∧ tree.leadsToDirectory steps then .ok (tree, []) else .error error

/-- Makes directories one after the other. One that is there already is passed over. -/
def makeEach (tree : FileTree) : List (List Path.Step) → Except OsError Unit × FileTree
  | [] => (.ok (), tree)
  | steps :: more =>
    match tree.makeDirectory steps with
    | .ok tree => makeEach tree more
    | .error error =>
      if error = .fileExists ∧ tree.leadsToDirectory steps then makeEach tree more
      else (.error error, tree)

/-- Makes a directory and those that are missing on the way to it. Above the working directory and the root
nothing is missing, and the system is not even asked. -/
def makeDirectories (tree : FileTree) (path : String) : Except OsError Unit × FileTree :=
  if Path.isTop path then (.ok (), tree)
  else
    match Path.steps path with
    | .error error => (.error error, tree)
    | .ok steps =>
      match tree.makeFirstPossible (Path.ancestors steps) with
      | .error error => (.error error, tree)
      | .ok (tree, pending) => tree.makeEach pending

/-! ## Removing directories -/

/-- Removes an empty directory. -/
def removeDirectory (tree : FileTree) (path : String) : Except OsError FileTree :=
  match Path.steps path with
  | .error error => .error error
  | .ok steps =>
    match tree.resolve .stay (Path.trimmed steps) with
    | .error error => .error error
    | .ok (.vacant _) => .error .notFound
    | .ok (.found location node) =>
      if (Path.trimmed steps).getLast? = some .here then .error .invalidArgument
      else if (Path.trimmed steps).getLast? = some .up then .error .notEmpty
      else if (Path.trimmed steps).getLast? = some .root then .error .busy
      else if node ≠ .directory then .error .notDirectory
      else if tree.below location ≠ [] then .error .notEmpty
      else .ok (tree.erase location)

/-- Removes a directory with its content, or a link. What is to be removed may be gone by the time when
its turn comes. -/
def removeTree (tree : FileTree) (path : String) : Except OsError Unit × FileTree :=
  match tree.find .stay path with
  | .error error => (.error error, tree)
  | .ok (location, .link _) => (.ok (), tree.erase location)
  | .ok (_, .file _) => (.error .notDirectory, tree)
  | .ok (location, .directory) =>
    let emptied := tree.clear location
    match emptied.removeDirectory path with
    | .ok tree => (.ok (), tree)
    | .error .notFound => (.ok (), emptied)
    | .error error => (.error error, emptied)

end FileTree

end ConfigKit
