-- SUMMARY: Paths as texts and as steps, the paths above a path, joined paths, and extensions of names.
import ConfigKit.FileTree.OsError

/-!
# Paths

A path is a text with names between slashes. It leads through a tree in steps: to the same directory
(`.`), to the one above (`..`), or to an entry by its name. Several slashes count as one. A slash at the
end is a step of its own, because it asks for a directory, and so is a slash at the start, which leads to
the root.
-/

namespace ConfigKit

namespace Path

/-- A step of a path. -/
inductive Step where
  | here
  | up
  /-- A slash at the start. -/
  | root
  /-- A slash at the end. -/
  | slash
  | name (name : String)
  deriving DecidableEq

/-- A name may have so many bytes. -/
def maxNameBytes : Nat := 255

/-- A path has fewer bytes than this. -/
def pathBytesLimit : Nat := 4096

/-- The parts between the slashes of a text. -/
def segments : List Char → List (List Char)
  | [] => [[]]
  | c :: cs =>
    if c = '/' then [] :: segments cs
    else
      match segments cs with
      | [] => [[c]]
      | segment :: rest => (c :: segment) :: rest

/-- The step of a part. An empty part is none. -/
def step? (segment : List Char) : Option Step :=
  if segment = [] then none
  else if segment = ['.'] then some .here
  else if segment = ['.', '.'] then some .up
  else some (.name (String.ofList segment))

/-- The steps of a text but for a slash at its end. -/
def moves (cs : List Char) : List Step :=
  (if cs.head? = some '/' then [.root] else []) ++ (segments cs).filterMap step?

/-- The steps of a path that can be followed. -/
def steps (path : String) : Except OsError (List Step) :=
  let cs := path.toList
  if cs.contains '\x00' then .error .nulInPath
  else if cs = [] then .error .notFound
  else if pathBytesLimit ≤ path.utf8ByteSize then .error .nameTooLong
  else .ok (moves cs ++ if cs.getLast? = some '/' then [.slash] else [])

/-- The steps without a slash at the end. -/
def trimmed (steps : List Step) : List Step :=
  if steps.getLast? = some .slash then steps.dropLast else steps

/-- The steps without those that do not move, except for a first one. -/
def significant : List Step → List Step
  | [] => []
  | first :: rest => first :: rest.filter fun step => step ≠ .here && step ≠ .slash

/-- The non-empty initial parts of a list of steps, the longest first. -/
def initialParts : List Step → List (List Step)
  | [] => []
  | step :: rest => (initialParts rest).map (step :: ·) ++ [[step]]

/-- Whether a path names no directory above it: it is empty, or it stands for the root. -/
def isTop (path : String) : Bool :=
  path = "" ||
    path.toList.head? = some '/' && (segments path.toList).all fun part => part = [] || part = ['.']

/-- A path itself and, from the longest to the shortest, the paths of the directories on its way. -/
def ancestors (steps : List Step) : List (List Step) :=
  steps :: initialParts (significant steps).dropLast

/-- A path and a name, with one slash between them. A path that ends with a slash needs no other. -/
def join (path name : String) : String :=
  if path = "" ∨ path.toList.getLast? = some '/' then path ++ name else path ++ "/" ++ name

/-- A path and several names after it. -/
def joinAll (path : String) (names : List String) : String :=
  names.foldl join path

/-- The part of a name after its last dot, unless that dot comes first. -/
def extension (name : String) : String :=
  let backwards := name.toList.reverse
  let stem := backwards.dropWhile (· ≠ '.')
  if name = ".." ∨ stem.length ≤ 1 then "" else String.ofList (backwards.takeWhile (· ≠ '.')).reverse

end Path

end ConfigKit
