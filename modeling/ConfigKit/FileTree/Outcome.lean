-- SUMMARY: The outcome of an operation on a file tree: its result, the tree afterwards, and the events.
import ConfigKit.Event
import ConfigKit.Failure
import ConfigKit.FileTree.System

/-!
# Outcomes on a file tree

An operation on files gives a result or a failure, the tree afterwards, and the events that it reported.
-/

namespace ConfigKit

/-- What an operation on files leads to. -/
structure Outcome (α : Type) where
  result : Except Failure α
  tree : FileTree
  events : List Event

namespace Outcome

variable {α β : Type}

/-- An outcome that leaves the tree as it is and reports nothing. -/
def unchanged (tree : FileTree) (result : Except Failure α) : Outcome α :=
  ⟨result, tree, []⟩

/-- Goes on after a success, with the tree as it is then. -/
def andThen (first : Outcome α) (next : α → FileTree → Outcome β) : Outcome β :=
  match first.result with
  | .error failure => ⟨.error failure, first.tree, first.events⟩
  | .ok value =>
    let second := next value first.tree
    { second with events := first.events ++ second.events }

end Outcome

/-- The failure of the system on a path. -/
def Failure.ofSystem (path : String) (error : OsError) : Failure :=
  .io path (.system error)

end ConfigKit
