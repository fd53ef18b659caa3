-- SUMMARY: Searching a text with a program: the first match, and all matches that do not overlap.
import ConfigKit.Pattern.Expression.CharSet
import ConfigKit.Pattern.Program
import Std.Data.HashSet

/-!
# Searching

`Program.search` finds the first match of a program in a text: the leftmost one, and of those at the same
place the one that the choices of the program prefer. `Program.searchAll` finds all matches that do not
overlap. Places in the text count its characters.
-/

namespace ConfigKit

namespace Pattern

/-- A text to search in. -/
abbrev Haystack := Array Char

namespace Haystack

def before? (text : Haystack) (place : Nat) : Option Char :=
  match place with
  | 0 => none
  | place + 1 => text[place]?

def isWordChar (ascii : Bool) (c : Char) : Bool :=
  (Shorthand.members (!ascii) .word).containsChar c

/-- What a word boundary asks of the characters before and after it. -/
def holdsEdge (before after : Bool) : WordEdge → Bool
  | .boundary => before != after
  | .inner => before == after
  | .start => !before && after
  | .finish => before && !after
  | .startHalf => !before
  | .finishHalf => !after

/-- Whether a condition holds at a place. With `crlf` no line starts or ends between a carriage return
and a line feed. -/
def holds (text : Haystack) (place : Nat) : Look → Bool
  | .textStart => place = 0
  | .textEnd => place = text.size
  | .lineStart crlf =>
    match before? text place with
    | none => true
    | some '\n' => true
    | some '\r' => crlf && text[place]? != some '\n'
    | some _ => false
  | .lineEnd crlf =>
    match text[place]? with
    | none => true
    | some '\n' => !(crlf && before? text place == some '\r')
    | some '\r' => crlf
    | some _ => false
  | .word edge ascii =>
    holdsEdge ((before? text place).any (isWordChar ascii)) (text[place]?.any (isWordChar ascii)) edge

end Haystack

/-- The places that a run of a program has saved, two for each group. -/
abbrev Slots := Array (Option Nat)

/-- A run of a program that is to be continued. -/
structure Thread where
  next : Nat
  place : Nat
  slots : Slots

namespace Program

/-- The threads that a thread leads to, the preferred one first; or none, where it has come to a match. -/
def step? (code : Array Instruction) (text : Haystack) (t : Thread) : Option (List Thread) :=
  match code[t.next]? with
  | none => some []
  | some .accept => none
  | some (.char set next) =>
    match text[t.place]? with
    | some c => some (if set.containsChar c then [⟨next, t.place + 1, t.slots⟩] else [])
    | none => some []
  | some (.look condition next) =>
    some (if Haystack.holds text t.place condition then [{ t with next := next }] else [])
  | some (.save slot next) =>
    some [⟨next, t.place, t.slots.setIfInBounds slot (some t.place)⟩]
  | some (.fork preferred other) => some [{ t with next := preferred }, { t with next := other }]

/-- The thread that starts a program at a place. -/
def threadAt (p : Program) (place : Nat) : Thread :=
  ⟨p.start, place, Array.replicate (2 * p.groups) none⟩

/-- Continues threads one after the other until one of them comes to a match. When none is left, the
program is started at the next place, which is `place`. An instruction that has been tried at a place is
not tried there again: it did not lead to a match. -/
def run (p : Program) (text : Haystack) :
    Nat → Std.HashSet (Nat × Nat) → Nat → List Thread → Option Slots
  | 0, _, _, _ => none
  | fuel + 1, tried, place, [] =>
    if place ≤ text.size then run p text fuel tried (place + 1) [p.threadAt place] else none
  | fuel + 1, tried, place, t :: threads =>
    if tried.contains (t.next, t.place) then run p text fuel tried place threads
    else
      match step? p.code text t with
      | none => some t.slots
      | some more => run p text fuel (tried.insert (t.next, t.place)) place (more ++ threads)

/-- The number of steps that a search may take. Every instruction is tried at most once at each place and
leads to two threads at most, and every place starts one thread. -/
def stepBound (p : Program) (text : Haystack) : Nat :=
  2 * (p.code.size + 1) * (text.size + 1) + 2

/-- The first match from a place on. -/
def search (p : Program) (text : Haystack) (start : Nat) : Option Slots :=
  run p text (p.stepBound text) {} start []

/-- The part of the text that a group has matched. -/
def group (slots : Slots) (index : Nat) : Option (Nat × Nat) :=
  match (slots[2 * index]?).join, (slots[2 * index + 1]?).join with
  | some first, some last => some (first, last)
  | _, _ => none

def whole (slots : Slots) : Nat × Nat := (group slots 0).getD (0, 0)

/-- All matches from a place on that do not overlap. An empty match at the end of the match before,
`last`, does not count: the search goes on after the next character. -/
def searchAllFrom (p : Program) (text : Haystack) :
    Nat → Nat → Option Nat → List (Nat × Nat)
  | 0, _, _ => []
  | fuel + 1, start, last =>
    match (p.search text start).map whole with
    | none => []
    | some (first, ending) =>
      if first = ending ∧ some ending = last then
        match (p.search text (start + 1)).map whole with
        | none => []
        | some (first, ending) => (first, ending) :: searchAllFrom p text fuel ending (some ending)
      else (first, ending) :: searchAllFrom p text fuel ending (some ending)

/-- All matches that do not overlap. No two of them end at the same place. -/
def searchAll (p : Program) (text : Haystack) : List (Nat × Nat) :=
  searchAllFrom p text (text.size + 2) 0 none

end Program

end Pattern

end ConfigKit
