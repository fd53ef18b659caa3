-- SUMMARY: Taking characters from a pattern in which blanks and comments may not count.
import ConfigKit.Text.Blank

/-!
# Blanks and comments in patterns

In a verbose pattern blanks do not count, nor does what stands between `#` and the end of the line. The
readers here take characters from such a text one after the other. The main statements say that no
reader gives back more than it was given.
-/

namespace ConfigKit

namespace Pattern

/-- Skips blanks and comments; `inComment` tells that a comment has begun. -/
def skipComments : Bool → List Char → List Char
  | _, [] => []
  | true, c :: rest => skipComments (c ≠ '\n') rest
  | false, c :: rest =>
    if c.isBlank then skipComments false rest
    else if c = '#' then skipComments true rest
    else c :: rest

theorem length_skipComments_le (inComment : Bool) (cs : List Char) :
    (skipComments inComment cs).length ≤ cs.length := by
  fun_induction skipComments inComment cs with
  | case1 => exact Nat.le_refl _
  | case2 _ _ ih => exact Nat.le_succ_of_le ih
  | case3 _ _ _ ih => exact Nat.le_succ_of_le ih
  | case4 _ _ ih => exact Nat.le_succ_of_le ih
  | case5 => exact Nat.le_refl _

/-- Skips what does not count. -/
def skip (verbose : Bool) (cs : List Char) : List Char :=
  if verbose then skipComments false cs else cs

theorem length_skip_le (verbose : Bool) (cs : List Char) :
    (skip verbose cs).length ≤ cs.length := by
  unfold skip
  split
  · exact length_skipComments_le _ _
  · exact Nat.le_refl _

/-- Takes characters as long as `p` holds, and skips what does not count after each. -/
def spanSkipping (verbose : Bool) (p : Char → Bool) : List Char → List Char × List Char
  | [] => ([], [])
  | c :: rest =>
    if p c then
      let (taken, rest) := spanSkipping verbose p (skip verbose rest)
      (c :: taken, rest)
    else ([], c :: rest)
  termination_by cs => cs.length
  decreasing_by exact Nat.lt_succ_of_le (length_skip_le verbose rest)

/-- Takes `n` characters for which `p` holds, and skips what does not count after each. -/
def takeSkipping? (verbose : Bool) (p : Char → Bool) :
    Nat → List Char → Option (List Char × List Char)
  | 0, cs => some ([], cs)
  | _ + 1, [] => none
  | n + 1, c :: rest =>
    if p c then
      (takeSkipping? verbose p n (skip verbose rest)).map fun (taken, rest) => (c :: taken, rest)
    else none

/-- The next character that is not blank, where `#` is passed over once. Without any the list ends. -/
def pastMark (passed : Bool) : List Char → Option Char
  | [] => none
  | c :: rest =>
    if c.isBlank then pastMark passed rest
    else if c = '#' ∧ ¬ passed then pastMark true rest
    else some c

/-- The character that decides whether a hyphen in a class makes a range. In a verbose pattern blanks
are passed over, and so is the mark of a comment but not its text. -/
def peek (verbose : Bool) (cs : List Char) : Option Char :=
  if verbose then pastMark false cs <|> cs.head? else cs.head?

end Pattern

end ConfigKit
