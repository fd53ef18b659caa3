-- SUMMARY: Sets of characters as ranges of code points, the written form of a table of them, and look-up by halving.
/-!
# Sets of characters as ranges of code points

A property of characters is a table of ranges. `CodeRanges.ofTable` reads the written form of such a
table, and `CodeRanges.contains` asks whether a code point lies in it.

In the written form the ranges stand in increasing order, separated by blanks, in as many rows as one
likes. A range is written
`gap` or `gap.extra` in hexadecimal: `gap` is the distance from the end of the range before it (from
zero for the first one), and `extra` is how many code points follow its first one.
-/

namespace ConfigKit

/-- Ranges of code points, both ends included, in increasing order and without overlap. -/
structure CodeRanges where
  ranges : Array (Nat × Nat)
  deriving DecidableEq

namespace CodeRanges

/-- The value of a hexadecimal digit, upper or lower case. -/
def hexDigit? (c : Char) : Option Nat :=
  if '0' ≤ c ∧ c ≤ '9' then some (c.toNat - '0'.toNat)
  else if 'a' ≤ c ∧ c ≤ 'f' then some (c.toNat - 'a'.toNat + 10)
  else if 'A' ≤ c ∧ c ≤ 'F' then some (c.toNat - 'A'.toNat + 10)
  else none

/-- Where reading a table stands: the ranges so far, the end of the last of them, the first number of
the range at hand and, after a point, its second. -/
private structure Reading where
  done : Array (Nat × Nat)
  last : Nat
  gap : Nat
  extra : Nat
  pointed : Bool

private def Reading.close (r : Reading) : Reading :=
  let first := r.last + r.gap
  { done := r.done.push (first, first + r.extra), last := first + r.extra, gap := 0, extra := 0,
    pointed := false }

private def Reading.step (r : Reading) (c : Char) : Reading :=
  if c = ' ' then r.close
  else if c = '.' then { r with pointed := true }
  else
    let d := (hexDigit? c).getD 0
    if r.pointed then { r with extra := r.extra * 16 + d } else { r with gap := r.gap * 16 + d }

/-- Reads the written form of a table. -/
def ofTable (rows : List String) : CodeRanges :=
  let step (r : Reading) (row : String) : Reading := (row.toList.foldl Reading.step r).close
  ⟨(rows.foldl step ⟨#[], 0, 0, 0, false⟩).done⟩

/-- Binary search between two indices. `fuel` bounds the number of halvings. -/
def search (ranges : Array (Nat × Nat)) (n : Nat) : Nat → Nat → Nat → Bool
  | 0, _, _ => false
  | fuel + 1, lo, hi =>
    if lo ≥ hi then false
    else
      let mid := (lo + hi) / 2
      match ranges[mid]? with
      | none => false
      | some (first, last) =>
        if n < first then search ranges n fuel lo mid
        else if last < n then search ranges n fuel (mid + 1) hi
        else true

/-- Whether code point `n` lies in one of the ranges. -/
def contains (s : CodeRanges) (n : Nat) : Bool :=
  search s.ranges n (s.ranges.size + 1) 0 s.ranges.size

end CodeRanges

end ConfigKit
