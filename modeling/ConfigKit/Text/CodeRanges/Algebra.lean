-- SUMMARY: Union, complement and other operations on sets of code points.
import ConfigKit.Text.CodeRanges

/-!
# The algebra of character sets

Union, complement and what follows from them, on sets of code points that are given as ranges. Every
result is normal: its ranges are in increasing order, and neither overlap nor touch. The complement is
taken among all code points; that it holds the surrogates as well is of no consequence, because no
character is one.
-/

namespace ConfigKit

namespace CodeRanges

def lastCode : Nat := 0x10FFFF

/-- Joins ranges that overlap or touch. The ranges are given by increasing first code point, `first`
and `last` is the one at hand. -/
def joinFrom (first last : Nat) : List (Nat × Nat) → List (Nat × Nat)
  | [] => [(first, last)]
  | (f, l) :: rest =>
    if f ≤ last + 1 then joinFrom first (max last l) rest else (first, last) :: joinFrom f l rest

/-- Joins ranges that overlap or touch. -/
def join : List (Nat × Nat) → List (Nat × Nat)
  | [] => []
  | (first, last) :: rest => joinFrom first last rest

/-- The set that is covered by ranges in any order. -/
def ofList (ranges : List (Nat × Nat)) : CodeRanges :=
  ⟨(join (ranges.mergeSort fun a b => a.1 ≤ b.1)).toArray⟩

def toList (s : CodeRanges) : List (Nat × Nat) := s.ranges.toList

def empty : CodeRanges := ⟨#[]⟩

def all : CodeRanges := ⟨#[(0, lastCode)]⟩

def singleton (c : Char) : CodeRanges := ⟨#[(c.toNat, c.toNat)]⟩

def between (first last : Char) : CodeRanges := ⟨#[(first.toNat, last.toNat)]⟩

def ofChars (cs : List Char) : CodeRanges := ofList (cs.map fun c => (c.toNat, c.toNat))

/-- The code points in one set or the other. -/
def union (a b : CodeRanges) : CodeRanges := ofList (a.toList ++ b.toList)

def unions (sets : List CodeRanges) : CodeRanges := ofList (sets.flatMap toList)

/-- The ranges between those of a set, from `start` on. -/
def gapsFrom (start : Nat) : List (Nat × Nat) → List (Nat × Nat)
  | [] => if start ≤ lastCode then [(start, lastCode)] else []
  | (first, last) :: rest =>
    if start < first then (start, first - 1) :: gapsFrom (last + 1) rest
    else gapsFrom (last + 1) rest

/-- The code points that are not in a set. -/
def complement (s : CodeRanges) : CodeRanges := ⟨(gapsFrom 0 s.toList).toArray⟩

/-- The code points in both sets. -/
def inter (a b : CodeRanges) : CodeRanges := complement (union (complement a) (complement b))

/-- The code points in the first set but not in the second. -/
def diff (a b : CodeRanges) : CodeRanges := inter a (complement b)

/-- The code points in exactly one of the sets. -/
def symmDiff (a b : CodeRanges) : CodeRanges := diff (union a b) (inter a b)

def isAscii (s : CodeRanges) : Bool := s.toList.all fun (_, last) => last ≤ 0x7F

def containsChar (s : CodeRanges) (c : Char) : Bool := s.contains c.toNat

end CodeRanges

end ConfigKit
