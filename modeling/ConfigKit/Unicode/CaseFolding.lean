-- SUMMARY: The groups of characters that differ in case only.
import ConfigKit.Text.CodeRanges.Algebra

/-!
# Case folding

Characters that differ in case only form a group, such as `k`, `K` and the Kelvin sign. The groups are
those of simple case folding in Unicode 16: a character stands for one character, so that the sharp s is
in a group with its capital form but not with a pair of letters.
-/

namespace ConfigKit

namespace Unicode

/-- The written form of the groups. A group is a list of hexadecimal numbers with points between them.
The first number is the distance of its first member from that of the group before (from zero for the
first group), and every other number is the distance from the member before. -/
def caseGroupRows : List String := [
  "41.20 1.20 1.20 1.20 1.20 1.20 1.20 1.20 1.20 1.20 1.20.20bf 1.20 1.20 1.20 1.20 1.20 1.20",
   "1.20 1.20.10c 1.20 1.20 1.20 1.20 1.20 1.20 1.20 5b.2e7.20 b.20 1.20 1.20 1.20 1.20 1.20.2046",
   "1.20 1.20 1.20 1.20 1.20 1.20 1.20 1.20 1.20 1.20 1.20 1.20 1.20 1.20 1.20 1.20 1.20 2.20 1.20",
   "1.20 1.20 1.20 1.20 1.20 1.1dbf 20.79 1.1 2.1 2.1 2.1 2.1 2.1 2.1 2.1 2.1 2.1 2.1 2.1 2.1 2.1",
   "2.1 2.1 2.1 2.1 2.1 2.1 2.1 2.1 2.1 2.1 4.1 2.1 2.1 3.1 2.1 2.1 2.1 2.1 2.1 2.1 2.1 3.1 2.1",
   "2.1 2.1 2.1 2.1 2.1 2.1 2.1 2.1 2.1 2.1 2.1 2.1 2.1 2.1 2.1 2.1 2.1 2.1 2.1 2.1 2.1 3.1 2.1",
   "2.1 3.c3 1.d2 1.1 2.1 2.ce 1.1 2.cd 1.cd 1.1 3.4f 1.ca 1.cb 1.1 2.cd 1.cf 1.61 1.d3 1.d1 1.1",
   "2.a3 1.a641 1.d3 1.d5 1.82 1.d6 1.1 2.1 2.1 2.da 1.1 2.da 3.1 2.da 1.1 2.d9 1.d9 1.1 2.1 2.db",
   "1.1 4.1 3.38 5.1.1 3.1.1 3.1.1 3.1 2.1 2.1 2.1 2.1 2.1 2.1 2.1 3.1 2.1 2.1 2.1 2.1 2.1 2.1 2.1",
   "2.1 3.1.1 3.1 4.1 2.1 2.1 2.1 2.1 2.1 2.1 2.1 2.1 2.1 2.1 2.1 2.1 2.1 2.1 2.1 2.1 2.1 2.1 2.1",
   "4.1 2.1 2.1 2.1 2.1 2.1 2.1 2.1 2.1 8.2a2b 1.1 3.2a28 1.2a3f 1.2a3f 1.1 3.45 1.47 1.1 2.1 2.1",
   "2.1 2.1 2.2a1f 1.2a1c 1.2a1e a.a54f 5.a54b 3.a567 1.a528 1.a544 4.a544 1.29f7 1.a541 5.29fd",
   "c.29e7 5.a543 5.a52a 16.a515 1.a512 a7.54.20.1c05 2b.1 2.1 4.1 5.82 1.82 1.82 2.74 7.26 2.25",
   "1.25 1.25 2.40 2.3f 1.3f 1.1c43 1.20 1.20.1e 1.20 1.20 1.20.40 1.20 1.20 1.20.19.23 2.20.36",
   "1.20 2.20 1.20 1.20 1.20.16 1.20.30 2.1f.1 1.20 1.20 1.20.f 1.20 1.20 1.20.1d5d 1.20 1.20",
   "5.1c33 1f.8 9.1 2.1 2.1 2.1 2.1 2.1 2.1 2.1 2.1 2.1 2.1 2.1 4.7 5.1 3.1 6.50 1.50 1.50 1.50",
   "1.50 1.50 1.50 1.50 1.50 1.50 1.50 1.50 1.50 1.50 1.50 1.50 1.20 1.20 1.20.184e 1.20 1.20.184d",
   "1.20 1.20 1.20 1.20 1.20 1.20 1.20 1.20 1.20 1.20.1844 1.20 1.20 1.20.1842 1.20.1842.1 1.20",
   "1.20 1.20 1.20 1.20 1.20 1.20 1.20.183c 1.20 1.20 1.20 1.20 1.20 31.1 2.1.1824 2.1 2.1 2.1 2.1",
   "2.1 2.1 2.1 2.1 2.1 2.1 2.1 2.1 2.1 2.1 2.1 a.1 2.1 2.1 2.1 2.1 2.1 2.1 2.1 2.1 2.1 2.1 2.1",
   "2.1 2.1 2.1 2.1 2.1 2.1 2.1 2.1 2.1 2.1 2.1 2.1 2.1 2.1 2.1 2.f 1.1 2.1 2.1 2.1 2.1 2.1 2.1",
   "3.1 2.1 2.1 2.1 2.1 2.1 2.1 2.1 2.1 2.1 2.1 2.1 2.1 2.1 2.1 2.1 2.1 2.1 2.1 2.1 2.1 2.1 2.1",
   "2.1 2.1 2.1 2.1 2.1 2.1 2.1 2.1 2.1 2.1 2.1 2.1 2.1 2.1 2.1 2.1 2.1 2.1 2.1 2.1 2.1 2.1 2.1",
   "2.1 2.1 3.30 1.30 1.30 1.30 1.30 1.30 1.30 1.30 1.30 1.30 1.30 1.30 1.30 1.30 1.30 1.30 1.30",
   "1.30 1.30 1.30 1.30 1.30 1.30 1.30 1.30 1.30 1.30 1.30 1.30 1.30 1.30 1.30 1.30 1.30 1.30 1.30",
   "1.30 1.30 b4a.1c60 1.1c60 1.1c60 1.1c60 1.1c60 1.1c60 1.1c60 1.1c60 1.1c60 1.1c60 1.1c60",
   "1.1c60 1.1c60 1.1c60 1.1c60 1.1c60 1.1c60 1.1c60 1.1c60 1.1c60 1.1c60 1.1c60 1.1c60 1.1c60",
   "1.1c60 1.1c60 1.1c60 1.1c60 1.1c60 1.1c60 1.1c60 1.1c60 1.1c60 1.1c60 1.1c60 1.1c60 1.1c60",
   "1.1c60 2.1c60 6.1c60 3.bc0 1.bc0 1.bc0 1.bc0 1.bc0 1.bc0 1.bc0 1.bc0 1.bc0 1.bc0 1.bc0 1.bc0",
   "1.bc0 1.bc0 1.bc0 1.bc0 1.bc0 1.bc0 1.bc0 1.bc0 1.bc0 1.bc0 1.bc0 1.bc0 1.bc0 1.bc0 1.bc0",
   "1.bc0 1.bc0 1.bc0 1.bc0 1.bc0 1.bc0 1.bc0 1.bc0 1.bc0 1.bc0 1.bc0 1.bc0 1.bc0 1.bc0 1.bc0",
   "1.bc0 3.bc0 1.bc0 1.bc0 2a1.97d0 1.97d0 1.97d0 1.97d0 1.97d0 1.97d0 1.97d0 1.97d0 1.97d0",
   "1.97d0 1.97d0 1.97d0 1.97d0 1.97d0 1.97d0 1.97d0 1.97d0 1.97d0 1.97d0 1.97d0 1.97d0 1.97d0",
   "1.97d0 1.97d0 1.97d0 1.97d0 1.97d0 1.97d0 1.97d0 1.97d0 1.97d0 1.97d0 1.97d0 1.97d0 1.97d0",
   "1.97d0 1.97d0 1.97d0 1.97d0 1.97d0 1.97d0 1.97d0 1.97d0 1.97d0 1.97d0 1.97d0 1.97d0 1.97d0",
   "1.97d0 1.97d0 1.97d0 1.97d0 1.97d0 1.97d0 1.97d0 1.97d0 1.97d0 1.97d0 1.97d0 1.97d0 1.97d0",
   "1.97d0 1.97d0 1.97d0 1.97d0 1.97d0 1.97d0 1.97d0 1.97d0 1.97d0 1.97d0 1.97d0 1.97d0 1.97d0",
   "1.97d0 1.97d0 1.97d0 1.97d0 1.97d0 1.97d0 1.8 1.8 1.8 1.8 1.8 1.8 893.89c2.1 1.1 f0.8a04 4.ee6",
   "11.8a38 72.1 2.1 2.1 2.1 2.1 2.1 2.1 2.1 2.1 2.1 2.1 2.1 2.1 2.1 2.1 2.1 2.1 2.1 2.1 2.1 2.1",
   "2.1 2.1 2.1 2.1 2.1 2.1 2.1 2.1 2.1 2.1 2.1 2.1 2.1 2.1 2.1 2.1 2.1 2.1 2.1 2.1 2.1 2.1 2.1",
   "2.1 2.1 2.1 2.1 2.1.3a 2.1 2.1 2.1 2.1 2.1 2.1 2.1 2.1 2.1 2.1 2.1 2.1 2.1 2.1 2.1 2.1 2.1 2.1",
   "2.1 2.1 2.1 2.1 2.1 2.1 2.1 2.1 c.1 2.1 2.1 2.1 2.1 2.1 2.1 2.1 2.1 2.1 2.1 2.1 2.1 2.1 2.1",
   "2.1 2.1 2.1 2.1 2.1 2.1 2.1 2.1 2.1 2.1 2.1 2.1 2.1 2.1 2.1 2.1 2.1 2.1 2.1 2.1 2.1 2.1 2.1",
   "2.1 2.1 2.1 2.1 2.1 2.1 2.1 2.1 2.1 2.1 2.8 1.8 1.8 1.8 1.8 1.8 1.8 1.8 9.8 1.8 1.8 1.8 1.8",
   "1.8 b.8 1.8 1.8 1.8 1.8 1.8 1.8 1.8 9.8 1.8 1.8 1.8 1.8 1.8 1.8 1.8 9.8 1.8 1.8 1.8 1.8 1.8",
   "c.8 2.8 2.8 2.8 9.8 1.8 1.8 1.8 1.8 1.8 1.8 1.8 9.4a 1.4a 1.56 1.56 1.56 1.56 1.64 1.64 1.80",
   "1.80 1.70 1.70 1.7e 1.7e 3.8 1.8 1.8 1.8 1.8 1.8 1.8 1.8 9.8 1.8 1.8 1.8 1.8 1.8 1.8 1.8 9.8",
   "1.8 1.8 1.8 1.8 1.8 1.8 1.8 9.8 1.8 2.9 10.9 d.8 1.8 f.8 1.8 4.7 e.9 13f.1c 2e.10 1.10 1.10",
   "1.10 1.10 1.10 1.10 1.10 1.10 1.10 1.10 1.10 1.10 1.10 1.10 1.10 14.1 333.1a 1.1a 1.1a 1.1a",
   "1.1a 1.1a 1.1a 1.1a 1.1a 1.1a 1.1a 1.1a 1.1a 1.1a 1.1a 1.1a 1.1a 1.1a 1.1a 1.1a 1.1a 1.1a 1.1a",
   "1.1a 1.1a 1.1a 731.30 1.30 1.30 1.30 1.30 1.30 1.30 1.30 1.30 1.30 1.30 1.30 1.30 1.30 1.30",
   "1.30 1.30 1.30 1.30 1.30 1.30 1.30 1.30 1.30 1.30 1.30 1.30 1.30 1.30 1.30 1.30 1.30 1.30 1.30",
   "1.30 1.30 1.30 1.30 1.30 1.30 1.30 1.30 1.30 1.30 1.30 1.30 1.30 1.30 31.1 7.1 2.1 2.1 7.1 3.1",
   "b.1 2.1 2.1 2.1 2.1 2.1 2.1 2.1 2.1 2.1 2.1 2.1 2.1 2.1 2.1 2.1 2.1 2.1 2.1 2.1 2.1 2.1 2.1",
   "2.1 2.1 2.1 2.1 2.1 2.1 2.1 2.1 2.1 2.1 2.1 2.1 2.1 2.1 2.1 2.1 2.1 2.1 2.1 2.1 2.1 2.1 2.1",
   "2.1 2.1 2.1 2.1 9.1 2.1 5.1 794e.1 2.1 2.1 2.1 2.1 4.1 2.1 2.1 2.1 2.1 2.1 2.1 2.1 2.1 2.1 2.1",
   "2.1 2.1 2.1 2.1 2.1 2.1 14.1 2.1 2.1 2.1 2.1 2.1 2.1 2.1 2.1 2.1 2.1 2.1 2.1 2.1 88.1 2.1 2.1",
   "2.1 2.1 2.1 2.1 4.1 2.1 2.1 2.1 2.1 2.1 2.1 2.1 2.1 2.1 2.1 2.1 2.1 2.1 2.1 2.1 2.1 2.1 2.1",
   "2.1 2.1 2.1 2.1 2.1 2.1 2.1 2.1 2.1 2.1 2.1 2.1 b.1 2.1 3.1 2.1 2.1 2.1 2.1 5.1 5.1 2.1 2.30",
   "2.1 2.1 2.1 2.1 2.1 2.1 2.1 2.1 2.1 2.1 b.3a0 1.1 2.1 2.1 2.1 2.1 2.1 2.1 2.1 5.1 2.1 3.1 4.1",
   "6.1 2.1 2.1 1b.1 5310.1 41c.20 1.20 1.20 1.20 1.20 1.20 1.20 1.20 1.20 1.20 1.20 1.20 1.20",
   "1.20 1.20 1.20 1.20 1.20 1.20 1.20 1.20 1.20 1.20 1.20 1.20 1.20 4c6.28 1.28 1.28 1.28 1.28",
   "1.28 1.28 1.28 1.28 1.28 1.28 1.28 1.28 1.28 1.28 1.28 1.28 1.28 1.28 1.28 1.28 1.28 1.28 1.28",
   "1.28 1.28 1.28 1.28 1.28 1.28 1.28 1.28 1.28 1.28 1.28 1.28 1.28 1.28 1.28 1.28 89.28 1.28",
   "1.28 1.28 1.28 1.28 1.28 1.28 1.28 1.28 1.28 1.28 1.28 1.28 1.28 1.28 1.28 1.28 1.28 1.28 1.28",
   "1.28 1.28 1.28 1.28 1.28 1.28 1.28 1.28 1.28 1.28 1.28 1.28 1.28 1.28 1.28 9d.27 1.27 1.27",
   "1.27 1.27 1.27 1.27 1.27 1.27 1.27 1.27 2.27 1.27 1.27 1.27 1.27 1.27 1.27 1.27 1.27 1.27 1.27",
   "1.27 1.27 1.27 1.27 2.27 1.27 1.27 1.27 1.27 1.27 1.27 2.27 1.27 6eb.40 1.40 1.40 1.40 1.40",
   "1.40 1.40 1.40 1.40 1.40 1.40 1.40 1.40 1.40 1.40 1.40 1.40 1.40 1.40 1.40 1.40 1.40 1.40 1.40",
   "1.40 1.40 1.40 1.40 1.40 1.40 1.40 1.40 1.40 1.40 1.40 1.40 1.40 1.40 1.40 1.40 1.40 1.40 1.40",
   "1.40 1.40 1.40 1.40 1.40 1.40 1.40 1.40 9e.20 1.20 1.20 1.20 1.20 1.20 1.20 1.20 1.20 1.20",
   "1.20 1.20 1.20 1.20 1.20 1.20 1.20 1.20 1.20 1.20 1.20 1.20 b3b.20 1.20 1.20 1.20 1.20 1.20",
   "1.20 1.20 1.20 1.20 1.20 1.20 1.20 1.20 1.20 1.20 1.20 1.20 1.20 1.20 1.20 1.20 1.20 1.20 1.20",
   "1.20 1.20 1.20 1.20 1.20 1.20 1.20 5581.20 1.20 1.20 1.20 1.20 1.20 1.20 1.20 1.20 1.20 1.20",
   "1.20 1.20 1.20 1.20 1.20 1.20 1.20 1.20 1.20 1.20 1.20 1.20 1.20 1.20 1.20 1.20 1.20 1.20 1.20",
   "1.20 1.20 7aa1.22 1.22 1.22 1.22 1.22 1.22 1.22 1.22 1.22 1.22 1.22 1.22 1.22 1.22 1.22 1.22",
   "1.22 1.22 1.22 1.22 1.22 1.22 1.22 1.22 1.22 1.22 1.22 1.22 1.22 1.22 1.22 1.22 1.22 1.22"]

/-- The members of a group after the one with code point `last`. -/
def caseGroupTail (last : Nat) : List Nat → List Nat
  | [] => []
  | gap :: gaps => (last + gap) :: caseGroupTail (last + gap) gaps

/-- The groups from the distances in their written form, the first one at a distance from `last`. -/
def caseGroupsFrom (last : Nat) : List (List Nat) → List (List Nat)
  | [] => []
  | [] :: rest => caseGroupsFrom last rest
  | (gap :: gaps) :: rest =>
    ((last + gap) :: caseGroupTail (last + gap) gaps) :: caseGroupsFrom (last + gap) rest

def hexNumber (digits : List Char) : Nat :=
  digits.foldl (fun n c => n * 16 + (CodeRanges.hexDigit? c).getD 0) 0

/-- The groups of characters that differ in case only. -/
def caseGroups : List (List Nat) :=
  caseGroupsFrom 0 <| caseGroupRows.flatMap fun row =>
    (row.toList.splitOn ' ').map fun group => (group.splitOn '.').map hexNumber

/-- A set together with all characters that differ from a member in case only. -/
def foldCase (s : CodeRanges) : CodeRanges :=
  let touched := caseGroups.filter (·.any s.contains)
  .ofList (s.toList ++ touched.flatMap (·.map fun code => (code, code)))

/-- A set of ASCII characters together with the ASCII letters that differ from a member in case only. -/
def foldAsciiCase (s : CodeRanges) : CodeRanges :=
  let lower := s.inter (.between 'a' 'z')
  let upper := s.inter (.between 'A' 'Z')
  .ofList (s.toList ++ lower.toList.map (fun (first, last) => (first - 32, last - 32))
    ++ upper.toList.map (fun (first, last) => (first + 32, last + 32)))

end Unicode

end ConfigKit
