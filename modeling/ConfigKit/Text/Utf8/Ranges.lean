-- SUMMARY: Ranges of characters as products of ranges of bytes.
import ConfigKit.Text.CodeRanges
import ConfigKit.Text.Utf8

/-!
# Ranges of characters in UTF-8

A range of characters is a union of products: the bytes of its characters are the sequences of bytes
that lie in given ranges, one for each place. `Utf8.products` gives these products, and
`Utf8.countNodes` the number of their different beginnings.
-/

namespace ConfigKit

namespace Utf8

/-- The ranges for the bytes of some characters, one range for each place. -/
abbrev Product := List (Nat × Nat)

/-- The place after which a range of characters has to be cut because of the bytes at the end: blocks of
`size` characters that are not whole come apart from the others. -/
def blockCut? (first last size : Nat) : Option Nat :=
  if first / size = last / size then none
  else if first % size ≠ 0 then some (first / size * size + (size - 1))
  else if last % size ≠ size - 1 then some (last / size * size - 1)
  else none

/-- The place after which a range of characters has to be cut, if it is no product. -/
def cut? (first last : Nat) : Option Nat :=
  match [0x7F, 0x7FF, 0xFFFF].find? fun most => first ≤ most ∧ most < last with
  | some most => some most
  | none =>
    if last ≤ 0x7F then none
    else [0x40, 0x1000, 0x40000].findSome? (blockCut? first last)

/-- Cuts a range of characters into products. `fuel` bounds the number of cuts one after the other. -/
def cutRange : Nat → Nat → Nat → List (Nat × Nat)
  | 0, first, last => [(first, last)]
  | fuel + 1, first, last =>
    match cut? first last with
    | none => [(first, last)]
    | some place => cutRange fuel first place ++ cutRange fuel (place + 1) last

/-- The bytes of the character with a code. -/
def bytesOf (code : Nat) : List Nat := (String.utf8EncodeChar (Char.ofNat code)).map UInt8.toNat

/-- A range without the surrogates. -/
def withoutSurrogates (first last : Nat) : List (Nat × Nat) :=
  [(first, min last 0xD7FF), (max first 0xE000, last)].filter fun (first, last) => first ≤ last

/-- The products that make up a set of characters. -/
def products (s : CodeRanges) : List Product :=
  (s.ranges.toList.flatMap fun (first, last) => withoutSurrogates first last).flatMap fun (first, last) =>
    (cutRange 32 first last).map fun (first, last) => (bytesOf first).zip (bytesOf last)

/-- The length of what two products begin with. -/
def sharedLength : Product → Product → Nat
  | a :: as, b :: bs => if a = b then sharedLength as bs + 1 else 0
  | _, _ => 0

/-- The number of different beginnings of products in order, after the one at hand. -/
def countNodesFrom (before : Product) : List Product → Nat
  | [] => 0
  | p :: rest => (p.length - sharedLength before p) + countNodesFrom p rest

/-- The number of different beginnings of products in order. -/
def countNodes (products : List Product) : Nat := countNodesFrom [] products

end Utf8

end ConfigKit
