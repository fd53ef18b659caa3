-- SUMMARY: Decoding bytes as UTF-8, strictly or with a replacement for each broken part.
/-!
# UTF-8

Bytes as text. A byte string splits into pieces from the left: characters in their UTF-8 form, and
broken parts in between. A broken part is as long as it can be while a continuation of it could still
be a character, and at least one byte long.

* `Utf8.decode?` is strict: it refuses a byte string with a broken part.
* `Utf8.decodeLossy` reads any byte string and puts U+FFFD for every broken part.
-/

namespace ConfigKit

/-- A string of bytes. -/
abbrev Bytes := List UInt8

namespace Utf8

def encodeChars (cs : List Char) : Bytes :=
  cs.flatMap String.utf8EncodeChar

def encode (text : String) : Bytes :=
  encodeChars text.toList

/-- What the first byte of a character says: its own payload, and the range of each byte after it. -/
structure Lead where
  payload : Nat
  tail : List (Nat × Nat)

/-- The lead bytes. The first tail byte is narrower where a longer form, a surrogate or a code point
above the last one would be spelled. -/
def lead? (byte : Nat) : Option Lead :=
  if byte < 0x80 then some ⟨byte, []⟩
  else if byte < 0xC2 then none
  else if byte < 0xE0 then some ⟨byte - 0xC0, [(0x80, 0xBF)]⟩
  else if byte = 0xE0 then some ⟨0, [(0xA0, 0xBF), (0x80, 0xBF)]⟩
  else if byte = 0xED then some ⟨0xD, [(0x80, 0x9F), (0x80, 0xBF)]⟩
  else if byte < 0xF0 then some ⟨byte - 0xE0, [(0x80, 0xBF), (0x80, 0xBF)]⟩
  else if byte = 0xF0 then some ⟨0, [(0x90, 0xBF), (0x80, 0xBF), (0x80, 0xBF)]⟩
  else if byte < 0xF4 then some ⟨byte - 0xF0, [(0x80, 0xBF), (0x80, 0xBF), (0x80, 0xBF)]⟩
  else if byte = 0xF4 then some ⟨4, [(0x80, 0x8F), (0x80, 0xBF), (0x80, 0xBF)]⟩
  else none

/-- Reads tail bytes as long as they lie in their ranges. Gives the code point, if all of them did, and
the bytes that are left. -/
def readTail (code : Nat) : List (Nat × Nat) → Bytes → Option Nat × Bytes
  | [], rest => (some code, rest)
  | _ :: _, [] => (none, [])
  | (low, high) :: ranges, byte :: rest =>
    if low ≤ byte.toNat ∧ byte.toNat ≤ high then
      readTail (code * 64 + (byte.toNat - 0x80)) ranges rest
    else (none, byte :: rest)

/-- A piece of a byte string: a character, or a broken part. -/
inductive Piece where
  | char (c : Char)
  | broken
  deriving DecidableEq

/-- The piece that starts with `byte`, and the bytes after it. -/
def nextPiece (byte : UInt8) (rest : Bytes) : Piece × Bytes :=
  match lead? byte.toNat with
  | none => (.broken, rest)
  | some lead =>
    match readTail lead.payload lead.tail rest with
    | (some code, rest) => (.char (Char.ofNat code), rest)
    | (none, rest) => (.broken, rest)

theorem length_readTail_le (code : Nat) (ranges : List (Nat × Nat)) (bytes : Bytes) :
    (readTail code ranges bytes).2.length ≤ bytes.length := by
  fun_induction readTail code ranges bytes with
  | case1 => exact Nat.le_refl _
  | case2 => exact Nat.le_refl _
  | case3 _ _ _ _ _ _ _ ih => exact Nat.le_trans ih (Nat.le_succ _)
  | case4 => exact Nat.le_refl _

theorem length_nextPiece_le (byte : UInt8) (rest : Bytes) :
    (nextPiece byte rest).2.length ≤ rest.length := by
  unfold nextPiece
  split
  · exact Nat.le_refl _
  · rename_i lead _
    have h := length_readTail_le lead.payload lead.tail rest
    split <;> simp_all

/-- The pieces of a byte string, from the left. -/
def pieces : Bytes → List Piece
  | [] => []
  | byte :: rest => (nextPiece byte rest).1 :: pieces (nextPiece byte rest).2
termination_by bytes => bytes.length
decreasing_by exact Nat.lt_succ_of_le (length_nextPiece_le byte rest)

def Piece.char? : Piece → Option Char
  | .char c => some c
  | .broken => none

/-- The characters of a byte string without broken parts. -/
def decode? (bytes : Bytes) : Option (List Char) :=
  (pieces bytes).mapM Piece.char?

/-- The characters of a byte string, with U+FFFD for every broken part. -/
def decodeLossy (bytes : Bytes) : List Char :=
  (pieces bytes).map fun piece => piece.char?.getD '\ufffd'

end Utf8

end ConfigKit
