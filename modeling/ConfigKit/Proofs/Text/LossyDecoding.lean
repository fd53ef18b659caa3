-- SUMMARY: Broken text can be decoded in parts, and a text in it is kept.
import ConfigKit.Proofs.Text.Utf8

/-!
# Decoding broken text

Decoding looks at a byte string from the left, and a broken part ends before the first byte that cannot go
on a character. A byte that starts a character never goes on another one, so a byte string may be cut before
it: both sides are decoded on their own (`pieces_append`). In particular an encoded text is decoded as
itself, whatever stands before and behind it (`decodeLossy_around`).
-/

namespace ConfigKit

namespace Utf8

variable {byte : UInt8} {c : Char} {lead : Lead} {bytes before more rest : Bytes}
  {ranges : List (Nat × Nat)}

/-! ## Bytes that go on a character -/

/-- The byte can stand in a character behind its first byte. -/
def IsTail (byte : UInt8) : Prop := 0x80 ≤ byte.toNat ∧ byte.toNat ≤ 0xBF

/-- The byte string does not start within a character. -/
def StartsFresh (bytes : Bytes) : Prop := ∀ byte ∈ bytes.head?, ¬ IsTail byte

/-- A range of bytes that go on a character. -/
def TailRange (range : Nat × Nat) : Prop := 0x80 ≤ range.1 ∧ range.2 ≤ 0xBF

theorem tailRange_of_lead (h : lead? byte.toNat = some lead) : ∀ range ∈ lead.tail, TailRange range := by
  unfold lead? at h
  repeat' split at h
  all_goals
    simp only [Option.some.injEq, reduceCtorEq] at h
  all_goals
    subst h
    simp [TailRange]

theorem lead?_of_isTail (h : IsTail byte) : lead? byte.toNat = none := by
  obtain ⟨hlow, hhigh⟩ := h
  rw [lead?, if_neg (by omega), if_pos (by omega)]

/-- No character starts with a byte that goes on one. -/
theorem not_isTail_of_nextPiece (h : nextPiece byte bytes = (.char c, rest)) : ¬ IsTail byte := by
  intro htail
  rw [nextPiece, lead?_of_isTail htail] at h
  cases h

theorem startsFresh_encodeChars (c : Char) (cs : List Char) (more : Bytes) :
    StartsFresh (encodeChars (c :: cs) ++ more) := by
  obtain ⟨byte, tail, hbytes, -, hpiece⟩ := nextPiece_utf8EncodeChar c
  rw [encodeChars_cons, hbytes]
  intro first hfirst
  obtain rfl : byte = first := by simpa using hfirst
  exact not_isTail_of_nextPiece (hpiece [])

/-! ## Cuts -/

section Cut

variable (hmore : StartsFresh more)
include hmore

/-- Where tail bytes are missing, the bytes behind the cut are not taken for them. -/
theorem readTail_append (hranges : ∀ range ∈ ranges, TailRange range) (code : Nat) (bytes : Bytes) :
    readTail code ranges (bytes ++ more)
      = ((readTail code ranges bytes).1, (readTail code ranges bytes).2 ++ more) := by
  fun_induction readTail code ranges bytes with
  | case1 => rfl
  | case2 code range ranges =>
    obtain ⟨low, high⟩ := range
    cases more with
    | nil => rfl
    | cons byte more =>
      have hrange : TailRange (low, high) := hranges _ List.mem_cons_self
      have hout : ¬ (low ≤ byte.toNat ∧ byte.toNat ≤ high) := fun hin =>
        hmore byte rfl ⟨Nat.le_trans hrange.1 hin.1, Nat.le_trans hin.2 hrange.2⟩
      rw [List.nil_append, readTail, if_neg hout]
  | case3 code low high ranges byte rest hin ih =>
    rw [List.cons_append, readTail, if_pos hin]
    exact ih fun range hrange => hranges range (List.mem_cons_of_mem _ hrange)
  | case4 code low high ranges byte rest hout =>
    rw [List.cons_append, readTail, if_neg hout]

theorem nextPiece_append (byte : UInt8) (bytes : Bytes) :
    nextPiece byte (bytes ++ more) = ((nextPiece byte bytes).1, (nextPiece byte bytes).2 ++ more) := by
  unfold nextPiece
  cases hlead : lead? byte.toNat with
  | none => rfl
  | some lead =>
    simp only [readTail_append hmore (tailRange_of_lead hlead)]
    cases readTail lead.payload lead.tail bytes with
    | mk code rest => cases code <;> rfl

/-- A byte string may be cut where it starts afresh. -/
theorem pieces_append (bytes : Bytes) : pieces (bytes ++ more) = pieces bytes ++ pieces more := by
  fun_induction pieces bytes with
  | case1 => rfl
  | case2 byte rest ih => rw [List.cons_append, pieces, nextPiece_append hmore, ih, List.cons_append]

theorem decodeLossy_append (bytes : Bytes) :
    decodeLossy (bytes ++ more) = decodeLossy bytes ++ decodeLossy more := by
  rw [decodeLossy, pieces_append hmore, List.map_append]
  rfl

end Cut

/-! ## Text within bytes -/

theorem decodeLossy_encodeChars_append (cs : List Char) (more : Bytes) :
    decodeLossy (encodeChars cs ++ more) = cs ++ decodeLossy more := by
  rw [decodeLossy, pieces_encodeChars_append, List.map_append, List.map_map]
  exact congrArg (· ++ decodeLossy more) (List.map_id cs)

theorem decodeLossy_encodeChars (cs : List Char) : decodeLossy (encodeChars cs) = cs := by
  have h := decodeLossy_encodeChars_append cs []
  have hnil : decodeLossy [] = [] := by simp [decodeLossy, pieces]
  rwa [List.append_nil, hnil, List.append_nil] at h

/-- A text among other bytes is decoded as itself, and what is before and behind it as if it stood alone. -/
theorem decodeLossy_around {cs : List Char} (hne : cs ≠ []) (before behind : Bytes) :
    decodeLossy (before ++ encodeChars cs ++ behind)
      = decodeLossy before ++ cs ++ decodeLossy behind := by
  obtain ⟨c, rest, rfl⟩ := List.exists_cons_of_ne_nil hne
  have hfresh := startsFresh_encodeChars c rest behind
  rw [List.append_assoc, decodeLossy_append hfresh, decodeLossy_encodeChars_append, List.append_assoc]

/-- A cut within a character breaks it, and each side has a broken part then. -/
example : decodeLossy ([0xE2, 0x82] ++ [0xAC]) = ['€'] ∧
    decodeLossy [0xE2, 0x82] ++ decodeLossy [0xAC] = ['\ufffd', '\ufffd'] := by
  decide +kernel

end Utf8

end ConfigKit
