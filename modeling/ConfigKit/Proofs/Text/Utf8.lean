-- SUMMARY: Decoding gives an encoded text back.
import ConfigKit.Text.Utf8

/-!
# Decoding encoded text

The piece at the front of an encoded text is its first character, whatever follows
(`nextPiece_utf8EncodeChar`). So the pieces of an encoded text are its characters, and decoding gives the
text back.
-/

namespace ConfigKit

namespace Utf8

variable {c : Char} {code n low high : Nat} {byte : UInt8} {lead : Lead} {tail rest : Bytes}
  {ranges : List (Nat × Nat)}

/-! ## Encoding -/

@[simp] theorem encodeChars_nil : encodeChars [] = [] := rfl

theorem encodeChars_cons (c : Char) (cs : List Char) :
    encodeChars (c :: cs) = String.utf8EncodeChar c ++ encodeChars cs := rfl

@[simp] theorem encodeChars_append (cs more : List Char) :
    encodeChars (cs ++ more) = encodeChars cs ++ encodeChars more :=
  List.flatMap_append

/-- Characters of ASCII are their own bytes. -/
theorem utf8EncodeChar_ascii (h : c.toNat < 0x80) :
    String.utf8EncodeChar c = [UInt8.ofNat c.toNat] :=
  if_pos (Nat.le_of_lt_succ h)

theorem length_le_length_encodeChars (cs : List Char) : cs.length ≤ (encodeChars cs).length := by
  induction cs with
  | nil => exact Nat.le_refl 0
  | cons c cs ih =>
    have hpos := c.utf8Size_pos
    rw [encodeChars_cons, List.length_append, String.length_utf8EncodeChar, List.length_cons]
    omega

/-! ## The first piece -/

theorem toNat_byte (h : n < 256) : (UInt8.ofNat n).toNat = n :=
  UInt8.toNat_ofNat_of_lt' h

/-- A tail byte with its payload. -/
theorem readTail_byte (hlow : low ≤ n + 0x80) (hhigh : n + 0x80 ≤ high) (hn : n < 0x40) :
    readTail code ((low, high) :: ranges) (UInt8.ofNat (n + 0x80) :: rest)
      = readTail (code * 64 + n) ranges rest := by
  rw [readTail, toNat_byte (by omega), if_pos ⟨hlow, hhigh⟩, Nat.add_sub_cancel]

theorem toNat_lt (c : Char) : c.toNat < 0x110000 := by
  have hvalid := c.valid
  simp only [UInt32.isValidChar, Nat.isValidChar, Char.toNat_val] at hvalid
  omega

theorem nextPiece_of_lead (hbyte : n < 256) (hlead : lead? n = some lead)
    (htail : readTail lead.payload lead.tail tail = (some c.toNat, rest)) :
    nextPiece (UInt8.ofNat n) tail = (.char c, rest) := by
  simp only [nextPiece, toNat_byte hbyte, hlead, htail, Char.ofNat_toNat]

theorem nextPiece_one (h : c.toNat < 0x80) : nextPiece (UInt8.ofNat c.toNat) rest = (.char c, rest) :=
  nextPiece_of_lead (by omega) (if_pos h) rfl

theorem nextPiece_two (hlow : 0x80 ≤ c.toNat) (hhigh : c.toNat < 0x800) :
    nextPiece (UInt8.ofNat (c.toNat / 64 + 0xC0)) (UInt8.ofNat (c.toNat % 64 + 0x80) :: rest)
      = (.char c, rest) := by
  have hlead : lead? (c.toNat / 64 + 0xC0) = some ⟨c.toNat / 64, [(0x80, 0xBF)]⟩ := by
    rw [lead?, if_neg (by omega), if_neg (by omega), if_pos (by omega), Nat.add_sub_cancel]
  have hcode : c.toNat / 64 * 64 + c.toNat % 64 = c.toNat := by omega
  refine nextPiece_of_lead (by omega) hlead ?_
  rw [readTail_byte (by omega) (by omega) (by omega), hcode, readTail]

/-- The range of the second byte depends on the first one: it leaves out the forms that are too long and
the surrogates. -/
theorem nextPiece_three (hlow : 0x800 ≤ c.toNat) (hhigh : c.toNat < 0x10000) :
    nextPiece (UInt8.ofNat (c.toNat / 4096 + 0xE0))
        (UInt8.ofNat (c.toNat / 64 % 64 + 0x80) :: UInt8.ofNat (c.toNat % 64 + 0x80) :: rest)
      = (.char c, rest) := by
  have hsurrogate : c.toNat < 0xD800 ∨ 0xE000 ≤ c.toNat := by
    have hvalid := c.valid
    simp only [UInt32.isValidChar, Nat.isValidChar, Char.toNat_val] at hvalid
    omega
  have hlead : ∃ first last, lead? (c.toNat / 4096 + 0xE0)
        = some ⟨c.toNat / 4096, [(first, last), (0x80, 0xBF)]⟩ ∧
      first ≤ c.toNat / 64 % 64 + 0x80 ∧ c.toNat / 64 % 64 + 0x80 ≤ last := by
    have hbyte : ¬ c.toNat / 4096 + 0xE0 < 0xE0 := by omega
    rw [lead?, if_neg (by omega), if_neg (by omega), if_neg hbyte]
    by_cases hfirst : c.toNat / 4096 + 0xE0 = 0xE0
    · exact ⟨0xA0, 0xBF, by rw [if_pos hfirst, show c.toNat / 4096 = 0 by omega], by omega, by omega⟩
    · rw [if_neg hfirst]
      by_cases hlast : c.toNat / 4096 + 0xE0 = 0xED
      · exact ⟨0x80, 0x9F, by rw [if_pos hlast, show c.toNat / 4096 = 0xD by omega], by omega, by omega⟩
      · refine ⟨0x80, 0xBF, ?_, by omega, by omega⟩
        rw [if_neg hlast, if_pos (by omega), Nat.add_sub_cancel]
  obtain ⟨first, last, hlead, hfirst, hlast⟩ := hlead
  have hcode : (c.toNat / 4096 * 64 + c.toNat / 64 % 64) * 64 + c.toNat % 64 = c.toNat := by omega
  refine nextPiece_of_lead (by omega) hlead ?_
  rw [readTail_byte hfirst hlast (by omega), readTail_byte (by omega) (by omega) (by omega), hcode,
    readTail]

theorem nextPiece_four (hlow : 0x10000 ≤ c.toNat) :
    nextPiece (UInt8.ofNat (c.toNat / 262144 + 0xF0))
        (UInt8.ofNat (c.toNat / 4096 % 64 + 0x80) :: UInt8.ofNat (c.toNat / 64 % 64 + 0x80)
          :: UInt8.ofNat (c.toNat % 64 + 0x80) :: rest)
      = (.char c, rest) := by
  have hhigh := toNat_lt c
  have hlead : ∃ first last, lead? (c.toNat / 262144 + 0xF0)
        = some ⟨c.toNat / 262144, [(first, last), (0x80, 0xBF), (0x80, 0xBF)]⟩ ∧
      first ≤ c.toNat / 4096 % 64 + 0x80 ∧ c.toNat / 4096 % 64 + 0x80 ≤ last := by
    rw [lead?, if_neg (by omega), if_neg (by omega), if_neg (by omega), if_neg (by omega),
      if_neg (by omega), if_neg (by omega)]
    by_cases hfirst : c.toNat / 262144 + 0xF0 = 0xF0
    · exact ⟨0x90, 0xBF, by rw [if_pos hfirst, show c.toNat / 262144 = 0 by omega], by omega, by omega⟩
    · rw [if_neg hfirst]
      by_cases hlast : c.toNat / 262144 + 0xF0 < 0xF4
      · exact ⟨0x80, 0xBF, by rw [if_pos hlast, Nat.add_sub_cancel], by omega, by omega⟩
      · refine ⟨0x80, 0x8F, ?_, by omega, by omega⟩
        rw [if_neg hlast, if_pos (by omega), show c.toNat / 262144 = 4 by omega]
  obtain ⟨first, last, hlead, hfirst, hlast⟩ := hlead
  have hcode : ((c.toNat / 262144 * 64 + c.toNat / 4096 % 64) * 64 + c.toNat / 64 % 64) * 64
      + c.toNat % 64 = c.toNat := by omega
  refine nextPiece_of_lead (by omega) hlead ?_
  rw [readTail_byte hfirst hlast (by omega), readTail_byte (by omega) (by omega) (by omega),
    readTail_byte (by omega) (by omega) (by omega), hcode, readTail]

/-- A character is read back from its bytes, whatever follows them. Only the byte of an ASCII character
is an ASCII byte. -/
theorem nextPiece_utf8EncodeChar (c : Char) :
    ∃ byte tail, String.utf8EncodeChar c = byte :: tail ∧ (byte.toNat < 0x80 → byte.toNat = c.toNat) ∧
      ∀ rest, nextPiece byte (tail ++ rest) = (.char c, rest) := by
  have hmax : c.toNat < 0x110000 := toNat_lt c
  by_cases hone : c.toNat < 0x80
  · refine ⟨_, _, utf8EncodeChar_ascii hone, fun _ => toNat_byte (by omega), fun rest => ?_⟩
    exact nextPiece_one hone
  · have hbyte (n : Nat) (hlow : 0x80 ≤ n) (hhigh : n < 256) :
        (UInt8.ofNat n).toNat < 0x80 → (UInt8.ofNat n).toNat = c.toNat := by
      rw [toNat_byte hhigh]
      omega
    by_cases htwo : c.toNat < 0x800
    · refine ⟨UInt8.ofNat (c.toNat / 64 + 0xC0), [UInt8.ofNat (c.toNat % 64 + 0x80)], ?_,
        hbyte _ (by omega) (by omega), fun rest => nextPiece_two (by omega) htwo⟩
      simp only [String.utf8EncodeChar, Char.toNat_val]
      rw [if_neg (by omega), if_pos (by omega), Nat.mod_eq_of_lt (a := c.toNat / 64) (by omega)]
    · by_cases hthree : c.toNat < 0x10000
      · refine ⟨UInt8.ofNat (c.toNat / 4096 + 0xE0),
          [UInt8.ofNat (c.toNat / 64 % 64 + 0x80), UInt8.ofNat (c.toNat % 64 + 0x80)], ?_,
          hbyte _ (by omega) (by omega), fun rest => nextPiece_three (by omega) hthree⟩
        simp only [String.utf8EncodeChar, Char.toNat_val]
        rw [if_neg (by omega), if_neg (by omega), if_pos (by omega),
          Nat.mod_eq_of_lt (a := c.toNat / 4096) (by omega)]
      · refine ⟨UInt8.ofNat (c.toNat / 262144 + 0xF0),
          [UInt8.ofNat (c.toNat / 4096 % 64 + 0x80), UInt8.ofNat (c.toNat / 64 % 64 + 0x80),
            UInt8.ofNat (c.toNat % 64 + 0x80)], ?_,
          hbyte _ (by omega) (by omega), fun rest => nextPiece_four (by omega)⟩
        simp only [String.utf8EncodeChar, Char.toNat_val]
        rw [if_neg (by omega), if_neg (by omega), if_neg (by omega),
          Nat.mod_eq_of_lt (a := c.toNat / 262144) (by omega)]

/-! ## Bytes of ASCII -/

/-- A byte of ASCII in the form of a character is that character. -/
theorem toNat_eq_of_mem_utf8EncodeChar (h : byte ∈ String.utf8EncodeChar c) (hascii : byte.toNat < 0x80) :
    byte.toNat = c.toNat := by
  have hmax := toNat_lt c
  by_cases hone : c.toNat < 0x80
  · rw [utf8EncodeChar_ascii hone, List.mem_singleton] at h
    rw [h, toNat_byte (by omega)]
  · -- Every byte of a longer form is at least 128.
    have hbytes : ∃ n, 0x80 ≤ n ∧ n < 256 ∧ byte = UInt8.ofNat n := by
      simp only [String.utf8EncodeChar, Char.toNat_val] at h
      rw [if_neg (by omega)] at h
      split at h
      · simp only [List.mem_cons, List.not_mem_nil, or_false] at h
        rcases h with rfl | rfl <;> exact ⟨_, by omega, by omega, rfl⟩
      · split at h
        · simp only [List.mem_cons, List.not_mem_nil, or_false] at h
          rcases h with rfl | rfl | rfl <;> exact ⟨_, by omega, by omega, rfl⟩
        · simp only [List.mem_cons, List.not_mem_nil, or_false] at h
          rcases h with rfl | rfl | rfl | rfl <;> exact ⟨_, by omega, by omega, rfl⟩
    obtain ⟨n, hlow, hhigh, rfl⟩ := hbytes
    rw [toNat_byte hhigh] at hascii
    omega

theorem exists_of_mem_encodeChars {cs : List Char} (h : byte ∈ encodeChars cs)
    (hascii : byte.toNat < 0x80) : ∃ c ∈ cs, byte.toNat = c.toNat := by
  obtain ⟨c, hc, hbyte⟩ := List.mem_flatMap.mp h
  exact ⟨c, hc, toNat_eq_of_mem_utf8EncodeChar hbyte hascii⟩

/-! ## Whole texts -/

theorem pieces_encodeChars_append (cs : List Char) (rest : Bytes) :
    pieces (encodeChars cs ++ rest) = cs.map .char ++ pieces rest := by
  induction cs with
  | nil => rfl
  | cons c cs ih =>
    obtain ⟨byte, tail, hbytes, -, hpiece⟩ := nextPiece_utf8EncodeChar c
    rw [encodeChars_cons, hbytes, List.append_assoc, List.cons_append, pieces, hpiece, ih]
    rfl

/-- Encoded text decodes to itself. -/
theorem decode?_encodeChars (cs : List Char) : decode? (encodeChars cs) = some cs := by
  have hpieces := pieces_encodeChars_append cs []
  rw [List.append_nil, pieces, List.append_nil] at hpieces
  rw [decode?, hpieces, List.mapM_map]
  exact (List.mapM_pure (m := Option)).trans (congrArg some (List.map_id cs))

end Utf8

end ConfigKit
