-- SUMMARY: Words, integers and strings are read back as they were printed.
import ConfigKit.Json.Printer
import ConfigKit.Json.Reader
import ConfigKit.Proofs.Text.Utf8

/-!
# Reading scalars back

Readers give back what the printer wrote: words, integers of 64 bits in decimal, and strings with their
escapes. A number is read as far as it can go, so it is read back only where the text after it does not
continue it (`EndsNumber`).
-/

namespace ConfigKit

namespace Json

open Utf8

variable {c : Char} {cs digits : List Char} {byte : UInt8} {bytes blanks more rest : Bytes}
  {depth fuel n value : Nat} {negative : Bool}

/-! ## Bytes of ASCII -/

theorem encodeChars_cons_ascii (h : c.toNat < 0x80) (cs : List Char) :
    encodeChars (c :: cs) = UInt8.ofNat c.toNat :: encodeChars cs := by
  rw [encodeChars_cons, utf8EncodeChar_ascii h, List.singleton_append]

/-! ## Blanks -/

/-- Nothing but blanks. -/
def AllBlank (blanks : Bytes) : Prop :=
  ∀ byte ∈ blanks, isBlankByte byte = true

theorem allBlank_nil : AllBlank [] := by
  simp [AllBlank]

theorem skipBlanks_append (h : AllBlank blanks) (rest : Bytes) :
    skipBlanks (blanks ++ rest) = skipBlanks rest :=
  List.dropWhile_append_of_pos h

theorem skipBlanks_cons (h : isBlankByte byte = false) (rest : Bytes) :
    skipBlanks (byte :: rest) = byte :: rest :=
  List.dropWhile_cons_of_neg (by simp [h])

/-! ## Numbers -/

/-- A text that does not go on with a number before it. -/
def EndsNumber (rest : Bytes) : Prop :=
  ∀ byte ∈ rest.head?, isDigitByte byte = false ∧ byte ≠ 0x2E ∧ byte ≠ 0x65 ∧ byte ≠ 0x45

theorem isDigit_iff : c.isDigit = true ↔ 0x30 ≤ c.toNat ∧ c.toNat ≤ 0x39 := by
  simp [Char.isDigit, UInt32.le_iff_toNat_le]

/-- Decimal text is digits. -/
theorem isDigit_toDigits (n : Nat) : ∀ c ∈ Nat.toDigits 10 n, c.isDigit = true := fun _ hc =>
  Nat.isDigit_of_mem_toDigits (by omega) (by omega) hc

theorem isDigitByte_iff : isDigitByte byte = true ↔ 0x30 ≤ byte.toNat ∧ byte.toNat ≤ 0x39 := by
  simp [isDigitByte, UInt8.le_iff_toNat_le]

theorem ne_of_digit (h : isDigitByte byte = true) (other : UInt8) (hother : isDigitByte other = false) :
    byte ≠ other := by
  rintro rfl
  simp [h] at hother

theorem isBlankByte_of_digit (h : isDigitByte byte = true) : isBlankByte byte = false := by
  simp [isBlankByte, ne_of_digit h 0x20 rfl, ne_of_digit h 0x0A rfl, ne_of_digit h 0x09 rfl,
    ne_of_digit h 0x0D rfl]

theorem encodeChars_digits (h : ∀ c ∈ digits, c.isDigit = true) :
    encodeChars digits = digits.map fun c => UInt8.ofNat c.toNat := by
  induction digits with
  | nil => rfl
  | cons d digits ih =>
    have hd := isDigit_iff.mp (h d List.mem_cons_self)
    rw [encodeChars_cons_ascii (by omega), ih fun c hc => h c (List.mem_cons_of_mem d hc), List.map_cons]

theorem isDigitByte_of_mem (h : ∀ c ∈ digits, c.isDigit = true) (hbyte : byte ∈ encodeChars digits) :
    isDigitByte byte = true := by
  rw [encodeChars_digits h] at hbyte
  obtain ⟨c, hc, rfl⟩ := List.mem_map.mp hbyte
  have hd := isDigit_iff.mp (h c hc)
  rw [isDigitByte_iff, toNat_byte (by omega)]
  exact hd

theorem le_ofDigitChars (value : Nat) (digits : List Char) :
    value ≤ Nat.ofDigitChars 10 digits value := by
  induction digits generalizing value with
  | nil => simp
  | cons d digits ih =>
    rw [Nat.ofDigitChars_cons]
    have hnext := ih (10 * value + (d.toNat - '0'.toNat))
    omega

/-- Digits of a number below the bound are all taken. -/
theorem takeWord_digits (h : ∀ c ∈ digits, c.isDigit = true)
    (hbound : Nat.ofDigitChars 10 digits value < Nat.pow 2 64) :
    takeWord value (encodeChars digits) = (Nat.ofDigitChars 10 digits value, digits.length) := by
  induction digits generalizing value with
  | nil => simp [takeWord]
  | cons d digits ih =>
    have hd := isDigit_iff.mp (h d List.mem_cons_self)
    have hvalue : value * 10 + digitValue (UInt8.ofNat d.toNat) = 10 * value + (d.toNat - '0'.toNat) := by
      rw [digitValue, toNat_byte (by omega), Nat.mul_comm]
      rfl
    rw [Nat.ofDigitChars_cons] at hbound ⊢
    have hnext := Nat.lt_of_le_of_lt (le_ofDigitChars _ digits) hbound
    rw [encodeChars_cons_ascii (by omega)]
    simp only [takeWord, hvalue, if_pos hnext]
    rw [ih (fun c hc => h c (List.mem_cons_of_mem d hc)) hbound, List.length_cons]

theorem head_toDigits (h : 0 < n) : ∃ d digits, Nat.toDigits 10 n = d :: digits ∧ d ≠ '0' := by
  induction n using Nat.strongRecOn with
  | ind n ih =>
    by_cases hlt : n < 10
    · refine ⟨n.digitChar, [], Nat.toDigits_of_lt_base hlt, ?_⟩
      rw [ne_eq, Nat.digitChar_eq_zero]
      omega
    · obtain ⟨d, digits, hdigits, hd⟩ := ih (n / 10) (by omega) (by omega)
      exact ⟨d, _, by rw [Nat.toDigits_of_base_le (by omega) (by omega), hdigits, List.cons_append], hd⟩

theorem readAfterWhole_of_ends (h : EndsNumber rest) (n : Nat) :
    readAfterWhole negative n 0 rest = .ok (integer negative n, rest) := by
  unfold readAfterWhole
  split
  · exact absurd rfl (h _ rfl).2.1
  · exact absurd rfl (h _ rfl).2.2.1
  · exact absurd rfl (h _ rfl).2.2.2
  · rfl

theorem readNumber_zero (hrest : EndsNumber rest) :
    readNumber negative (0x30 :: rest) = .ok (integer negative 0, rest) := by
  cases rest with
  | nil => exact readAfterWhole_of_ends hrest 0
  | cons next rest =>
    have hnext : isDigitByte next = false := (hrest next rfl).1
    simp only [readNumber, if_true, hnext, Bool.false_eq_true, if_false]
    exact readAfterWhole_of_ends hrest 0

theorem readNumber_digits {d : Char} (hdigits : ∀ c ∈ d :: digits, c.isDigit = true) (hd : d ≠ '0')
    (hbound : Nat.ofDigitChars 10 (d :: digits) 0 < Nat.pow 2 64) (hrest : EndsNumber rest) :
    readNumber negative (encodeChars (d :: digits) ++ rest)
      = .ok (integer negative (Nat.ofDigitChars 10 (d :: digits) 0), rest) := by
  have hrange := isDigit_iff.mp (hdigits d List.mem_cons_self)
  have hfirst : UInt8.ofNat d.toNat ≠ 0x30 := by
    intro heq
    have hnat := congrArg UInt8.toNat heq
    rw [toNat_byte (by omega)] at hnat
    exact hd (Char.toNat_inj.mp hnat)
  have hdigit : isDigitByte (UInt8.ofNat d.toNat) = true := by
    rwa [isDigitByte_iff, toNat_byte (by omega)]
  have hall : ∀ byte ∈ encodeChars (d :: digits), isDigitByte byte = true :=
    fun byte hbyte => isDigitByte_of_mem hdigits hbyte
  have hend : rest.takeWhile isDigitByte = [] ∧ rest.dropWhile isDigitByte = rest := by
    cases rest with
    | nil => exact ⟨rfl, rfl⟩
    | cons next rest =>
      have hnext : ¬ isDigitByte next = true := by simp [(hrest next rfl).1]
      exact ⟨List.takeWhile_cons_of_neg hnext, List.dropWhile_cons_of_neg hnext⟩
  have htake : (encodeChars (d :: digits) ++ rest).takeWhile isDigitByte = encodeChars (d :: digits) := by
    rw [List.takeWhile_append_of_pos hall, hend.1, List.append_nil]
  have hdrop : (encodeChars (d :: digits) ++ rest).dropWhile isDigitByte = rest := by
    rw [List.dropWhile_append_of_pos hall, hend.2]
  have hlength : (encodeChars (d :: digits)).length = (d :: digits).length := by
    rw [encodeChars_digits hdigits, List.length_map]
  have hword := takeWord_digits hdigits hbound
  rw [← hlength] at hword
  rw [encodeChars_cons_ascii (by omega)] at htake hdrop hword ⊢
  simp only [List.cons_append] at htake hdrop ⊢
  simp only [readNumber, if_neg hfirst, if_pos hdigit, htake, hdrop, hword, Nat.sub_self]
  exact readAfterWhole_of_ends hrest _

/-- A natural of 64 bits is read from its digits, behind either sign. -/
theorem readNumber_toDigits (hbound : n < Nat.pow 2 64) (hrest : EndsNumber rest) :
    readNumber negative (encodeChars (Nat.toDigits 10 n) ++ rest) = .ok (integer negative n, rest) := by
  by_cases hzero : n = 0
  · subst hzero
    exact readNumber_zero hrest
  · obtain ⟨d, digits, htext, hd⟩ := head_toDigits (Nat.pos_of_ne_zero hzero)
    have hdigits : ∀ c ∈ d :: digits, c.isDigit = true := htext ▸ isDigit_toDigits n
    have hvalue : Nat.ofDigitChars 10 (d :: digits) 0 = n := by
      rw [← htext, Nat.ofDigitChars_toDigits (by omega) (by omega)]
    rw [htext, readNumber_digits hdigits hd (by rwa [hvalue]) hrest, hvalue]

/-! ## Strings -/

theorem hexValue?_digitChar : ∀ d < 16, hexValue? (UInt8.ofNat (Nat.digitChar d).toNat) = some d := by
  decide

theorem toNat_digitChar_lt : ∀ d < 16, (Nat.digitChar d).toNat < 0x80 := by
  decide

theorem readHex_digitChars {high low : Nat} (hhigh : high < 16) (hlow : low < 16) (rest : Bytes) :
    readHex (encodeChars ['0', '0', Nat.digitChar high, Nat.digitChar low] ++ rest)
      = .ok (high * 16 + low, rest) := by
  have hzero : hexValue? (UInt8.ofNat '0'.toNat) = some 0 := hexValue?_digitChar 0 (by omega)
  rw [encodeChars_cons_ascii (by decide), encodeChars_cons_ascii (by decide),
    encodeChars_cons_ascii (toNat_digitChar_lt high hhigh),
    encodeChars_cons_ascii (toNat_digitChar_lt low hlow)]
  simp only [List.cons_append, readHex, hzero, hexValue?_digitChar high hhigh,
    hexValue?_digitChar low hlow]
  simp

theorem readCodePoint_control (h : c.toNat < 0x20) (rest : Bytes) :
    readCodePoint (encodeChars
        ['0', '0', Nat.digitChar (c.toNat / 16), Nat.digitChar (c.toNat % 16)] ++ rest)
      = .ok (c, rest) := by
  have hcode : c.toNat / 16 * 16 + c.toNat % 16 = c.toNat := by omega
  have htrailing : isTrailingSurrogate c.toNat = false := by
    rw [isTrailingSurrogate, Bool.and_eq_false_imp, decide_eq_true_eq]
    omega
  have hleading : isLeadingSurrogate c.toNat = false := by
    rw [isLeadingSurrogate, Bool.and_eq_false_imp, decide_eq_true_eq]
    omega
  rw [readCodePoint, readHex_digitChars (by omega) (by omega), hcode]
  simp [bind, Except.bind, htrailing, hleading, Char.ofNat_toNat]

/-- A character is written as itself, or as an escape that is read back. -/
theorem escapeChar_cases (c : Char) :
    (∃ code, escapeChar c = '\\' :: code ∧
      ∀ more, readEscape (encodeChars code ++ more) = .ok (c, more)) ∨
    escapeChar c = [c] ∧ c ≠ '"' ∧ c ≠ '\\' ∧ 0x20 ≤ c.toNat := by
  unfold escapeChar
  -- The seven escapes of one letter.
  iterate 7
    split
    · rename_i h
      subst h
      exact .inl ⟨_, rfl, fun _ => rfl⟩
  split
  · rename_i h
    exact .inl ⟨_, rfl, fun more => readCodePoint_control h more⟩
  · rename_i hquote hbackslash _ _ _ _ _ hcontrol
    exact .inr ⟨rfl, hquote, hbackslash, Nat.not_lt.mp hcontrol⟩

theorem readChars_plain (hquote : c ≠ '"') (hbackslash : c ≠ '\\') (hcontrol : 0x20 ≤ c.toNat)
    (fuel : Nat) (more : Bytes) :
    readChars none (fuel + 1) (String.utf8EncodeChar c ++ more) = (do
      let (cs, rest) ← readChars none fuel more
      .ok (c :: cs, rest)) := by
  obtain ⟨byte, tail, hbytes, hascii, hpiece⟩ := nextPiece_utf8EncodeChar c
  have hne (other : Char) (hother : other.toNat < 0x80) (hc : c ≠ other) :
      byte ≠ UInt8.ofNat other.toNat := by
    rintro rfl
    rw [toNat_byte (by omega)] at hascii
    exact hc (Char.toNat_inj.mp (hascii hother).symm)
  have hlow : ¬ byte < 0x20 := by
    intro hlt
    have hnat : byte.toNat < 0x20 := UInt8.lt_iff_toNat_lt.mp hlt
    have hsame := hascii (by omega)
    omega
  have hclosing : byte ≠ 0x22 := hne '"' (by decide) hquote
  have hescape : byte ≠ 0x5C := hne '\\' (by decide) hbackslash
  rw [hbytes, List.cons_append, readChars, if_neg hclosing, if_neg hescape, if_neg hlow]
  simp only [hpiece]

/-- A written character is read back, and the rest of the string after it. -/
theorem readChars_escapeChar (fuel : Nat) (c : Char) (more : Bytes) :
    readChars none (fuel + 1) (encodeChars (escapeChar c) ++ more) = (do
      let (cs, rest) ← readChars none fuel more
      .ok (c :: cs, rest)) := by
  rcases escapeChar_cases c with ⟨code, hcode, hread⟩ | ⟨hself, hquote, hbackslash, hcontrol⟩
  · rw [hcode, encodeChars_cons_ascii (by decide), List.cons_append, readChars, if_neg (by decide),
      if_pos (by decide), hread]
    rfl
  · rw [hself, encodeChars_cons, encodeChars_nil, List.append_nil]
    exact readChars_plain hquote hbackslash hcontrol fuel more

theorem readChars_escaped (h : cs.length < fuel) (rest : Bytes) :
    readChars none fuel (encodeChars (cs.flatMap escapeChar) ++ 0x22 :: rest) = .ok (cs, rest) := by
  induction cs generalizing fuel with
  | nil =>
    cases fuel with
    | zero => cases h
    | succ fuel => rfl
  | cons c cs ih =>
    cases fuel with
    | zero => cases h
    | succ fuel =>
      rw [List.flatMap_cons, encodeChars_append, List.append_assoc, readChars_escapeChar,
        ih (Nat.lt_of_succ_lt_succ h)]
      rfl

theorem length_le_flatMap_escapeChar (cs : List Char) :
    cs.length ≤ (cs.flatMap escapeChar).length := by
  induction cs with
  | nil => exact Nat.le_refl 0
  | cons c cs ih =>
    have hpos : 1 ≤ (escapeChar c).length := by
      rcases escapeChar_cases c with ⟨code, hcode, -⟩ | ⟨hself, -⟩
      · rw [hcode, List.length_cons]
        omega
      · simp [hself]
    rw [List.flatMap_cons, List.length_append, List.length_cons]
    omega

/-- The text of a string behind its opening quote. -/
def stringTail (text : String) : List Char :=
  text.toList.flatMap escapeChar ++ ['"']

theorem encode_stringChars (text : String) (rest : Bytes) :
    encodeChars (stringChars text) ++ rest = 0x22 :: (encodeChars (stringTail text) ++ rest) := rfl

/-- A string is read back from its text behind the opening quote. -/
theorem readString_stringTail (text : String) (rest : Bytes) :
    readString (encodeChars (stringTail text) ++ rest) = .ok (text, rest) := by
  have hbytes : encodeChars (stringTail text) ++ rest
      = encodeChars (text.toList.flatMap escapeChar) ++ 0x22 :: rest := by
    rw [stringTail, encodeChars_append, List.append_assoc, encodeChars_cons_ascii (by decide)]
    rfl
  have hfuel : text.toList.length
      < (encodeChars (text.toList.flatMap escapeChar) ++ 0x22 :: rest).length + 1 := by
    have hescaped := length_le_flatMap_escapeChar text.toList
    have hencoded := length_le_length_encodeChars (text.toList.flatMap escapeChar)
    rw [List.length_append]
    omega
  rw [readString, hbytes, readChars_escaped hfuel]
  simp [bind, Except.bind]

end Json

end ConfigKit
