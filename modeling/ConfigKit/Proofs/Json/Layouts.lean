-- SUMMARY: JSON text in any layout, less its blanks, is the compact text.
import ConfigKit.Proofs.Json.Scalars

/-!
# JSON text without its blanks

Spaces and line feeds that stand outside strings do not belong to the content of JSON text.
`withoutBlanks` drops them, and has to follow the strings for that, with their escapes. What it leaves of
the text of a value is its compact text, whatever blanks the layout puts (`tightens_render`).
-/

namespace ConfigKit

namespace Json

open Utf8

/-- Where a byte of JSON text stands: outside strings, in a string, or behind a backslash there. -/
inductive Region where
  | outside
  | inside
  | escaped
  deriving DecidableEq

/-- Where the next byte stands. -/
def Region.next : Region → UInt8 → Region
  | .outside, byte => if byte = 0x22 then .inside else .outside
  | .inside, byte => if byte = 0x22 then .outside else if byte = 0x5C then .escaped else .inside
  | .escaped, _ => .inside

/-- Where the byte behind some bytes stands. -/
def Region.behind (region : Region) (bytes : Bytes) : Region :=
  bytes.foldl Region.next region

/-- The bytes without the spaces and line feeds that stand outside strings. -/
def withoutBlanks : Region → Bytes → Bytes
  | _, [] => []
  | region, byte :: rest =>
    if region = .outside ∧ (byte = 0x20 ∨ byte = 0x0A) then withoutBlanks region rest
    else byte :: withoutBlanks (region.next byte) rest

variable {cs more tight others digits : List Char} {c : Char} {bytes rest : Bytes} {region : Region}
  {layout : Layout}

/-! ## Regions -/

theorem Region.behind_append (region : Region) (bytes rest : Bytes) :
    region.behind (bytes ++ rest) = (region.behind bytes).behind rest :=
  List.foldl_append

theorem withoutBlanks_append (region : Region) (bytes rest : Bytes) :
    withoutBlanks region (bytes ++ rest)
      = withoutBlanks region bytes ++ withoutBlanks (region.behind bytes) rest := by
  fun_induction withoutBlanks region bytes with
  | case1 => rfl
  | case2 region byte bytes hblank ih =>
    -- A blank outside strings leaves the reader outside.
    obtain ⟨rfl, hbyte⟩ := hblank
    have hnext : Region.outside.next byte = .outside := by
      rcases hbyte with rfl | rfl <;> rfl
    rw [List.cons_append, withoutBlanks, if_pos ⟨rfl, hbyte⟩, ih]
    simp only [Region.behind, List.foldl_cons, hnext]
  | case3 region byte bytes hblank ih =>
    rw [List.cons_append, withoutBlanks, if_neg hblank, ih]
    rfl

/-! ## Texts and what is left of them -/

/-- Read from outside strings, the text leads outside strings again, and without its blanks it is the
other one, which is on one line. -/
structure Tightens (cs tight : List Char) : Prop where
  behind : Region.outside.behind (encodeChars cs) = .outside
  withoutBlanks : withoutBlanks .outside (encodeChars cs) = encodeChars tight
  oneLine : 0x0A ∉ encodeChars tight

theorem tightens_nil : Tightens [] [] :=
  ⟨rfl, rfl, by simp⟩

theorem Tightens.append (h : Tightens cs tight) (hmore : Tightens more others) :
    Tightens (cs ++ more) (tight ++ others) where
  behind := by rw [encodeChars_append, Region.behind_append, h.behind, hmore.behind]
  withoutBlanks := by
    rw [encodeChars_append, withoutBlanks_append, h.behind, h.withoutBlanks, hmore.withoutBlanks,
      encodeChars_append]
  oneLine := by simp [h.oneLine, hmore.oneLine]

/-- A character that neither opens a string nor is a blank. -/
def IsSolid (c : Char) : Prop := c ≠ '"' ∧ c ≠ ' ' ∧ c ≠ '\n'

theorem byte_ne_of_mem (other : Char) {byte : UInt8} (h : byte ∈ encodeChars cs)
    (hother : other.toNat < 0x80) (hne : ∀ c ∈ cs, c ≠ other) : byte ≠ UInt8.ofNat other.toNat := by
  rintro rfl
  have hnat : (UInt8.ofNat other.toNat).toNat = other.toNat := toNat_byte (by omega)
  obtain ⟨c, hc, heq⟩ := exists_of_mem_encodeChars h (by omega)
  exact hne c hc (Char.toNat_inj.mp (by rw [← heq, hnat]))

theorem behind_outside_of_ne (h : ∀ byte ∈ bytes, byte ≠ 0x22) :
    Region.outside.behind bytes = .outside := by
  induction bytes with
  | nil => rfl
  | cons byte bytes ih =>
    rw [Region.behind, List.foldl_cons, Region.next, if_neg (h byte List.mem_cons_self)]
    exact ih fun other hother => h other (List.mem_cons_of_mem _ hother)

theorem withoutBlanks_of_ne (hquote : ∀ byte ∈ bytes, byte ≠ 0x22)
    (hblank : ∀ byte ∈ bytes, byte ≠ 0x20 ∧ byte ≠ 0x0A) : withoutBlanks .outside bytes = bytes := by
  induction bytes with
  | nil => rfl
  | cons byte bytes ih =>
    have hbyte := hblank byte List.mem_cons_self
    rw [withoutBlanks, if_neg (by simp [hbyte]), Region.next, if_neg (hquote byte List.mem_cons_self),
      ih (fun other hother => hquote other (List.mem_cons_of_mem _ hother))
        fun other hother => hblank other (List.mem_cons_of_mem _ hother)]

theorem tightens_of_isSolid (h : ∀ c ∈ cs, IsSolid c) : Tightens cs cs := by
  have hquote : ∀ byte ∈ encodeChars cs, byte ≠ 0x22 := fun byte hbyte =>
    byte_ne_of_mem '"' hbyte (by decide) fun c hc => (h c hc).1
  have hspace : ∀ byte ∈ encodeChars cs, byte ≠ 0x20 := fun byte hbyte =>
    byte_ne_of_mem ' ' hbyte (by decide) fun c hc => (h c hc).2.1
  have hfeed : ∀ byte ∈ encodeChars cs, byte ≠ 0x0A := fun byte hbyte =>
    byte_ne_of_mem '\n' hbyte (by decide) fun c hc => (h c hc).2.2
  exact ⟨behind_outside_of_ne hquote,
    withoutBlanks_of_ne hquote fun byte hbyte => ⟨hspace byte hbyte, hfeed byte hbyte⟩,
    fun hmem => hfeed 0x0A hmem rfl⟩

theorem tightens_blanks (h : ∀ c ∈ cs, c = ' ' ∨ c = '\n') : Tightens cs [] := by
  induction cs with
  | nil => exact tightens_nil
  | cons c cs ih =>
    have hblank : Tightens [c] [] := by
      rcases h c List.mem_cons_self with rfl | rfl <;> exact ⟨rfl, rfl, by simp⟩
    exact hblank.append (ih fun other hother => h other (List.mem_cons_of_mem _ hother))

theorem Tightens.cons (hc : IsSolid c) (h : Tightens cs tight) : Tightens (c :: cs) (c :: tight) := by
  have hfirst : Tightens [c] [c] := tightens_of_isSolid (by simpa using hc)
  exact hfirst.append h

/-! ## Strings -/

/-- Within a string the text stays in it, and on one line. -/
structure StaysInside (cs : List Char) : Prop where
  behind : Region.inside.behind (encodeChars cs) = .inside
  withoutBlanks : withoutBlanks .inside (encodeChars cs) = encodeChars cs
  oneLine : 0x0A ∉ encodeChars cs

theorem StaysInside.append (h : StaysInside cs) (hmore : StaysInside more) : StaysInside (cs ++ more) where
  behind := by rw [encodeChars_append, Region.behind_append, h.behind, hmore.behind]
  withoutBlanks := by
    rw [encodeChars_append, withoutBlanks_append, h.behind, h.withoutBlanks, hmore.withoutBlanks]
  oneLine := by simp [h.oneLine, hmore.oneLine]

theorem behind_inside_of_ne (h : ∀ byte ∈ bytes, byte ≠ 0x22 ∧ byte ≠ 0x5C) :
    Region.inside.behind bytes = .inside ∧ withoutBlanks .inside bytes = bytes := by
  induction bytes with
  | nil => exact ⟨rfl, rfl⟩
  | cons byte bytes ih =>
    obtain ⟨hquote, hbackslash⟩ := h byte List.mem_cons_self
    have hnext : Region.inside.next byte = .inside := by simp [Region.next, hquote, hbackslash]
    obtain ⟨hbehind, hsame⟩ := ih fun other hother => h other (List.mem_cons_of_mem _ hother)
    refine ⟨?_, ?_⟩
    · rw [Region.behind, List.foldl_cons, hnext]
      exact hbehind
    · rw [withoutBlanks, if_neg (by simp), hnext, hsame]

theorem staysInside_plain (h : ∀ c ∈ cs, c ≠ '"' ∧ c ≠ '\\' ∧ c ≠ '\n') : StaysInside cs := by
  have hquote : ∀ byte ∈ encodeChars cs, byte ≠ 0x22 := fun byte hbyte =>
    byte_ne_of_mem '"' hbyte (by decide) fun c hc => (h c hc).1
  have hbackslash : ∀ byte ∈ encodeChars cs, byte ≠ 0x5C := fun byte hbyte =>
    byte_ne_of_mem '\\' hbyte (by decide) fun c hc => (h c hc).2.1
  have hfeed : ∀ byte ∈ encodeChars cs, byte ≠ 0x0A := fun byte hbyte =>
    byte_ne_of_mem '\n' hbyte (by decide) fun c hc => (h c hc).2.2
  obtain ⟨hbehind, hsame⟩ := behind_inside_of_ne fun byte hbyte => ⟨hquote byte hbyte, hbackslash byte hbyte⟩
  exact ⟨hbehind, hsame, fun hmem => hfeed 0x0A hmem rfl⟩

/-- A backslash guards the one character behind it. -/
theorem staysInside_escape (hc : c.toNat < 0x80) (hfeed : c ≠ '\n') (h : StaysInside cs) :
    StaysInside ('\\' :: c :: cs) := by
  have hguarded : StaysInside ['\\', c] := by
    have hbytes : encodeChars ['\\', c] = [0x5C, UInt8.ofNat c.toNat] := by
      rw [encodeChars_cons_ascii (by decide), encodeChars_cons_ascii hc]
      rfl
    have hbyte : UInt8.ofNat c.toNat ≠ 0x0A := by
      have hmem : UInt8.ofNat c.toNat ∈ encodeChars [c] := by simp [encodeChars_cons_ascii hc]
      exact byte_ne_of_mem '\n' hmem (by decide) (by simpa using hfeed)
    refine ⟨by rw [hbytes]; rfl, by rw [hbytes]; rfl, ?_⟩
    rw [hbytes]
    simp [Ne.symm hbyte]
  exact hguarded.append h

theorem digitChar_ne : ∀ d < 16,
    Nat.digitChar d ≠ '"' ∧ Nat.digitChar d ≠ '\\' ∧ Nat.digitChar d ≠ '\n' := by
  decide

theorem staysInside_escapeChar (c : Char) : StaysInside (escapeChar c) := by
  have hnil : StaysInside [] := ⟨rfl, rfl, by simp⟩
  unfold escapeChar
  -- The seven escapes of one letter.
  iterate 7
    split
    · exact staysInside_escape (by decide) (by decide) hnil
  split
  · rename_i hcontrol
    have hhigh := digitChar_ne (c.toNat / 16) (by omega)
    have hlow := digitChar_ne (c.toNat % 16) (by omega)
    exact staysInside_escape (by decide) (by decide) (staysInside_plain (by simp [hhigh, hlow]))
  · rename_i hquote hbackslash _ _ hfeed _ _ _
    exact staysInside_plain (by simp [hquote, hbackslash, hfeed])

theorem staysInside_escaped (cs : List Char) : StaysInside (cs.flatMap escapeChar) := by
  induction cs with
  | nil => exact ⟨rfl, rfl, by simp⟩
  | cons c cs ih =>
    rw [List.flatMap_cons]
    exact (staysInside_escapeChar c).append ih

/-- A string keeps all of its text. -/
theorem tightens_stringChars (text : String) : Tightens (stringChars text) (stringChars text) := by
  have hinside := staysInside_escaped text.toList
  have hbytes : encodeChars (stringChars text)
      = 0x22 :: (encodeChars (text.toList.flatMap escapeChar) ++ [0x22]) := by
    rw [stringChars, encodeChars_cons_ascii (by decide), encodeChars_append]
    rfl
  refine ⟨?_, ?_, ?_⟩
  · rw [hbytes]
    change Region.inside.behind (_ ++ [0x22]) = .outside
    rw [Region.behind_append, hinside.behind]
    rfl
  · rw [hbytes, withoutBlanks, if_neg (by decide)]
    change 0x22 :: withoutBlanks .inside (_ ++ [0x22]) = _
    rw [withoutBlanks_append, hinside.withoutBlanks, hinside.behind]
    rfl
  · rw [hbytes]
    simp [hinside.oneLine]

/-! ## Numbers -/

theorem isSolid_of_isDigit (h : c.isDigit = true) : IsSolid c := by
  refine ⟨?_, ?_, ?_⟩ <;>
    · rintro rfl
      simp at h

theorem isSolid_toDigits (n : Nat) : ∀ c ∈ Nat.toDigits 10 n, IsSolid c := fun c hc =>
  isSolid_of_isDigit (isDigit_toDigits n c hc)

/-- A text without blanks and quotes. -/
def SolidText (text : String) : Prop := ∀ c ∈ text.toList, IsSolid c

theorem solidText_ofList (h : ∀ c ∈ cs, IsSolid c) : SolidText (String.ofList cs) := by
  simpa [SolidText] using h

theorem SolidText.append {text other : String} (h : SolidText text) (hother : SolidText other) :
    SolidText (text ++ other) := by
  rw [SolidText, String.toList_append]
  exact List.forall_mem_append.mpr ⟨h, hother⟩

theorem solidText_natural (n : Nat) : SolidText (toString n) := by
  simpa [SolidText] using isSolid_toDigits n

theorem solidText_scientific {sign : String} (hsign : SolidText sign) (hdigits : ∀ c ∈ digits, IsSolid c)
    (power : Int) : SolidText (Decimal.scientific sign digits power) := by
  have hsigned : SolidText (if power < 0 then "-" else sign) := by
    split
    · simp [SolidText, IsSolid]
    · exact hsign
  have hexponent {mantissa : String} (h : SolidText mantissa) :
      SolidText (mantissa ++ "e" ++ (if power < 0 then "-" else sign) ++ toString power.natAbs) :=
    ((h.append (by simp [SolidText, IsSolid])).append hsigned).append (solidText_natural _)
  unfold Decimal.scientific
  apply hexponent
  cases digits with
  | nil => simp [SolidText]
  | cons d more =>
    cases more with
    | nil => exact solidText_ofList hdigits
    | cons e more =>
      obtain ⟨hd, hmore⟩ := List.forall_mem_cons.mp hdigits
      have hpoint : IsSolid '.' := by simp [IsSolid]
      exact solidText_ofList (List.forall_mem_cons.mpr ⟨hd, List.forall_mem_cons.mpr ⟨hpoint, hmore⟩⟩)

theorem solidText_positional (hdigits : ∀ c ∈ digits, IsSolid c) (exponent : Int) :
    SolidText (Decimal.positional digits exponent) := by
  have hzeros (n : Nat) : ∀ c ∈ List.replicate n '0', IsSolid c := by
    intro c hc
    obtain rfl := List.eq_of_mem_replicate hc
    simp [IsSolid]
  unfold Decimal.positional
  split
  · exact (solidText_ofList (List.forall_mem_append.mpr ⟨hdigits, hzeros _⟩)).append
      (by simp [SolidText, IsSolid])
  · have hpadded := List.forall_mem_append.mpr
      ⟨hzeros (exponent.natAbs + 1 - digits.length), hdigits⟩
    have hwhole (n : Nat) := solidText_ofList fun c hc => hpadded c (List.mem_of_mem_take (i := n) hc)
    have hfraction (n : Nat) := solidText_ofList fun c hc => hpadded c (List.mem_of_mem_drop (i := n) hc)
    exact ((hwhole _).append (by simp [SolidText, IsSolid])).append (hfraction _)

theorem solidText_decimal (d : Decimal) : SolidText (d.text floats) := by
  have hdigits := isSolid_toDigits d.digits
  unfold Decimal.text
  simp only []
  split
  · exact solidText_positional hdigits _
  · exact solidText_scientific (by simp [SolidText, floats, IsSolid]) hdigits _

theorem solidText_float (x : Binary64) : SolidText (x.text floats) := by
  have hnull : SolidText "null" := by simp [SolidText, IsSolid]
  unfold Binary64.text
  split
  · exact hnull
  · split
    · split
      · exact hnull
      · exact hnull
    · have hmagnitude : SolidText (if x.isZero then "0.0" else (Decimal.shortest x).text floats) := by
        split
        · simp [SolidText, IsSolid]
        · exact solidText_decimal _
      simp only []
      split
      · exact SolidText.append (by simp [SolidText, IsSolid]) hmagnitude
      · exact hmagnitude

theorem solidText_number (n : Number) : SolidText (numberText n) := by
  cases n with
  | int n =>
    cases n with
    | ofNat n => exact solidText_natural n
    | negSucc n =>
      have hminus : SolidText "-" := by simp [SolidText, IsSolid]
      exact hminus.append (solidText_natural (n + 1))
  | float x => exact solidText_float x

/-! ## Values -/

/-- A layout that puts nothing but spaces and line feeds between the parts of a value. -/
structure Layout.Spaced (layout : Layout) : Prop where
  lineBreak : ∀ depth, Tightens (layout.lineBreak depth) []
  colon : Tightens layout.colon [':']

theorem Layout.indented_spaced : Layout.indented.Spaced where
  lineBreak depth := by
    refine tightens_blanks fun c hc => ?_
    rcases List.mem_cons.mp hc with rfl | hc
    · exact .inr rfl
    · exact .inl (List.eq_of_mem_replicate hc)
  colon := (tightens_blanks (by simp) : Tightens [' '] []).cons (by simp [IsSolid])

section Spaced

variable (hlayout : layout.Spaced)
include hlayout

mutual

/-- Without its blanks, the text of a value is its compact text. -/
theorem tightens_render : (value : Json) → (place other : Nat) →
    Tightens (value.render layout place) (value.render .compact other)
  | .null, _, _ => tightens_of_isSolid (by simp [render, IsSolid])
  | .bool true, _, _ => tightens_of_isSolid (by simp [render, IsSolid])
  | .bool false, _, _ => tightens_of_isSolid (by simp [render, IsSolid])
  | .number n, _, _ => tightens_of_isSolid (solidText_number n)
  | .string text, _, _ => tightens_stringChars text
  | .array [], _, _ => tightens_of_isSolid (by simp [render, IsSolid])
  | .array (item :: items), place, other => by
    have hitem := tightens_render item (place + 1) (other + 1)
    have hitems := tightens_renderItems items (place + 1) (other + 1)
    have hclose : Tightens [']'] [']'] := tightens_of_isSolid (by simp [IsSolid])
    rw [render, render]
    exact .cons (by simp [IsSolid])
      (((((hlayout.lineBreak _).append hitem).append hitems).append (hlayout.lineBreak _)).append hclose)
  | .object [], _, _ => tightens_of_isSolid (by simp [render, IsSolid])
  | .object ((name, value) :: members), place, other => by
    have hvalue := tightens_render value (place + 1) (other + 1)
    have hmembers := tightens_renderMembers members (place + 1) (other + 1)
    have hclose : Tightens ['\x7d'] ['\x7d'] := tightens_of_isSolid (by simp [IsSolid])
    rw [render, render]
    exact .cons (by simp [IsSolid])
      (((((((hlayout.lineBreak _).append (tightens_stringChars name)).append hlayout.colon).append
        hvalue).append hmembers).append (hlayout.lineBreak _)).append hclose)

theorem tightens_renderItems : (items : List Json) → (place other : Nat) →
    Tightens (renderItems layout place items) (renderItems .compact other items)
  | [], _, _ => tightens_nil
  | item :: items, place, other => by
    have hitem := tightens_render item place other
    have hitems := tightens_renderItems items place other
    rw [renderItems, renderItems]
    exact .cons (by simp [IsSolid]) (((hlayout.lineBreak _).append hitem).append hitems)

theorem tightens_renderMembers : (members : List (String × Json)) → (place other : Nat) →
    Tightens (renderMembers layout place members) (renderMembers .compact other members)
  | [], _, _ => tightens_nil
  | (name, value) :: members, place, other => by
    have hvalue := tightens_render value place other
    have hmembers := tightens_renderMembers members place other
    rw [renderMembers, renderMembers]
    exact .cons (by simp [IsSolid])
      (((((hlayout.lineBreak _).append (tightens_stringChars name)).append hlayout.colon).append
        hvalue).append hmembers)

end

end Spaced

/-! ## The end of a text -/

/-- The text does not end with a line feed. -/
theorem getLast?_render_ne (layout : Layout) (value : Json) (place : Nat) :
    ∀ c ∈ (value.render layout place).getLast?, c ≠ '\n' := by
  have hsolid {cs : List Char} (h : ∀ c ∈ cs, IsSolid c) : ∀ c ∈ cs.getLast?, c ≠ '\n' :=
    fun c hc => (h c (List.mem_of_getLast? hc)).2.2
  have hclosed {first last : Char} {cs : List Char} (hlast : last ≠ '\n') :
      ∀ c ∈ (first :: (cs ++ [last])).getLast?, c ≠ '\n' := by
    rw [← List.cons_append, List.getLast?_concat]
    simpa using hlast
  cases value with
  | null => exact hsolid (by simp [render, IsSolid])
  | bool b => cases b <;> exact hsolid (by simp [render, IsSolid])
  | number n => exact hsolid (solidText_number n)
  | string text => exact hclosed (by decide)
  | array items =>
    cases items with
    | nil => exact hsolid (by simp [render, IsSolid])
    | cons item items => exact hclosed (by decide)
  | object members =>
    cases members with
    | nil => exact hsolid (by simp [render, IsSolid])
    | cons member members => exact hclosed (by decide)

end Json

end ConfigKit
