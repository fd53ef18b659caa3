-- SUMMARY: JSON values are read back from their text, or refused where they nest too deep.
import Mathlib.Order.MinMax
import ConfigKit.Proofs.FieldMap.LastWins
import ConfigKit.Proofs.Json.Containers

/-!
# Reading JSON text back

Values without floating-point numbers are read back from their text, whatever the layout, as long as they
do not nest too deep (`readValue_render`). Reading a value that nests too deep stops at the first bracket
that opens one container too many (`tooDeep_render`).
-/

namespace ConfigKit

namespace Json

open Utf8

variable {layout : Layout} {byte : UInt8} {blanks more rest text : Bytes} {depth fuel place : Nat}

/-! ## Layouts -/

/-- A layout that puts nothing but blanks around the parts of a document. -/
structure Layout.Sound (layout : Layout) : Prop where
  lineBreak : ∀ depth, AllBlank (encodeChars (layout.lineBreak depth))
  colon : ∃ blanks, encodeChars layout.colon = 0x3A :: blanks ∧ AllBlank blanks

theorem Layout.compact_sound : Layout.compact.Sound where
  lineBreak _ := by simp [Layout.compact, AllBlank]
  colon := ⟨[], rfl, by simp [AllBlank]⟩

theorem Layout.indented_sound : Layout.indented.Sound where
  lineBreak depth := by
    intro byte hbyte
    obtain ⟨c, hc, hbyte⟩ := List.mem_flatMap.mp hbyte
    rcases List.mem_cons.mp hc with rfl | hc
    · obtain rfl : byte = 0x0A := List.mem_singleton.mp hbyte
      rfl
    · obtain rfl := List.eq_of_mem_replicate hc
      obtain rfl : byte = 0x20 := List.mem_singleton.mp hbyte
      rfl
  colon := ⟨[0x20], rfl, by simp [AllBlank, isBlankByte]⟩

theorem Layout.sound_of_pretty (pretty : Bool) : (if pretty then indented else compact).Sound := by
  cases pretty with
  | true => exact indented_sound
  | false => exact compact_sound

theorem endsNumber_cons (h : isDigitByte byte = false ∧ byte ≠ 0x2E ∧ byte ≠ 0x65 ∧ byte ≠ 0x45)
    (rest : Bytes) : EndsNumber (byte :: rest) := by
  intro other hother
  obtain rfl : byte = other := by simpa using hother
  exact h

theorem EndsNumber.append (h : EndsNumber rest) (hblanks : AllBlank blanks) :
    EndsNumber (blanks ++ rest) := by
  cases blanks with
  | nil => exact h
  | cons byte blanks =>
    have hblank := hblanks byte List.mem_cons_self
    simp only [isBlankByte, Bool.or_eq_true, decide_eq_true_eq] at hblank
    refine endsNumber_cons ?_ _
    rcases hblank with ((rfl | rfl) | rfl) | rfl <;> decide

/-! ## Scalars -/

theorem numberText_natural (n : Nat) : (numberText (.int n)).toList = Nat.toDigits 10 n := by
  simp [numberText, Int.repr]

theorem numberText_negative (n : Nat) :
    (numberText (.int (Int.negSucc n))).toList = '-' :: Nat.toDigits 10 (n + 1) := by
  simp [numberText, Int.repr]

theorem exists_digit_toDigits (n : Nat) :
    ∃ byte rest, encodeChars (Nat.toDigits 10 n) = byte :: rest ∧ isDigitByte byte = true := by
  cases htext : encodeChars (Nat.toDigits 10 n) with
  | nil =>
    have hlength := length_le_length_encodeChars (Nat.toDigits 10 n)
    rw [htext] at hlength
    exact absurd (List.length_eq_zero_iff.mp (Nat.le_zero.mp hlength)) Nat.toDigits_ne_nil
  | cons byte rest =>
    exact ⟨byte, rest, rfl, isDigitByte_of_mem (isDigit_toDigits n) (by simp [htext])⟩

/-- An integer of 64 bits is read from its digits, behind a minus sign if it has one. -/
theorem numberText_cases {n : Int} (hlow : Number.minInt ≤ n) (hhigh : n ≤ Number.maxInt)
    (hrest : EndsNumber rest) :
    (∃ byte more, encodeChars (numberText (.int n)).toList ++ rest = byte :: more ∧
      isDigitByte byte = true ∧ readNumber false (byte :: more) = .ok (.int n, rest)) ∨
    ∃ more, encodeChars (numberText (.int n)).toList ++ rest = 0x2D :: more ∧
      readNumber true more = .ok (.int n, rest) := by
  have hpow : Nat.pow 2 63 + Nat.pow 2 63 = Nat.pow 2 64 := rfl
  unfold Number.minInt at hlow
  unfold Number.maxInt at hhigh
  cases n with
  | ofNat n =>
    rw [Int.ofNat_eq_natCast] at hhigh ⊢
    obtain ⟨byte, more, htext, hdigit⟩ := exists_digit_toDigits n
    have hread : readNumber false (encodeChars (Nat.toDigits 10 n) ++ rest)
        = .ok (integer false n, rest) := readNumber_toDigits (by omega) hrest
    rw [htext, List.cons_append] at hread
    rw [numberText_natural, htext, List.cons_append]
    exact .inl ⟨byte, more ++ rest, rfl, hdigit, hread⟩
  | negSucc n =>
    rw [Int.negSucc_eq] at hlow
    have hread : readNumber true (encodeChars (Nat.toDigits 10 (n + 1)) ++ rest)
        = .ok (integer true (n + 1), rest) := readNumber_toDigits (by omega) hrest
    have hinteger : integer true (n + 1) = .int (Int.negSucc n) := by
      rw [integer, if_pos rfl, if_pos (by omega), Int.negSucc_eq]
      rfl
    rw [numberText_negative, encodeChars_cons_ascii (by decide), List.cons_append]
    exact .inr ⟨_, rfl, hinteger ▸ hread⟩

theorem readValue_number {n : Int} (hlow : Number.minInt ≤ n) (hhigh : n ≤ Number.maxInt)
    (hrest : EndsNumber rest) (depth : Nat) :
    readValue depth (encodeChars (numberText (.int n)).toList ++ rest) = .ok (.number (.int n), rest) := by
  rcases numberText_cases hlow hhigh hrest with ⟨byte, more, htext, hdigit, hread⟩ | ⟨more, htext, hread⟩
  · rw [htext, readValue_digit hdigit, hread]
    rfl
  · rw [htext, readValue_minus, hread]
    rfl

theorem readValue_string (text : String) (depth : Nat) (rest : Bytes) :
    readValue depth (encodeChars (stringChars text) ++ rest) = .ok (.string text, rest) := by
  rw [encode_stringChars, readValue_quote, readString_stringTail]
  rfl

theorem readValue_null (depth : Nat) (rest : Bytes) :
    readValue depth (encodeChars "null".toList ++ rest) = .ok (.null, rest) := by
  change readValue depth (0x6E :: 0x75 :: 0x6C :: 0x6C :: rest) = _
  rw [readValue, skipBlanks_cons (by decide)]
  rfl

theorem readValue_true (depth : Nat) (rest : Bytes) :
    readValue depth (encodeChars "true".toList ++ rest) = .ok (.bool true, rest) := by
  change readValue depth (0x74 :: 0x72 :: 0x75 :: 0x65 :: rest) = _
  rw [readValue, skipBlanks_cons (by decide)]
  rfl

theorem readValue_false (depth : Nat) (rest : Bytes) :
    readValue depth (encodeChars "false".toList ++ rest) = .ok (.bool false, rest) := by
  change readValue depth (0x66 :: 0x61 :: 0x6C :: 0x73 :: 0x65 :: rest) = _
  rw [readValue, skipBlanks_cons (by decide)]
  rfl

/-! ## The first byte of a value -/

theorem startsValue_ascii {c : Char} {cs : List Char} (hascii : c.toNat < 0x80)
    (hblank : isBlankByte (UInt8.ofNat c.toNat) = false) (hclosing : UInt8.ofNat c.toNat ≠ 0x5D)
    (rest : Bytes) : StartsValue (encodeChars (c :: cs) ++ rest) := by
  rw [encodeChars_cons_ascii hascii, List.cons_append]
  exact ⟨_, _, rfl, hblank, hclosing⟩

theorem startsValue_number (n : Int) (rest : Bytes) :
    StartsValue (encodeChars (numberText (.int n)).toList ++ rest) := by
  cases n with
  | ofNat n =>
    obtain ⟨byte, more, htext, hdigit⟩ := exists_digit_toDigits n
    rw [Int.ofNat_eq_natCast, numberText_natural, htext]
    exact startsValue_digit hdigit _
  | negSucc n =>
    rw [numberText_negative]
    exact startsValue_ascii (by decide) rfl (by decide) rest

theorem startsValue_render (layout : Layout) (value : Json) (hfree : value.FloatFree) (place : Nat)
    (rest : Bytes) : StartsValue (encodeChars (value.render layout place) ++ rest) := by
  cases value with
  | null => exact startsValue_ascii (by decide) rfl (by decide) rest
  | bool b => cases b <;> exact startsValue_ascii (by decide) rfl (by decide) rest
  | number n =>
    cases n with
    | int n => exact startsValue_number n rest
    | float x => exact absurd hfree (by simp [FloatFree])
  | string text => exact startsValue_ascii (by decide) rfl (by decide) rest
  | array items => cases items <;> exact startsValue_ascii (by decide) rfl (by decide) rest
  | object members =>
    rcases members with _ | ⟨⟨name, value⟩, members⟩ <;>
      exact startsValue_ascii (by decide) rfl (by decide) rest

/-! ## The text of containers -/

theorem encode_array (layout : Layout) (place : Nat) (item : Json) (items : List Json) (rest : Bytes) :
    encodeChars ((Json.array (item :: items)).render layout place) ++ rest
      = 0x5B :: (encodeChars (layout.lineBreak (place + 1))
          ++ (encodeChars (item.render layout (place + 1))
          ++ (encodeChars (renderItems layout (place + 1) items)
          ++ (encodeChars (layout.lineBreak place) ++ 0x5D :: rest)))) := by
  rw [render, encodeChars_cons_ascii (by decide)]
  simp only [encodeChars_append, List.cons_append, List.append_assoc]
  rfl

theorem encode_items (layout : Layout) (place : Nat) (item : Json) (items : List Json) (rest : Bytes) :
    encodeChars (renderItems layout place (item :: items)) ++ rest
      = 0x2C :: (encodeChars (layout.lineBreak place) ++ (encodeChars (item.render layout place)
          ++ (encodeChars (renderItems layout place items) ++ rest))) := by
  rw [renderItems, encodeChars_cons_ascii (by decide)]
  simp only [encodeChars_append, List.cons_append, List.append_assoc]
  rfl

theorem encode_object (layout : Layout) (place : Nat) (name : String) (value : Json)
    (members : List (String × Json)) (rest : Bytes) :
    encodeChars ((Json.object ((name, value) :: members)).render layout place) ++ rest
      = 0x7B :: (encodeChars (layout.lineBreak (place + 1)) ++ 0x22 :: (encodeChars (stringTail name)
          ++ (encodeChars layout.colon ++ (encodeChars (value.render layout (place + 1))
          ++ (encodeChars (renderMembers layout (place + 1) members)
          ++ (encodeChars (layout.lineBreak place) ++ 0x7D :: rest)))))) := by
  rw [render, encodeChars_cons_ascii (by decide)]
  simp only [encodeChars_append, List.cons_append, List.append_assoc, encode_stringChars]
  rfl

theorem encode_members (layout : Layout) (place : Nat) (name : String) (value : Json)
    (members : List (String × Json)) (rest : Bytes) :
    encodeChars (renderMembers layout place ((name, value) :: members)) ++ rest
      = 0x2C :: (encodeChars (layout.lineBreak place) ++ 0x22 :: (encodeChars (stringTail name)
          ++ (encodeChars layout.colon ++ (encodeChars (value.render layout place)
          ++ (encodeChars (renderMembers layout place members) ++ rest))))) := by
  rw [renderMembers, encodeChars_cons_ascii (by decide)]
  simp only [encodeChars_append, List.cons_append, List.append_assoc, encode_stringChars]
  rfl

/-- An item takes at least one byte, the comma before it. -/
theorem length_le_encode_items (layout : Layout) (place : Nat) (items : List Json) :
    items.length ≤ (encodeChars (renderItems layout place items)).length := by
  refine Nat.le_trans ?_ (length_le_length_encodeChars _)
  induction items with
  | nil => exact Nat.zero_le _
  | cons item items ih =>
    rw [renderItems, List.length_cons, List.length_cons, List.length_append]
    omega

theorem length_le_encode_members (layout : Layout) (place : Nat) (members : List (String × Json)) :
    members.length ≤ (encodeChars (renderMembers layout place members)).length := by
  refine Nat.le_trans ?_ (length_le_length_encodeChars _)
  induction members with
  | nil => exact Nat.zero_le _
  | cons member members ih =>
    rw [renderMembers, List.length_cons, List.length_cons, List.length_append]
    omega

theorem endsNumber_items (layout : Layout) (items : List Json) (place : Nat)
    (hblanks : AllBlank blanks) (rest : Bytes) :
    EndsNumber (encodeChars (renderItems layout place items) ++ (blanks ++ 0x5D :: rest)) := by
  cases items with
  | nil => exact (endsNumber_cons (by decide) rest).append hblanks
  | cons item items =>
    rw [encode_items]
    exact endsNumber_cons (by decide) _

theorem endsNumber_members (layout : Layout) (members : List (String × Json)) (place : Nat)
    (hblanks : AllBlank blanks) (rest : Bytes) :
    EndsNumber (encodeChars (renderMembers layout place members) ++ (blanks ++ 0x7D :: rest)) := by
  cases members with
  | nil => exact (endsNumber_cons (by decide) rest).append hblanks
  | cons member members =>
    rw [encode_members]
    exact endsNumber_cons (by decide) _

section Sound

variable (hlayout : layout.Sound)
include hlayout

theorem readMember_of_value {value : Json} (state : List (String × Json)) (name : String)
    (h : readValue depth text = .ok (value, rest)) :
    readMember depth state name (encodeChars layout.colon ++ text)
      = .ok (Entries.insert name value state, rest) := by
  obtain ⟨blanks, hcolon, hblanks⟩ := hlayout.colon
  have hread := (readValue_append hblanks depth text).trans h
  rw [readMember, hcolon, List.cons_append, readColon_of_colon]
  simp only [bind, Except.bind, hread]

theorem tooDeep_readMember (state : List (String × Json)) (name : String)
    (h : TooDeep (readValue depth text)) :
    TooDeep (readMember depth state name (encodeChars layout.colon ++ text)) := by
  obtain ⟨blanks, hcolon, hblanks⟩ := hlayout.colon
  rw [← readValue_append hblanks] at h
  rw [readMember, hcolon, List.cons_append, readColon_of_colon]
  exact h.bind _

mutual

/-- A value is read back from its text. -/
theorem readValue_render : (value : Json) → (depth place : Nat) → (rest : Bytes) →
    value.FloatFree → value.Canonical → value.depth ≤ depth → EndsNumber rest →
    readValue depth (encodeChars (value.render layout place) ++ rest) = .ok (value, rest)
  | .null, depth, _, rest, _, _, _, _ => readValue_null depth rest
  | .bool true, depth, _, rest, _, _, _, _ => readValue_true depth rest
  | .bool false, depth, _, rest, _, _, _, _ => readValue_false depth rest
  | .number (.int _), depth, _, _, hfree, _, _, hrest => readValue_number hfree.1 hfree.2 hrest depth
  | .string text, depth, _, rest, _, _, _, _ => readValue_string text depth rest
  | .array [], depth + 1, _, rest, _, _, _, _ =>
    readValue_array (readItems_of_close (nextItem_close true allBlank_nil rest) _ _)
  | .array (item :: items), depth + 1, place, rest, hfree, hcanonical, hdepth, _ => by
    have hle := Nat.max_le.mp (Nat.le_of_succ_le_succ hdepth)
    have hfuel := length_le_encode_items layout (place + 1) items
    have hitem := readValue_render item depth (place + 1) _ hfree.1 hcanonical.1 hle.1
      (endsNumber_items layout items (place + 1) (hlayout.lineBreak place) rest)
    rw [encode_array]
    refine readValue_array (readItems_step (nextItem_first (hlayout.lineBreak (place + 1))
      (startsValue_render layout item hfree.1 (place + 1) _)) hitem
      (readItems_render items depth _ (place + 1) _ rest hfree.2 hcanonical.2 hle.2 ?_
        (hlayout.lineBreak place)))
    simp only [List.length_append, List.length_cons]
    omega
  | .object [], depth + 1, _, rest, _, _, _, _ =>
    readValue_object (readMembers_of_close (nextMember_close true allBlank_nil rest) _ _ _)
  | .object ((name, value) :: members), depth + 1, place, rest, hfree, hcanonical, hdepth, _ => by
    have hle := Nat.max_le.mp (Nat.le_of_succ_le_succ hdepth)
    have hfuel := length_le_encode_members layout (place + 1) members
    have hvalue := readValue_render value depth (place + 1) _ hfree.1 hcanonical.2.1 hle.1
      (endsNumber_members layout members (place + 1) (hlayout.lineBreak place) rest)
    have hsorted : Entries.insertAll (Entries.insert name value []) members = (name, value) :: members :=
      hcanonical.1.insertAll_nil
    rw [encode_object, ← hsorted]
    refine readValue_object (readMembers_step (nextMember_first (hlayout.lineBreak (place + 1)) _)
      (readString_stringTail name _) (readMember_of_value hlayout [] name hvalue)
      (readMembers_render members depth _ (place + 1) _ rest _ hfree.2 hcanonical.2.2 hle.2 ?_
        (hlayout.lineBreak place)))
    simp only [List.length_append, List.length_cons]
    omega

/-- The items after the first one are read back, up to the closing bracket. -/
theorem readItems_render : (items : List Json) → (depth fuel place : Nat) → (blanks rest : Bytes) →
    FloatFreeItems items → CanonicalItems items → depthItems items ≤ depth → items.length < fuel →
    AllBlank blanks →
    readItems (readValue depth) false fuel
        (encodeChars (renderItems layout place items) ++ (blanks ++ 0x5D :: rest))
      = .ok (items, 0x5D :: rest)
  | [], depth, fuel + 1, place, blanks, rest, _, _, _, _, hblanks =>
    readItems_of_close (nextItem_close false hblanks rest) _ fuel
  | item :: items, depth, fuel + 1, place, blanks, rest, hfree, hcanonical, hdepth, hfuel, hblanks => by
    have hle := Nat.max_le.mp hdepth
    have hitem := readValue_render item depth place _ hfree.1 hcanonical.1 hle.1
      (endsNumber_items layout items place hblanks rest)
    rw [encode_items]
    exact readItems_step (nextItem_comma (hlayout.lineBreak place)
      (startsValue_render layout item hfree.1 place _)) hitem
      (readItems_render items depth fuel place blanks rest hfree.2 hcanonical.2 hle.2
        (Nat.lt_of_succ_lt_succ hfuel) hblanks)

/-- The members after the first one are read back, up to the closing brace. -/
theorem readMembers_render : (members : List (String × Json)) → (depth fuel place : Nat) →
    (blanks rest : Bytes) → (state : List (String × Json)) →
    FloatFreeMembers members → CanonicalMembers members → depthMembers members ≤ depth →
    members.length < fuel → AllBlank blanks →
    readMembers (readMember depth) false state fuel
        (encodeChars (renderMembers layout place members) ++ (blanks ++ 0x7D :: rest))
      = .ok (Entries.insertAll state members, 0x7D :: rest)
  | [], depth, fuel + 1, place, blanks, rest, state, _, _, _, _, hblanks =>
    readMembers_of_close (nextMember_close false hblanks rest) _ state fuel
  | (name, value) :: members, depth, fuel + 1, place, blanks, rest, state, hfree, hcanonical, hdepth,
      hfuel, hblanks => by
    have hle := Nat.max_le.mp hdepth
    have hvalue := readValue_render value depth place _ hfree.1 hcanonical.1 hle.1
      (endsNumber_members layout members place hblanks rest)
    rw [encode_members]
    exact readMembers_step (nextMember_comma (hlayout.lineBreak place) _)
      (readString_stringTail name _) (readMember_of_value hlayout state name hvalue)
      (readMembers_render members depth fuel place blanks rest _ hfree.2 hcanonical.2 hle.2
        (Nat.lt_of_succ_lt_succ hfuel) hblanks)

end

mutual

/-- Reading a value that nests deeper than is allowed stops at the first container that is too deep. -/
theorem tooDeep_render : (value : Json) → (depth place : Nat) → (rest : Bytes) →
    value.FloatFree → value.Canonical → depth < value.depth →
    TooDeep (readValue depth (encodeChars (value.render layout place) ++ rest))
  | .null, _, _, _, _, _, hdeep => absurd hdeep (Nat.not_lt_zero _)
  | .bool _, _, _, _, _, _, hdeep => absurd hdeep (Nat.not_lt_zero _)
  | .number _, _, _, _, _, _, hdeep => absurd hdeep (Nat.not_lt_zero _)
  | .string _, _, _, _, _, _, hdeep => absurd hdeep (Nat.not_lt_zero _)
  | .array [], 0, _, _, _, _, _ => readValue_zero_array _
  | .array [], _ + 1, _, _, _, _, hdeep => absurd (Nat.lt_of_succ_lt_succ hdeep) (Nat.not_lt_zero _)
  | .array (_ :: _), 0, _, _, _, _, _ => encode_array .. ▸ readValue_zero_array _
  | .array (item :: items), depth + 1, place, rest, hfree, hcanonical, hdeep => by
    have hfuel := length_le_encode_items layout (place + 1) items
    have hnext := fun text => nextItem_first (hlayout.lineBreak (place + 1))
      (startsValue_render layout item hfree.1 (place + 1) text)
    rw [encode_array]
    refine TooDeep.array ?_
    rcases Nat.lt_or_ge depth item.depth with hitem | hle
    · exact (tooDeep_render item depth (place + 1) _ hfree.1 hcanonical.1 hitem).item (hnext _) _
    · have hitem := readValue_render hlayout item depth (place + 1) _ hfree.1 hcanonical.1 hle
        (endsNumber_items layout items (place + 1) (hlayout.lineBreak place) rest)
      have hitems := (lt_max_iff.mp (Nat.lt_of_succ_lt_succ hdeep)).resolve_left (Nat.not_lt.mpr hle)
      refine (tooDeepItems_render items depth _ (place + 1) _ rest hfree.2 hcanonical.2 hitems ?_
        (hlayout.lineBreak place)).items (hnext _) hitem
      simp only [List.length_append, List.length_cons]
      omega
  | .object [], 0, _, _, _, _, _ => readValue_zero_object _
  | .object [], _ + 1, _, _, _, _, hdeep => absurd (Nat.lt_of_succ_lt_succ hdeep) (Nat.not_lt_zero _)
  | .object (_ :: _), 0, _, _, _, _, _ => encode_object .. ▸ readValue_zero_object _
  | .object ((name, value) :: members), depth + 1, place, rest, hfree, hcanonical, hdeep => by
    have hfuel := length_le_encode_members layout (place + 1) members
    have hnext := nextMember_first (hlayout.lineBreak (place + 1))
    have hname := readString_stringTail name
    rw [encode_object]
    refine TooDeep.object ?_
    rcases Nat.lt_or_ge depth value.depth with hvalue | hle
    · exact (tooDeep_readMember hlayout [] name (tooDeep_render value depth (place + 1) _ hfree.1
        hcanonical.2.1 hvalue)).member (hnext _) (hname _) _
    · have hvalue := readValue_render hlayout value depth (place + 1) _ hfree.1 hcanonical.2.1 hle
        (endsNumber_members layout members (place + 1) (hlayout.lineBreak place) rest)
      have hmembers := (lt_max_iff.mp (Nat.lt_of_succ_lt_succ hdeep)).resolve_left (Nat.not_lt.mpr hle)
      refine (tooDeepMembers_render members depth _ (place + 1) _ rest _ hfree.2 hcanonical.2.2 hmembers
        ?_ (hlayout.lineBreak place)).members (hnext _) (hname _)
        (readMember_of_value hlayout [] name hvalue)
      simp only [List.length_append, List.length_cons]
      omega

theorem tooDeepItems_render : (items : List Json) → (depth fuel place : Nat) →
    (blanks rest : Bytes) → FloatFreeItems items → CanonicalItems items → depth < depthItems items →
    items.length < fuel → AllBlank blanks →
    TooDeep (readItems (readValue depth) false fuel
      (encodeChars (renderItems layout place items) ++ (blanks ++ 0x5D :: rest)))
  | [], _, _, _, _, _, _, _, hdeep, _, _ => absurd hdeep (Nat.not_lt_zero _)
  | item :: items, depth, fuel + 1, place, blanks, rest, hfree, hcanonical, hdeep, hfuel, hblanks => by
    have hnext := fun text => nextItem_comma (hlayout.lineBreak place)
      (startsValue_render layout item hfree.1 place text)
    rw [encode_items]
    rcases Nat.lt_or_ge depth item.depth with hitem | hle
    · exact (tooDeep_render item depth place _ hfree.1 hcanonical.1 hitem).item (hnext _) _
    · have hitem := readValue_render hlayout item depth place _ hfree.1 hcanonical.1 hle
        (endsNumber_items layout items place hblanks rest)
      have hitems := (lt_max_iff.mp hdeep).resolve_left (Nat.not_lt.mpr hle)
      exact (tooDeepItems_render items depth fuel place blanks rest hfree.2 hcanonical.2 hitems
        (Nat.lt_of_succ_lt_succ hfuel) hblanks).items (hnext _) hitem

theorem tooDeepMembers_render : (members : List (String × Json)) → (depth fuel place : Nat) →
    (blanks rest : Bytes) → (state : List (String × Json)) →
    FloatFreeMembers members → CanonicalMembers members → depth < depthMembers members →
    members.length < fuel → AllBlank blanks →
    TooDeep (readMembers (readMember depth) false state fuel
      (encodeChars (renderMembers layout place members) ++ (blanks ++ 0x7D :: rest)))
  | [], _, _, _, _, _, _, _, _, hdeep, _, _ => absurd hdeep (Nat.not_lt_zero _)
  | (name, value) :: members, depth, fuel + 1, place, blanks, rest, state, hfree, hcanonical, hdeep,
      hfuel, hblanks => by
    have hnext := nextMember_comma (hlayout.lineBreak place)
    have hname := readString_stringTail name
    rw [encode_members]
    rcases Nat.lt_or_ge depth value.depth with hvalue | hle
    · exact (tooDeep_readMember hlayout state name (tooDeep_render value depth place _ hfree.1
        hcanonical.1 hvalue)).member (hnext _) (hname _) _
    · have hvalue := readValue_render hlayout value depth place _ hfree.1 hcanonical.1 hle
        (endsNumber_members layout members place hblanks rest)
      have hmembers := (lt_max_iff.mp hdeep).resolve_left (Nat.not_lt.mpr hle)
      exact (tooDeepMembers_render members depth fuel place blanks rest _ hfree.2 hcanonical.2 hmembers
        (Nat.lt_of_succ_lt_succ hfuel) hblanks).members (hnext _) (hname _)
        (readMember_of_value hlayout state name hvalue)

end

end Sound

end Json

end ConfigKit
