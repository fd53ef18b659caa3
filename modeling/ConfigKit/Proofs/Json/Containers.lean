-- SUMMARY: Reading arrays and objects by the bytes that come next.
import ConfigKit.Proofs.Json.Scalars

/-!
# Reading containers step by step

What the readers of arrays and objects do next, by the bytes that come next: blanks are passed over, an
item or a member is read after the comma before it, and the closing bracket ends the container. Where a
container opens one level too deep, reading stops with a place, and every reader around it stops there too
(`TooDeep`).
-/

namespace ConfigKit

namespace Json

variable {α β σ : Type} {blanks body bytes more rest text : Bytes} {depth fuel : Nat} {first : Bool}
  {byte : UInt8}

/-! ## Items -/

/-- The bytes of a value: no blank comes first, and no closing bracket. -/
def StartsValue (text : Bytes) : Prop :=
  ∃ byte rest, text = byte :: rest ∧ isBlankByte byte = false ∧ byte ≠ 0x5D

theorem startsValue_digit (h : isDigitByte byte = true) (rest : Bytes) : StartsValue (byte :: rest) :=
  ⟨byte, rest, rfl, isBlankByte_of_digit h, ne_of_digit h 0x5D rfl⟩

theorem nextItem_close (first : Bool) (hblanks : AllBlank blanks) (rest : Bytes) :
    nextItem first (blanks ++ 0x5D :: rest) = .ok (false, 0x5D :: rest) := by
  rw [nextItem, skipBlanks_append hblanks, skipBlanks_cons (by decide)]
  rfl

theorem nextItem_first (hblanks : AllBlank blanks) (htext : StartsValue text) :
    nextItem true (blanks ++ text) = .ok (true, text) := by
  obtain ⟨byte, rest, rfl, hblank, hclosing⟩ := htext
  simp [nextItem, skipBlanks_append hblanks, skipBlanks_cons hblank]

theorem nextItem_comma (hblanks : AllBlank blanks) (htext : StartsValue text) :
    nextItem false (0x2C :: (blanks ++ text)) = .ok (true, text) := by
  obtain ⟨byte, rest, rfl, hblank, hclosing⟩ := htext
  have hcomma : isBlankByte 0x2C = false := rfl
  simp [nextItem, skipBlanks_cons hcomma, skipBlanks_append hblanks, skipBlanks_cons hblank, hclosing]

theorem readItems_of_close (h : nextItem first bytes = .ok (false, rest)) (item : Reader α) (fuel : Nat) :
    readItems item first (fuel + 1) bytes = .ok ([], rest) := by
  rw [readItems, h]
  rfl

theorem readItems_of_next (h : nextItem first bytes = .ok (true, text)) (item : Reader α) (fuel : Nat) :
    readItems item first (fuel + 1) bytes = (do
      let (value, rest) ← item text
      let (values, rest) ← readItems item false fuel rest
      .ok (value :: values, rest)) := by
  rw [readItems, h]
  rfl

theorem readItems_step {item : Reader α} {value : α} {values : List α}
    (hnext : nextItem first bytes = .ok (true, text)) (hitem : item text = .ok (value, more))
    (hitems : readItems item false fuel more = .ok (values, rest)) :
    readItems item first (fuel + 1) bytes = .ok (value :: values, rest) := by
  simp only [readItems_of_next hnext, hitem, hitems, bind, Except.bind]

/-! ## Members -/

theorem nextMember_close (first : Bool) (hblanks : AllBlank blanks) (rest : Bytes) :
    nextMember first (blanks ++ 0x7D :: rest) = .ok (false, 0x7D :: rest) := by
  rw [nextMember, skipBlanks_append hblanks, skipBlanks_cons (by decide)]
  rfl

theorem nextMember_first (hblanks : AllBlank blanks) (text : Bytes) :
    nextMember true (blanks ++ 0x22 :: text) = .ok (true, 0x22 :: text) := by
  rw [nextMember, skipBlanks_append hblanks, skipBlanks_cons (by decide)]
  rfl

theorem nextMember_comma (hblanks : AllBlank blanks) (text : Bytes) :
    nextMember false (0x2C :: (blanks ++ 0x22 :: text)) = .ok (true, 0x22 :: text) := by
  have hcomma : isBlankByte 0x2C = false := rfl
  have hquote : isBlankByte 0x22 = false := rfl
  simp [nextMember, skipBlanks_cons hcomma, skipBlanks_append hblanks, skipBlanks_cons hquote]

theorem readMembers_of_close (h : nextMember first bytes = .ok (false, rest))
    (member : σ → String → Reader σ) (state : σ) (fuel : Nat) :
    readMembers member first state (fuel + 1) bytes = .ok (state, rest) := by
  rw [readMembers, h]
  rfl

theorem readMembers_of_next (h : nextMember first bytes = .ok (true, 0x22 :: text))
    (member : σ → String → Reader σ) (state : σ) (fuel : Nat) :
    readMembers member first state (fuel + 1) bytes = (do
      let (name, rest) ← readString text
      let (state, rest) ← member state name rest
      readMembers member false state fuel rest) := by
  rw [readMembers, h]
  rfl

theorem readMembers_step {member : σ → String → Reader σ} {state between final : σ} {name : String}
    {value : Bytes} (hnext : nextMember first bytes = .ok (true, 0x22 :: text))
    (hname : readString text = .ok (name, value))
    (hmember : member state name value = .ok (between, more))
    (hmembers : readMembers member false between fuel more = .ok (final, rest)) :
    readMembers member first state (fuel + 1) bytes = .ok (final, rest) := by
  simp only [readMembers_of_next hnext, hname, hmember, hmembers, bind, Except.bind]

theorem readColon_of_colon (rest : Bytes) : readColon (0x3A :: rest) = .ok rest := by
  rw [readColon, skipBlanks_cons (by decide)]
  rfl

/-! ## Values -/

theorem readValue_append (hblanks : AllBlank blanks) (depth : Nat) (bytes : Bytes) :
    readValue depth (blanks ++ bytes) = readValue depth bytes := by
  rw [readValue, skipBlanks_append hblanks, ← readValue]

theorem readValue_digit (h : isDigitByte byte = true) (depth : Nat) (rest : Bytes) :
    readValue depth (byte :: rest) = (do
      let (n, rest) ← readNumber false (byte :: rest)
      .ok (.number n, rest)) := by
  rw [readValue, skipBlanks_cons (isBlankByte_of_digit h)]
  simp [h, ne_of_digit h 0x6E rfl, ne_of_digit h 0x74 rfl, ne_of_digit h 0x66 rfl,
    ne_of_digit h 0x2D rfl, ne_of_digit h 0x22 rfl, ne_of_digit h 0x5B rfl, ne_of_digit h 0x7B rfl]

theorem readValue_minus (depth : Nat) (rest : Bytes) :
    readValue depth (0x2D :: rest) = (do
      let (n, rest) ← readNumber true rest
      .ok (.number n, rest)) := by
  rw [readValue, skipBlanks_cons (by decide)]
  rfl

theorem readValue_quote (depth : Nat) (rest : Bytes) :
    readValue depth (0x22 :: rest) = (do
      let (text, rest) ← readString rest
      .ok (.string text, rest)) := by
  rw [readValue, skipBlanks_cons (by decide)]
  rfl

theorem readValue_bracket (depth : Nat) (body : Bytes) :
    readValue (depth + 1) (0x5B :: body) = (do
      let (items, rest) ← readArray (fun bytes =>
        readItems (readValue depth) true (bytes.length + 1) bytes) body
      .ok (.array items, rest)) := by
  rw [readValue, skipBlanks_cons (by decide)]
  rfl

theorem readValue_brace (depth : Nat) (body : Bytes) :
    readValue (depth + 1) (0x7B :: body) = (do
      let (members, rest) ← readObject (fun bytes =>
        readMembers (readMember depth) true [] (bytes.length + 1) bytes) body
      .ok (.object members, rest)) := by
  rw [readValue, skipBlanks_cons (by decide)]
  rfl

theorem readArray_of_inside (inside : Reader α) {value : α}
    (h : inside body = .ok (value, 0x5D :: rest)) : readArray inside body = .ok (value, rest) := by
  have hclose : closeArray (0x5D :: rest) = .ok rest := by
    rw [closeArray, skipBlanks_cons (by decide)]
    rfl
  simp only [readArray, readClosed, h, hclose]
  rfl

theorem readObject_of_inside (inside : Reader α) {value : α}
    (h : inside body = .ok (value, 0x7D :: rest)) : readObject inside body = .ok (value, rest) := by
  have hclose : closeObject (0x7D :: rest) = .ok rest := by
    rw [closeObject, skipBlanks_cons (by decide)]
    rfl
  simp only [readObject, readClosed, h, hclose]
  rfl

theorem readValue_array {items : List Json}
    (h : readItems (readValue depth) true (body.length + 1) body = .ok (items, 0x5D :: rest)) :
    readValue (depth + 1) (0x5B :: body) = .ok (.array items, rest) := by
  rw [readValue_bracket, readArray_of_inside (fun bytes => readItems _ true (bytes.length + 1) bytes) h]
  rfl

theorem readValue_object {members : List (String × Json)}
    (h : readMembers (readMember depth) true [] (body.length + 1) body = .ok (members, 0x7D :: rest)) :
    readValue (depth + 1) (0x7B :: body) = .ok (.object members, rest) := by
  rw [readValue_brace,
    readObject_of_inside (fun bytes => readMembers _ true [] (bytes.length + 1) bytes) h]
  rfl

/-! ## Nesting too deep -/

/-- Reading stopped at a container that opens too deep. -/
def TooDeep (result : Except Stop α) : Prop :=
  ∃ stop, result = .error stop ∧ stop.cause = .nestedTooDeep ∧ stop.placed = true

theorem TooDeep.bind {result : Except Stop α} (h : TooDeep result) (next : α → Except Stop β) :
    TooDeep (result >>= next) := by
  obtain ⟨stop, rfl, hcause, hplaced⟩ := h
  exact ⟨stop, rfl, hcause, hplaced⟩

theorem TooDeep.readClosed {inside : Reader α} {close : Bytes → Except Stop Bytes}
    {after : Bytes → Bytes} (h : TooDeep (inside bytes)) :
    TooDeep (readClosed inside close after bytes) := by
  obtain ⟨stop, hstop, hcause, hplaced⟩ := h
  refine ⟨stop, ?_, hcause, hplaced⟩
  rw [Json.readClosed, hstop]
  simp [hplaced]

theorem readValue_zero_array (body : Bytes) : TooDeep (readValue 0 (0x5B :: body)) := by
  rw [readValue, skipBlanks_cons (by decide)]
  exact ⟨_, rfl, rfl, rfl⟩

theorem readValue_zero_object (body : Bytes) : TooDeep (readValue 0 (0x7B :: body)) := by
  rw [readValue, skipBlanks_cons (by decide)]
  exact ⟨_, rfl, rfl, rfl⟩

theorem TooDeep.item {item : Reader α} (h : TooDeep (item text))
    (hnext : nextItem first bytes = .ok (true, text)) (fuel : Nat) :
    TooDeep (readItems item first (fuel + 1) bytes) := by
  rw [readItems_of_next hnext]
  exact h.bind _

theorem TooDeep.items {item : Reader α} {value : α} (h : TooDeep (readItems item false fuel more))
    (hnext : nextItem first bytes = .ok (true, text)) (hitem : item text = .ok (value, more)) :
    TooDeep (readItems item first (fuel + 1) bytes) := by
  rw [readItems_of_next hnext, hitem]
  exact h.bind _

theorem TooDeep.member {member : σ → String → Reader σ} {state : σ} {name : String} {value : Bytes}
    (h : TooDeep (member state name value)) (hnext : nextMember first bytes = .ok (true, 0x22 :: text))
    (hname : readString text = .ok (name, value)) (fuel : Nat) :
    TooDeep (readMembers member first state (fuel + 1) bytes) := by
  rw [readMembers_of_next hnext, hname]
  exact h.bind _

theorem TooDeep.members {member : σ → String → Reader σ} {state between : σ} {name : String}
    {value : Bytes} (h : TooDeep (readMembers member false between fuel more))
    (hnext : nextMember first bytes = .ok (true, 0x22 :: text))
    (hname : readString text = .ok (name, value))
    (hmember : member state name value = .ok (between, more)) :
    TooDeep (readMembers member first state (fuel + 1) bytes) := by
  obtain ⟨stop, hstop, hcause⟩ := h
  refine ⟨stop, ?_, hcause⟩
  simp only [readMembers_of_next hnext, hname, hmember, hstop, Bind.bind, Except.bind]

theorem TooDeep.array (h : TooDeep (readItems (readValue depth) true (body.length + 1) body)) :
    TooDeep (readValue (depth + 1) (0x5B :: body)) := by
  rw [readValue_bracket]
  exact TooDeep.bind (TooDeep.readClosed h) _

theorem TooDeep.object (h : TooDeep (readMembers (readMember depth) true [] (body.length + 1) body)) :
    TooDeep (readValue (depth + 1) (0x7B :: body)) := by
  rw [readValue_brace]
  exact TooDeep.bind (TooDeep.readClosed h) _

end Json

end ConfigKit
