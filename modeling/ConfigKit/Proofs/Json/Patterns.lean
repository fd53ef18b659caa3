-- SUMMARY: Reading patterns and rules, and where a refusal is placed.
import ConfigKit.Proofs.Json.Images
import ConfigKit.Proofs.Json.Lists
import ConfigKit.Proofs.Results

/-!
# Reading patterns and rules

A pattern is read where its text is read, and refused behind that text if the text is no pattern. As a
member of a rule it is read in the same way; a refusal gets its place from the end of the rule.
-/

namespace ConfigKit

namespace Json

open Utf8

variable {α : Type} {layout : Layout} {bytes blanks rest : Bytes} {text name : String} {p : Pattern}
  {fault : Pattern.Fault} {fuel : Nat}

/-! ## Documents -/

theorem readDocument_eq_ok_iff {read : Reader α} {value : α} :
    readDocument read bytes = .ok value ↔
      ∃ rest, read bytes = .ok (value, rest) ∧ skipBlanks rest = [] := by
  cases hread : read bytes with
  | error stop => simp [readDocument, hread]
  | ok result =>
    obtain ⟨other, rest⟩ := result
    cases hrest : skipBlanks rest with
    | nil =>
      constructor
      · intro h
        simp only [readDocument, hread, hrest, Except.ok.injEq] at h
        exact ⟨rest, by rw [h], hrest⟩
      · rintro ⟨_, h, -⟩
        cases h
        simp only [readDocument, hread, hrest]
    | cons byte more =>
      refine iff_of_false ?_ ?_
      · simp [readDocument, hread, hrest]
      · rintro ⟨_, h, hblank⟩
        cases h
        simp [hrest] at hblank

theorem readDocument_of_stop {read : Reader α} {cause : Cause}
    (h : read (bytes ++ rest) = .error (.before cause rest)) :
    readDocument read (bytes ++ rest) = .error ⟨cause, some (.after bytes)⟩ := by
  have hbefore : (bytes ++ rest).take ((bytes ++ rest).length - rest.length) = bytes := by
    rw [List.length_append, Nat.add_sub_cancel, List.take_left]
  simp only [readDocument, h, Stop.before, hbefore, if_true]

/-! ## Patterns -/

theorem readPattern_of_pattern (htext : readText bytes = .ok (text, rest))
    (hcompile : Pattern.compile text = .ok p) : readPattern bytes = .ok (p, rest) := by
  simp only [readPattern, htext, hcompile, bind, Except.bind]

theorem readPattern_of_fault (htext : readText bytes = .ok (text, rest))
    (hcompile : Pattern.compile text = .error fault) :
    readPattern bytes = .error (.unplaced (.refusedPattern fault.message) rest) := by
  simp only [readPattern, htext, hcompile, bind, Except.bind]

theorem readPattern_eq_ok_iff :
    readPattern bytes = .ok (p, rest) ↔ readText bytes = .ok (p.text, rest) := by
  constructor
  · intro h
    rw [readPattern, bind_eq_ok_iff] at h
    obtain ⟨⟨text, more⟩, htext, h⟩ := h
    cases hcompile : Pattern.compile text with
    | error fault => simp [hcompile] at h
    | ok pattern =>
      obtain rfl := Pattern.compile_eq_ok_iff.mp hcompile
      simp only [hcompile, Except.ok.injEq, Prod.mk.injEq] at h
      obtain ⟨rfl, rfl⟩ := h
      exact htext
  · intro htext
    exact readPattern_of_pattern htext (Pattern.compile_eq_ok_iff.mpr rfl)

/-- The documents of a pattern are those of its text. -/
theorem readDocument_pattern_iff :
    readDocument readPattern bytes = .ok p ↔ readDocument readText bytes = .ok p.text := by
  simp only [readDocument_eq_ok_iff, readPattern_eq_ok_iff]

theorem readDocument_of_fault (hcompile : Pattern.compile text = .error fault)
    (h : readDocument readText bytes = .ok text) :
    readDocument readPattern bytes = .error ⟨.refusedPattern fault.message, none⟩ := by
  obtain ⟨rest, htext, -⟩ := readDocument_eq_ok_iff.mp h
  simp only [readDocument, readPattern_of_fault htext hcompile]
  rfl

/-! ## Rules -/

/-- The JSON value of a rule, whose pattern may be any text. -/
def ruleValue (name text : String) : Json :=
  .object [("name", .string name), ("pattern", .string text)]

/-- The fields of a rule while it is read. -/
def ruleFields (depth : Nat) (name? pattern? : Option Datum) : List Field :=
  [⟨"name", readShape .text depth, none, name?⟩, ⟨"pattern", readShape .pattern depth, none, pattern?⟩]

/-- The text of a rule behind its opening brace. -/
def ruleBody (layout : Layout) (place : Nat) (name text : String) (rest : Bytes) : Bytes :=
  encodeChars (layout.lineBreak (place + 1)) ++ 0x22 :: (encodeChars (stringTail "name")
    ++ (encodeChars layout.colon ++ (encodeChars (stringChars name)
    ++ (encodeChars (renderMembers layout (place + 1) [("pattern", .string text)])
    ++ (encodeChars (layout.lineBreak place) ++ 0x7D :: rest)))))

theorem encode_ruleValue (layout : Layout) (place : Nat) (name text : String) (rest : Bytes) :
    encodeChars ((ruleValue name text).render layout place) ++ rest
      = 0x7B :: ruleBody layout place name text rest := by
  rw [ruleValue, encode_object]
  simp only [render]
  rfl

theorem two_le_length_ruleBody (layout : Layout) (place : Nat) (name text : String) (rest : Bytes) :
    2 ≤ (ruleBody layout place name text rest).length := by
  simp only [ruleBody, List.length_append, List.length_cons]
  omega

theorem readShape_rule (depth : Nat) (bytes : Bytes) :
    readShape .rule depth bytes
      = readRecord depth .rule (fun depth => ruleFields depth none none) bytes := rfl

theorem readText_append (hblanks : AllBlank blanks) (bytes : Bytes) :
    readText (blanks ++ bytes) = readText bytes := by
  rw [readText, skipBlanks_append hblanks, ← readText]

theorem readPattern_append (hblanks : AllBlank blanks) (bytes : Bytes) :
    readPattern (blanks ++ bytes) = readPattern bytes := by
  rw [readPattern, readText_append hblanks, ← readPattern]

/-- A member of a record that has no value yet is read as its field says. -/
theorem readFieldMember_colon {fields : List Field} {field : Field} (hlayout : layout.Sound)
    (hfield : fields.find? (·.name = name) = some field) (hunset : field.value? = none)
    (hread : ∀ blanks, AllBlank blanks → field.read (blanks ++ bytes) = field.read bytes) :
    readFieldMember fields name (encodeChars layout.colon ++ bytes) = (do
      let (value, rest) ← field.read bytes
      .ok (Field.set fields name value, rest)) := by
  obtain ⟨blanks, hcolon, hblanks⟩ := hlayout.colon
  rw [readFieldMember, hfield]
  simp only [hunset, hcolon, List.cons_append, readColon_of_colon, ok_bind, hread blanks hblanks]

theorem readRecord_of_members {depth : Nat} {shape : Shape} {fields : Nat → List Field} {body : Bytes}
    {done : List Field} {entries : List (Datum.Key × Datum)}
    (hmembers : readMembers readFieldMember true (fields depth) (body.length + 1) body
      = .ok (done, 0x7D :: rest))
    (hentries : Field.entries (0x7D :: rest) done = .ok entries) :
    readRecord (depth + 1) shape fields (0x7B :: body) = .ok (.dict entries, rest) := by
  rw [readRecord, skipBlanks_cons (by decide)]
  refine bind_eq_ok_iff.mpr ⟨(entries, rest), readObject_of_inside _ ?_, rfl⟩
  simp only [hmembers, ok_bind, hentries]

theorem afterObject_close (hblanks : AllBlank blanks) (rest : Bytes) :
    afterObject (blanks ++ 0x7D :: rest) = rest := by
  rw [afterObject, skipBlanks_append hblanks, skipBlanks_cons (by decide)]
  rfl

/-- Where a member stops without a place, the place is the end of the record. -/
theorem readRecord_of_stop {depth : Nat} {shape : Shape} {fields : Nat → List Field} {body : Bytes}
    {stop : Stop} (hplaced : stop.placed = false)
    (hmembers : readMembers readFieldMember true (fields depth) (body.length + 1) body = .error stop) :
    readRecord (depth + 1) shape fields (0x7B :: body)
      = .error (.before stop.cause (afterObject stop.rest)) := by
  rw [readRecord, skipBlanks_cons (by decide)]
  simp only [readObject, readClosed, hmembers, error_bind, hplaced]
  rfl

section Sound

variable (hlayout : layout.Sound)
include hlayout

theorem readFieldMember_name (depth : Nat) (name : String) (rest : Bytes) :
    readFieldMember (ruleFields depth none none) "name"
        (encodeChars layout.colon ++ (encodeChars (stringChars name) ++ rest))
      = .ok (ruleFields depth (some (.text name)) none, rest) := by
  have hread : readShape .text depth = readImage .text readText := rfl
  rw [readFieldMember_colon hlayout rfl rfl fun blanks hblanks => ?_]
  · simp only [hread, readImage_of_ok Datum.text (readText_stringChars name rest), ok_bind]
    rfl
  · simp only [hread, readImage, readText_append hblanks]

/-- The second member of a rule is read where the first one was, as far as its text is a pattern. -/
theorem readFieldMember_pattern (depth : Nat) (name? : Option Datum) (text : String) (rest : Bytes) :
    readFieldMember (ruleFields depth name? none) "pattern"
        (encodeChars layout.colon ++ (encodeChars (stringChars text) ++ rest)) = (do
      let (pattern, rest) ← readPattern (encodeChars (stringChars text) ++ rest)
      .ok (ruleFields depth name? (some (.text pattern.text)), rest)) := by
  have hread : readShape .pattern depth = readImage (fun p => .text p.text) readPattern := rfl
  rw [readFieldMember_colon hlayout rfl rfl fun blanks hblanks => ?_]
  · simp only [hread, readImage]
    cases readPattern (encodeChars (stringChars text) ++ rest) with
    | error stop => rfl
    | ok result => rfl
  · simp only [hread, readImage, readPattern_append hblanks]

/-- The members of a rule are read up to its text, and behind it if that is a pattern. -/
theorem readMembers_rule (hfuel : 3 ≤ fuel) (depth place : Nat) (name text : String) (rest : Bytes) :
    readMembers readFieldMember true (ruleFields depth none none) fuel
        (ruleBody layout place name text rest) = (do
      let (pattern, _) ← readPattern (encodeChars (stringChars text)
        ++ (encodeChars (layout.lineBreak place) ++ 0x7D :: rest))
      .ok (ruleFields depth (some (.text name)) (some (.text pattern.text)), 0x7D :: rest)) := by
  obtain ⟨fuel, rfl⟩ := Nat.exists_eq_add_of_le' hfuel
  rw [ruleBody, readMembers_of_next (nextMember_first (hlayout.lineBreak (place + 1)) _),
    readString_stringTail, ok_bind]
  simp only [readFieldMember_name hlayout, ok_bind]
  rw [encode_members, readMembers_of_next (nextMember_comma (hlayout.lineBreak (place + 1)) _),
    readString_stringTail, ok_bind]
  simp only [renderMembers, encodeChars_nil, List.nil_append, render]
  rw [readFieldMember_pattern hlayout]
  cases hpattern : readPattern (encodeChars (stringChars text)
      ++ (encodeChars (layout.lineBreak place) ++ 0x7D :: rest)) with
  | error stop => rfl
  | ok result =>
    obtain ⟨pattern, more⟩ := result
    have htext := readPattern_eq_ok_iff.mp hpattern
    rw [readText_stringChars] at htext
    cases htext
    exact readMembers_of_close (nextMember_close false (hlayout.lineBreak place) rest) _ _ fuel

/-- A rule is read back if its text is a pattern. -/
theorem readShape_rule_of_pattern (depth place : Nat) (name : String) (p : Pattern) (rest : Bytes) :
    readShape .rule (depth + 1) (encodeChars ((ruleValue name p.text).render layout place) ++ rest)
      = .ok (.dict [(.text "name", .text name), (.text "pattern", .text p.text)], rest) := by
  have hlength := two_le_length_ruleBody layout place name p.text rest
  have hmembers := readMembers_rule hlayout (Nat.succ_le_succ hlength) depth place name p.text rest
  rw [readPattern_of_pattern (readText_stringChars p.text _) (Pattern.compile_eq_ok_iff.mpr rfl),
    ok_bind] at hmembers
  rw [encode_ruleValue, readShape_rule]
  exact readRecord_of_members hmembers rfl

/-- A rule whose text is no pattern is refused at its end. -/
theorem readShape_rule_of_fault (hcompile : Pattern.compile text = .error fault) (depth place : Nat)
    (name : String) (rest : Bytes) :
    readShape .rule (depth + 1) (encodeChars ((ruleValue name text).render layout place) ++ rest)
      = .error (.before (.refusedPattern fault.message) rest) := by
  have hlength := two_le_length_ruleBody layout place name text rest
  have hmembers := readMembers_rule hlayout (Nat.succ_le_succ hlength) depth place name text rest
  rw [readPattern_of_fault (readText_stringChars text _) hcompile, error_bind] at hmembers
  have hafter := afterObject_close (hlayout.lineBreak place) rest
  rw [encode_ruleValue, readShape_rule, readRecord_of_stop rfl hmembers]
  simp only [Stop.unplaced, hafter]

end Sound

end Json

end ConfigKit
