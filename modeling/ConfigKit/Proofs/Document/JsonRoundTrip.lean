-- SUMMARY: JSON values are read back from the documents that are written for them.
import ConfigKit.Document.Basic
import ConfigKit.Proofs.Json.RoundTrip

/-!
# Writing JSON documents and reading them

A JSON value without floating-point numbers is written in either layout, and what is written is read as
that value unless it nests too deep (`readJson_writeJson`).
-/

namespace ConfigKit

namespace Datum

mutual

/-- The datum of a JSON value has that value again. -/
theorem toJson?_ofJson : (value : Json) → value.FloatFree → (ofJson value).toJson? = .ok value
  | .null, _ => rfl
  | .bool _, _ => rfl
  | .number (.int _), _ => rfl
  | .string _, _ => rfl
  | .array items, hfree => by
    rw [ofJson, toJson?, toItems?_ofItems items hfree]
    rfl
  | .object members, hfree => by
    rw [ofJson, toJson?, toMembers?_ofMembers members hfree]
    rfl

theorem toItems?_ofItems : (items : List Json) → Json.FloatFreeItems items →
    toItems? (ofItems items) = .ok items
  | [], _ => rfl
  | item :: items, hfree => by
    rw [ofItems, toItems?, toJson?_ofJson item hfree.1, toItems?_ofItems items hfree.2]
    rfl

theorem toMembers?_ofMembers : (members : List (String × Json)) → Json.FloatFreeMembers members →
    toMembers? (ofMembers members) = .ok members
  | [], _ => rfl
  | (name, value) :: members, hfree => by
    rw [ofMembers, toMembers?]
    simp only [Key.name?]
    rw [toJson?_ofJson value hfree.1, toMembers?_ofMembers members hfree.2]
    rfl

end

end Datum

namespace Document

open Utf8 Json

variable {value : Json} {layout : Layout}

theorem writeJson_ofJson (layout : Layout) (hfree : value.FloatFree) :
    writeJson layout (.ofJson value) = .ok (encodeChars (value.render layout 0) ++ [0x0A]) := by
  rw [writeJson, jsonChars, Datum.toJson?_ofJson value hfree]
  simp only [Except.map, encodeChars_append]
  rfl

theorem endsNumber_lineFeed : EndsNumber [0x0A] := endsNumber_cons (by decide) []

theorem readJson_of_readValue {bytes : Bytes} (h : readValue maxDepth bytes = .ok (value, [0x0A])) :
    readJson .value bytes = .ok (.ofJson value) := by
  have hblank : skipBlanks [0x0A] = [] := rfl
  simp [readJson, decode, readDocument, readShape, h, hblank, bind, Except.bind, Except.mapError]

theorem readJson_of_tooDeep {bytes : Bytes} (h : TooDeep (readValue maxDepth bytes)) :
    ∃ fault, readJson .value bytes = .error (.json fault) ∧ fault.cause = .nestedTooDeep := by
  obtain ⟨stop, hstop, hcause, -⟩ := h
  have hshape : readShape .value maxDepth bytes = .error stop := by
    simp only [readShape, hstop, bind, Except.bind]
  simp only [readJson, decode, readDocument, hshape, Except.mapError]
  exact ⟨_, rfl, hcause⟩

/-- The text of a value is read as that value, up to 127 levels of containers. -/
theorem readJson_render (hlayout : layout.Sound) (hfree : value.FloatFree) (hcanonical : value.Canonical)
    (hdepth : value.depth ≤ 127) :
    readJson .value (encodeChars (value.render layout 0) ++ [0x0A]) = .ok (.ofJson value) :=
  readJson_of_readValue
    (readValue_render hlayout value maxDepth 0 _ hfree hcanonical hdepth endsNumber_lineFeed)

/-- JSON documents are read as they were written, in either layout, up to 127 levels of containers. A
value that nests deeper is written as well, but what is written is refused. -/
theorem readJson_writeJson (value : Json) (hfree : value.FloatFree) (hcanonical : value.Canonical)
    (pretty : Bool) :
    ∃ bytes, writeJson (if pretty then .indented else .compact) (.ofJson value) = .ok bytes ∧
      (value.depth ≤ 127 → readJson .value bytes = .ok (.ofJson value)) ∧
      (128 ≤ value.depth →
        ∃ fault, readJson .value bytes = .error (.json fault) ∧ fault.cause = .nestedTooDeep) := by
  have hlayout := Layout.sound_of_pretty pretty
  refine ⟨_, writeJson_ofJson _ hfree, fun hdepth => ?_, fun hdepth => ?_⟩
  · exact readJson_render hlayout hfree hcanonical hdepth
  · exact readJson_of_tooDeep (tooDeep_render hlayout value maxDepth 0 _ hfree hcanonical hdepth)

theorem readJson_writeJson_object :
    let value : Json := .object [("a", .array [.number (.int (-1)), .null]), ("b", .string "\n")]
    ∃ bytes, writeJson .indented (.ofJson value) = .ok bytes ∧
      readJson .value bytes = .ok (.ofJson value) := by
  intro value
  have hfree : value.FloatFree := by
    simp [value, FloatFree, FloatFreeMembers, FloatFreeItems, Number.minInt, Number.maxInt]
  have hcanonical : value.Canonical := by
    simp [value, Canonical, CanonicalMembers, CanonicalItems, Entries.Sorted]
    decide
  obtain ⟨bytes, hwrite, hread, -⟩ := readJson_writeJson value hfree hcanonical true
  exact ⟨bytes, hwrite, hread (by decide)⟩

end Document

end ConfigKit
