-- SUMMARY: The indented and the compact document differ in blanks only.
import ConfigKit.Document.Basic
import ConfigKit.Proofs.Datum.Forms
import ConfigKit.Proofs.Json.Layouts

/-!
# Indented and compact documents

The two layouts write the same documents: they refuse the same data, and what the indented one writes is
the compact document when its blanks are dropped (`layouts_agree`). A compact document is one line.
-/

namespace ConfigKit

namespace Document

open Utf8 Json

variable {datum : Datum} {layout : Layout} {bytes : Bytes} {value : Json}

/-- The bytes end with a line feed, and not with two. -/
def EndsLine (bytes : Bytes) : Prop :=
  ∃ body, bytes = body ++ [0x0A] ∧ ∀ byte ∈ body.getLast?, byte ≠ 0x0A

/-! ## What is written in a layout -/

theorem writeJson_eq_error_iff (layout : Layout) (datum : Datum) (failure : Failure) :
    writeJson layout datum = .error failure ↔
      ∃ fault, datum.toJson? = .error fault ∧ failure = .json fault := by
  rw [writeJson, jsonChars]
  cases h : datum.toJson? with
  | ok value => simp [Except.map]
  | error fault => simp [Except.map, eq_comm]

theorem writeJson_eq_ok_iff (layout : Layout) (datum : Datum) (bytes : Bytes) :
    writeJson layout datum = .ok bytes ↔
      ∃ value, datum.toJson? = .ok value ∧ bytes = encodeChars (value.render layout 0) ++ [0x0A] := by
  rw [writeJson, jsonChars]
  cases h : datum.toJson? with
  | ok value =>
    simp only [Except.map, encodeChars_append, Except.ok.injEq, exists_eq_left', eq_comm]
    rfl
  | error fault => simp [Except.map]

theorem exists_writeJson_iff (layout : Layout) (datum : Datum) :
    (∃ bytes, writeJson layout datum = .ok bytes) ↔ ∃ value, datum.toJson? = .ok value := by
  constructor
  · rintro ⟨bytes, h⟩
    obtain ⟨value, hvalue, -⟩ := (writeJson_eq_ok_iff layout datum bytes).mp h
    exact ⟨value, hvalue⟩
  · rintro ⟨value, hvalue⟩
    exact ⟨_, (writeJson_eq_ok_iff layout datum _).mpr ⟨value, hvalue, rfl⟩⟩

/-- A datum is refused for a key without a name. -/
theorem exists_writeJson_error_iff (layout : Layout) (datum : Datum) :
    (∃ failure, writeJson layout datum = .error failure) ↔ ∃ key, datum.MeetsKey key ∧ key.Nameless := by
  rw [exists_error_iff, exists_writeJson_iff, Datum.exists_toJson?_iff, Datum.Named]
  simp only [Classical.not_forall, Classical.not_not, exists_prop]

/-- The text of a value is followed by one line feed. -/
theorem endsLine_render (layout : Layout) (value : Json) :
    EndsLine (encodeChars (value.render layout 0) ++ [0x0A]) := by
  refine ⟨_, rfl, ?_⟩
  intro byte hbyte
  cases hlast : (value.render layout 0).getLast? with
  | none =>
    rw [List.getLast?_eq_none_iff.mp hlast] at hbyte
    cases hbyte
  | some c =>
    have hc : c ≠ '\n' := getLast?_render_ne layout value 0 c hlast
    obtain ⟨front, hfront⟩ := List.getLast?_eq_some_iff.mp hlast
    have hmem : byte ∈ encodeChars [c] := by
      rw [hfront, encodeChars_append, List.getLast?_append, Option.mem_def, Option.or_eq_some_iff] at hbyte
      rcases hbyte with hbyte | ⟨hnone, -⟩
      · exact List.mem_of_getLast? hbyte
      · have hlength := length_le_length_encodeChars [c]
        rw [List.getLast?_eq_none_iff.mp hnone] at hlength
        exact absurd hlength (by simp)
    exact byte_ne_of_mem '\n' hmem (by decide) (by simpa using hc)

/-! ## Agreement -/

/-- How the documents of a datum in the two layouts go together. -/
structure LayoutsAgree (datum : Datum) : Prop where
  written_iff : (∃ indented, writeJson .indented datum = .ok indented) ↔
    ∃ compact, writeJson .compact datum = .ok compact
  refused_iff : ∀ failure, writeJson .indented datum = .error failure ↔
    writeJson .compact datum = .error failure
  indented_endsLine : ∀ indented, writeJson .indented datum = .ok indented → EndsLine indented
  compact_endsLine : ∀ compact, writeJson .compact datum = .ok compact → EndsLine compact
  /-- Without its blanks, the indented document is the compact one without its line feed. -/
  same : ∀ indented compact, writeJson .indented datum = .ok indented →
    writeJson .compact datum = .ok compact →
      withoutBlanks .outside indented = compact.dropLast
  /-- The compact document is one line. -/
  oneLine : ∀ compact, writeJson .compact datum = .ok compact → 0x0A ∉ compact.dropLast

theorem withoutBlanks_render (value : Json) :
    withoutBlanks .outside (encodeChars (value.render .indented 0) ++ [0x0A])
      = encodeChars (value.render .compact 0) := by
  have htight := tightens_render Layout.indented_spaced value 0 0
  rw [withoutBlanks_append, htight.withoutBlanks, htight.behind]
  exact List.append_nil _

/-- A datum has one document, in two layouts. -/
theorem layouts_agree (datum : Datum) : LayoutsAgree datum where
  written_iff := by rw [exists_writeJson_iff, exists_writeJson_iff]
  refused_iff failure := by rw [writeJson_eq_error_iff, writeJson_eq_error_iff]
  indented_endsLine indented h := by
    obtain ⟨value, -, rfl⟩ := (writeJson_eq_ok_iff _ _ _).mp h
    exact endsLine_render .indented value
  compact_endsLine compact h := by
    obtain ⟨value, -, rfl⟩ := (writeJson_eq_ok_iff _ _ _).mp h
    exact endsLine_render .compact value
  same indented compact hindented hcompact := by
    obtain ⟨value, hvalue, rfl⟩ := (writeJson_eq_ok_iff _ _ _).mp hindented
    obtain ⟨other, hother, rfl⟩ := (writeJson_eq_ok_iff _ _ _).mp hcompact
    rw [hvalue] at hother
    cases hother
    rw [withoutBlanks_render, List.dropLast_concat]
  oneLine compact h := by
    obtain ⟨value, -, rfl⟩ := (writeJson_eq_ok_iff _ _ _).mp h
    rw [List.dropLast_concat]
    exact (tightens_render Layout.indented_spaced value 0 0).oneLine

/-- Blanks within strings are kept, also behind a quote that is escaped. -/
example : withoutBlanks .outside (Utf8.encode "[\n  \"a \\\" b\", 1\n]") = Utf8.encode "[\"a \\\" b\",1]" := by
  decide +kernel

end Document

end ConfigKit
