-- SUMMARY: A pattern is its text, whatever way the text comes in.
import ConfigKit.Document.Pattern
import ConfigKit.Proofs.Document.JsonRoundTrip
import ConfigKit.Proofs.Json.Patterns
import ConfigKit.Proofs.KeyedSet.Construction

/-!
# Patterns and their texts

A pattern is its text: whatever way a text comes in, it gives one and the same pattern or the same refusal,
and a pattern gives back the text it came from. The main result `pattern_is_its_text` collects the ways in,
the ways out and the documents of patterns and of rules. Patterns are equal when their texts are, and equal
patterns find the same.
-/

namespace ConfigKit

namespace Pattern

variable {text : String} {p q : Pattern} {fault : Fault}

theorem ofText_eq_ok_iff : ofText text = .ok p ↔ p.text = text := by
  rw [ofText, mapError_eq_ok_iff, compile_eq_ok_iff]

theorem ofText_of_fault (h : compile text = .error fault) : ofText text = .error (.pattern fault) := by
  rw [ofText, h]
  rfl

/-- Two patterns find the same in every text: the groups of the first match, whether there is one, and
how many there are. -/
def SearchesAlike (p q : Pattern) : Prop :=
  ∀ haystack, p.captures? haystack = q.captures? haystack ∧ p.isMatch haystack = q.isMatch haystack ∧
    p.count haystack = q.count haystack

/-- What a pattern matches is determined by its text. -/
theorem searchesAlike_of_text (h : p.text = q.text) : SearchesAlike p q := by
  obtain rfl := ext h
  exact fun _ => ⟨rfl, rfl, rfl⟩

/-- Equality of two patterns, decided by their texts, is one that searching respects. -/
structure EqualByText (p q : Pattern) : Prop where
  eq_iff : p = q ↔ p.text = q.text
  beq_iff : (p == q) = true ↔ p.text = q.text
  searchesAlike : p.text = q.text → SearchesAlike p q

theorem equalByText (p q : Pattern) : EqualByText p q where
  eq_iff := ext_iff
  beq_iff := by rw [beq_iff_eq, ext_iff]
  searchesAlike := searchesAlike_of_text

end Pattern

namespace Datum

/-- A rule can be told from what is written of it. -/
theorem ofRule_inj {a b : Rule} (h : ofRule a = ofRule b) : a = b := by
  obtain ⟨name, p⟩ := a
  obtain ⟨name', q⟩ := b
  simp only [ofRule, ofPattern, dict.injEq, List.cons.injEq, Prod.mk.injEq, text.injEq] at h
  obtain ⟨⟨-, rfl⟩, ⟨-, htext⟩, -⟩ := h
  rw [Pattern.ext htext]

end Datum

namespace Document

open Utf8 Json Pattern

variable {text name : String} {p : Pattern} {fault : Pattern.Fault} {bytes : Bytes} {layout : Layout}

/-! ## Documents of texts -/

theorem readJson_text_iff :
    readJson .text bytes = .ok (.text text) ↔ readDocument readText bytes = .ok text := by
  have hshape : readShape .text maxDepth = readImage .text readText := rfl
  rw [readJson_of_readImage hshape]
  cases readDocument readText bytes with
  | error fault => exact iff_of_false nofun nofun
  | ok other => simp [Except.mapError, Except.map]

/-- A text is written as a document that is read as this text. -/
theorem readJson_writeJson_text (layout : Layout) (text : String) :
    ∃ bytes, writeJson layout (.text text) = .ok bytes ∧ readJson .text bytes = .ok (.text text) := by
  have hfree : (Json.string text).FloatFree := trivial
  refine ⟨_, writeJson_ofJson layout hfree, ?_⟩
  rw [readJson_text_iff, readDocument_eq_ok_iff, render]
  exact ⟨[0x0A], readText_stringChars text [0x0A], rfl⟩

/-! ## Documents of patterns -/

/-- The documents of a pattern are those of its text. -/
theorem readJsonPattern_eq_ok_iff :
    readJsonPattern bytes = .ok p ↔ readJson .text bytes = .ok (.text p.text) := by
  rw [readJsonPattern, mapError_eq_ok_iff, readDocument_pattern_iff, readJson_text_iff]

/-- The failure of reading a document whose text is no pattern. What is said of the text itself is in it. -/
def TellsFault (failure : Failure) (fault : Pattern.Fault) : Prop :=
  (∃ place?, failure = .json ⟨.refusedPattern (Failure.pattern fault).message, place?⟩) ∧
    ∃ behind, failure.message = "JSON error: " ++ (Failure.pattern fault).message ++ behind

theorem tellsFault (fault : Pattern.Fault) (place? : Option Place) :
    TellsFault (.json ⟨.refusedPattern fault.message, place?⟩) fault := by
  refine ⟨⟨place?, rfl⟩, ?_⟩
  cases place? with
  | none => exact ⟨"", (String.append_empty).symm⟩
  | some place =>
    refine ⟨s!" at line {place.line} column {place.column}", ?_⟩
    rw [String.append_assoc]
    rfl

theorem readJsonPattern_of_fault (hcompile : compile text = .error fault)
    (htext : readJson .text bytes = .ok (.text text)) :
    ∃ failure, readJsonPattern bytes = .error failure ∧ TellsFault failure fault := by
  refine ⟨_, ?_, tellsFault fault none⟩
  rw [readJsonPattern, readDocument_of_fault hcompile (readJson_text_iff.mp htext)]
  rfl

/-! ## Documents of rules -/

theorem writeJson_ruleValue (layout : Layout) (name text : String) :
    writeJson layout (.ofJson (ruleValue name text))
      = .ok (encodeChars ((ruleValue name text).render layout 0) ++ [0x0A]) := by
  have hfree : (ruleValue name text).FloatFree := ⟨trivial, trivial, trivial⟩
  exact writeJson_ofJson layout hfree

theorem readJson_rule_of_pattern (hlayout : layout.Sound) (name : String) (p : Pattern) :
    readJson .rule (encodeChars ((ruleValue name p.text).render layout 0) ++ [0x0A])
      = .ok (.ofRule ⟨name, p⟩) := by
  have hread := readShape_rule_of_pattern hlayout 126 0 name p [0x0A]
  rw [readJson, mapError_eq_ok_iff, decode, readDocument_eq_ok_iff]
  exact ⟨[0x0A], hread, rfl⟩

theorem readJson_rule_of_fault (hlayout : layout.Sound) (hcompile : compile text = .error fault)
    (name : String) :
    ∃ failure, readJson .rule (encodeChars ((ruleValue name text).render layout 0) ++ [0x0A])
        = .error failure ∧ TellsFault failure fault := by
  have hread := readShape_rule_of_fault hlayout hcompile 126 0 name [0x0A]
  refine ⟨_, ?_, tellsFault fault (some (.after (encodeChars ((ruleValue name text).render layout 0))))⟩
  have hdepth : maxDepth = 126 + 1 := rfl
  rw [readJson, decode, hdepth, readDocument_of_stop hread]
  rfl

/-! ## Patterns and texts -/

/-- A text that is a pattern is this pattern in whatever way it comes in, and comes out unchanged. -/
structure IsPattern (text : String) (p : Pattern) : Prop where
  compiled : Pattern.ofText text = .ok p
  parsed : Pattern.parse text = .ok p
  read_iff : ∀ bytes, readJsonPattern bytes = .ok p ↔ readJson .text bytes = .ok (.text text)
  text_eq : p.text = text
  shown : toString p = text
  /-- The pattern is written, and read as a pattern that is equal and finds the same. -/
  restored : ∀ pretty : Bool, ∃ bytes restored,
    writeJson (if pretty then .indented else .compact) (.ofPattern p) = .ok bytes ∧
      readJsonPattern bytes = .ok restored ∧ (restored == p) = true ∧ SearchesAlike restored p
  rule : ∀ name (pretty : Bool), ∃ bytes,
    writeJson (if pretty then .indented else .compact) (.ofRule ⟨name, p⟩) = .ok bytes ∧
      readJson .rule bytes = .ok (.ofRule ⟨name, p⟩)

/-- A text that is no pattern is refused in whatever way it comes in, for the same fault. -/
structure IsNoPattern (text : String) (fault : Pattern.Fault) : Prop where
  compiled : Pattern.ofText text = .error (.pattern fault)
  parsed : Pattern.parse text = .error (.pattern fault)
  read : ∀ bytes, readJson .text bytes = .ok (.text text) →
    ∃ failure, readJsonPattern bytes = .error failure ∧ TellsFault failure fault
  rule : ∀ name (pretty : Bool), ∃ bytes failure,
    writeJson (if pretty then .indented else .compact)
        (.dict [(.text "name", .text name), (.text "pattern", .text text)]) = .ok bytes ∧
      readJson .rule bytes = .error failure ∧ TellsFault failure fault

theorem isPattern (p : Pattern) : IsPattern p.text p where
  compiled := ofText_eq_ok_iff.mpr rfl
  parsed := ofText_eq_ok_iff.mpr rfl
  read_iff _ := readJsonPattern_eq_ok_iff
  text_eq := rfl
  shown := rfl
  restored pretty := by
    obtain ⟨bytes, hwrite, hread⟩ :=
      readJson_writeJson_text (if pretty then .indented else .compact) p.text
    exact ⟨bytes, p, hwrite, readJsonPattern_eq_ok_iff.mpr hread, beq_self_eq_true p,
      searchesAlike_of_text rfl⟩
  rule name pretty :=
    ⟨_, writeJson_ruleValue _ name p.text,
      readJson_rule_of_pattern (Layout.sound_of_pretty pretty) name p⟩

theorem isNoPattern (hcompile : compile text = .error fault) : IsNoPattern text fault where
  compiled := ofText_of_fault hcompile
  parsed := ofText_of_fault hcompile
  read _ := readJsonPattern_of_fault hcompile
  rule name pretty := by
    obtain ⟨failure, hread, htells⟩ :=
      readJson_rule_of_fault (Layout.sound_of_pretty pretty) hcompile name
    exact ⟨_, failure, writeJson_ruleValue _ name text, hread, htells⟩

/-- Every text is a pattern or is none, in all its forms at once. Patterns are equal when their texts are,
and what is written of a rule is that rule alone. -/
theorem pattern_is_its_text (text : String) :
    (∀ pretty : Bool, ∃ bytes, writeJson (if pretty then .indented else .compact) (.text text) = .ok bytes ∧
      readJson .text bytes = .ok (.text text)) ∧
    ((∃ p, IsPattern text p) ∨ ∃ fault, IsNoPattern text fault) ∧
    (∀ p q : Pattern, EqualByText p q) ∧
    ∀ a b : Rule, Datum.ofRule a = Datum.ofRule b → a = b := by
  refine ⟨fun pretty => readJson_writeJson_text _ text, ?_, equalByText, fun a b => Datum.ofRule_inj⟩
  cases hcompile : compile text with
  | ok p =>
    obtain rfl := compile_eq_ok_iff.mp hcompile
    exact .inl ⟨p, isPattern p⟩
  | error fault => exact .inr ⟨fault, isNoPattern hcompile⟩

/-- There are texts of both kinds. -/
example : (ofText "ab|\\\"").toOption.isSome = true ∧ (ofText "(").toOption.isSome = false := by
  decide +kernel

end Document

end ConfigKit
