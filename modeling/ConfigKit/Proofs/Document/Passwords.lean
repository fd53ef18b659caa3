-- SUMMARY: A text survives in a password file, whatever bytes are around it.
import ConfigKit.Proofs.Condition.ProcessRun
import ConfigKit.Proofs.Document.FileReading
import ConfigKit.Proofs.Text.LossyDecoding

/-!
# Passwords from files

A source of a password names a file or is the password itself. The main result `password_text_is_kept` says
that the content of a file and the value of a variable are read as the same text, that a text among the
bytes survives whatever else is there, and that the file is refused just if reading its bytes is refused.
-/

namespace ConfigKit

namespace ProcessEnvironment

variable {before behind : Bytes} {text name : String}

theorem decodeText_encode (text : String) : decodeText (Utf8.encode text) = text := by
  rw [decodeText, Utf8.encode, Utf8.decodeLossy_encodeChars, String.ofList_toList]

theorem decodeText_around (hne : text ≠ "") (before behind : Bytes) :
    decodeText (before ++ Utf8.encode text ++ behind)
      = decodeText before ++ text ++ decodeText behind := by
  have hchars : text.toList ≠ [] := fun h => hne (String.toList_eq_nil_iff.mp h)
  rw [decodeText, Utf8.encode, Utf8.decodeLossy_around hchars, String.ofList_append,
    String.ofList_append, String.ofList_toList]
  rfl

theorem get?_of_value {process : ProcessEnvironment} {bytes : Bytes} (hname : isUsable name = true)
    (hvalue : FieldMap.get? process name = some bytes) : process.get? name = some (decodeText bytes) := by
  rw [get?_of_isUsable hname, get?_texts, hvalue]
  rfl

end ProcessEnvironment

namespace Document

open ProcessEnvironment

variable {tree : FileTree} {source path : String} {bytes : Bytes} {failure : Failure}

/-! ## Sources -/

theorem passwordFile?_eq_some_iff :
    passwordFile? source = some path ↔ source = fileSourcePrefix ++ path := by
  unfold passwordFile?
  constructor
  · intro h
    split at h
    · rename_i hstart
      obtain ⟨rest, hrest⟩ := List.isPrefixOf_iff_prefix.mp hstart
      cases h
      rw [← String.toList_inj, String.toList_append, String.toList_ofList, ← hrest,
        ← String.length_toList, List.drop_left]
    · cases h
  · rintro rfl
    rw [String.toList_append, if_pos (List.isPrefixOf_iff_prefix.mpr (List.prefix_append _ _)),
      ← String.length_toList, List.drop_left, String.ofList_toList]

theorem readPassword_of_file (tree : FileTree) (path : String) :
    (readPassword tree (fileSourcePrefix ++ path)).result = (readBytes tree path).map decodeText := by
  rw [readPassword, passwordFile?_eq_some_iff.mpr rfl]
  rfl

/-- A source that names no file is the password, whatever the tree. -/
theorem readPassword_of_literal (h : ∀ path, source ≠ fileSourcePrefix ++ path) (tree : FileTree) :
    readPassword tree source = .unchanged tree (.ok source) := by
  cases hfile : passwordFile? source with
  | none => rw [readPassword, hfile]
  | some path => exact absurd (passwordFile?_eq_some_iff.mp hfile) (h path)

/-! ## Passwords -/

/-- Bytes that are read as text lose nothing that is text, and are refused only where they cannot be had. -/
structure KeepsText (tree : FileTree) : Prop where
  /-- The content of a file is read in the same way as the value of a variable. -/
  ofFile : ∀ path bytes, readBytes tree path = .ok bytes →
    (readPassword tree ("file:" ++ path)).result = .ok (decodeText bytes)
  ofVariable : ∀ (process : ProcessEnvironment) name bytes, isUsable name = true →
    FieldMap.get? process name = some bytes → process.get? name = some (decodeText bytes)
  whole : ∀ text, decodeText (Utf8.encode text) = text
  /-- Bytes around a text are read as if they stood alone. -/
  around : ∀ before text behind, text ≠ "" →
    decodeText (before ++ Utf8.encode text ++ behind) = decodeText before ++ text ++ decodeText behind
  refused_iff : ∀ path failure,
    (readPassword tree ("file:" ++ path)).result = .error failure ↔ readBytes tree path = .error failure
  literal : ∀ source, (∀ path, source ≠ "file:" ++ path) →
    readPassword tree source = .unchanged tree (.ok source)

theorem password_text_is_kept (tree : FileTree) : KeepsText tree where
  ofFile path bytes hbytes := by
    refine (readPassword_of_file tree path).trans ?_
    rw [hbytes]
    rfl
  ofVariable process name bytes hname hvalue := get?_of_value hname hvalue
  whole := decodeText_encode
  around before text behind hne := decodeText_around hne before behind
  refused_iff path failure := by
    rw [show "file:" = fileSourcePrefix from rfl, readPassword_of_file]
    cases readBytes tree path with
    | error refusal => simp [Except.map]
    | ok bytes => simp [Except.map]
  literal source h := readPassword_of_literal h tree

end Document

end ConfigKit
