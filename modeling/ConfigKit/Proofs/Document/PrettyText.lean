-- SUMMARY: Indented text is empty just where a datum cannot be written.
import ConfigKit.Document.Pattern
import ConfigKit.Proofs.Document.JsonLayouts

/-!
# Indented text without ambiguity

The indented text of a datum is empty just where the datum cannot be written, and this is so just where
some key in it has no name in JSON. Otherwise the text is the one that is written: what is written is
always text, and never empty. The main result `prettyText_is_unambiguous` says which of the two cases comes
with an event.
-/

namespace ConfigKit

namespace Datum

/-! ## The usual values -/

/-- The data of the usual values: any JSON value, records, sets of texts, lists of floating-point numbers,
nothing, and maps to texts with keys of one kind. -/
inductive Usual : Datum → Prop where
  | json (value : Json) : Usual (.ofJson value)
  | service (name : String) (port : Nat) (tags : List String) :
      Usual (.dict [(.text "name", .text name), (.text "port", .number (.int port)),
        (.text "tags", .texts tags)])
  | rule (r : Rule) : Usual (.ofRule r)
  | set (s : KeyedSet String String) : Usual (.ofSet .text s)
  | floats (xs : List Binary64) : Usual (.list (xs.map fun x => .number (.float x)))
  | unit : Usual .null
  | map {κ : Type} [Ord κ] (key : κ → Key) (m : FieldMap κ String) : Usual (.ofMap key .text m)

mutual

/-- In a JSON value all keys are names. -/
theorem named_ofJson : (value : Json) → (ofJson value).Named
  | .null => nofun
  | .bool _ => nofun
  | .number _ => nofun
  | .string _ => nofun
  | .array items => named_list_iff.mpr (named_ofItems items)
  | .object members => named_dict_iff.mpr (named_ofMembers members)

theorem named_ofItems : (items : List Json) → ∀ item ∈ ofItems items, item.Named
  | [] => nofun
  | item :: items => List.forall_mem_cons.mpr ⟨named_ofJson item, named_ofItems items⟩

theorem named_ofMembers : (members : List (String × Json)) →
    ∀ entry ∈ ofMembers members, ¬ entry.1.Nameless ∧ entry.2.Named
  | [] => nofun
  | (_, value) :: members =>
    List.forall_mem_cons.mpr ⟨⟨nofun, named_ofJson value⟩, named_ofMembers members⟩

end

theorem named_texts (ts : List String) : (texts ts).Named := by
  refine named_list_iff.mpr fun item hitem => ?_
  obtain ⟨t, -, rfl⟩ := List.mem_map.mp hitem
  intro key hkey
  cases hkey

/-- In the usual values a key without a name can only be one of the value itself. -/
theorem Usual.hasKey {datum : Datum} {key : Key} (h : datum.Usual) (hkey : datum.MeetsKey key)
    (hnameless : key.Nameless) : datum.HasKey key := by
  cases h with
  | json value => exact absurd hnameless (named_ofJson value key hkey)
  | service name port tags =>
    refine absurd hnameless (named_dict_iff.mpr ?_ key hkey)
    refine List.forall_mem_cons.mpr ⟨⟨nofun, nofun⟩, List.forall_mem_cons.mpr ⟨⟨nofun, nofun⟩, ?_⟩⟩
    exact List.forall_mem_singleton.mpr ⟨nofun, named_texts tags⟩
  | rule r =>
    refine absurd hnameless (named_dict_iff.mpr ?_ key hkey)
    exact List.forall_mem_cons.mpr ⟨⟨nofun, nofun⟩, List.forall_mem_singleton.mpr ⟨nofun, nofun⟩⟩
  | set s => exact absurd hnameless (named_texts s.values key hkey)
  | floats xs =>
    refine absurd hnameless (named_list_iff.mpr (fun item hitem => ?_) key hkey)
    obtain ⟨x, -, rfl⟩ := List.mem_map.mp hitem
    exact nofun
  | unit => cases hkey
  | map name m =>
    cases hkey with
    | own hentry => exact ⟨_, _, rfl, hentry⟩
    | value hentry hinside =>
      -- The values of a map are texts, and a text has no keys.
      obtain ⟨entry, -, heq⟩ := List.mem_map.mp hentry
      cases heq
      cases hinside

end Datum

namespace Document

open Utf8 Json

variable {datum : Datum} {bytes : Bytes} {failure : Failure}

/-! ## The two cases -/

theorem prettyText_of_refused (h : writeJson .indented datum = .error failure) :
    prettyText datum = ("", [{ level := .warn, message := "JSON serialization failed"
                               fields := [("error", failure.message)] }]) := by
  rw [prettyText, h]

/-- What is written is text: it is decoded to the characters it was encoded from. -/
theorem decode?_of_written {layout : Layout} (h : writeJson layout datum = .ok bytes) :
    ∃ cs, decode? bytes = some (cs ++ ['\n']) ∧ bytes = encodeChars (cs ++ ['\n']) := by
  obtain ⟨value, -, rfl⟩ := (writeJson_eq_ok_iff _ _ _).mp h
  have hbytes : encodeChars (value.render layout 0) ++ [0x0A]
      = encodeChars (value.render layout 0 ++ ['\n']) := (encodeChars_append _ ['\n']).symm
  exact ⟨value.render layout 0, by rw [hbytes, decode?_encodeChars], hbytes⟩

theorem prettyText_of_written (h : writeJson .indented datum = .ok bytes) :
    ∃ cs, prettyText datum = (String.ofList (cs ++ ['\n']), []) ∧ bytes = encodeChars (cs ++ ['\n']) := by
  obtain ⟨cs, hdecode, hbytes⟩ := decode?_of_written h
  exact ⟨cs, by simp only [prettyText, h, hdecode], hbytes⟩

/-! ## No ambiguity -/

/-- What the indented text of a datum says of it. -/
structure Unambiguous (datum : Datum) : Prop where
  empty_iff : (prettyText datum).1 = "" ↔ ∃ failure, writeJson .indented datum = .error failure
  refused_iff : (∃ failure, writeJson .indented datum = .error failure) ↔
    ∃ key, datum.MeetsKey key ∧ key.Nameless
  /-- Of the usual values only a map is refused, for a key of its own. -/
  refused_iff_own : datum.Usual → ((∃ failure, writeJson .indented datum = .error failure) ↔
    ∃ key, datum.HasKey key ∧ key.Nameless)
  refused : ∀ failure, writeJson .indented datum = .error failure →
    (prettyText datum).2 = [{ level := .warn, message := "JSON serialization failed"
                              fields := [("error", failure.message)] }]
  written : ∀ bytes, writeJson .indented datum = .ok bytes →
    (prettyText datum).2 = [] ∧ encode (prettyText datum).1 = bytes
  /-- What is written is text. -/
  valid : ∀ bytes, writeJson .indented datum = .ok bytes → ∃ cs, decode? bytes = some cs

/-- The indented text tells whether the datum could be written, and is what was written. -/
theorem prettyText_is_unambiguous (datum : Datum) : Unambiguous datum where
  empty_iff := by
    cases h : writeJson .indented datum with
    | error failure => exact iff_of_true (by rw [prettyText_of_refused h]) ⟨failure, rfl⟩
    | ok bytes =>
      obtain ⟨cs, htext, -⟩ := prettyText_of_written h
      exact iff_of_false (by rw [htext]; simp) nofun
  refused_iff := exists_writeJson_error_iff .indented datum
  refused_iff_own husual := by
    rw [exists_writeJson_error_iff]
    constructor
    · rintro ⟨key, hkey, hnameless⟩
      exact ⟨key, husual.hasKey hkey hnameless, hnameless⟩
    · rintro ⟨key, ⟨entries, value, rfl, hentry⟩, hnameless⟩
      exact ⟨key, .own hentry, hnameless⟩
  refused failure h := by rw [prettyText_of_refused h]
  written bytes h := by
    obtain ⟨cs, htext, hbytes⟩ := prettyText_of_written h
    rw [htext, hbytes]
    exact ⟨rfl, congrArg encodeChars (String.toList_ofList)⟩
  valid bytes h := by
    obtain ⟨cs, hdecode, -⟩ := decode?_of_written h
    exact ⟨_, hdecode⟩

end Document

end ConfigKit
