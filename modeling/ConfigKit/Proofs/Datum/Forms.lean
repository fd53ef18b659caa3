-- SUMMARY: Which data have a JSON value, and which have a YAML text.
import ConfigKit.Datum.Basic
import ConfigKit.Proofs.Results
import ConfigKit.Yaml.Printer

/-!
# The forms of data

Which data have a JSON value, and which have a YAML text. A key without a name stands in the way of JSON
(`exists_toJson?_iff`), and bytes stand in the way of YAML (`exists_print_iff`), wherever in the datum they
are.
-/

namespace ConfigKit

namespace Datum

/-! ## Keys without a name -/

/-- The keys that have no name in JSON. -/
inductive Key.Nameless : Key → Prop where
  | absent : Nameless .absent
  | pair (fst snd : Int) : Nameless (.pair fst snd)

theorem Key.nameless_iff {key : Key} : key.Nameless ↔ key.name? = none := by
  constructor
  · intro h
    cases h <;> rfl
  · intro h
    cases key with
    | absent => exact .absent
    | pair fst snd => exact .pair fst snd
    | _ => cases h

/-- A key of the datum itself. -/
def HasKey (datum : Datum) (key : Key) : Prop :=
  ∃ entries value, datum = .dict entries ∧ (key, value) ∈ entries

/-- A key that is met in the datum, its own or one inside. -/
inductive MeetsKey : Datum → Key → Prop where
  | own {entries : List (Key × Datum)} {key : Key} {value : Datum} (hentry : (key, value) ∈ entries) :
      MeetsKey (.dict entries) key
  | item {items : List Datum} {item : Datum} {key : Key} (hitem : item ∈ items)
      (h : MeetsKey item key) : MeetsKey (.list items) key
  | value {entries : List (Key × Datum)} {outer key : Key} {value : Datum}
      (hentry : (outer, value) ∈ entries) (h : MeetsKey value key) : MeetsKey (.dict entries) key

/-- All keys that are met have a name. -/
def Named (datum : Datum) : Prop := ∀ key, datum.MeetsKey key → ¬ key.Nameless

variable {items : List Datum} {entries : List (Key × Datum)}

theorem named_list_iff : (Datum.list items).Named ↔ ∀ item ∈ items, item.Named := by
  constructor
  · exact fun h item hitem key hkey => h key (.item hitem hkey)
  · intro h key hkey
    cases hkey with
    | item hitem hkey => exact h _ hitem key hkey

theorem named_dict_iff :
    (Datum.dict entries).Named ↔ ∀ entry ∈ entries, ¬ entry.1.Nameless ∧ entry.2.Named := by
  constructor
  · exact fun h entry hentry => ⟨h _ (.own hentry), fun key hkey => h key (.value hentry hkey)⟩
  · intro h key hkey
    cases hkey with
    | own hentry => exact (h _ hentry).1
    | value hentry hkey => exact (h _ hentry).2 key hkey

mutual

/-- A datum has a JSON value if its keys have names. -/
theorem exists_toJson?_iff : (datum : Datum) → ((∃ value, datum.toJson? = .ok value) ↔ datum.Named)
  | .null => iff_of_true ⟨_, rfl⟩ nofun
  | .bool _ => iff_of_true ⟨_, rfl⟩ nofun
  | .number _ => iff_of_true ⟨_, rfl⟩ nofun
  | .text _ => iff_of_true ⟨_, rfl⟩ nofun
  | .bytes _ => iff_of_true ⟨_, rfl⟩ nofun
  | .list items => by
    rw [named_list_iff, ← exists_toItems?_iff items, toJson?, exists_bind_eq_ok_iff]
    simp
  | .dict entries => by
    rw [named_dict_iff, ← exists_toMembers?_iff entries, toJson?, exists_bind_eq_ok_iff]
    simp

theorem exists_toItems?_iff : (items : List Datum) →
    ((∃ values, toItems? items = .ok values) ↔ ∀ item ∈ items, item.Named)
  | [] => iff_of_true ⟨_, rfl⟩ nofun
  | item :: items => by
    rw [List.forall_mem_cons, ← exists_toJson?_iff item, ← exists_toItems?_iff items, toItems?,
      exists_bind_eq_ok_iff]
    simp [exists_bind_eq_ok_iff]

theorem exists_toMembers?_iff : (entries : List (Key × Datum)) →
    ((∃ members, toMembers? entries = .ok members) ↔
      ∀ entry ∈ entries, ¬ entry.1.Nameless ∧ entry.2.Named)
  | [] => iff_of_true ⟨_, rfl⟩ nofun
  | (key, value) :: entries => by
    rw [List.forall_mem_cons, ← exists_toJson?_iff value, ← exists_toMembers?_iff entries, toMembers?,
      Key.nameless_iff]
    cases key.name? with
    | none => simp
    | some name => simp [exists_bind_eq_ok_iff]

end

/-! ## Bytes -/

/-- There are bytes in the datum. -/
inductive HoldsBytes : Datum → Prop where
  | bytes (bs : Bytes) : HoldsBytes (.bytes bs)
  | item {items : List Datum} {item : Datum} (hitem : item ∈ items) (h : HoldsBytes item) :
      HoldsBytes (.list items)
  | value {entries : List (Key × Datum)} {key : Key} {value : Datum} (hentry : (key, value) ∈ entries)
      (h : HoldsBytes value) : HoldsBytes (.dict entries)

theorem not_holdsBytes_list_iff :
    ¬ (Datum.list items).HoldsBytes ↔ ∀ item ∈ items, ¬ item.HoldsBytes := by
  constructor
  · exact fun h item hitem hbytes => h (.item hitem hbytes)
  · intro h hbytes
    cases hbytes with
    | item hitem hbytes => exact h _ hitem hbytes

theorem not_holdsBytes_dict_iff :
    ¬ (Datum.dict entries).HoldsBytes ↔ ∀ entry ∈ entries, ¬ entry.2.HoldsBytes := by
  constructor
  · exact fun h entry hentry hbytes => h (.value hentry hbytes)
  · intro h hbytes
    cases hbytes with
    | value hentry hbytes => exact h _ hentry hbytes

end Datum

namespace Yaml

open Datum

/-- The value of a simple key is written, or is not, as it is on its own, at one column or another. -/
theorem exists_behindKey_iff (indent : Nat) (value : Datum) :
    ∃ column, (∃ cs, behindKey indent value = .ok cs) ↔ ∃ cs, datumChars column value = .ok cs := by
  cases value with
  | list items =>
    cases items with
    | nil => exact ⟨indent + indentStep, by simp [behindKey, exists_bind_eq_ok_iff]⟩
    | cons item items =>
      exact ⟨indent, by simp [behindKey, datumChars, exists_bind_eq_ok_iff]⟩
  | dict entries =>
    cases entries with
    | nil => exact ⟨indent + indentStep, by simp [behindKey, exists_bind_eq_ok_iff]⟩
    | cons entry entries =>
      exact ⟨indent + indentStep, by simp [behindKey, datumChars, exists_bind_eq_ok_iff]⟩
  | _ => exact ⟨indent + indentStep, by simp [behindKey, exists_bind_eq_ok_iff]⟩

mutual

theorem exists_datumChars_iff (indent : Nat) :
    (datum : Datum) → ((∃ cs, datumChars indent datum = .ok cs) ↔ ¬ datum.HoldsBytes)
  | .null => iff_of_true ⟨_, datumChars.eq_1 _⟩ nofun
  | .bool _ => iff_of_true ⟨_, datumChars.eq_2 _ _⟩ nofun
  | .number _ => iff_of_true ⟨_, datumChars.eq_3 _ _⟩ nofun
  | .text _ => iff_of_true ⟨_, datumChars.eq_4 _ _⟩ nofun
  | .bytes bs => iff_of_false (by simp [datumChars]) fun h => h (.bytes bs)
  | .list [] => iff_of_true ⟨_, datumChars.eq_6 _⟩ (not_holdsBytes_list_iff.mpr nofun)
  | .list (item :: items) => by
    rw [not_holdsBytes_list_iff, ← exists_itemLines_iff indent (item :: items), datumChars,
      exists_bind_eq_ok_iff] <;> simp
  | .dict [] => iff_of_true ⟨_, datumChars.eq_8 _⟩ (not_holdsBytes_dict_iff.mpr nofun)
  | .dict (entry :: entries) => by
    rw [not_holdsBytes_dict_iff, ← exists_entryLines_iff indent (entry :: entries), datumChars,
      exists_bind_eq_ok_iff] <;> simp

theorem exists_itemLines_iff (indent : Nat) : (items : List Datum) →
    ((∃ lines, itemLines indent items = .ok lines) ↔ ∀ item ∈ items, ¬ item.HoldsBytes)
  | [] => iff_of_true ⟨_, itemLines.eq_1 _⟩ nofun
  | item :: items => by
    rw [List.forall_mem_cons, ← exists_datumChars_iff (indent + indentStep) item,
      ← exists_itemLines_iff indent items, itemLines, exists_bind_eq_ok_iff]
    simp [exists_bind_eq_ok_iff]

theorem exists_entryLines_iff (indent : Nat) : (entries : List (Key × Datum)) →
    ((∃ lines, entryLines indent entries = .ok lines) ↔ ∀ entry ∈ entries, ¬ entry.2.HoldsBytes)
  | [] => iff_of_true ⟨_, entryLines.eq_1 _⟩ nofun
  | (key, value) :: entries => by
    obtain ⟨column, hbehind⟩ := exists_behindKey_iff indent value
    rw [List.forall_mem_cons, ← exists_entryLines_iff indent entries, entryLines]
    cases keyChars indent key with
    | mk simple chars =>
      cases simple with
      | true =>
        rw [← exists_datumChars_iff column value, ← hbehind]
        simp [exists_bind_eq_ok_iff]
      | false =>
        rw [← exists_datumChars_iff (indent + indentStep) value]
        simp [exists_bind_eq_ok_iff]

end

/-- A datum has a YAML text if there are no bytes in it. -/
theorem exists_print_iff (datum : Datum) : (∃ text, print datum = .ok text) ↔ ¬ datum.HoldsBytes := by
  cases datum with
  | text text => exact iff_of_true ⟨_, rfl⟩ nofun
  | _ =>
    rw [← exists_datumChars_iff 0]
    simp [print, exists_bind_eq_ok_iff]

end Yaml

end ConfigKit
