-- SUMMARY: When normalisation loses entries of a mapping.
import Std.Data.String.ToInt
import Mathlib.Data.List.Pairwise
import ConfigKit.Proofs.FieldMap.DistinctKeys
import ConfigKit.Proofs.Yaml.NormalForm

/-!
# Entries lost by normalisation

Keys that are not the same may have one text, and then normalisation keeps one of their entries only.
Among texts, truth values and integers this happens in one way: a key is the text of another key of the
mapping that is a truth value or an integer. `entry_lost_iff` says so, and that every entry is kept if it
does not happen.
-/

namespace ConfigKit

namespace Yaml

namespace Tree

/-- A key that is a text. -/
inductive IsTextKey : Tree → Prop where
  | string (text : String) : IsTextKey (.string text)

/-- A key that gets a text: a truth value or an integer. -/
inductive IsRenderedKey : Tree → Prop where
  | bool (b : Bool) : IsRenderedKey (.bool b)
  | integer (n : Int) : IsRenderedKey (.number (.int n))

variable {key other : Tree} {text : String} {pairs : List (Tree × Tree)} {names : List String}
  {values : List Json} {members : List (String × Json)}

/-! ## Keys with one text -/

theorem toString_bool_injective : Function.Injective (toString : Bool → String) := by
  unfold Function.Injective
  decide

/-- There are only digits in the text of an integer, behind its sign. -/
theorem letter_not_mem_toString (n : Int) : 'e' ∉ (toString n).toList := by
  have hdigits (m : Nat) : 'e' ∉ Nat.toDigits 10 m := fun h =>
    absurd (Nat.isDigit_of_mem_toDigits (by decide) (by decide) h) (by decide)
  cases n <;> simp [Int.toString_eq_repr, Int.repr, Nat.repr, hdigits]

theorem toString_int_ne_bool (n : Int) (b : Bool) : toString n ≠ toString b := by
  intro h
  refine letter_not_mem_toString n ?_
  rw [h]
  cases b <;> decide

theorem IsTextKey.not_isRenderedKey (h : key.IsTextKey) : ¬ key.IsRenderedKey := by
  cases h
  nofun

theorem IsTextKey.eq_of_keyText (hkey : key.IsTextKey) (hother : other.IsTextKey)
    (htext : KeyText key text) (hsame : KeyText other text) : key = other := by
  cases hkey
  cases hother
  cases htext
  cases hsame
  rfl

theorem IsRenderedKey.eq_of_keyText (hkey : key.IsRenderedKey) (hother : other.IsRenderedKey)
    (htext : KeyText key text) (hsame : KeyText other text) : key = other := by
  have htexts := (keyName_of_keyText htext).trans (keyName_of_keyText hsame).symm
  cases hkey with
  | bool a =>
    cases hother with
    | bool b => rw [toString_bool_injective (Except.ok.inj htexts)]
    | integer n => exact absurd (Except.ok.inj htexts).symm (toString_int_ne_bool n a)
  | integer n =>
    cases hother with
    | bool b => exact absurd (Except.ok.inj htexts) (toString_int_ne_bool n b)
    | integer m => rw [Int.repr_injective (Except.ok.inj htexts)]

/-! ## Names that occur twice -/

/-- Some key is the text of another key that is a truth value or an integer. -/
def Clash (pairs : List (Tree × Tree)) : Prop :=
  ∃ text key, .string text ∈ pairs.map (·.1) ∧ key ∈ pairs.map (·.1) ∧
    key.IsRenderedKey ∧ KeyText key text

/-- The keys have different names. -/
def NamesDiffer (pair other : Tree × Tree) : Prop :=
  ∀ text, KeyText pair.1 text → ¬ KeyText other.1 text

theorem KeyText.unique {text' : String} (h : KeyText key text) (h' : KeyText key text') : text = text' :=
  Except.ok.inj ((keyName_of_keyText h).symm.trans (keyName_of_keyText h'))

theorem mem_names_iff (h : List.Forall₂ (fun pair name => KeyText pair.1 name) pairs names) :
    text ∈ names ↔ ∃ pair ∈ pairs, KeyText pair.1 text := by
  induction h with
  | nil => simp
  | cons hname _ ih =>
    rw [List.mem_cons, List.exists_mem_cons_iff, ih]
    apply or_congr_left
    constructor
    · rintro rfl
      exact hname
    · intro htext
      exact htext.unique hname

theorem nodup_names_iff (h : List.Forall₂ (fun pair name => KeyText pair.1 name) pairs names) :
    names.Nodup ↔ pairs.Pairwise NamesDiffer := by
  induction h with
  | nil => simp
  | @cons pair name pairs names hname hnames ih =>
    rw [List.nodup_cons, List.pairwise_cons, ih, mem_names_iff hnames]
    apply and_congr_left
    intro _
    constructor
    · intro hnew other hother text htext hsame
      rw [htext.unique hname] at hsame
      exact hnew ⟨other, hother, hsame⟩
    · rintro hdiffer ⟨other, hother, hsame⟩
      exact hdiffer other hother name hname hsame

instance : Std.Symm NamesDiffer where
  symm _ _ h := fun text hother hpair => h text hpair hother

theorem clash_of_keyText {pair other : Tree × Tree} (hpair : pair ∈ pairs) (hother : other ∈ pairs)
    (hkey : pair.1.IsTextKey) (hrendered : other.1.IsRenderedKey) (htext : KeyText pair.1 text)
    (hsame : KeyText other.1 text) : Clash pairs := by
  obtain ⟨key, value⟩ := pair
  cases hkey
  cases htext
  exact ⟨text, other.1, List.mem_map_of_mem hpair, List.mem_map_of_mem hother, hrendered, hsame⟩

/-- Different keys have different names unless there is a clash. -/
theorem pairwise_namesDiffer_iff (hplain : ∀ pair ∈ pairs, pair.1.IsTextKey ∨ pair.1.IsRenderedKey)
    (hdistinct : (pairs.map (·.1)).Nodup) : pairs.Pairwise NamesDiffer ↔ ¬ Clash pairs := by
  constructor
  · rintro hdiffer ⟨text, key, htext, hkey, hrendered, hsame⟩
    obtain ⟨pair, hpair, hpairKey⟩ := List.mem_map.mp htext
    obtain ⟨other, hother, rfl⟩ := List.mem_map.mp hkey
    have hne : pair ≠ other := by
      rintro rfl
      rw [hpairKey] at hrendered
      exact (IsTextKey.string text).not_isRenderedKey hrendered
    refine hdiffer.forall hpair hother hne text ?_ hsame
    rw [hpairKey]
    exact .string text
  · intro hclash
    apply (List.pairwise_map.mp hdistinct).imp_of_mem
    intro pair other hpair hother hne text htext hsame
    rcases hplain pair hpair with hkey | hkey <;> rcases hplain other hother with hkey' | hkey'
    · exact hne (hkey.eq_of_keyText hkey' htext hsame)
    · exact hclash (clash_of_keyText hpair hother hkey hkey' htext hsame)
    · exact hclash (clash_of_keyText hother hpair hkey' hkey hsame htext)
    · exact hne (hkey.eq_of_keyText hkey' htext hsame)

/-! ## Entries -/

theorem exists_entry_of_mem (hnames : List.Forall₂ (fun pair name => KeyText pair.1 name) pairs names)
    (hvalues : List.Forall₂ (fun pair value => NormalForm pair.2 value) pairs values)
    {pair : Tree × Tree} (hpair : pair ∈ pairs) :
    ∃ name value, KeyText pair.1 name ∧ NormalForm pair.2 value ∧ (name, value) ∈ names.zip values := by
  induction hnames generalizing values with
  | nil => cases hpair
  | cons hname _ ih =>
    cases hvalues with
    | cons hvalue hvalues =>
      rcases List.mem_cons.mp hpair with rfl | hpair
      · exact ⟨_, _, hname, hvalue, List.mem_cons_self⟩
      · obtain ⟨name, value, htext, hform, hmem⟩ := ih hvalues hpair
        exact ⟨name, value, htext, hform, List.mem_cons_of_mem _ hmem⟩

/-- Every pair is kept, under the text of its key and with the value that its own value is normalised
to. -/
structure KeptAll (pairs : List (Tree × Tree)) (members : List (String × Json)) : Prop where
  length_eq : members.length = pairs.length
  member : ∀ pair ∈ pairs, ∃ name j, KeyText pair.1 name ∧ pair.2.normalize = .ok j ∧
    Entries.get? name members = some j

/-- Which entries of a mapping are lost in its members. -/
structure Losses (pairs : List (Tree × Tree)) (members : List (String × Json)) : Prop where
  fewer_iff : members.length < pairs.length ↔ Clash pairs
  kept_of_not_clash : ¬ Clash pairs → KeptAll pairs members
  kept_of_texts : (∀ pair ∈ pairs, pair.1.IsTextKey) → KeptAll pairs members
  kept_of_rendered : (∀ pair ∈ pairs, pair.1.IsRenderedKey) → KeptAll pairs members

theorem not_clash_of_texts (h : ∀ pair ∈ pairs, pair.1.IsTextKey) : ¬ Clash pairs := by
  rintro ⟨_, _, -, hkey, hrendered, -⟩
  obtain ⟨pair, hpair, rfl⟩ := List.mem_map.mp hkey
  exact (h pair hpair).not_isRenderedKey hrendered

theorem not_clash_of_rendered (h : ∀ pair ∈ pairs, pair.1.IsRenderedKey) : ¬ Clash pairs := by
  rintro ⟨text, _, htext, -⟩
  obtain ⟨pair, hpair, hkey⟩ := List.mem_map.mp htext
  have hrendered := h pair hpair
  rw [hkey] at hrendered
  exact (IsTextKey.string text).not_isRenderedKey hrendered

theorem keptAll_of_nodup (hnames : List.Forall₂ (fun pair name => KeyText pair.1 name) pairs names)
    (hvalues : List.Forall₂ (fun pair value => NormalForm pair.2 value) pairs values)
    (hmembers : Entries.LastWins (names.zip values) members) (hlength : members.length = pairs.length)
    (hnodup : ((names.zip values).map (·.1)).Nodup) : KeptAll pairs members := by
  refine ⟨hlength, fun pair hpair => ?_⟩
  obtain ⟨name, value, htext, hform, hmem⟩ := exists_entry_of_mem hnames hvalues hpair
  have hmember : (name, value) ∈ members := (hmembers.perm hnodup).mem_iff.mpr hmem
  exact ⟨name, value, htext, normalize_of_normalForm hform, hmembers.sorted.get?_of_mem hmember⟩

/-- A mapping whose keys are different texts, truth values and integers loses an entry exactly if one of
its keys is the text of another that is a truth value or an integer. -/
theorem entry_lost_iff {j : Json} (hplain : ∀ pair ∈ pairs, pair.1.IsTextKey ∨ pair.1.IsRenderedKey)
    (hdistinct : (pairs.map (·.1)).Nodup) (h : (Tree.mapping pairs).normalize = .ok j) :
    ∃ members, j = .object members ∧ Losses pairs members := by
  cases normalForm_of_normalize h with
  | @mapping _ names values members hnames hvalues hmembers =>
    have hlengths : names.length = values.length := hnames.length_eq.symm.trans hvalues.length_eq
    have hkeys : (names.zip values).map (·.1) = names := List.map_fst_zip (Nat.le_of_eq hlengths)
    have hlength : (names.zip values).length = pairs.length := by
      rw [List.length_zip, ← hlengths, Nat.min_self, hnames.length_eq]
    have hnodup : ((names.zip values).map (·.1)).Nodup ↔ ¬ Clash pairs := by
      rw [hkeys, nodup_names_iff hnames, pairwise_namesDiffer_iff hplain hdistinct]
    have hkept (hclash : ¬ Clash pairs) : KeptAll pairs members :=
      keptAll_of_nodup hnames hvalues hmembers
        ((hmembers.perm (hnodup.mpr hclash)).length_eq.trans hlength) (hnodup.mpr hclash)
    refine ⟨members, rfl, ?_, hkept, fun htexts => hkept (not_clash_of_texts htexts),
      fun hrendered => hkept (not_clash_of_rendered hrendered)⟩
    rw [← hlength, hmembers.length_lt_iff, hnodup, not_not]

/-- The text `-1` and the integer are one name, and so the first entry is lost; the text `true` stays. -/
theorem entry_lost_iff_integer :
    let pairs : List (Tree × Tree) := [(.string "-1", .null), (.number (.int (-1)), .bool true),
      (.string "true", .null), (.bool false, .sequence [])]
    let members : List (String × Json) := [("-1", .bool true), ("false", .array []), ("true", .null)]
    (∀ pair ∈ pairs, pair.1.IsTextKey ∨ pair.1.IsRenderedKey) ∧ (pairs.map (·.1)).Nodup ∧
      (Tree.mapping pairs).normalize = .ok (.object members) ∧ Losses pairs members := by
  intro pairs members
  have hplain : ∀ pair ∈ pairs, pair.1.IsTextKey ∨ pair.1.IsRenderedKey := by
    simp only [pairs, List.forall_mem_cons]
    exact ⟨.inl (.string _), .inr (.integer _), .inl (.string _), .inr (.bool _), List.forall_mem_nil _⟩
  have hdistinct : (pairs.map (·.1)).Nodup := by simp [pairs]
  have hnormal : (Tree.mapping pairs).normalize = .ok (.object members) := rfl
  obtain ⟨_, hmembers, hlosses⟩ := entry_lost_iff hplain hdistinct hnormal
  cases hmembers
  exact ⟨hplain, hdistinct, hnormal, hlosses⟩

end Tree

end Yaml

end ConfigKit
