-- SUMMARY: The result of normalisation, said without computing it.
import Mathlib.Data.List.Forall2
import ConfigKit.Proofs.FieldMap.LastWins
import ConfigKit.Proofs.Results
import ConfigKit.Yaml.Normalize

/-!
# Normal forms of YAML trees

`NormalForm t j` says, constructor by constructor and without computing anything, that `j` is the JSON
value that the tree `t` stands for. The main result `normalize_eq_ok_iff` is that normalisation succeeds
with `j` exactly if `j` is the normal form of `t`.
-/

namespace ConfigKit

theorem Binary64.isFinite_eq_false_iff (x : Binary64) :
    x.isFinite = false ↔ x.isNaN = true ∨ x.isInfinite = true := by
  simp only [isFinite, isNaN, isInfinite, decide_eq_false_iff_not, decide_eq_true_eq]
  omega

namespace Yaml

namespace Tree

/-- The text of a key, under whatever tags it stands. -/
inductive KeyText : Tree → String → Prop where
  | string (text : String) : KeyText (.string text) text
  | true : KeyText (.bool true) "true"
  | false : KeyText (.bool false) "false"
  | number (n : Number) : KeyText (.number n) (numberText n)
  | tagged {tag : String} {key : Tree} {text : String} (h : KeyText key text) :
      KeyText (.tagged tag key) text

/-- The JSON value that a tree stands for. -/
inductive NormalForm : Tree → Json → Prop where
  | null : NormalForm .null .null
  | bool (b : Bool) : NormalForm (.bool b) (.bool b)
  | integer (n : Int) : NormalForm (.number (.int n)) (.number (.int n))
  | finite {x : Binary64} (h : x.isFinite = true) :
      NormalForm (.number (.float x)) (.number (.float x))
  /-- JSON has no number for these. -/
  | notFinite {x : Binary64} (h : x.isNaN = true ∨ x.isInfinite = true) :
      NormalForm (.number (.float x)) .null
  | string (text : String) : NormalForm (.string text) (.string text)
  | sequence {items : List Tree} {values : List Json} (h : List.Forall₂ NormalForm items values) :
      NormalForm (.sequence items) (.array values)
  /-- Every pair has a name and a value, and the last value of each name counts. -/
  | mapping {pairs : List (Tree × Tree)} {names : List String} {values : List Json}
      {members : List (String × Json)}
      (hnames : List.Forall₂ (fun pair name => KeyText pair.1 name) pairs names)
      (hvalues : List.Forall₂ (fun pair value => NormalForm pair.2 value) pairs values)
      (hmembers : Entries.LastWins (names.zip values) members) :
      NormalForm (.mapping pairs) (.object members)
  | tagged {tag : String} {value : Tree} {j : Json} (h : NormalForm value j) :
      NormalForm (.tagged tag value) j

/-! ## Keys -/

theorem keyText_of_keyName {text : String} :
    (key : Tree) → keyName key = .ok text → KeyText key text
  | .string _, h => by cases h; exact .string _
  | .bool true, h => by cases h; exact .true
  | .bool false, h => by cases h; exact .false
  | .number n, h => by cases h; exact .number n
  | .tagged _ key, h => .tagged (keyText_of_keyName key (by rwa [keyName] at h))
  | .null, h => by cases h
  | .sequence _, h => by cases h
  | .mapping _, h => by cases h

theorem keyName_of_keyText {key : Tree} {text : String} (h : KeyText key text) :
    keyName key = .ok text := by
  induction h with
  | string text => rfl
  | true => rfl
  | false => rfl
  | number n => rfl
  | tagged h ih => rw [keyName, ih]

/-! ## What normalisation gives is the normal form -/

theorem normalForm_ofNumber (n : Number) : NormalForm (.number n) (.ofNumber n) := by
  cases n with
  | int n => exact .integer n
  | float x =>
    cases hx : x.isFinite with
    | true => simpa [Json.ofNumber, hx] using NormalForm.finite hx
    | false => simpa [Json.ofNumber, hx] using NormalForm.notFinite ((x.isFinite_eq_false_iff).mp hx)

mutual

theorem normalForm_of_normalize {t : Tree} {j : Json} (h : t.normalize = .ok j) : NormalForm t j := by
  cases t with
  | null => rw [normalize] at h; cases h; exact .null
  | bool b => rw [normalize] at h; cases h; exact .bool b
  | number n => rw [normalize] at h; cases h; exact normalForm_ofNumber n
  | string text => rw [normalize] at h; cases h; exact .string text
  | sequence items =>
    rw [normalize, bind_eq_ok_iff] at h
    obtain ⟨values, hvalues, h⟩ := h
    cases h
    exact .sequence (forall₂_of_normalizeItems hvalues)
  | mapping pairs =>
    rw [normalize, bind_eq_ok_iff] at h
    obtain ⟨members, hmembers, h⟩ := h
    cases h
    obtain ⟨names, values, hnames, hvalues, rfl⟩ := insertAll_of_normalizePairs hmembers
    exact .mapping hnames hvalues (Entries.lastWins_insertAll _)
  | tagged tag value =>
    rw [normalize] at h
    exact .tagged (normalForm_of_normalize h)

theorem forall₂_of_normalizeItems {items : List Tree} {values : List Json}
    (h : normalizeItems items = .ok values) : List.Forall₂ NormalForm items values := by
  cases items with
  | nil => rw [normalizeItems] at h; cases h; exact .nil
  | cons item items =>
    rw [normalizeItems, bind_eq_ok_iff] at h
    obtain ⟨value, hvalue, h⟩ := h
    rw [bind_eq_ok_iff] at h
    obtain ⟨values, hvalues, h⟩ := h
    cases h
    exact .cons (normalForm_of_normalize hvalue) (forall₂_of_normalizeItems hvalues)

/-- The pairs are inserted one by one into the members that are done, whatever these are. -/
theorem insertAll_of_normalizePairs {done members : List (String × Json)} {pairs : List (Tree × Tree)}
    (h : normalizePairs done pairs = .ok members) :
    ∃ names values, List.Forall₂ (fun pair name => KeyText pair.1 name) pairs names ∧
      List.Forall₂ (fun pair value => NormalForm pair.2 value) pairs values ∧
      members = Entries.insertAll done (names.zip values) := by
  cases pairs with
  | nil =>
    rw [normalizePairs] at h
    cases h
    exact ⟨[], [], .nil, .nil, rfl⟩
  | cons pair pairs =>
    obtain ⟨key, value⟩ := pair
    rw [normalizePairs, bind_eq_ok_iff] at h
    obtain ⟨name, hname, h⟩ := h
    rw [bind_eq_ok_iff] at h
    obtain ⟨j, hj, h⟩ := h
    obtain ⟨names, values, hnames, hvalues, rfl⟩ := insertAll_of_normalizePairs h
    exact ⟨name :: names, j :: values, .cons (keyText_of_keyName key hname) hnames,
      .cons (normalForm_of_normalize hj) hvalues, rfl⟩

end

/-! ## A tree with a normal form is normalised to it -/

mutual

theorem normalize_of_normalForm {t : Tree} {j : Json} (h : NormalForm t j) : t.normalize = .ok j := by
  cases t with
  | null => cases h; rw [normalize]
  | bool b => cases h; rw [normalize]
  | number n =>
    rw [normalize]
    cases h with
    | integer n => rfl
    | finite hx => simp [Json.ofNumber, hx]
    | notFinite hx => simp [Json.ofNumber, (Binary64.isFinite_eq_false_iff _).mpr hx]
  | string text => cases h; rw [normalize]
  | sequence items =>
    cases h with
    | sequence hitems => rw [normalize, normalizeItems_of_forall₂ hitems]; rfl
  | mapping pairs =>
    cases h with
    | mapping hnames hvalues hmembers =>
      rw [normalize, normalizePairs_of_forall₂ [] hnames hvalues,
        hmembers.unique (Entries.lastWins_insertAll _)]
      rfl
  | tagged tag value =>
    cases h with
    | tagged hvalue => rw [normalize]; exact normalize_of_normalForm hvalue

theorem normalizeItems_of_forall₂ {items : List Tree} {values : List Json}
    (h : List.Forall₂ NormalForm items values) : normalizeItems items = .ok values := by
  cases items with
  | nil => cases h; rw [normalizeItems]
  | cons item items =>
    cases h with
    | cons hitem hitems =>
      rw [normalizeItems, normalize_of_normalForm hitem, normalizeItems_of_forall₂ hitems]
      rfl

theorem normalizePairs_of_forall₂ (done : List (String × Json)) {pairs : List (Tree × Tree)}
    {names : List String} {values : List Json}
    (hnames : List.Forall₂ (fun pair name => KeyText pair.1 name) pairs names)
    (hvalues : List.Forall₂ (fun pair value => NormalForm pair.2 value) pairs values) :
    normalizePairs done pairs = .ok (Entries.insertAll done (names.zip values)) := by
  cases pairs with
  | nil =>
    cases hnames
    cases hvalues
    rw [normalizePairs]
    rfl
  | cons pair pairs =>
    obtain ⟨key, value⟩ := pair
    cases hnames with
    | cons hname hnames =>
      cases hvalues with
      | cons hvalue hvalues =>
        rw [normalizePairs, keyName_of_keyText hname, normalize_of_normalForm hvalue]
        exact normalizePairs_of_forall₂ _ hnames hvalues

end

/-- Normalisation succeeds with a value exactly if it is the normal form of the tree. -/
theorem normalize_eq_ok_iff (t : Tree) (j : Json) : t.normalize = .ok j ↔ NormalForm t j :=
  ⟨normalForm_of_normalize, normalize_of_normalForm⟩

-- Keys of different kinds that have one text are one key, and the later value counts.
example : normalize (.mapping [(.number (.int 1), .bool true), (.string "a", .null),
    (.tagged "!t" (.string "1"), .null)]) = .ok (.object [("1", .null), ("a", .null)]) := by
  rfl

-- The name of a number is its text in YAML, where the exponent of a float has no plus.
example : [Number.int (-5), .float ⟨0x4341C37937E08000⟩, .float (.infinity true), .float .nan].map numberText =
    ["-5", "1e16", "-.inf", ".nan"] := by
  decide +kernel

end Tree

end Yaml

end ConfigKit
