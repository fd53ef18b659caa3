-- SUMMARY: The places of keys in a value, in the order of the document.
import ConfigKit.Proofs.Results
import ConfigKit.Proofs.Yaml.KeyFailures

/-!
# The places of keys

A key has a place inside a value: the numbers of the items and pairs on the way to it, counted from zero.
Tags take no part in a place. The lexicographic order of the places is the order of the document: a key
comes before the keys inside its value, and these come before the next key.

Normalisation fails at the first place whose key has no name (`exists_firstNamelessAt`).
-/

namespace ConfigKit

namespace Yaml

namespace Tree

/-- A key and its place inside a value. -/
inductive KeyAt : Tree → List Nat → Tree → Prop where
  | key {pairs : List (Tree × Tree)} {i : Nat} {key value : Tree}
      (hpair : pairs[i]? = some (key, value)) : KeyAt (.mapping pairs) [i] key
  | value {pairs : List (Tree × Tree)} {i : Nat} {name value key : Tree} {place : List Nat}
      (hpair : pairs[i]? = some (name, value)) (h : KeyAt value place key) :
      KeyAt (.mapping pairs) (i :: place) key
  | item {items : List Tree} {i : Nat} {item key : Tree} {place : List Nat}
      (hitem : items[i]? = some item) (h : KeyAt item place key) :
      KeyAt (.sequence items) (i :: place) key
  | tagged {tag : String} {value key : Tree} {place : List Nat} (h : KeyAt value place key) :
      KeyAt (.tagged tag value) place key

variable {t name value key other : Tree} {items : List Tree} {pairs : List (Tree × Tree)}
  {place : List Nat} {failure : Failure} {j : Json}

theorem KeyAt.place_ne_nil (h : KeyAt t place key) : place ≠ [] := by
  induction h with
  | key => exact List.cons_ne_nil _ _
  | value => exact List.cons_ne_nil _ _
  | item => exact List.cons_ne_nil _ _
  | tagged _ ih => exact ih

/-- At a place stands one key at most. -/
theorem KeyAt.unique (h : KeyAt t place key) (hother : KeyAt t place other) : key = other := by
  induction h with
  | key hpair =>
    cases hother with
    | key hpair' =>
      rw [hpair] at hpair'
      cases hpair'
      rfl
    | value _ h' => exact absurd rfl h'.place_ne_nil
  | value hpair h ih =>
    cases hother with
    | key => exact absurd rfl h.place_ne_nil
    | value hpair' h' =>
      rw [hpair] at hpair'
      cases hpair'
      exact ih h'
  | item hitem _ ih =>
    cases hother with
    | item hitem' h' =>
      rw [hitem] at hitem'
      cases hitem'
      exact ih h'
  | tagged _ ih =>
    cases hother with
    | tagged h' => exact ih h'

theorem KeyAt.meetsKey (h : KeyAt t place key) : t.MeetsKey key := by
  induction h with
  | key hpair => exact meetsKey_mapping_iff.mpr ⟨_, List.mem_of_getElem? hpair, .inl rfl⟩
  | value hpair _ ih => exact meetsKey_mapping_iff.mpr ⟨_, List.mem_of_getElem? hpair, .inr ih⟩
  | item hitem _ ih => exact meetsKey_sequence_iff.mpr ⟨_, List.mem_of_getElem? hitem, ih⟩
  | tagged _ ih => exact meetsKey_tagged_iff.mpr ih

/-- The first place whose key has no name. -/
structure FirstNamelessAt (t : Tree) (place : List Nat) (key : Tree) : Prop where
  keyAt : KeyAt t place key
  nameless : key.untagged.Nameless
  first : ∀ earlier other, earlier < place → KeyAt t earlier other → ¬ other.untagged.Nameless

/-! ## Places in lists -/

theorem later_lt_iff {i k : Nat} {rest later : List Nat} :
    (i + 1) :: rest < (k + 1) :: later ↔ i :: rest < k :: later := by
  rw [List.cons_lt_cons_iff, List.cons_lt_cons_iff, Nat.add_lt_add_iff_right, Nat.add_right_cancel_iff]

theorem not_later_lt {rest : List Nat} (i : Nat) : ¬ (i + 1) :: rest < 0 :: place := by
  rw [List.cons_lt_cons_iff]
  rintro (h | ⟨h, -⟩)
  · exact Nat.not_lt_zero _ h
  · exact Nat.succ_ne_zero i h

theorem keyAt_items_cons_iff : KeyAt (.sequence (t :: items)) place key ↔
    (∃ rest, place = 0 :: rest ∧ KeyAt t rest key) ∨
      ∃ i rest, place = (i + 1) :: rest ∧ KeyAt (.sequence items) (i :: rest) key := by
  constructor
  · intro h
    cases h with
    | @item _ i _ _ rest hitem h =>
      cases i with
      | zero =>
        cases hitem
        exact .inl ⟨rest, rfl, h⟩
      | succ i => exact .inr ⟨i, rest, rfl, .item hitem h⟩
  · rintro (⟨rest, rfl, h⟩ | ⟨i, rest, rfl, h⟩)
    · exact .item rfl h
    · cases h with
      | item hitem h => exact .item hitem h

theorem keyAt_pairs_cons_iff : KeyAt (.mapping ((name, value) :: pairs)) place key ↔
    (place = [0] ∧ key = name) ∨ (∃ rest, place = 0 :: rest ∧ KeyAt value rest key) ∨
      ∃ i rest, place = (i + 1) :: rest ∧ KeyAt (.mapping pairs) (i :: rest) key := by
  constructor
  · intro h
    cases h with
    | @key _ i _ _ hpair =>
      cases i with
      | zero =>
        cases hpair
        exact .inl ⟨rfl, rfl⟩
      | succ i => exact .inr (.inr ⟨i, [], rfl, .key hpair⟩)
    | @value _ i _ _ _ rest hpair h =>
      cases i with
      | zero =>
        cases hpair
        exact .inr (.inl ⟨rest, rfl, h⟩)
      | succ i => exact .inr (.inr ⟨i, rest, rfl, .value hpair h⟩)
  · rintro (⟨rfl, rfl⟩ | ⟨rest, rfl, h⟩ | ⟨i, rest, rfl, h⟩)
    · exact .key rfl
    · exact .value rfl h
    · cases h with
      | key hpair => exact .key hpair
      | value hpair h => exact .value hpair h

/-! ## The first key without a name -/

theorem KeyAt.hasName (hok : t.normalize = .ok j) (h : KeyAt t place key) : ¬ key.untagged.Nameless := by
  intro hnameless
  obtain ⟨failure, herror⟩ := (fails_iff_meetsKey t).mpr ⟨key, h.meetsKey, hnameless⟩
  rw [hok] at herror
  cases herror

namespace FirstNamelessAt

theorem tagged {tag : String} (h : FirstNamelessAt t place key) :
    FirstNamelessAt (.tagged tag t) place key where
  keyAt := .tagged h.keyAt
  nameless := h.nameless
  first earlier other hearlier hother := by
    cases hother with
    | tagged hother => exact h.first earlier other hearlier hother

theorem firstItem (h : FirstNamelessAt t place key) :
    FirstNamelessAt (.sequence (t :: items)) (0 :: place) key where
  keyAt := .item rfl h.keyAt
  nameless := h.nameless
  first earlier other hearlier hother := by
    rcases keyAt_items_cons_iff.mp hother with ⟨rest, rfl, hfirst⟩ | ⟨i, rest, rfl, -⟩
    · exact h.first rest other (by simpa using hearlier) hfirst
    · exact absurd hearlier (not_later_lt i)

theorem laterItem (hhead : t.normalize = .ok j) (h : FirstNamelessAt (.sequence items) place key) :
    ∃ place, FirstNamelessAt (.sequence (t :: items)) place key := by
  obtain ⟨i, rest, rfl⟩ := List.exists_cons_of_ne_nil h.keyAt.place_ne_nil
  refine ⟨(i + 1) :: rest, keyAt_items_cons_iff.mpr (.inr ⟨i, rest, rfl, h.keyAt⟩), h.nameless, ?_⟩
  intro earlier other hearlier hother
  rcases keyAt_items_cons_iff.mp hother with ⟨_, rfl, hfirst⟩ | ⟨k, later, rfl, hlater⟩
  · exact hfirst.hasName hhead
  · exact h.first (k :: later) other (later_lt_iff.mp hearlier) hlater

theorem firstKey (h : name.untagged.Nameless) :
    FirstNamelessAt (.mapping ((name, value) :: pairs)) [0] name where
  keyAt := .key rfl
  nameless := h
  first earlier other hearlier hother := by
    rcases keyAt_pairs_cons_iff.mp hother with ⟨rfl, -⟩ | ⟨rest, rfl, -⟩ | ⟨i, rest, rfl, -⟩
    · exact absurd hearlier (List.lt_irrefl _)
    · exact absurd hearlier (by simp)
    · exact absurd hearlier (not_later_lt i)

theorem firstValue (hname : ¬ name.untagged.Nameless) (h : FirstNamelessAt value place key) :
    FirstNamelessAt (.mapping ((name, value) :: pairs)) (0 :: place) key where
  keyAt := .value rfl h.keyAt
  nameless := h.nameless
  first earlier other hearlier hother := by
    rcases keyAt_pairs_cons_iff.mp hother with ⟨-, rfl⟩ | ⟨rest, rfl, hfirst⟩ | ⟨i, rest, rfl, -⟩
    · exact hname
    · exact h.first rest other (by simpa using hearlier) hfirst
    · exact absurd hearlier (not_later_lt i)

theorem laterPair (hname : ¬ name.untagged.Nameless) (hvalue : value.normalize = .ok j)
    (h : FirstNamelessAt (.mapping pairs) place key) :
    ∃ place, FirstNamelessAt (.mapping ((name, value) :: pairs)) place key := by
  obtain ⟨i, rest, rfl⟩ := List.exists_cons_of_ne_nil h.keyAt.place_ne_nil
  have hkey : KeyAt (.mapping ((name, value) :: pairs)) ((i + 1) :: rest) key :=
    keyAt_pairs_cons_iff.mpr (.inr (.inr ⟨i, rest, rfl, h.keyAt⟩))
  refine ⟨(i + 1) :: rest, hkey, h.nameless, ?_⟩
  intro earlier other hearlier hother
  rcases keyAt_pairs_cons_iff.mp hother with ⟨-, rfl⟩ | ⟨_, rfl, hfirst⟩ | ⟨k, later, rfl, hlater⟩
  · exact hname
  · exact hfirst.hasName hvalue
  · exact h.first (k :: later) other (later_lt_iff.mp hearlier) hlater

end FirstNamelessAt

/-! ## Where normalisation fails -/

theorem keyName_eq_error_iff :
    keyName key = .error failure ↔ key.untagged.Nameless ∧ failure = .key key.untagged := by
  rw [← refusal_eq_some_iff, refusal_keyName, keyFailure_eq_some_iff]

theorem hasName_of_keyName {text : String} (h : keyName key = .ok text) : ¬ key.untagged.Nameless := by
  intro hnameless
  rw [keyName_eq_error_iff.mpr ⟨hnameless, rfl⟩] at h
  cases h

mutual

/-- Normalisation fails at the first place whose key has no name, and because of that key. -/
theorem exists_firstNamelessAt {t : Tree} {failure : Failure} (h : t.normalize = .error failure) :
    ∃ place key, FirstNamelessAt t place key ∧ failure = .key key.untagged := by
  cases t with
  | sequence items =>
    rw [normalize, bind_eq_error_iff] at h
    rcases h with h | ⟨_, -, h⟩
    · exact exists_firstNamelessAt_items h
    · cases h
  | mapping pairs =>
    rw [normalize, bind_eq_error_iff] at h
    rcases h with h | ⟨_, -, h⟩
    · exact exists_firstNamelessAt_pairs h
    · cases h
  | tagged tag value =>
    rw [normalize] at h
    obtain ⟨place, key, hfirst, hfailure⟩ := exists_firstNamelessAt h
    exact ⟨place, key, hfirst.tagged, hfailure⟩
  | _ =>
    rw [normalize] at h
    cases h

theorem exists_firstNamelessAt_items {items : List Tree} {failure : Failure}
    (h : normalizeItems items = .error failure) :
    ∃ place key, FirstNamelessAt (.sequence items) place key ∧ failure = .key key.untagged := by
  cases items with
  | nil =>
    rw [normalizeItems] at h
    cases h
  | cons item items =>
    rw [normalizeItems, bind_eq_error_iff] at h
    rcases h with h | ⟨_, hitem, h⟩
    · obtain ⟨place, key, hfirst, hfailure⟩ := exists_firstNamelessAt h
      exact ⟨0 :: place, key, hfirst.firstItem, hfailure⟩
    rcases bind_eq_error_iff.mp h with h | ⟨_, -, h⟩
    · obtain ⟨_, key, hfirst, hfailure⟩ := exists_firstNamelessAt_items h
      obtain ⟨place, hfirst⟩ := hfirst.laterItem hitem
      exact ⟨place, key, hfirst, hfailure⟩
    · cases h

theorem exists_firstNamelessAt_pairs {members : List (String × Json)} {pairs : List (Tree × Tree)}
    {failure : Failure} (h : normalizePairs members pairs = .error failure) :
    ∃ place key, FirstNamelessAt (.mapping pairs) place key ∧ failure = .key key.untagged := by
  cases pairs with
  | nil =>
    rw [normalizePairs] at h
    cases h
  | cons pair pairs =>
    obtain ⟨name, value⟩ := pair
    rw [normalizePairs, bind_eq_error_iff] at h
    rcases h with h | ⟨_, hname, h⟩
    · obtain ⟨hnameless, hfailure⟩ := keyName_eq_error_iff.mp h
      exact ⟨[0], name, .firstKey hnameless, hfailure⟩
    rcases bind_eq_error_iff.mp h with h | ⟨_, hvalue, h⟩
    · obtain ⟨place, key, hfirst, hfailure⟩ := exists_firstNamelessAt h
      exact ⟨0 :: place, key, hfirst.firstValue (hasName_of_keyName hname), hfailure⟩
    · obtain ⟨_, key, hfirst, hfailure⟩ := exists_firstNamelessAt_pairs h
      obtain ⟨place, hfirst⟩ := hfirst.laterPair (hasName_of_keyName hname) hvalue
      exact ⟨place, key, hfirst, hfailure⟩

end

end Tree

end Yaml

end ConfigKit
