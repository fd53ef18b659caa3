-- SUMMARY: Normalisation does not depend on tags.
import ConfigKit.Proofs.Yaml.KeyPlaces

/-!
# Tags are ignored

`withoutTags` takes all tags off a tree: those around values, around keys and inside keys. Trees that are
the same without their tags are normalised to the same value, or normalisation of both fails at the same
place (`tags_are_ignored`).
-/

namespace ConfigKit

namespace Yaml

namespace Tree

mutual

/-- A tree without any of its tags. -/
def withoutTags : Tree → Tree
  | .null => .null
  | .bool b => .bool b
  | .number n => .number n
  | .string text => .string text
  | .sequence items => .sequence (itemsWithoutTags items)
  | .mapping pairs => .mapping (pairsWithoutTags pairs)
  | .tagged _ value => value.withoutTags

def itemsWithoutTags : List Tree → List Tree
  | [] => []
  | item :: items => item.withoutTags :: itemsWithoutTags items

def pairsWithoutTags : List (Tree × Tree) → List (Tree × Tree)
  | [] => []
  | (key, value) :: pairs => (key.withoutTags, value.withoutTags) :: pairsWithoutTags pairs

end

variable {t key other : Tree} {items : List Tree} {pairs : List (Tree × Tree)} {place : List Nat}

theorem itemsWithoutTags_eq_map (items : List Tree) : itemsWithoutTags items = items.map withoutTags := by
  induction items with
  | nil => rfl
  | cons item items ih => rw [itemsWithoutTags, ih, List.map_cons]

theorem pairsWithoutTags_eq_map (pairs : List (Tree × Tree)) :
    pairsWithoutTags pairs = pairs.map fun pair => (pair.1.withoutTags, pair.2.withoutTags) := by
  induction pairs with
  | nil => rfl
  | cons pair pairs ih => rw [pairsWithoutTags, ih, List.map_cons]

/-! ## Values -/

theorem keyName_withoutTags : (key : Tree) → key.withoutTags.keyName.toOption = key.keyName.toOption
  | .null => rfl
  | .bool _ => rfl
  | .number _ => rfl
  | .string _ => rfl
  | .sequence _ => rfl
  | .mapping _ => rfl
  | .tagged _ key => by
    rw [withoutTags, keyName]
    exact keyName_withoutTags key

mutual

/-- Without its tags a tree has the same value. -/
theorem normalize_withoutTags (t : Tree) : t.withoutTags.normalize.toOption = t.normalize.toOption := by
  cases t with
  | sequence items =>
    rw [withoutTags, normalize, normalize, toOption_bind, toOption_bind, normalizeItems_withoutTags]
  | mapping pairs =>
    rw [withoutTags, normalize, normalize, toOption_bind, toOption_bind, normalizePairs_withoutTags]
  | tagged tag value =>
    rw [withoutTags, normalize]
    exact normalize_withoutTags value
  | _ => rfl

theorem normalizeItems_withoutTags (items : List Tree) :
    (normalizeItems (itemsWithoutTags items)).toOption = (normalizeItems items).toOption := by
  cases items with
  | nil => rfl
  | cons item items =>
    simp only [itemsWithoutTags, normalizeItems, toOption_bind, normalize_withoutTags item,
      normalizeItems_withoutTags items]

theorem normalizePairs_withoutTags (members : List (String × Json)) (pairs : List (Tree × Tree)) :
    (normalizePairs members (pairsWithoutTags pairs)).toOption
      = (normalizePairs members pairs).toOption := by
  cases pairs with
  | nil => rfl
  | cons pair pairs =>
    obtain ⟨key, value⟩ := pair
    have hlater := fun done => normalizePairs_withoutTags done pairs
    simp only [pairsWithoutTags, normalizePairs, toOption_bind, keyName_withoutTags key,
      normalize_withoutTags value, hlater]

end

/-! ## Places -/

theorem KeyAt.of_untagged (h : KeyAt t.untagged place key) : KeyAt t place key := by
  fun_induction untagged t with
  | case1 tag value ih => exact .tagged (ih h)
  | case2 t => exact h

theorem exists_sequence_of_withoutTags :
    (t : Tree) → t.withoutTags = .sequence items →
      ∃ inner, t.untagged = .sequence inner ∧ itemsWithoutTags inner = items
  | .sequence inner, h => by
    cases h
    exact ⟨inner, rfl, rfl⟩
  | .tagged _ value, h => exists_sequence_of_withoutTags value (by rwa [withoutTags] at h)
  | .null, h | .bool _, h | .number _, h | .string _, h | .mapping _, h => by cases h

theorem exists_mapping_of_withoutTags :
    (t : Tree) → t.withoutTags = .mapping pairs →
      ∃ inner, t.untagged = .mapping inner ∧ pairsWithoutTags inner = pairs
  | .mapping inner, h => by
    cases h
    exact ⟨inner, rfl, rfl⟩
  | .tagged _ value, h => exists_mapping_of_withoutTags value (by rwa [withoutTags] at h)
  | .null, h | .bool _, h | .number _, h | .string _, h | .sequence _, h => by cases h

/-- Trees that are the same without their tags have the same pairs under their outer tags, and a pair of
the one has its like at the same place in the other. -/
theorem exists_pair_of_withoutTags {i : Nat} {name value : Tree}
    (h : (Tree.mapping pairs).withoutTags = other.withoutTags) (hpair : pairs[i]? = some (name, value)) :
    ∃ others name' value', other.untagged = .mapping others ∧ others[i]? = some (name', value') ∧
      name.withoutTags = name'.withoutTags ∧ value.withoutTags = value'.withoutTags := by
  rw [withoutTags] at h
  obtain ⟨others, hother, hothers⟩ := exists_mapping_of_withoutTags other h.symm
  have hlike : (pairsWithoutTags others)[i]? = some (name.withoutTags, value.withoutTags) := by
    rw [hothers, pairsWithoutTags_eq_map, List.getElem?_map, hpair, Option.map_some]
  rw [pairsWithoutTags_eq_map, List.getElem?_map, Option.map_eq_some_iff] at hlike
  obtain ⟨⟨name', value'⟩, hpair', hsame⟩ := hlike
  obtain ⟨hname, hvalue⟩ := Prod.mk.inj hsame
  exact ⟨others, name', value', hother, hpair', hname.symm, hvalue.symm⟩

theorem exists_item_of_withoutTags {i : Nat} {item : Tree}
    (h : (Tree.sequence items).withoutTags = other.withoutTags) (hitem : items[i]? = some item) :
    ∃ others item', other.untagged = .sequence others ∧ others[i]? = some item' ∧
      item.withoutTags = item'.withoutTags := by
  rw [withoutTags] at h
  obtain ⟨others, hother, hothers⟩ := exists_sequence_of_withoutTags other h.symm
  have hlike : (itemsWithoutTags others)[i]? = some item.withoutTags := by
    rw [hothers, itemsWithoutTags_eq_map, List.getElem?_map, hitem, Option.map_some]
  rw [itemsWithoutTags_eq_map, List.getElem?_map, Option.map_eq_some_iff] at hlike
  obtain ⟨item', hitem', hsame⟩ := hlike
  exact ⟨others, item', hother, hitem', hsame.symm⟩

/-- Trees that are the same without their tags have keys at the same places. -/
theorem KeyAt.transfer (h : KeyAt t place key) (hsame : t.withoutTags = other.withoutTags) :
    ∃ key', KeyAt other place key' ∧ key.withoutTags = key'.withoutTags := by
  induction h generalizing other with
  | key hpair =>
    obtain ⟨others, name', _, hother, hpair', hname, -⟩ := exists_pair_of_withoutTags hsame hpair
    refine ⟨name', .of_untagged ?_, hname⟩
    rw [hother]
    exact .key hpair'
  | value hpair _ ih =>
    obtain ⟨others, _, value', hother, hpair', -, hvalue⟩ := exists_pair_of_withoutTags hsame hpair
    obtain ⟨key', hkey', hkey⟩ := ih hvalue
    refine ⟨key', .of_untagged ?_, hkey⟩
    rw [hother]
    exact .value hpair' hkey'
  | item hitem _ ih =>
    obtain ⟨others, item', hother, hitem', hlike⟩ := exists_item_of_withoutTags hsame hitem
    obtain ⟨key', hkey', hkey⟩ := ih hlike
    refine ⟨key', .of_untagged ?_, hkey⟩
    rw [hother]
    exact .item hitem' hkey'
  | tagged _ ih =>
    rw [withoutTags] at hsame
    exact ih hsame

theorem nameless_withoutTags_iff : (key : Tree) → (key.withoutTags.Nameless ↔ key.untagged.Nameless)
  | .null => Iff.rfl
  | .bool _ => Iff.rfl
  | .number _ => Iff.rfl
  | .string _ => Iff.rfl
  | .sequence _ => iff_of_true (.sequence _) (.sequence _)
  | .mapping _ => iff_of_true (.mapping _) (.mapping _)
  | .tagged _ key => nameless_withoutTags_iff key

theorem FirstNamelessAt.not_later {earlier : List Nat} {key' : Tree} (h : FirstNamelessAt t place key)
    (hother : FirstNamelessAt other earlier key') (hsame : t.withoutTags = other.withoutTags) :
    ¬ earlier < place := by
  intro hearlier
  obtain ⟨found, hfound, hlike⟩ := hother.keyAt.transfer hsame.symm
  have hnameless := (nameless_withoutTags_iff key').mpr hother.nameless
  rw [hlike] at hnameless
  exact h.first earlier found hearlier hfound ((nameless_withoutTags_iff found).mp hnameless)

/-! ## Normalisation -/

/-- Normalisation does the same with both trees. -/
structure NormalizedAlike (t other : Tree) : Prop where
  same_value : ∀ j, t.normalize = .ok j ↔ other.normalize = .ok j
  both_fail : (∃ failure, t.normalize = .error failure) ↔ ∃ failure, other.normalize = .error failure
  /-- Both fail at one place, each because of the key that it has there. -/
  same_place : ∀ failure failure', t.normalize = .error failure → other.normalize = .error failure' →
    ∃ place key key', FirstNamelessAt t place key ∧ FirstNamelessAt other place key' ∧
      failure = .key key.untagged ∧ failure' = .key key'.untagged ∧
      key.withoutTags = key'.withoutTags

/-- Trees that are the same without their tags are normalised alike. -/
theorem tags_are_ignored (h : t.withoutTags = other.withoutTags) : NormalizedAlike t other := by
  have hvalue : t.normalize.toOption = other.normalize.toOption := by
    rw [← normalize_withoutTags, h, normalize_withoutTags]
  refine ⟨fun j => ?_, ?_, fun failure failure' hfail hfail' => ?_⟩
  · rw [← toOption_eq_some_iff, hvalue, toOption_eq_some_iff]
  · rw [← toOption_eq_none_iff, hvalue, toOption_eq_none_iff]
  · obtain ⟨place, key, hfirst, rfl⟩ := exists_firstNamelessAt hfail
    obtain ⟨place', key', hfirst', rfl⟩ := exists_firstNamelessAt hfail'
    obtain rfl : place = place' := List.le_antisymm (List.not_lt.mp (hfirst.not_later hfirst' h))
      (List.not_lt.mp (hfirst'.not_later hfirst h.symm))
    obtain ⟨found, hfound, hlike⟩ := hfirst.keyAt.transfer h
    obtain rfl := hfound.unique hfirst'.keyAt
    exact ⟨place, key, found, hfirst, hfirst', rfl, rfl, hlike⟩

/-- A stack of tags around a key, and one inside a key that has no name for the same reason. -/
theorem tags_are_ignored_stacked :
    let t : Tree := .tagged "!a" (.mapping [(.tagged "!b" (.tagged "!c" (.string "1")), .null),
      (.string "x", .sequence [.mapping [(.sequence [.tagged "!d" .null], .null)]])])
    let other : Tree := .mapping [(.string "1", .tagged "!e" .null),
      (.string "x", .tagged "!f" (.sequence [.mapping [(.tagged "!g" (.sequence [.null]), .null)]]))]
    t.withoutTags = other.withoutTags ∧ NormalizedAlike t other :=
  ⟨rfl, tags_are_ignored rfl⟩

end Tree

end Yaml

end ConfigKit
