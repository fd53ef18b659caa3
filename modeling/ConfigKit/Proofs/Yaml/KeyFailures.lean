-- SUMMARY: Normalisation fails at the first key without a name, and tells it.
import ConfigKit.Yaml.Normalize

/-!
# Failures of normalisation

Normalisation fails only because of a key: one that has no name under its tags. `Reaches` says in which
mappings a key can be met, and `visitedKeys` lists the keys of all these mappings in the order in which
they are met. The main result `normalize_fails_at_first` is that normalisation fails exactly if one of the
keys has no name, and that the failure tells the first of them.

All of it comes from one equation: the failure of a tree is the first one among those of its keys
(`refusal_normalize`). It is an equation because a failure passes through every later step unchanged, so
the failure of two steps is the failure of the first one, or else that of the second (`refusal_bind`).
-/

namespace ConfigKit

namespace Yaml

namespace Tree

/-! ## Keys without a name -/

/-- What stands under all the tags of a value. The tags inside it are kept. -/
def untagged : Tree → Tree
  | .tagged _ value => value.untagged
  | t => t

/-- The values that give no name as keys. -/
inductive Nameless : Tree → Prop where
  | null : Nameless .null
  | sequence (items : List Tree) : Nameless (.sequence items)
  | mapping (pairs : List (Tree × Tree)) : Nameless (.mapping pairs)

instance : DecidablePred Nameless
  | .null => .isTrue .null
  | .bool _ => .isFalse nofun
  | .number _ => .isFalse nofun
  | .string _ => .isFalse nofun
  | .sequence items => .isTrue (.sequence items)
  | .mapping pairs => .isTrue (.mapping pairs)
  | .tagged _ _ => .isFalse nofun

/-! ## Where keys are met -/

/-- What is met inside a value: through the items of sequences, the values of mappings and tags, but never
through the keys of mappings. -/
inductive Reaches : Tree → Tree → Prop where
  | here (t : Tree) : Reaches t t
  | item {items : List Tree} {item t : Tree} (hitem : item ∈ items) (h : Reaches item t) :
      Reaches (.sequence items) t
  | value {pairs : List (Tree × Tree)} {key value t : Tree} (hpair : (key, value) ∈ pairs)
      (h : Reaches value t) : Reaches (.mapping pairs) t
  | tagged {tag : String} {value t : Tree} (h : Reaches value t) : Reaches (.tagged tag value) t

/-- A key of a mapping that is met inside a value. -/
def MeetsKey (t key : Tree) : Prop :=
  ∃ pairs value, Reaches t (.mapping pairs) ∧ (key, value) ∈ pairs

mutual

/-- The keys that are met inside a value, in the order of the document: a key stands before those inside
its value, and these stand before the next key. -/
def visitedKeys : Tree → List Tree
  | .sequence items => visitedInItems items
  | .mapping pairs => visitedInPairs pairs
  | .tagged _ value => visitedKeys value
  | _ => []

def visitedInItems : List Tree → List Tree
  | [] => []
  | item :: items => visitedKeys item ++ visitedInItems items

def visitedInPairs : List (Tree × Tree) → List Tree
  | [] => []
  | (key, value) :: pairs => key :: (visitedKeys value ++ visitedInPairs pairs)

end

/-- The first key without a name, in the order of the document. -/
def FirstNameless (t key : Tree) : Prop :=
  ∃ before after, t.visitedKeys = before ++ key :: after ∧
    (∀ earlier ∈ before, ¬ earlier.untagged.Nameless) ∧ key.untagged.Nameless

variable {t key : Tree} {items : List Tree} {pairs : List (Tree × Tree)} {failure : Failure}

theorem meetsKey_sequence_iff : (Tree.sequence items).MeetsKey key ↔ ∃ item ∈ items, item.MeetsKey key := by
  constructor
  · rintro ⟨pairs, value, h, hpair⟩
    cases h with
    | item hitem h => exact ⟨_, hitem, pairs, value, h, hpair⟩
  · rintro ⟨item, hitem, pairs, value, h, hpair⟩
    exact ⟨pairs, value, .item hitem h, hpair⟩

theorem meetsKey_mapping_iff :
    (Tree.mapping pairs).MeetsKey key ↔ ∃ pair ∈ pairs, key = pair.1 ∨ pair.2.MeetsKey key := by
  constructor
  · rintro ⟨inner, value, h, hpair⟩
    cases h with
    | here => exact ⟨_, hpair, .inl rfl⟩
    | value houter h => exact ⟨_, houter, .inr ⟨inner, value, h, hpair⟩⟩
  · rintro ⟨⟨name, value⟩, houter, rfl | ⟨inner, value, h, hpair⟩⟩
    · exact ⟨pairs, value, .here _, houter⟩
    · exact ⟨inner, value, .value houter h, hpair⟩

theorem meetsKey_tagged_iff {tag : String} : (Tree.tagged tag t).MeetsKey key ↔ t.MeetsKey key := by
  constructor
  · rintro ⟨pairs, value, h, hpair⟩
    cases h with
    | tagged h => exact ⟨pairs, value, h, hpair⟩
  · rintro ⟨pairs, value, h, hpair⟩
    exact ⟨pairs, value, .tagged h, hpair⟩

mutual

/-- The visited keys are those of all mappings that are met. -/
theorem mem_visitedKeys_iff (t key : Tree) : key ∈ t.visitedKeys ↔ t.MeetsKey key := by
  cases t with
  | sequence items => rw [meetsKey_sequence_iff]; exact mem_visitedInItems_iff items key
  | mapping pairs => rw [meetsKey_mapping_iff]; exact mem_visitedInPairs_iff pairs key
  | tagged tag value => rw [meetsKey_tagged_iff]; exact mem_visitedKeys_iff value key
  | _ =>
    refine ⟨fun h => absurd h List.not_mem_nil, ?_⟩
    rintro ⟨pairs, value, h, -⟩
    cases h

theorem mem_visitedInItems_iff (items : List Tree) (key : Tree) :
    key ∈ visitedInItems items ↔ ∃ item ∈ items, item.MeetsKey key := by
  cases items with
  | nil => simp [visitedInItems]
  | cons item items =>
    simp [visitedInItems, mem_visitedKeys_iff item key, mem_visitedInItems_iff items key]

theorem mem_visitedInPairs_iff (pairs : List (Tree × Tree)) (key : Tree) :
    key ∈ visitedInPairs pairs ↔ ∃ pair ∈ pairs, key = pair.1 ∨ pair.2.MeetsKey key := by
  cases pairs with
  | nil => simp [visitedInPairs]
  | cons pair pairs =>
    obtain ⟨name, value⟩ := pair
    simp [visitedInPairs, mem_visitedKeys_iff value key, mem_visitedInPairs_iff pairs key, or_assoc]

end

/-! ## The failure of a tree is the first one of its keys -/

/-- The failure of a computation, if it fails. -/
def refusal {ε α : Type} : Except ε α → Option ε
  | .ok _ => none
  | .error e => some e

theorem refusal_eq_some_iff {ε α : Type} {x : Except ε α} {e : ε} :
    refusal x = some e ↔ x = .error e := by
  cases x <;> simp [refusal]

/-- What fails first counts, provided that the failure of the second step does not depend on what the
first one gives. -/
theorem refusal_bind {ε α β : Type} {x : Except ε α} {f : α → Except ε β} {later : Option ε}
    (h : ∀ a, refusal (f a) = later) : refusal (x >>= f) = (refusal x).or later := by
  cases x with
  | ok a => simpa [bind, Except.bind, refusal] using h a
  | error e => simp [bind, Except.bind, refusal]

theorem refusal_bind_ok {ε α β : Type} {x : Except ε α} {f : α → β} :
    refusal (x >>= fun a => .ok (f a)) = refusal x := by
  cases x <;> rfl

theorem findSome?_cons_eq_or {α β : Type} {f : α → Option β} {a : α} {as : List α} :
    (a :: as).findSome? f = (f a).or (as.findSome? f) := by
  rw [List.findSome?_cons]
  cases f a <;> rfl

/-- The failure that a key causes. -/
def keyFailure (key : Tree) : Option Failure :=
  if key.untagged.Nameless then some (.key key.untagged) else none

theorem keyFailure_eq_some_iff :
    keyFailure key = some failure ↔ key.untagged.Nameless ∧ failure = .key key.untagged := by
  simp [keyFailure, eq_comm]

theorem keyFailure_eq_none_iff : keyFailure key = none ↔ ¬ key.untagged.Nameless := by
  simp [keyFailure]

theorem refusal_keyName (key : Tree) : refusal (keyName key) = keyFailure key := by
  fun_induction keyName key with
  | case1 text => rfl
  | case2 b => rfl
  | case3 n => rfl
  | case4 tag value ih => exact ih
  | case5 key => cases key with
    | null => rfl
    | sequence items => rfl
    | mapping pairs => rfl
    | _ => grind

mutual

/-- The failure of a tree is the first one among those of its keys. -/
theorem refusal_normalize (t : Tree) :
    refusal t.normalize = t.visitedKeys.findSome? keyFailure := by
  cases t with
  | sequence items =>
    rw [normalize, refusal_bind_ok]
    exact refusal_normalizeItems items
  | mapping pairs =>
    rw [normalize, refusal_bind_ok]
    exact refusal_normalizePairs [] pairs
  | tagged tag value =>
    rw [normalize]
    exact refusal_normalize value
  | _ => rw [normalize]; rfl

theorem refusal_normalizeItems (items : List Tree) :
    refusal (normalizeItems items) = (visitedInItems items).findSome? keyFailure := by
  cases items with
  | nil => rw [normalizeItems]; rfl
  | cons item items =>
    rw [normalizeItems, visitedInItems, List.findSome?_append, ← refusal_normalize item,
      ← refusal_normalizeItems items]
    exact refusal_bind fun _ => refusal_bind_ok

/-- A key fails before its value, and both before what comes after them. What has been inserted already
does not matter. -/
theorem refusal_normalizePairs (members : List (String × Json)) (pairs : List (Tree × Tree)) :
    refusal (normalizePairs members pairs) = (visitedInPairs pairs).findSome? keyFailure := by
  cases pairs with
  | nil => rw [normalizePairs]; rfl
  | cons pair pairs =>
    obtain ⟨key, value⟩ := pair
    have hvalue := refusal_normalize value
    have hlater := fun name j => refusal_normalizePairs (Entries.insert name j members) pairs
    rw [normalizePairs, visitedInPairs, findSome?_cons_eq_or, List.findSome?_append, ← hvalue,
      ← refusal_keyName key]
    exact refusal_bind fun name => refusal_bind fun j => hlater name j

end

/-- What normalisation refuses is a key. -/
theorem normalize_error (h : t.normalize = .error failure) : ∃ offender, failure = .key offender := by
  rw [← refusal_eq_some_iff, refusal_normalize] at h
  obtain ⟨key, -, h⟩ := List.exists_of_findSome?_eq_some h
  exact ⟨key.untagged, (keyFailure_eq_some_iff.mp h).2⟩

theorem failure_iff_firstNameless (t : Tree) (failure : Failure) :
    t.normalize = .error failure ↔ ∃ key, t.FirstNameless key ∧ failure = .key key.untagged := by
  rw [← refusal_eq_some_iff, refusal_normalize, List.findSome?_eq_some_iff]
  simp only [keyFailure_eq_some_iff, keyFailure_eq_none_iff, FirstNameless]
  constructor
  · rintro ⟨before, key, after, hkeys, ⟨hkey, rfl⟩, hbefore⟩
    exact ⟨key, ⟨before, after, hkeys, hbefore, hkey⟩, rfl⟩
  · rintro ⟨key, ⟨before, after, hkeys, hbefore, hkey⟩, rfl⟩
    exact ⟨before, key, after, hkeys, ⟨hkey, rfl⟩, hbefore⟩

theorem fails_iff_meetsKey (t : Tree) :
    (∃ failure, t.normalize = .error failure) ↔ ∃ key, t.MeetsKey key ∧ key.untagged.Nameless := by
  constructor
  · rintro ⟨failure, h⟩
    rw [← refusal_eq_some_iff, refusal_normalize] at h
    obtain ⟨key, hkey, h⟩ := List.exists_of_findSome?_eq_some h
    exact ⟨key, (mem_visitedKeys_iff t key).mp hkey, (keyFailure_eq_some_iff.mp h).1⟩
  · rintro ⟨key, hkey, hnameless⟩
    have hmem := (mem_visitedKeys_iff t key).mpr hkey
    cases hfirst : t.visitedKeys.findSome? keyFailure with
    | none =>
      have hnone := List.findSome?_eq_none_iff.mp hfirst key hmem
      exact absurd hnameless (keyFailure_eq_none_iff.mp hnone)
    | some failure =>
      rw [← refusal_normalize, refusal_eq_some_iff] at hfirst
      exact ⟨failure, hfirst⟩

/-- How normalisation of a tree fails. -/
structure FailsAtFirst (t : Tree) : Prop where
  /-- It fails exactly if some key that is met has no name. -/
  fails_iff : (∃ failure, t.normalize = .error failure) ↔ ∃ key, t.MeetsKey key ∧ key.untagged.Nameless
  /-- The keys in the order of the document are the keys that are met. -/
  visits : ∀ key, key ∈ t.visitedKeys ↔ t.MeetsKey key
  /-- The failure is the first key without a name, as it is under its tags. -/
  failure_iff : ∀ failure, t.normalize = .error failure ↔
    ∃ key, t.FirstNameless key ∧ failure = .key key.untagged
  /-- It is reported with the text of that value. -/
  reported : ∀ failure key, t.normalize = .error failure → t.FirstNameless key →
    failure.message = "Invalid map key: " ++ key.untagged.description

/-- Normalisation fails exactly if a key that is met has no name, and tells the first one. -/
theorem normalize_fails_at_first (t : Tree) : FailsAtFirst t where
  fails_iff := fails_iff_meetsKey t
  visits := mem_visitedKeys_iff t
  failure_iff := failure_iff_firstNameless t
  reported := by
    intro failure key h hfirst
    have hkey := (failure_iff_firstNameless t (.key key.untagged)).mpr ⟨key, hfirst, rfl⟩
    rw [hkey] at h
    cases h
    rfl

-- A key inside a value comes before the next key, and is shown without the tags around it.
example : normalize (.mapping
    [(.string "a", .mapping [(.tagged "!t" (.sequence [.tagged "!u" .null]), .null)]), (.null, .null)]) =
    .error (.key (.sequence [.tagged "!u" .null])) := by
  rfl

-- The text of a value names its kind at each level, but a scalar key stands there by its content alone.
example : description (.sequence [.tagged "u" .null, .mapping [(.bool true, .string "a"), (.null, .null)]]) =
    "Sequence [TaggedValue \x7b tag: !u, value: Null \x7d, Mapping \x7btrue: String(\"a\"), Null: Null\x7d]" := by
  simp only [description, descriptions, pairDescriptions, keyDescription]
  decide +kernel

end Tree

end Yaml

end ConfigKit
