-- SUMMARY: The laws of filtering by key, and that a filter asks about each entry once.
import ConfigKit.Proofs.FieldMap.Copying
import ConfigKit.Proofs.FieldMap.DistinctKeys

/-!
# Filtering by key

A filter asks its test once about each entry. A test that keeps no state gives the same map in whatever
order the entries come, and then filtering has laws: tests may be applied one after the other, in either
order or together; what a test keeps and what it drops make up the map; and filtering goes through an
overlay. Like those of copying, the laws are read off look-up.
-/

namespace ConfigKit

/-! ## Questions -/

namespace Entries

variable {κ ν σ : Type}

/-- A test that notes the keys it is asked about, behind those that are noted already. -/
def noting (test : σ → κ → Bool × σ) (state : σ × List κ) (key : κ) : Bool × (σ × List κ) :=
  let (kept, next) := test state.1 key
  (kept, (next, state.2 ++ [key]))

/-- A filter asks about the key of each entry, in order. To note the questions changes nothing. -/
theorem filterWith_noting (test : σ → κ → Bool × σ) (state : σ) (noted : List κ)
    (entries : Entries κ ν) :
    filterWith (noting test) (state, noted) entries
      = ((filterWith test state entries).1,
          ((filterWith test state entries).2, noted ++ entries.map (·.1))) := by
  induction entries generalizing state noted with
  | nil => simp [filterWith]
  | cons head rest ih =>
    obtain ⟨key, value⟩ := head
    have hquestions : noted ++ [key] ++ rest.map (·.1) = noted ++ ((key, value) :: rest).map (·.1) := by
      rw [List.map_cons, List.append_assoc, List.singleton_append]
    simp only [filterWith, noting, ih, hquestions]

end Entries

namespace FieldMap

variable {κ ν : Type} [Ord κ] [Std.TransOrd κ] [Std.LawfulEqOrd κ]

/-- A filter of the map asks its test once about each key. -/
structure AsksOnce (m : FieldMap κ ν) : Prop where
  questions : ∀ {σ : Type} (test : σ → κ → Bool × σ) (state : σ),
    m.filterKeysWith (Entries.noting test) (state, [])
      = ((m.filterKeysWith test state).1, ((m.filterKeysWith test state).2, m.keys))
  once : m.keys.Nodup
  /-- The entries may come in any order. The test is asked in that order, and the map of what it keeps is
  the same. -/
  any_order : ∀ (test : κ → Bool) (entries : Entries κ ν), entries.Perm m.entries →
    ∃ kept, Entries.filterWith (Entries.noting fun (_ : Unit) key => (test key, ())) ((), []) entries
        = (kept, ((), entries.map (·.1))) ∧
      Entries.insertAll [] kept = (m.filterKeys test).entries

omit [Std.TransOrd κ] [Std.LawfulEqOrd κ] in
theorem filterKeysWith_noting {σ : Type} (m : FieldMap κ ν) (test : σ → κ → Bool × σ) (state : σ) :
    m.filterKeysWith (Entries.noting test) (state, [])
      = ((m.filterKeysWith test state).1, ((m.filterKeysWith test state).2, m.keys)) := by
  have hentries := Entries.filterWith_noting test state [] m.entries
  simp only [filterKeysWith, hentries, keys, List.nil_append]

variable [DecidableEq κ]

/-- What a test keeps of the entries makes the same map in whatever order they come. -/
theorem insertAll_filter_of_perm {m : FieldMap κ ν} {entries : Entries κ ν}
    (h : entries.Perm m.entries) (test : κ → Bool) :
    Entries.insertAll [] (entries.filter fun entry => test entry.1) = (m.filterKeys test).entries := by
  have hkept : (entries.filter fun entry => test entry.1).Perm (m.filterKeys test).entries := by
    rw [entries_filterKeys]
    exact h.filter _
  have hinsert := insertAll_of_perm hkept empty
  rwa [empty_overlay] at hinsert

theorem asksOnce (m : FieldMap κ ν) : AsksOnce m where
  questions test state := filterKeysWith_noting m test state
  once := m.sorted.nodup_keys
  any_order test entries h := by
    refine ⟨_, Entries.filterWith_noting _ () [] entries, ?_⟩
    rw [Entries.filterWith_fst]
    exact insertAll_filter_of_perm h test

/-! ## Laws -/

omit [DecidableEq κ] in
theorem filterKeys_filterKeys (m : FieldMap κ ν) (p q : κ → Bool) :
    (m.filterKeys p).filterKeys q = m.filterKeys fun key => p key && q key := by
  refine ext_get? fun key => ?_
  simp only [get?_filterKeys]
  cases p key <;> cases q key <;> rfl

omit [DecidableEq κ] in
theorem filterKeys_comm (m : FieldMap κ ν) (p q : κ → Bool) :
    (m.filterKeys p).filterKeys q = (m.filterKeys q).filterKeys p := by
  rw [filterKeys_filterKeys, filterKeys_filterKeys]
  simp only [Bool.and_comm]

/-- The entries that a test drops, copied over those that it keeps, restore the map. -/
theorem overlay_filterKeys_not (m : FieldMap κ ν) (p : κ → Bool) :
    (m.filterKeys p).overlay (m.filterKeys fun key => !p key) = m := by
  refine ext_get? fun key => ?_
  rw [get?_overlay, get?_filterKeys, get?_filterKeys]
  cases p key with
  | true => exact Option.none_or
  | false => exact Option.or_none

theorem mem_keys_filterKeys_iff {m : FieldMap κ ν} {p : κ → Bool} {key : κ} :
    key ∈ (m.filterKeys p).keys ↔ key ∈ m.keys ∧ p key = true := by
  rw [mem_keys_iff, mem_keys_iff, get?_filterKeys]
  cases p key <;> simp

/-- Where a shared key is dropped it is dropped from both maps, and where it is kept the value of the source
counts before and after. -/
theorem filterKeys_overlay (target source : FieldMap κ ν) (p : κ → Bool) :
    (target.overlay source).filterKeys p = (target.filterKeys p).overlay (source.filterKeys p) := by
  refine ext_get? fun key => ?_
  simp only [get?_filterKeys, get?_overlay]
  cases p key <;> rfl

/-- Filtering as an operation on maps. -/
structure FilterLaws (κ ν : Type) [Ord κ] [Std.TransOrd κ] [Std.LawfulEqOrd κ] : Prop where
  both : ∀ (m : FieldMap κ ν) (p q : κ → Bool),
    (m.filterKeys p).filterKeys q = m.filterKeys fun key => p key && q key
  comm : ∀ (m : FieldMap κ ν) (p q : κ → Bool),
    (m.filterKeys p).filterKeys q = (m.filterKeys q).filterKeys p
  dropped_over_kept : ∀ (m : FieldMap κ ν) (p : κ → Bool),
    (m.filterKeys p).overlay (m.filterKeys fun key => !p key) = m
  kept_over_dropped : ∀ (m : FieldMap κ ν) (p : κ → Bool),
    (m.filterKeys fun key => !p key).overlay (m.filterKeys p) = m
  no_shared_key : ∀ (m : FieldMap κ ν) (p : κ → Bool) key,
    key ∈ (m.filterKeys p).keys → key ∉ (m.filterKeys fun key => !p key).keys
  overlay : ∀ (target source : FieldMap κ ν) (p : κ → Bool),
    (target.overlay source).filterKeys p = (target.filterKeys p).overlay (source.filterKeys p)

theorem filters_divide_maps : (∀ m : FieldMap κ ν, AsksOnce m) ∧ FilterLaws κ ν := by
  refine ⟨asksOnce, ?_⟩
  constructor
  case both => exact filterKeys_filterKeys
  case comm => exact filterKeys_comm
  case dropped_over_kept => exact overlay_filterKeys_not
  case kept_over_dropped =>
    intro m p
    -- The kept entries are those that the negated test drops.
    simpa only [Bool.not_not] using overlay_filterKeys_not m fun key => !p key
  case no_shared_key =>
    intro m p key hkept hdropped
    have hkeep := (mem_keys_filterKeys_iff.mp hkept).2
    have hdrop := (mem_keys_filterKeys_iff.mp hdropped).2
    simp [hkeep] at hdrop
  case overlay => exact filterKeys_overlay

/-- Integers by their parity, and a test that counts its questions. -/
theorem filters_divide_maps_parity :
    let m : FieldMap Int String := ofList [(3, "c"), (-2, "b"), (4, "d"), (1, "a")]
    let even (key : Int) : Bool := key % 2 == 0
    let counting (count : Nat) (key : Int) : Bool × Nat := (even key, count + 1)
    (m.filterKeysWith (Entries.noting counting) (0, [])).2 = (4, [-2, 1, 3, 4]) ∧
    (m.filterKeys even).entries = [(-2, "b"), (4, "d")] ∧
    (m.filterKeys fun key => !even key).overlay (m.filterKeys even) = m := by
  intro m even counting
  obtain ⟨hasks, hlaws⟩ := filters_divide_maps (κ := Int) (ν := String)
  refine ⟨?_, by decide +kernel, hlaws.kept_over_dropped m even⟩
  rw [(hasks m).questions counting 0]
  decide +kernel

end FieldMap

end ConfigKit
