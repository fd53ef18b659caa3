-- SUMMARY: Copying fields one by one makes an overlay, and the laws of overlays.
import Mathlib.Data.List.Forall2
import ConfigKit.Proofs.FieldMap.Provenance

/-!
# Copying fields one by one

`copyFields` copies the fields with given names one after the other. Names that cover the source make of
the target what `overlay` makes of it, in whatever order they come and however often. Overlaying is an
associative operation with the empty map as its unit; all of this is read off look-up, which determines a
map.
-/

namespace ConfigKit

namespace FieldMap

/-! ## Runs of copies -/

section

variable {κ ν : Type} [Ord κ] [Std.TransOrd κ] [Std.LawfulEqOrd κ]

theorem ext_get? {m other : FieldMap κ ν} (h : ∀ key, m.get? key = other.get? key) : m = other := by
  obtain ⟨entries, hentries⟩ := m
  obtain ⟨others, hothers⟩ := other
  obtain rfl : entries = others := hentries.ext hothers h
  rfl

/-- Copies the fields with these names one after the other. Gives what each copy gave, in the order of
the names, and the target afterwards. -/
def copyFields : List κ → FieldMap κ ν → FieldMap κ ν → List (Option ν) × FieldMap κ ν
  | [], _, target => ([], target)
  | name :: names, source, target =>
    let (value, next) := copyField name source target
    let (values, last) := copyFields names source next
    (value :: values, last)

theorem copyField_fst (name : κ) (source target : FieldMap κ ν) :
    (copyField name source target).1 = source.get? name := by
  unfold copyField
  cases source.get? name <;> rfl

/-- A copy gives what the source has, whatever was copied before it. -/
theorem copyFields_fst (names : List κ) (source target : FieldMap κ ν) :
    (copyFields names source target).1 = names.map source.get? := by
  induction names generalizing target with
  | nil => rfl
  | cons name names ih => simp [copyFields, copyField_fst, ih]

variable [DecidableEq κ]

omit [Std.TransOrd κ] in
theorem mem_keys_iff {m : FieldMap κ ν} {key : κ} : key ∈ m.keys ↔ (m.get? key).isSome = true :=
  Entries.mem_keys_iff key m.entries

/-- After a run of copies the names that were named are as in the overlay, and the others as they were. -/
theorem get?_copyFields (names : List κ) (source target : FieldMap κ ν) (key : κ) :
    (copyFields names source target).2.get? key
      = if key ∈ names then (source.get? key).or (target.get? key) else target.get? key := by
  induction names generalizing target with
  | nil => rfl
  | cons name names ih =>
    have hrun : (copyFields (name :: names) source target).2
        = (copyFields names source (copyField name source target).2).2 := rfl
    rw [hrun, ih, get?_copyField]
    by_cases hname : key = name
    · -- a field that is copied again has the value of the source already
      subst hname
      cases source.get? key <;> simp
    · simp [hname]

/-- Names that cover the source make the overlay. -/
theorem copyFields_snd {names : List κ} {source : FieldMap κ ν} (h : ∀ key ∈ source.keys, key ∈ names)
    (target : FieldMap κ ν) : (copyFields names source target).2 = target.overlay source := by
  refine ext_get? fun key => ?_
  rw [get?_copyFields, get?_overlay]
  split
  · rfl
  · rename_i hkey
    have hmiss := mt (h key) hkey
    rw [mem_keys_iff, Option.not_isSome_iff_eq_none] at hmiss
    rw [hmiss, Option.none_or]

/-! ## Overlays -/

/-- The entries of the source may be copied in any order. -/
theorem insertAll_of_perm {source : FieldMap κ ν} {entries : Entries κ ν}
    (h : entries.Perm source.entries) (target : FieldMap κ ν) :
    target.entries.insertAll entries = (target.overlay source).entries := by
  refine (target.sorted.insertAll entries).ext (target.overlay source).sorted fun key => ?_
  calc Entries.get? key (target.entries.insertAll entries)
      = (source.get? key).or (target.get? key) :=
        (source.sorted.lastWins_of_perm h).get?_insertAll target.entries key
    _ = (target.overlay source).get? key := (get?_overlay target source key).symm

theorem overlay_assoc (a b c : FieldMap κ ν) :
    (a.overlay b).overlay c = a.overlay (b.overlay c) := by
  refine ext_get? fun key => ?_
  simp only [get?_overlay, Option.or_assoc]

theorem overlay_self (a : FieldMap κ ν) : a.overlay a = a := by
  refine ext_get? fun key => ?_
  rw [get?_overlay, Option.or_self]

omit [DecidableEq κ] in
theorem overlay_empty (a : FieldMap κ ν) : a.overlay empty = a := rfl

theorem empty_overlay (a : FieldMap κ ν) : empty.overlay a = a := by
  refine ext_get? fun key => ?_
  rw [get?_overlay, get?_empty, Option.or_none]

end

/-! ## Single copies and the overlay -/

variable {ν : Type}

/-- Copying one field after the other comes to copying all of them at once. -/
structure CopiesAll (names : List String) (source target : FieldMap String ν) : Prop where
  overlay : (copyFields names source target).2 = target.overlay source
  /-- A copy gives the value of its name, and gives one exactly if the source has the name. -/
  values : List.Forall₂
    (fun name value => value = source.get? name ∧ (value.isSome = true ↔ name ∈ source.keys))
    names (copyFields names source target).1
  any_order : ∀ entries, entries.Perm source.entries →
    target.entries.insertAll entries = (target.overlay source).entries

/-- Overlaying as an operation on maps. -/
structure OverlayLaws (ν : Type) : Prop where
  assoc : ∀ a b c : FieldMap String ν, (a.overlay b).overlay c = a.overlay (b.overlay c)
  self : ∀ a : FieldMap String ν, a.overlay a = a
  /-- A second copy of the same source changes nothing. -/
  again : ∀ a b : FieldMap String ν, (a.overlay b).overlay b = a.overlay b
  overlay_empty : ∀ a : FieldMap String ν, a.overlay empty = a
  empty_overlay : ∀ a : FieldMap String ν, empty.overlay a = a

theorem single_copies_make_overlay {names : List String} {source : FieldMap String ν}
    (hnames : ∀ key ∈ source.keys, key ∈ names) (target : FieldMap String ν) :
    CopiesAll names source target ∧ OverlayLaws ν := by
  constructor
  · constructor
    case overlay => exact copyFields_snd hnames target
    case values =>
      rw [copyFields_fst, List.forall₂_map_right_iff]
      exact List.forall₂_same.mpr fun name _ => ⟨rfl, mem_keys_iff.symm⟩
    case any_order => exact fun entries h => insertAll_of_perm h target
  · constructor
    case assoc => exact overlay_assoc
    case self => exact overlay_self
    case again => exact fun a b => by rw [overlay_assoc, overlay_self]
    case overlay_empty => exact overlay_empty
    case empty_overlay => exact empty_overlay

/-- A name that comes twice, a name that the source lacks, and a field that both maps have. -/
theorem single_copies_make_overlay_shared :
    let source := ofList [("mode", "fast"), ("port", "80")]
    let target := ofList [("host", "here"), ("port", "22")]
    let names := ["port", "user", "mode", "port"]
    (copyFields names source target).1 = [some "80", none, some "fast", some "80"] ∧
    (copyFields names source target).2.entries
      = [("host", "here"), ("mode", "fast"), ("port", "80")] := by
  intro source target names
  have hnames : ∀ key ∈ source.keys, key ∈ names := by decide +kernel
  obtain ⟨hcopies, -⟩ := single_copies_make_overlay hnames target
  refine ⟨by decide +kernel, ?_⟩
  rw [hcopies.overlay]
  decide +kernel

end FieldMap

end ConfigKit
