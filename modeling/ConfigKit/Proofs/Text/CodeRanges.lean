-- SUMMARY: Sets of code points: looking one up by halving, and what union and complement hold.
import ConfigKit.Text.CodeRanges.Algebra

/-!
# Sets of code points

The ranges of a set stand in increasing order, so a code point can be looked up by halving: `contains_iff`
says that this finds the code points which lie in one of the ranges, and no others. Union and complement
keep the order, and they hold what they should: `contains_unions`, `contains_complement`.
-/

namespace ConfigKit

namespace CodeRanges

/-- A range with a code point in it. -/
def Holds (range : Nat × Nat) (n : Nat) : Prop := range.1 ≤ n ∧ n ≤ range.2

/-- One of the ranges holds the code point. -/
def Covers (ranges : List (Nat × Nat)) (n : Nat) : Prop := ∃ range ∈ ranges, Holds range n

/-- No range is empty, and each one ends before the next. -/
def InOrder (ranges : List (Nat × Nat)) : Prop :=
  ranges.Pairwise (fun range later => range.2 < later.1) ∧ ∀ range ∈ ranges, range.1 ≤ range.2

instance (ranges : List (Nat × Nat)) : Decidable (InOrder ranges) :=
  inferInstanceAs (Decidable (_ ∧ _))

def Ordered (s : CodeRanges) : Prop := InOrder s.toList

instance (s : CodeRanges) : Decidable s.Ordered :=
  inferInstanceAs (Decidable (InOrder s.toList))

variable {s : CodeRanges} {ranges : List (Nat × Nat)} {range : Nat × Nat} {n fuel lo hi first last start : Nat}

/-! ## Looking up -/

theorem Ordered.lt (h : s.Ordered) {i j : Nat} (hij : i < j) (hj : j < s.ranges.size) :
    (s.ranges[i]).2 < (s.ranges[j]).1 := by
  have hpair := List.pairwise_iff_getElem.mp h.1 i j (by simpa [toList] using Nat.lt_trans hij hj)
    (by simpa [toList] using hj) hij
  simpa [toList] using hpair

theorem Ordered.le (h : s.Ordered) {i : Nat} (hi : i < s.ranges.size) :
    (s.ranges[i]).1 ≤ (s.ranges[i]).2 :=
  h.2 _ (by simp [toList])

/-- A code point before a range is in none of the later ones. -/
theorem Ordered.lt_of_holds (h : s.Ordered) {i mid : Nat} (hi : i < s.ranges.size)
    (hmid : mid < s.ranges.size) (hbefore : n < (s.ranges[mid]).1) (hholds : Holds (s.ranges[i]) n) :
    i < mid := by
  rcases Nat.lt_trichotomy i mid with hlt | rfl | hgt
  · exact hlt
  · exact absurd hholds.1 (Nat.not_le.mpr hbefore)
  · have horder := h.lt hgt hi
    have hrange := h.le hmid
    have hfirst := hholds.1
    omega

/-- A code point behind a range is in none of the earlier ones. -/
theorem Ordered.gt_of_holds (h : s.Ordered) {i mid : Nat} (hi : i < s.ranges.size)
    (hmid : mid < s.ranges.size) (hbehind : (s.ranges[mid]).2 < n) (hholds : Holds (s.ranges[i]) n) :
    mid < i := by
  rcases Nat.lt_trichotomy i mid with hlt | rfl | hgt
  · have horder := h.lt hlt hmid
    have hrange := h.le hmid
    have hlast := hholds.2
    omega
  · exact absurd hholds.2 (Nat.not_le.mpr hbehind)
  · exact hgt

theorem search_iff (h : s.Ordered) (hhi : hi ≤ s.ranges.size) (hfuel : hi - lo < fuel) :
    search s.ranges n fuel lo hi = true ↔
      ∃ i, ∃ hi' : i < s.ranges.size, lo ≤ i ∧ i < hi ∧ Holds (s.ranges[i]) n := by
  induction fuel generalizing lo hi with
  | zero => exact absurd hfuel (Nat.not_lt_zero _)
  | succ fuel ih =>
    rw [search]
    by_cases hend : lo ≥ hi
    · rw [if_pos hend]
      refine iff_of_false (by simp) ?_
      rintro ⟨i, -, hlo, hi, -⟩
      omega
    · rw [if_neg hend]
      have hmid : (lo + hi) / 2 < s.ranges.size := by omega
      simp only [Array.getElem?_eq_getElem hmid]
      split
      · rename_i hbefore
        rw [ih (by omega) (by omega)]
        constructor
        · rintro ⟨i, hsize, hlo, hi, hholds⟩
          exact ⟨i, hsize, hlo, by omega, hholds⟩
        · rintro ⟨i, hsize, hlo, -, hholds⟩
          exact ⟨i, hsize, hlo, h.lt_of_holds hsize hmid hbefore hholds, hholds⟩
      · rename_i hfirst
        split
        · rename_i hbehind
          rw [ih hhi (by omega)]
          constructor
          · rintro ⟨i, hsize, hlo, hi, hholds⟩
            exact ⟨i, hsize, by omega, hi, hholds⟩
          · rintro ⟨i, hsize, -, hi, hholds⟩
            exact ⟨i, hsize, h.gt_of_holds hsize hmid hbehind hholds, hi, hholds⟩
        · rename_i hlast
          exact iff_of_true rfl
            ⟨_, hmid, by omega, by omega, Nat.not_lt.mp hfirst, Nat.not_lt.mp hlast⟩

theorem contains_iff (h : s.Ordered) : s.contains n = true ↔ Covers s.toList n := by
  rw [contains, search_iff h (Nat.le_refl _) (by omega)]
  constructor
  · rintro ⟨i, hi, -, -, hholds⟩
    exact ⟨_, by simp [toList], hholds⟩
  · rintro ⟨range, hrange, hholds⟩
    obtain ⟨i, hi, rfl⟩ := Array.mem_iff_getElem.mp (Array.mem_def.mpr hrange)
    exact ⟨i, hi, Nat.zero_le i, hi, hholds⟩

/-! ## Lists of ranges -/

@[simp] theorem covers_nil : ¬ Covers [] n := by simp [Covers]

@[simp] theorem covers_cons : Covers (range :: ranges) n ↔ Holds range n ∨ Covers ranges n := by
  simp [Covers]

theorem inOrder_cons : InOrder (range :: ranges) ↔
    range.1 ≤ range.2 ∧ (∀ later ∈ ranges, range.2 < later.1) ∧ InOrder ranges := by
  simp only [InOrder, List.pairwise_cons, List.forall_mem_cons]
  constructor
  · rintro ⟨⟨hlater, hpair⟩, hrange, hall⟩
    exact ⟨hrange, hlater, hpair, hall⟩
  · rintro ⟨hrange, hlater, hpair, hall⟩
    exact ⟨⟨hlater, hpair⟩, hrange, hall⟩

/-! ## Ranges that are joined -/

theorem covers_joinFrom (hlast : first ≤ last) (hfirst : ∀ range ∈ ranges, first ≤ range.1)
    (hranges : ∀ range ∈ ranges, range.1 ≤ range.2) (hsorted : ranges.Pairwise fun a b => a.1 ≤ b.1) :
    Covers (joinFrom first last ranges) n ↔ Holds (first, last) n ∨ Covers ranges n := by
  induction ranges generalizing first last with
  | nil => simp [joinFrom]
  | cons range ranges ih =>
    obtain ⟨f, l⟩ := range
    obtain ⟨hf, hfirst⟩ := List.forall_mem_cons.mp hfirst
    obtain ⟨hl, hranges⟩ := List.forall_mem_cons.mp hranges
    obtain ⟨hlater, hsorted⟩ := List.pairwise_cons.mp hsorted
    rw [joinFrom, covers_cons]
    split
    · rename_i htouch
      rw [ih (by omega) hfirst hranges hsorted, ← or_assoc]
      refine or_congr_left ?_
      simp only [Holds]
      omega
    · rw [covers_cons, ih hl hlater hranges hsorted]

theorem inOrder_joinFrom (hlast : first ≤ last) (hfirst : ∀ range ∈ ranges, first ≤ range.1)
    (hranges : ∀ range ∈ ranges, range.1 ≤ range.2) (hsorted : ranges.Pairwise fun a b => a.1 ≤ b.1) :
    InOrder (joinFrom first last ranges) ∧ ∀ range ∈ joinFrom first last ranges, first ≤ range.1 := by
  induction ranges generalizing first last with
  | nil => simp [joinFrom, InOrder, hlast]
  | cons range ranges ih =>
    obtain ⟨f, l⟩ := range
    obtain ⟨hf, hfirst⟩ := List.forall_mem_cons.mp hfirst
    obtain ⟨hl, hranges⟩ := List.forall_mem_cons.mp hranges
    obtain ⟨hlater, hsorted⟩ := List.pairwise_cons.mp hsorted
    rw [joinFrom]
    split
    · exact ih (by omega) hfirst hranges hsorted
    · rename_i hgap
      obtain ⟨horder, hfrom⟩ := ih hl hlater hranges hsorted
      refine ⟨inOrder_cons.mpr ⟨hlast, fun later hmem => ?_, horder⟩, List.forall_mem_cons.mpr ⟨Nat.le_refl _, ?_⟩⟩
      · have hstart := hfrom later hmem
        simp only
        omega
      · exact fun later hmem => Nat.le_trans hf (hfrom later hmem)

/-! ## The gaps between ranges -/

theorem covers_gapsFrom (h : InOrder ranges) (hstart : ∀ range ∈ ranges, start ≤ range.1) (hn : n ≤ lastCode) :
    Covers (gapsFrom start ranges) n ↔ start ≤ n ∧ ¬ Covers ranges n := by
  induction ranges generalizing start with
  | nil =>
    rw [gapsFrom]
    split
    · simp [Holds, hn]
    · simp
      omega
  | cons range ranges ih =>
    obtain ⟨f, l⟩ := range
    obtain ⟨hrange, hlater, horder⟩ := inOrder_cons.mp h
    obtain ⟨hf, -⟩ := List.forall_mem_cons.mp hstart
    have hrest := ih horder hlater
    simp only at hrange hf
    have hbehind (hcovers : Covers ranges n) : l < n := by
      obtain ⟨later, hmem, hholds⟩ := hcovers
      exact Nat.lt_of_lt_of_le (hlater later hmem) hholds.1
    rw [gapsFrom, covers_cons, Holds]
    simp only
    split
    · rw [covers_cons, hrest, Holds]
      simp only
      by_cases hcovers : Covers ranges n
      · have hn := hbehind hcovers
        simp only [hcovers, not_true, and_false, or_false, or_true, iff_false]
        omega
      · simp only [hcovers, not_false_eq_true, and_true, or_false]
        omega
    · rw [hrest]
      by_cases hcovers : Covers ranges n
      · simp [hcovers]
      · simp only [hcovers, not_false_eq_true, and_true, or_false]
        omega

theorem inOrder_gapsFrom (h : InOrder ranges) (hstart : ∀ range ∈ ranges, start ≤ range.1) :
    InOrder (gapsFrom start ranges) ∧ ∀ range ∈ gapsFrom start ranges, start ≤ range.1 := by
  induction ranges generalizing start with
  | nil =>
    rw [gapsFrom]
    split
    · simp [InOrder, *]
    · simp [InOrder]
  | cons range ranges ih =>
    obtain ⟨f, l⟩ := range
    obtain ⟨hrange, hlater, horder⟩ := inOrder_cons.mp h
    obtain ⟨hf, -⟩ := List.forall_mem_cons.mp hstart
    obtain ⟨hgaps, hfrom⟩ := ih horder hlater
    simp only at hrange hf
    rw [gapsFrom]
    split
    · rename_i hgap
      refine ⟨inOrder_cons.mpr ⟨?_, fun later hmem => ?_, hgaps⟩, List.forall_mem_cons.mpr ⟨Nat.le_refl _, ?_⟩⟩
      · simp only
        omega
      · have hstart := hfrom later hmem
        simp only
        omega
      · intro later hmem
        have hstart := hfrom later hmem
        omega
    · refine ⟨hgaps, fun later hmem => ?_⟩
      have hstart := hfrom later hmem
      omega

/-! ## The algebra -/

theorem pairwise_mergeSort (ranges : List (Nat × Nat)) :
    (ranges.mergeSort fun a b => a.1 ≤ b.1).Pairwise fun a b => a.1 ≤ b.1 := by
  have htrans (a b c : Nat × Nat) : decide (a.1 ≤ b.1) → decide (b.1 ≤ c.1) → decide (a.1 ≤ c.1) := by
    simpa using Nat.le_trans
  have htotal (a b : Nat × Nat) : decide (a.1 ≤ b.1) || decide (b.1 ≤ a.1) := by
    simpa using Nat.le_total a.1 b.1
  simpa using List.pairwise_mergeSort htrans htotal ranges

theorem ofList_spec (h : ∀ range ∈ ranges, range.1 ≤ range.2) :
    (ofList ranges).Ordered ∧ ∀ n, Covers (ofList ranges).toList n ↔ Covers ranges n := by
  have hsorted := pairwise_mergeSort ranges
  have hcovers (n : Nat) : Covers (ranges.mergeSort fun a b => a.1 ≤ b.1) n ↔ Covers ranges n := by
    simp [Covers]
  have hranges : ∀ range ∈ ranges.mergeSort fun a b => a.1 ≤ b.1, range.1 ≤ range.2 := by simpa using h
  simp only [Ordered, ofList, toList, ← hcovers]
  generalize (ranges.mergeSort fun a b => a.1 ≤ b.1) = sorted at hsorted hranges
  cases sorted with
  | nil => simp [join, InOrder]
  | cons range rest =>
    obtain ⟨hlater, hsorted⟩ := List.pairwise_cons.mp hsorted
    obtain ⟨hrange, hranges⟩ := List.forall_mem_cons.mp hranges
    refine ⟨(inOrder_joinFrom hrange hlater hranges hsorted).1, fun n => ?_⟩
    rw [covers_cons]
    exact covers_joinFrom hrange hlater hranges hsorted

theorem ordered_of_mem_sets {sets : List CodeRanges} (h : ∀ s ∈ sets, s.Ordered) :
    ∀ range ∈ sets.flatMap toList, range.1 ≤ range.2 := by
  intro range hrange
  obtain ⟨s, hs, hrange⟩ := List.mem_flatMap.mp hrange
  exact (h s hs).2 range hrange

theorem Ordered.unions {sets : List CodeRanges} (h : ∀ s ∈ sets, s.Ordered) : (unions sets).Ordered :=
  (ofList_spec (ordered_of_mem_sets h)).1

theorem contains_unions {sets : List CodeRanges} (h : ∀ s ∈ sets, s.Ordered) :
    (unions sets).contains n = true ↔ ∃ s ∈ sets, s.contains n = true := by
  rw [contains_iff (.unions h), CodeRanges.unions, (ofList_spec (ordered_of_mem_sets h)).2]
  constructor
  · rintro ⟨range, hrange, hholds⟩
    obtain ⟨s, hs, hrange⟩ := List.mem_flatMap.mp hrange
    exact ⟨s, hs, (contains_iff (h s hs)).mpr ⟨range, hrange, hholds⟩⟩
  · rintro ⟨s, hs, hcontains⟩
    obtain ⟨range, hrange, hholds⟩ := (contains_iff (h s hs)).mp hcontains
    exact ⟨range, List.mem_flatMap.mpr ⟨s, hs, hrange⟩, hholds⟩

theorem Ordered.complement (h : s.Ordered) : s.complement.Ordered := by
  have hstart : ∀ range ∈ s.toList, 0 ≤ range.1 := fun _ _ => Nat.zero_le _
  have horder := inOrder_gapsFrom h hstart
  simpa [Ordered, CodeRanges.complement, toList] using horder.1

/-- The complement of a set holds the other code points. -/
theorem contains_complement (h : s.Ordered) (hn : n ≤ lastCode) :
    s.complement.contains n = !s.contains n := by
  have hstart : ∀ range ∈ s.toList, 0 ≤ range.1 := fun _ _ => Nat.zero_le _
  have hgaps := covers_gapsFrom h hstart hn
  rw [Bool.eq_iff_iff, Bool.not_eq_true', ← Bool.not_eq_true, contains_iff h, contains_iff h.complement]
  simpa [CodeRanges.complement, toList] using hgaps

/-! ## Characters -/

theorem between_iff {first last c : Char} :
    first ≤ c ∧ c ≤ last ↔ Holds (first.toNat, last.toNat) c.toNat := by
  rw [Char.le_def, Char.le_def, UInt32.le_iff_toNat_le, UInt32.le_iff_toNat_le]
  rfl

theorem ordered_between {first last : Char} (h : first ≤ last) : (between first last).Ordered := by
  have hcodes : first.toNat ≤ last.toNat := UInt32.le_iff_toNat_le.mp (Char.le_def.mp h)
  simp [Ordered, between, toList, InOrder, hcodes]

theorem containsChar_between {first last c : Char} (h : first ≤ last) :
    (between first last).containsChar c = true ↔ first ≤ c ∧ c ≤ last := by
  rw [containsChar, contains_iff (ordered_between h), between_iff]
  simp [between, toList]

theorem containsChar_singleton {c d : Char} : (CodeRanges.singleton c).containsChar d = true ↔ d = c := by
  have h := containsChar_between (c := d) (Char.le_refl c)
  refine h.trans ⟨fun ⟨hfrom, hto⟩ => Char.le_antisymm hto hfrom, ?_⟩
  rintro rfl
  exact ⟨Char.le_refl d, Char.le_refl d⟩

theorem singles_spec {cs : List Char} : ∀ range ∈ cs.map fun c => (c.toNat, c.toNat), range.1 ≤ range.2 := by
  simp

theorem ordered_ofChars (cs : List Char) : (ofChars cs).Ordered :=
  (ofList_spec singles_spec).1

theorem containsChar_ofChars {cs : List Char} {c : Char} : (ofChars cs).containsChar c = true ↔ c ∈ cs := by
  rw [containsChar, contains_iff (ordered_ofChars cs), ofChars, (ofList_spec singles_spec).2]
  constructor
  · rintro ⟨range, hrange, hfrom, hto⟩
    obtain ⟨d, hd, rfl⟩ := List.mem_map.mp hrange
    obtain rfl : d = c := Char.toNat_inj.mp (Nat.le_antisymm hfrom hto)
    exact hd
  · exact fun hc => ⟨_, List.mem_map_of_mem hc, Nat.le_refl _, Nat.le_refl _⟩

theorem toNat_le_lastCode (c : Char) : c.toNat ≤ lastCode := by
  change c.val.toNat ≤ 0x10FFFF
  rcases c.valid with h | ⟨-, h⟩ <;> omega

theorem containsChar_complement (h : s.Ordered) (c : Char) :
    s.complement.containsChar c = !s.containsChar c :=
  contains_complement h (toNat_le_lastCode c)

theorem containsChar_unions {sets : List CodeRanges} (h : ∀ s ∈ sets, s.Ordered) {c : Char} :
    (unions sets).containsChar c = true ↔ ∃ s ∈ sets, s.containsChar c = true :=
  contains_unions h

end CodeRanges

end ConfigKit
