-- SUMMARY: What a pattern without nested groups reads: the parts of a text one after the other, and which group captures which part.
import ConfigKit.Proofs.Pattern.Compilation
import ConfigKit.Proofs.Text.CodeRanges

/-!
# Captured parts

A match reads a text part by part, and a group captures the part between its parentheses. `Reads` says that
a match reads a part, `ReadsAll` that it reads parts one after the other, each in a group or in none. The
main result `groupText?_of_readsAll` says that in the end each group has the text of its part.
-/

namespace ConfigKit

namespace Pattern

open Expression

variable {cs part first rest : List Char} {s t u : State} {set : CodeRanges} {greedy : Bool} {slots : Slots}
  {index place least : Nat} {c : Char} {e : Expression}

/-! ## Reading a part -/

/-- The match reads a part of the text and saves nothing. -/
def Reads (cs part : List Char) (s t : State) : Prop :=
  cs.drop s.place = part ++ cs.drop t.place ∧ t = ⟨s.place + part.length, s.slots⟩

theorem reads_nil_iff : Reads cs [] s t ↔ s = t := by
  constructor
  · rintro ⟨-, rfl⟩
    rfl
  · rintro rfl
    exact ⟨rfl, rfl⟩

theorem reads_append_iff :
    Reads cs (first ++ rest) s t ↔ Relation.Comp (Reads cs first) (Reads cs rest) s t := by
  constructor
  · rintro ⟨hdrop, rfl⟩
    have hfirst : cs.drop (s.place + first.length) = rest ++ cs.drop (s.place + (first ++ rest).length) := by
      rw [← List.drop_drop, hdrop, List.append_assoc, List.drop_left]
    refine ⟨⟨s.place + first.length, s.slots⟩, ⟨?_, rfl⟩, hfirst, ?_⟩
    · rw [hdrop, hfirst, List.append_assoc]
    · simp [Nat.add_assoc]
  · rintro ⟨u, ⟨hfirst, rfl⟩, hrest, rfl⟩
    refine ⟨?_, by simp [Nat.add_assoc]⟩
    rw [hfirst, hrest, List.append_assoc]

theorem reads_cons_iff : Reads cs (c :: part) s t ↔ Relation.Comp (Reads cs [c]) (Reads cs part) s t := by
  rw [← reads_append_iff, List.singleton_append]

theorem reads_singleton_iff {c : Char} :
    Reads cs [c] s t ↔ cs[s.place]? = some c ∧ t = ⟨s.place + 1, s.slots⟩ := by
  refine and_congr_left fun ht => ?_
  subst ht
  constructor
  · intro hdrop
    have hhead := congrArg List.head? hdrop
    simpa using hhead
  · intro hc
    obtain ⟨hplace, rfl⟩ := List.getElem?_eq_some_iff.mp hc
    exact List.drop_eq_getElem_cons hplace

theorem matches_char_iff :
    Matches cs.toArray (.char set) s t ↔ ∃ c, set.containsChar c = true ∧ Reads cs [c] s t := by
  simp only [Matches, reads_singleton_iff, List.getElem?_toArray]
  constructor
  · rintro ⟨c, hc, hset, ht⟩
    exact ⟨c, hset, hc, ht⟩
  · rintro ⟨c, hset, hc, ht⟩
    exact ⟨c, hc, hset, ht⟩

theorem matches_times_iff {n : Nat} : Times (Matches cs.toArray (.char set)) n s t ↔
    ∃ part, part.length = n ∧ (∀ c ∈ part, set.containsChar c = true) ∧ Reads cs part s t := by
  induction n generalizing s with
  | zero => simp [Times, reads_nil_iff]
  | succ n ih =>
    simp only [Times, Relation.Comp, ih, matches_char_iff]
    constructor
    · rintro ⟨u, ⟨c, hc, hfirst⟩, part, rfl, hpart, hrest⟩
      exact ⟨c :: part, rfl, List.forall_mem_cons.mpr ⟨hc, hpart⟩, reads_cons_iff.mpr ⟨u, hfirst, hrest⟩⟩
    · rintro ⟨_ | ⟨c, part⟩, hlength, hpart, hreads⟩
      · cases hlength
      · obtain ⟨hc, hpart⟩ := List.forall_mem_cons.mp hpart
        obtain ⟨u, hfirst, hrest⟩ := reads_cons_iff.mp hreads
        exact ⟨u, ⟨c, hc, hfirst⟩, part, Nat.succ.inj hlength, hpart, hrest⟩

theorem matches_repetition_iff {least : Nat} :
    Matches cs.toArray (.repetition least none greedy (.char set)) s t ↔
      ∃ part, least ≤ part.length ∧ (∀ c ∈ part, set.containsChar c = true) ∧ Reads cs part s t := by
  constructor
  · rintro ⟨more, -, htimes⟩
    obtain ⟨part, hlength, hpart⟩ := matches_times_iff.mp htimes
    exact ⟨part, hlength ▸ Nat.le_add_right least more, hpart⟩
  · rintro ⟨part, hleast, hpart⟩
    obtain ⟨more, hlength⟩ := Nat.exists_eq_add_of_le hleast
    exact ⟨more, by simp, matches_times_iff.mpr ⟨part, hlength, hpart⟩⟩

theorem matches_textEnd_iff :
    Matches cs.toArray (.look .textEnd) s t ↔ s.place = cs.length ∧ t = s := by
  simp [Matches, Haystack.holds]

theorem matches_literal_iff :
    Matches cs.toArray (.char (.singleton c)) s t ↔ Reads cs [c] s t := by
  simp [matches_char_iff, CodeRanges.containsChar_singleton]

theorem matches_sequence_literal_iff (h : ∀ s t, e.Matches cs.toArray s t ↔ Reads cs rest s t) :
    Matches cs.toArray (.sequence (.char (.singleton c)) e) s t ↔ Reads cs (c :: rest) s t := by
  rw [reads_cons_iff]
  exact exists_congr fun u => and_congr matches_literal_iff (h u t)

theorem matches_optional_iff {text : Haystack} :
    Matches text (.repetition 0 (some 1) greedy e) s t ↔ s = t ∨ e.Matches text s t := by
  simp only [Matches, Option.mem_some_iff, forall_eq', Nat.zero_add]
  constructor
  · rintro ⟨_ | _ | more, hmore, htimes⟩
    · exact .inl htimes
    · obtain ⟨u, hmatch, rfl⟩ := htimes
      exact .inr hmatch
    · omega
  · rintro (rfl | hmatch)
    · exact ⟨0, Nat.zero_le _, rfl⟩
    · exact ⟨1, Nat.le_refl _, t, hmatch, rfl⟩

/-! ## What groups capture -/

/-- The text that a group has captured. -/
def groupText? (cs : List Char) (slots : Slots) (index : Nat) : Option (List Char) :=
  (Program.group slots index).map fun (first, last) => (cs.drop first).take (last - first)

theorem groupText?_save {slot : Nat} (hfirst : slot ≠ 2 * index) (hlast : slot ≠ 2 * index + 1) :
    groupText? cs (s.save slot).slots index = groupText? cs s.slots index := by
  simp [groupText?, Program.group, State.save, hfirst, hlast]

theorem groupText?_saved (hdrop : cs.drop place = part ++ rest) (hsize : 2 * index + 1 < slots.size) :
    groupText? cs ((slots.setIfInBounds (2 * index) (some place)).setIfInBounds (2 * index + 1)
      (some (place + part.length))) index = some part := by
  have hfirst : 2 * index < slots.size := Nat.lt_of_succ_lt hsize
  simp [groupText?, Program.group, hsize, hfirst, hdrop]

/-! ## Parts one after the other -/

/-- A part of a text, and the group that captures it, if there is one. -/
structure Piece where
  group : Option Nat
  part : List Char

/-- The match reads the part, and its group captures it. -/
def Piece.Reads (cs : List Char) (p : Piece) (s t : State) : Prop :=
  match p.group with
  | none => Pattern.Reads cs p.part s t
  | some index => ∃ u, Pattern.Reads cs p.part (s.save (2 * index)) u ∧ t = u.save (2 * index + 1)

/-- The match reads the parts one after the other. -/
def ReadsAll (cs : List Char) : List Piece → State → State → Prop
  | [] => Eq
  | p :: pieces => Relation.Comp (p.Reads cs) (ReadsAll cs pieces)

variable {p : Piece} {pieces : List Piece}

namespace Piece

/-- The place and the size of what is saved do not depend on the group. -/
theorem Reads.drop_place (h : p.Reads cs s t) :
    cs.drop s.place = p.part ++ cs.drop t.place ∧ t.place = s.place + p.part.length ∧
      t.slots.size = s.slots.size := by
  unfold Piece.Reads at h
  cases hgroup : p.group with
  | none =>
    rw [hgroup] at h
    obtain ⟨hdrop, rfl⟩ := h
    exact ⟨hdrop, rfl, rfl⟩
  | some index =>
    rw [hgroup] at h
    obtain ⟨u, ⟨hdrop, rfl⟩, rfl⟩ := h
    exact ⟨hdrop, rfl, by simp [State.save]⟩

theorem exists_reads (hdrop : cs.drop s.place = p.part ++ rest) :
    ∃ t, p.Reads cs s t ∧ cs.drop t.place = rest := by
  have hrest : cs.drop (s.place + p.part.length) = rest := by
    rw [← List.drop_drop, hdrop, List.drop_left]
  unfold Piece.Reads
  cases p.group with
  | none => exact ⟨_, ⟨hdrop.trans (by rw [hrest]), rfl⟩, hrest⟩
  | some index => exact ⟨_, ⟨_, ⟨hdrop.trans (by rw [← hrest]; rfl), rfl⟩, rfl⟩, hrest⟩

theorem Reads.groupText?_of_ne (h : p.Reads cs s t) (hne : p.group ≠ some index) :
    groupText? cs t.slots index = groupText? cs s.slots index := by
  unfold Piece.Reads at h
  cases hgroup : p.group with
  | none =>
    rw [hgroup] at h
    obtain ⟨-, rfl⟩ := h
    rfl
  | some other =>
    rw [hgroup] at h
    obtain ⟨u, ⟨-, rfl⟩, rfl⟩ := h
    have hother : other ≠ index := fun heq => hne (hgroup.trans (congrArg some heq))
    rw [groupText?_save (by omega) (by omega)]
    exact groupText?_save (by omega) (by omega)

theorem Reads.groupText? (h : p.Reads cs s t) (hgroup : p.group = some index)
    (hsize : 2 * index + 1 < s.slots.size) : groupText? cs t.slots index = some p.part := by
  unfold Piece.Reads at h
  rw [hgroup] at h
  obtain ⟨u, ⟨hdrop, rfl⟩, rfl⟩ := h
  exact groupText?_saved hdrop hsize

end Piece

theorem ReadsAll.drop_place (h : ReadsAll cs pieces s t) :
    cs.drop s.place = pieces.flatMap Piece.part ++ cs.drop t.place := by
  induction pieces generalizing s with
  | nil =>
    obtain rfl : s = t := h
    rfl
  | cons p pieces ih =>
    obtain ⟨u, hfirst, hrest⟩ := h
    rw [hfirst.drop_place.1, ih hrest, List.flatMap_cons, List.append_assoc]

theorem ReadsAll.place_eq (h : ReadsAll cs pieces s t) :
    t.place = s.place + (pieces.flatMap Piece.part).length := by
  induction pieces generalizing s with
  | nil =>
    obtain rfl : s = t := h
    rfl
  | cons p pieces ih =>
    obtain ⟨u, hfirst, hrest⟩ := h
    rw [ih hrest, hfirst.drop_place.2.1, List.flatMap_cons, List.length_append, Nat.add_assoc]

theorem exists_readsAll (hdrop : cs.drop s.place = pieces.flatMap Piece.part ++ rest) :
    ∃ t, ReadsAll cs pieces s t ∧ cs.drop t.place = rest := by
  induction pieces generalizing s with
  | nil => exact ⟨s, rfl, hdrop⟩
  | cons p pieces ih =>
    rw [List.flatMap_cons, List.append_assoc] at hdrop
    obtain ⟨u, hfirst, hplace⟩ := Piece.exists_reads hdrop
    obtain ⟨t, hmore, ht⟩ := ih hplace
    exact ⟨t, ⟨u, hfirst, hmore⟩, ht⟩

theorem ReadsAll.groupText?_of_ne (h : ReadsAll cs pieces s t) (hne : ∀ p ∈ pieces, p.group ≠ some index) :
    groupText? cs t.slots index = groupText? cs s.slots index := by
  induction pieces generalizing s with
  | nil =>
    obtain rfl : s = t := h
    rfl
  | cons p pieces ih =>
    obtain ⟨u, hfirst, hrest⟩ := h
    obtain ⟨hp, hpieces⟩ := List.forall_mem_cons.mp hne
    rw [ih hrest hpieces, hfirst.groupText?_of_ne hp]

/-- In the end a group has captured the last of its parts. -/
theorem ReadsAll.groupText? (before : List Piece) {after : List Piece} (h : ReadsAll cs (before ++ p :: after) s t)
    (hgroup : p.group = some index) (hsize : 2 * index + 1 < s.slots.size)
    (hafter : ∀ q ∈ after, q.group ≠ some index) : groupText? cs t.slots index = some p.part := by
  induction before generalizing s with
  | nil =>
    obtain ⟨u, hfirst, hrest⟩ := h
    rw [hrest.groupText?_of_ne hafter, hfirst.groupText? hgroup hsize]
  | cons q before ih =>
    obtain ⟨u, hfirst, hrest⟩ := h
    exact ih hrest (by rwa [hfirst.drop_place.2.2])

/-! ## Whole texts -/

/-- The match reads the parts of the whole text. -/
theorem readsAll_text_iff :
    (∃ t, ReadsAll cs pieces ⟨0, slots⟩ t ∧ t.place = cs.length) ↔ cs = pieces.flatMap Piece.part := by
  constructor
  · rintro ⟨t, hreads, hend⟩
    have hdrop := hreads.drop_place
    rwa [hend, List.drop_length, List.append_nil] at hdrop
  · intro hcs
    have hdrop : cs.drop (State.mk 0 slots).place = pieces.flatMap Piece.part ++ [] := by
      rwa [List.append_nil]
    obtain ⟨t, hreads, -⟩ := exists_readsAll hdrop
    exact ⟨t, hreads, by rw [hreads.place_eq, ← hcs, Nat.zero_add]⟩

/-- What a search gives with a pattern that starts at the start of the text. -/
theorem search_textStart (text : Haystack) (e : Expression) :
    let p := Program.ofExpression (.sequence (.look .textStart) e)
    let s : State := (Program.startAt (.sequence (.look .textStart) e) 0).save 0
    (∃ t, e.Matches text s t ∧ p.search text 0 = some (t.save 1).slots) ∨
      (∀ t, ¬ e.Matches text s t) ∧ p.search text 0 = none := by
  intro p s
  cases hsearch : p.search text 0 with
  | some slots =>
    obtain ⟨place, finish, -, -, ⟨u, ⟨v, ⟨hstart, rfl⟩, hmatch⟩, hend⟩, -⟩ := Program.search_eq_some hsearch
    obtain rfl : place = 0 := of_decide_eq_true hstart
    exact .inl ⟨u, hmatch, congrArg (fun t => some t.slots) hend⟩
  | none =>
    refine .inr ⟨fun t ht => ?_, rfl⟩
    refine Program.search_eq_none_iff.mp hsearch 0 (Nat.le_refl _) (Nat.zero_le _) (t.save 1) ?_
    exact ⟨t, ⟨s, ⟨by simp [Haystack.holds, State.save, Program.startAt], rfl⟩, ht⟩, rfl⟩

/-- An answer that agrees with the first match of such a pattern, and is missing where there is none. -/
theorem eq_search_bind {α : Type} {text : Haystack} {answer : Option α} {groups : Slots → Option α}
    (e : Expression)
    (hfound : ∀ t, e.Matches text ((Program.startAt (.sequence (.look .textStart) e) 0).save 0) t →
      answer = groups (t.save 1).slots)
    (hmissing : (∀ t, ¬ e.Matches text ((Program.startAt (.sequence (.look .textStart) e) 0).save 0) t) →
      answer = none) :
    answer = ((Program.ofExpression (.sequence (.look .textStart) e)).search text 0).bind groups := by
  rcases search_textStart text e with ⟨t, hmatch, hsearch⟩ | ⟨hnone, hsearch⟩
  · rw [hsearch, hfound t hmatch, Option.bind_some]
  · rw [hsearch, hmissing hnone, Option.bind_none]

end Pattern

end ConfigKit
