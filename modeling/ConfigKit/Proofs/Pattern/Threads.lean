-- SUMMARY: A search tries every choice of a program that matters: it finds the leftmost place from which some thread comes to a match.
import Mathlib.Data.Finset.Prod
import ConfigKit.Pattern.Search

/-!
# Threads of a search

A thread comes to a match if the right choices lead it there (`Comes`). A search makes the choices one after
the other, and where it has tried an instruction at a place it does not try it there again. The main result
`finds_search` says that it misses nothing by this: it gives a match from the first place from which a
thread comes to one, and none only if there is no such place.
-/

namespace ConfigKit

namespace Pattern

/-- Where a thread stands in the program and in the text. What it has saved makes no difference to where it
can go. -/
def Thread.spot (t : Thread) : Nat × Nat := (t.next, t.place)

namespace Program

variable {p : Program} {code : Array Instruction} {text : Haystack} {t u : Thread} {slots : Slots}
  {more threads : List Thread} {tried : Std.HashSet (Nat × Nat)} {fuel place : Nat}

/-- The thread comes to a match in so many steps, with these places saved. -/
inductive Comes (code : Array Instruction) (text : Haystack) : Nat → Thread → Slots → Prop where
  | accept {t : Thread} (h : step? code text t = none) : Comes code text 0 t t.slots
  | step {n : Nat} {t next : Thread} {more : List Thread} {slots : Slots}
      (h : step? code text t = some more) (hnext : next ∈ more) (hrest : Comes code text n next slots) :
      Comes code text (n + 1) t slots

/-- The thread comes to some match. -/
def Succeeds (code : Array Instruction) (text : Haystack) (t : Thread) : Prop :=
  ∃ n slots, Comes code text n t slots

/-! ## One step -/

theorem map_spot_step? (code : Array Instruction) (text : Haystack) (h : t.spot = u.spot) :
    (step? code text t).map (List.map Thread.spot) = (step? code text u).map (List.map Thread.spot) := by
  obtain ⟨next, place, slots⟩ := t
  obtain ⟨next', place', slots'⟩ := u
  obtain ⟨rfl, rfl⟩ : next = next' ∧ place = place' := by simpa [Thread.spot] using h
  simp only [step?]
  cases code[next]? with
  | none => rfl
  | some instruction =>
    cases instruction with
    | accept => rfl
    | char set next =>
      simp only
      cases text[place]? with
      | none => rfl
      | some c =>
        simp only
        split <;> rfl
    | look condition next =>
      simp only
      split <;> rfl
    | save slot next => rfl
    | fork preferred other => rfl

/-- A step leads nowhere, to one thread, or to two at the same place. -/
theorem step?_cases (h : step? code text t = some more) :
    more = [] ∨
    (∃ next, more = [next] ∧ (next.place = t.place ∨ t.place < text.size ∧ next.place = t.place + 1)) ∨
    ∃ preferred other, more = [preferred, other] ∧ preferred.place = t.place ∧ other.place = t.place := by
  unfold step? at h
  split at h <;> try cases h
  · exact .inl rfl
  · split at h <;> cases h
    · rename_i c hc
      split
      · exact .inr (.inl ⟨_, rfl, .inr ⟨(Array.getElem?_eq_some_iff.mp hc).1, rfl⟩⟩)
      · exact .inl rfl
    · exact .inl rfl
  · split
    · exact .inr (.inl ⟨_, rfl, .inl rfl⟩)
    · exact .inl rfl
  · exact .inr (.inl ⟨_, rfl, .inl rfl⟩)
  · exact .inr (.inr ⟨_, _, rfl, rfl, rfl⟩)

theorem length_le_of_step? (h : step? code text t = some more) : more.length ≤ 2 := by
  rcases step?_cases h with rfl | ⟨next, rfl, -⟩ | ⟨preferred, other, rfl, -⟩ <;> simp

theorem eq_nil_of_size_le (hsize : code.size ≤ t.next) (h : step? code text t = some more) : more = [] := by
  rw [step?, Array.getElem?_eq_none hsize] at h
  cases h
  rfl

theorem place_le_of_step? (hplace : t.place ≤ text.size) (h : step? code text t = some more) :
    ∀ next ∈ more, next.place ≤ text.size := by
  rcases step?_cases h with rfl | ⟨next, rfl, hnext⟩ | ⟨preferred, other, rfl, hpreferred, hother⟩
  · simp
  · rw [List.forall_mem_singleton]
    omega
  · simp [hpreferred, hother, hplace]

/-! ## What has been tried -/

/-- From every spot that has been tried a step leads to tried spots again, or to one of the threads that are
still to be continued. -/
def Closed (code : Array Instruction) (text : Haystack) (tried : Std.HashSet (Nat × Nat))
    (threads : List Thread) : Prop :=
  ∀ t : Thread, tried.contains t.spot = true → ∃ more, step? code text t = some more ∧
    ∀ next ∈ more, tried.contains next.spot = true ∨ next.spot ∈ threads.map Thread.spot

theorem closed_empty (code : Array Instruction) (text : Haystack) : Closed code text {} [] := by
  intro t ht
  simp at ht

/-- When no thread is left, none of those that have been tried comes to a match. -/
theorem Closed.not_succeeds (h : Closed code text tried []) (ht : tried.contains t.spot = true) :
    ¬ Succeeds code text t := by
  rintro ⟨n, slots, hcomes⟩
  induction hcomes with
  | accept hstep =>
    obtain ⟨more, hmore, -⟩ := h _ ht
    rw [hstep] at hmore
    cases hmore
  | step hstep hnext hrest ih =>
    obtain ⟨more, hmore, hclosed⟩ := h _ ht
    rw [hstep] at hmore
    cases hmore
    exact ih ((hclosed _ hnext).resolve_right (by simp))

theorem Closed.of_tried (h : Closed code text tried (t :: threads)) (ht : tried.contains t.spot = true) :
    Closed code text tried threads := by
  intro u hu
  obtain ⟨more, hmore, hclosed⟩ := h u hu
  refine ⟨more, hmore, fun next hnext => ?_⟩
  rcases hclosed next hnext with htried | hthread
  · exact .inl htried
  · rw [List.map_cons, List.mem_cons] at hthread
    rcases hthread with hsame | hthread
    · exact .inl (hsame ▸ ht)
    · exact .inr hthread

theorem Closed.insert (h : Closed code text tried (t :: threads)) (hstep : step? code text t = some more) :
    Closed code text (tried.insert t.spot) (more ++ threads) := by
  intro u hu
  rw [Std.HashSet.contains_insert, Bool.or_eq_true, beq_iff_eq] at hu
  rw [List.map_append]
  simp only [Std.HashSet.contains_insert, Bool.or_eq_true, beq_iff_eq, List.mem_append]
  rcases hu with hsame | hu
  · -- Its own steps, and those of a thread that differs in what it has saved, are the threads put in front.
    have hspots := map_spot_step? code text hsame
    rw [hstep] at hspots
    cases hother : step? code text u with
    | none =>
      rw [hother] at hspots
      cases hspots
    | some others =>
      refine ⟨others, rfl, fun next hnext => .inr (.inl ?_)⟩
      rw [hother] at hspots
      rw [Option.some.inj hspots]
      exact List.mem_map_of_mem hnext
  · obtain ⟨others, hothers, hclosed⟩ := h u hu
    refine ⟨others, hothers, fun next hnext => ?_⟩
    rcases hclosed next hnext with htried | hthread
    · exact .inl (.inr htried)
    · rw [List.map_cons, List.mem_cons] at hthread
      rcases hthread with hsame | hthread
      · exact .inl (.inl hsame.symm)
      · exact .inr (.inr hthread)

/-! ## What is left to do -/

/-- The spots that are yet to be tried. -/
def untried (code : Array Instruction) (text : Haystack) (tried : Std.HashSet (Nat × Nat)) :
    Finset (Nat × Nat) :=
  (Finset.range code.size ×ˢ Finset.range (text.size + 1)).filter fun spot => tried.contains spot = false

/-- A bound for the steps of a run: two for every spot that is yet to be tried, one for each thread, and two
for each place where threads are yet to start. -/
def work (code : Array Instruction) (text : Haystack) (tried : Std.HashSet (Nat × Nat)) (place : Nat)
    (threads : List Thread) : Nat :=
  2 * (untried code text tried).card + threads.length + 2 * (text.size + 1 - place)

theorem card_untried_insert (hnext : t.next < code.size) (hplace : t.place ≤ text.size)
    (hnew : tried.contains t.spot = false) :
    (untried code text (tried.insert t.spot)).card < (untried code text tried).card := by
  refine Finset.card_lt_card (Finset.ssubset_iff_of_subset ?_ |>.mpr ⟨t.spot, ?_, ?_⟩)
  · intro spot hspot
    simp only [untried, Finset.mem_filter, Std.HashSet.contains_insert, Bool.or_eq_false_iff] at hspot ⊢
    exact ⟨hspot.1, hspot.2.2⟩
  · exact Finset.mem_filter.mpr
      ⟨Finset.mem_product.mpr ⟨Finset.mem_range.mpr hnext, Finset.mem_range.mpr (Nat.lt_succ_of_le hplace)⟩, hnew⟩
  · simp [untried]

theorem work_insert (hplace : t.place ≤ text.size) (hnew : tried.contains t.spot = false)
    (hstep : step? code text t = some more) :
    work code text (tried.insert t.spot) place (more ++ threads) < work code text tried place (t :: threads) := by
  unfold work
  rw [List.length_append, List.length_cons]
  by_cases hnext : t.next < code.size
  · have hfewer := card_untried_insert hnext hplace hnew
    have hlength := length_le_of_step? hstep
    omega
  · -- Outside of the program a thread ends at once.
    have hsubset : untried code text (tried.insert t.spot) ⊆ untried code text tried := by
      intro spot hspot
      simp only [untried, Finset.mem_filter, Std.HashSet.contains_insert, Bool.or_eq_false_iff] at hspot ⊢
      exact ⟨hspot.1, hspot.2.2⟩
    have hfewer := Finset.card_le_card hsubset
    rw [eq_nil_of_size_le (Nat.not_lt.mp hnext) hstep, List.length_nil]
    omega

theorem work_start_lt (p : Program) (text : Haystack) (start : Nat) :
    work p.code text {} start [] < p.stepBound text := by
  have hcard : (untried p.code text {}).card ≤ p.code.size * (text.size + 1) := by
    refine (Finset.card_filter_le _ _).trans_eq ?_
    rw [Finset.card_product, Finset.card_range, Finset.card_range]
  unfold work stepBound
  rw [List.length_nil, Nat.mul_assoc, Nat.add_mul]
  omega

/-! ## Runs -/

theorem run_tried (ht : tried.contains t.spot = true) :
    run p text (fuel + 1) tried place (t :: threads) = run p text fuel tried place threads := by
  rw [run]
  exact if_pos ht

theorem run_accept (ht : ¬ tried.contains t.spot = true) (hstep : step? p.code text t = none) :
    run p text (fuel + 1) tried place (t :: threads) = some t.slots := by
  rw [run, hstep]
  exact if_neg ht

theorem run_step (ht : ¬ tried.contains t.spot = true) (hstep : step? p.code text t = some more) :
    run p text (fuel + 1) tried place (t :: threads) =
      run p text fuel (tried.insert t.spot) place (more ++ threads) := by
  rw [run, hstep]
  exact if_neg ht

/-- A run goes on without threads, after those that it had led to no match. -/
structure Exhausts (p : Program) (text : Haystack) (fuel : Nat) (tried : Std.HashSet (Nat × Nat))
    (place : Nat) (threads : List Thread) (fuel' : Nat) (tried' : Std.HashSet (Nat × Nat)) : Prop where
  run_eq : run p text fuel tried place threads = run p text fuel' tried' place []
  closed : Closed p.code text tried' []
  covers : ∀ spot, tried.contains spot = true ∨ spot ∈ threads.map Thread.spot → tried'.contains spot = true
  work_lt : work p.code text tried' place [] < fuel'

namespace Exhausts

variable {fuel' : Nat} {tried' : Std.HashSet (Nat × Nat)}

theorem of_tried (ht : tried.contains t.spot = true)
    (h : Exhausts p text fuel tried place threads fuel' tried') :
    Exhausts p text (fuel + 1) tried place (t :: threads) fuel' tried' where
  run_eq := (run_tried ht).trans h.run_eq
  closed := h.closed
  covers spot hspot := by
    rw [List.map_cons, List.mem_cons] at hspot
    rcases hspot with hspot | rfl | hspot
    · exact h.covers spot (.inl hspot)
    · exact h.covers _ (.inl ht)
    · exact h.covers spot (.inr hspot)
  work_lt := h.work_lt

theorem of_step (ht : ¬ tried.contains t.spot = true) (hstep : step? p.code text t = some more)
    (h : Exhausts p text fuel (tried.insert t.spot) place (more ++ threads) fuel' tried') :
    Exhausts p text (fuel + 1) tried place (t :: threads) fuel' tried' where
  run_eq := (run_step ht hstep).trans h.run_eq
  closed := h.closed
  covers spot hspot := by
    rw [List.map_cons, List.mem_cons] at hspot
    rcases hspot with hspot | rfl | hspot
    · exact h.covers spot (.inl (by simp [hspot]))
    · exact h.covers _ (.inl (by simp))
    · exact h.covers spot (.inr (by simp [hspot]))
  work_lt := h.work_lt

end Exhausts

/-- A run ends with a match that one of its threads comes to, or goes on without them. -/
theorem run_threads (hclosed : Closed p.code text tried threads)
    (hplaces : ∀ t ∈ threads, t.place ≤ text.size) (hwork : work p.code text tried place threads < fuel) :
    (∃ t ∈ threads, ∃ n slots, Comes p.code text n t slots ∧
        run p text fuel tried place threads = some slots) ∨
      ∃ fuel' tried', Exhausts p text fuel tried place threads fuel' tried' := by
  induction fuel generalizing tried threads with
  | zero => exact absurd hwork (Nat.not_lt_zero _)
  | succ fuel ih =>
    cases threads with
    | nil =>
      refine .inr ⟨fuel + 1, tried, rfl, hclosed, fun spot hspot => ?_, hwork⟩
      exact hspot.resolve_right (by simp)
    | cons t threads =>
      obtain ⟨hplace, hrest⟩ := List.forall_mem_cons.mp hplaces
      by_cases ht : tried.contains t.spot = true
      · have hless : work p.code text tried place threads < fuel := by
          unfold work at hwork ⊢
          rw [List.length_cons] at hwork
          omega
        rcases ih (hclosed.of_tried ht) hrest hless with
          ⟨u, hu, n, slots, hcomes, hfound⟩ | ⟨fuel', tried', hexhausts⟩
        · exact .inl ⟨u, List.mem_cons_of_mem t hu, n, slots, hcomes, (run_tried ht).trans hfound⟩
        · exact .inr ⟨fuel', tried', hexhausts.of_tried ht⟩
      cases hstep : step? p.code text t with
      | none => exact .inl ⟨t, List.mem_cons_self, 0, t.slots, .accept hstep, run_accept ht hstep⟩
      | some more =>
        have hless := Nat.lt_of_lt_of_le (work_insert hplace (by simpa using ht) hstep)
          (Nat.le_of_lt_succ hwork)
        have hall : ∀ u ∈ more ++ threads, u.place ≤ text.size :=
          List.forall_mem_append.mpr ⟨place_le_of_step? hplace hstep, hrest⟩
        rcases ih (hclosed.insert hstep) hall hless with
          ⟨u, hu, n, slots, hcomes, hfound⟩ | ⟨fuel', tried', hexhausts⟩
        · left
          rcases List.mem_append.mp hu with hu | hu
          · exact ⟨t, List.mem_cons_self, n + 1, slots, .step hstep hu hcomes, (run_step ht hstep).trans hfound⟩
          · exact ⟨u, List.mem_cons_of_mem t hu, n, slots, hcomes, (run_step ht hstep).trans hfound⟩
        · exact .inr ⟨fuel', tried', hexhausts.of_step ht hstep⟩

/-- What a search from a place on gives. -/
inductive Finds (p : Program) (text : Haystack) (start : Nat) : Option Slots → Prop where
  /-- A match from the first place from which there is one. -/
  | found {place n : Nat} {slots : Slots} (hfrom : start ≤ place) (hto : place ≤ text.size)
      (hcomes : Comes p.code text n (p.threadAt place) slots)
      (hfirst : ∀ earlier, start ≤ earlier → earlier < place → ¬ Succeeds p.code text (p.threadAt earlier)) :
      Finds p text start (some slots)
  | missing (h : ∀ place, start ≤ place → place ≤ text.size → ¬ Succeeds p.code text (p.threadAt place)) :
      Finds p text start none

theorem Finds.of_next {result : Option Slots} (hhere : ¬ Succeeds p.code text (p.threadAt place))
    (h : Finds p text (place + 1) result) : Finds p text place result := by
  cases h with
  | found hfrom hto hcomes hfirst =>
    refine .found (Nat.le_of_succ_le hfrom) hto hcomes fun earlier hearlier hbefore => ?_
    rcases Nat.eq_or_lt_of_le hearlier with rfl | hlater
    · exact hhere
    · exact hfirst earlier hlater hbefore
  | missing hmissing =>
    refine .missing fun later hfrom hto => ?_
    rcases Nat.eq_or_lt_of_le hfrom with rfl | hlater
    · exact hhere
    · exact hmissing later hlater hto

theorem finds_run (hclosed : Closed p.code text tried []) (hwork : work p.code text tried place [] < fuel) :
    Finds p text place (run p text fuel tried place []) := by
  induction hleft : text.size + 1 - place generalizing fuel tried place with
  | zero =>
    have hend : ¬ place ≤ text.size := by omega
    have hrun : run p text fuel tried place [] = none := by
      cases fuel with
      | zero => rfl
      | succ fuel => rw [run, if_neg hend]
    rw [hrun]
    exact .missing fun later hfrom hto => absurd (hfrom.trans hto) hend
  | succ left ih =>
    have hplace : place ≤ text.size := by omega
    obtain ⟨fuel, rfl⟩ : ∃ less, fuel = less + 1 := ⟨fuel - 1, by omega⟩
    have hstarted : Closed p.code text tried [p.threadAt place] := by
      intro t ht
      obtain ⟨more, hmore, hnext⟩ := hclosed t ht
      exact ⟨more, hmore, fun next hmem => .inl ((hnext next hmem).resolve_right (by simp))⟩
    have hless : work p.code text tried (place + 1) [p.threadAt place] < fuel := by
      unfold work at hwork ⊢
      rw [List.length_singleton]
      rw [List.length_nil] at hwork
      omega
    rw [run, if_pos hplace]
    rcases run_threads hstarted (by simpa [threadAt] using hplace) hless with
      ⟨t, ht, n, slots, hcomes, hrun⟩ | ⟨fuel', tried', hexhausts⟩
    · obtain rfl := List.mem_singleton.mp ht
      rw [hrun]
      exact .found (Nat.le_refl place) hplace hcomes fun earlier hfrom hbefore =>
        absurd hbefore (Nat.not_lt.mpr hfrom)
    · have hhere : ¬ Succeeds p.code text (p.threadAt place) :=
        hexhausts.closed.not_succeeds (hexhausts.covers _ (.inr (by simp)))
      rw [hexhausts.run_eq]
      exact (ih hexhausts.closed hexhausts.work_lt (by omega)).of_next hhere

/-- A search gives a match from the first place from which there is one, or there is none. -/
theorem finds_search (p : Program) (text : Haystack) (start : Nat) :
    Finds p text start (p.search text start) :=
  finds_run (closed_empty p.code text) (work_start_lt p text start)

end Program

end Pattern

end ConfigKit
