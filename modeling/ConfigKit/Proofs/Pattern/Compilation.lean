-- SUMMARY: Compiler correctness for patterns: the program of an expression finds exactly what the expression matches.
import Mathlib.Logic.Relation
import ConfigKit.Pattern.Basic
import ConfigKit.Proofs.Pattern.Threads

/-!
# Programs and expressions

`Matches` says what an expression matches without any program. `Program.add` puts instructions in front of a
program, and they lead from their first one to the program behind them just as the expression matches
(`adds_add`). So a search with the program of an expression finds a match of the expression, from the
first place where there is one, and none if there is none (`search_eq_some`, `search_eq_none_iff`).
-/

namespace ConfigKit

namespace Pattern

/-- How far a match has come: the place, and the places that have been saved. -/
structure State where
  place : Nat
  slots : Slots

namespace State

def save (s : State) (slot : Nat) : State := ⟨s.place, s.slots.setIfInBounds slot (some s.place)⟩

/-- The thread that goes on from here with an instruction. -/
def thread (s : State) (next : Nat) : Thread := ⟨next, s.place, s.slots⟩

end State

/-! ## What expressions match -/

/-- The relation, so many times. -/
def Times (R : State → State → Prop) : Nat → State → State → Prop
  | 0 => Eq
  | n + 1 => Relation.Comp R (Times R n)

/-- What an expression matches: it takes the match from one state to another. A repetition is matched its
least number of times, and then some more times up to its bound. -/
def Expression.Matches (text : Haystack) : Expression → State → State → Prop
  | .empty => Eq
  | .char set => fun s t =>
    ∃ c, text[s.place]? = some c ∧ set.containsChar c = true ∧ t = ⟨s.place + 1, s.slots⟩
  | .look condition => fun s t => Haystack.holds text s.place condition = true ∧ t = s
  | .capture index body => fun s t =>
    ∃ u, body.Matches text (s.save (2 * index)) u ∧ t = u.save (2 * index + 1)
  | .repetition least most _ body => fun s t =>
    ∃ more, (∀ bound ∈ most, more ≤ bound - least) ∧ Times (body.Matches text) (least + more) s t
  | .sequence first rest => Relation.Comp (first.Matches text) (rest.Matches text)
  | .choice first rest => fun s t => first.Matches text s t ∨ rest.Matches text s t

section Times

variable {R : State → State → Prop} {s t : State}

theorem times_succ_iff {n : Nat} : Times R (n + 1) s t ↔ Relation.Comp (Times R n) R s t := by
  induction n generalizing s with
  | zero => simp [Times, Relation.Comp]
  | succ n ih =>
    constructor
    · rintro ⟨u, hfirst, hrest⟩
      obtain ⟨v, hmiddle, hlast⟩ := ih.mp hrest
      exact ⟨v, ⟨u, hfirst, hmiddle⟩, hlast⟩
    · rintro ⟨v, ⟨u, hfirst, hmiddle⟩, hlast⟩
      exact ⟨u, hfirst, ih.mpr ⟨v, hmiddle, hlast⟩⟩

theorem times_add_iff {m n : Nat} :
    Times R (m + n) s t ↔ Relation.Comp (Times R m) (Times R n) s t := by
  induction m generalizing s with
  | zero => simp [Times, Relation.Comp]
  | succ m ih =>
    rw [Nat.add_right_comm]
    constructor
    · rintro ⟨u, hfirst, hrest⟩
      obtain ⟨v, hmiddle, hlast⟩ := ih.mp hrest
      exact ⟨v, ⟨u, hfirst, hmiddle⟩, hlast⟩
    · rintro ⟨v, ⟨u, hfirst, hmiddle⟩, hlast⟩
      exact ⟨u, hfirst, ih.mpr ⟨v, hmiddle, hlast⟩⟩

end Times

namespace Program

open Expression

variable {code final : Array Instruction} {text : Haystack} {R S : State → State → Prop} {slots : Slots}
  {entry next first n : Nat} {s t : State} {e : Expression}

/-! ## From one instruction to another -/

/-- The instructions from `entry` on lead to the instruction `next`, and on the way there they take a match
from one state to another. -/
structure Leads (code : Array Instruction) (text : Haystack) (entry next : Nat) (R : State → State → Prop) :
    Prop where
  sound : ∀ {n : Nat} {s : State} {slots : Slots}, Comes code text n (s.thread entry) slots →
    ∃ t m, m ≤ n ∧ R s t ∧ Comes code text m (t.thread next) slots
  complete : ∀ {m : Nat} {s t : State} {slots : Slots}, R s t → Comes code text m (t.thread next) slots →
    ∃ n, Comes code text n (s.thread entry) slots

theorem comes_iff {thread : Thread} {more : List Thread} (h : step? code text thread = some more) :
    Comes code text n thread slots ↔ ∃ m, n = m + 1 ∧ ∃ next ∈ more, Comes code text m next slots := by
  constructor
  · intro hcomes
    cases hcomes with
    | accept hstep =>
      rw [h] at hstep
      cases hstep
    | step hstep hnext hrest =>
      rw [h] at hstep
      cases hstep
      exact ⟨_, rfl, _, hnext, hrest⟩
  · rintro ⟨m, rfl, next, hnext, hrest⟩
    exact .step h hnext hrest

namespace Leads

theorem refl (code : Array Instruction) (text : Haystack) (next : Nat) : Leads code text next next Eq where
  sound hcomes := ⟨_, _, Nat.le_refl _, rfl, hcomes⟩
  complete hsame hcomes := ⟨_, hsame ▸ hcomes⟩

theorem comp (h : Leads code text entry first R) (hrest : Leads code text first next S) :
    Leads code text entry next (Relation.Comp R S) where
  sound hcomes := by
    obtain ⟨u, m, hm, hfirst, hcomes⟩ := h.sound hcomes
    obtain ⟨t, k, hk, hsecond, hcomes⟩ := hrest.sound hcomes
    exact ⟨t, k, hk.trans hm, ⟨u, hfirst, hsecond⟩, hcomes⟩
  complete := by
    rintro m s t slots ⟨u, hfirst, hsecond⟩ hcomes
    obtain ⟨n, hcomes⟩ := hrest.complete hsecond hcomes
    exact h.complete hfirst hcomes

theorem congr (h : Leads code text entry next R) (hiff : ∀ s t, R s t ↔ S s t) :
    Leads code text entry next S where
  sound hcomes := by
    obtain ⟨t, m, hm, hmatch, hcomes⟩ := h.sound hcomes
    exact ⟨t, m, hm, (hiff _ _).mp hmatch, hcomes⟩
  complete hmatch hcomes := h.complete ((hiff _ _).mpr hmatch) hcomes

/-- An instruction that goes on in one way, if at all. -/
theorem of_step (R : State → State → Prop)
    (hsome : ∀ s, ∃ more, step? code text (s.thread entry) = some more ∧
      ∀ thread, thread ∈ more ↔ ∃ t, R s t ∧ thread = t.thread next) :
    Leads code text entry next R where
  sound := by
    intro n s slots hcomes
    obtain ⟨more, hstep, hmem⟩ := hsome s
    obtain ⟨m, rfl, thread, hthread, hrest⟩ := (comes_iff hstep).mp hcomes
    obtain ⟨t, hmatch, rfl⟩ := (hmem thread).mp hthread
    exact ⟨t, m, Nat.le_succ m, hmatch, hrest⟩
  complete := by
    intro m s t slots hmatch hcomes
    obtain ⟨more, hstep, hmem⟩ := hsome s
    exact ⟨m + 1, (comes_iff hstep).mpr ⟨m, rfl, _, (hmem _).mpr ⟨t, hmatch, rfl⟩, hcomes⟩⟩

theorem char {set : CodeRanges} (h : code[entry]? = some (.char set next)) :
    Leads code text entry next (Matches text (.char set)) := by
  refine of_step _ fun s => ?_
  cases hc : text[s.place]? with
  | none => exact ⟨[], by simp [step?, State.thread, h, hc], by simp [Matches, hc]⟩
  | some c =>
    by_cases hset : set.containsChar c = true
    · exact ⟨[(State.mk (s.place + 1) s.slots).thread next], by simp [step?, State.thread, h, hc, hset],
        by simp [Matches, hc, hset]⟩
    · exact ⟨[], by simp [step?, State.thread, h, hc, hset], by simp [Matches, hc, hset]⟩

theorem look {condition : Look} (h : code[entry]? = some (.look condition next)) :
    Leads code text entry next (Matches text (.look condition)) := by
  refine of_step _ fun s => ?_
  by_cases hholds : Haystack.holds text s.place condition = true
  · exact ⟨[s.thread next], by simp [step?, State.thread, h, hholds], by simp [Matches, hholds]⟩
  · exact ⟨[], by simp [step?, State.thread, h, hholds], by simp [Matches, hholds]⟩

theorem save {slot : Nat} (h : code[entry]? = some (.save slot next)) :
    Leads code text entry next fun s t => t = s.save slot := by
  refine of_step _ fun s => ⟨[(s.save slot).thread next], ?_, ?_⟩
  · simp [step?, State.thread, State.save, h]
  · simp

theorem step?_fork {preferred other : Nat} (h : code[entry]? = some (.fork preferred other)) (s : State) :
    step? code text (s.thread entry) = some [s.thread preferred, s.thread other] := by
  simp [step?, State.thread, h]

theorem fork {preferred other : Nat} (h : code[entry]? = some (.fork preferred other))
    (hpreferred : Leads code text preferred next R) (hother : Leads code text other next S) :
    Leads code text entry next fun s t => R s t ∨ S s t where
  sound := by
    intro n s slots hcomes
    obtain ⟨m, rfl, thread, hthread, hrest⟩ := (comes_iff (step?_fork h s)).mp hcomes
    rcases List.mem_pair.mp hthread with rfl | rfl
    · obtain ⟨t, k, hk, hmatch, hcomes⟩ := hpreferred.sound hrest
      exact ⟨t, k, hk.trans (Nat.le_succ m), .inl hmatch, hcomes⟩
    · obtain ⟨t, k, hk, hmatch, hcomes⟩ := hother.sound hrest
      exact ⟨t, k, hk.trans (Nat.le_succ m), .inr hmatch, hcomes⟩
  complete := by
    intro m s t slots hmatch hcomes
    rcases hmatch with hmatch | hmatch
    · obtain ⟨n, hrest⟩ := hpreferred.complete hmatch hcomes
      exact ⟨n + 1, (comes_iff (step?_fork h s)).mpr ⟨n, rfl, _, by simp, hrest⟩⟩
    · obtain ⟨n, hrest⟩ := hother.complete hmatch hcomes
      exact ⟨n + 1, (comes_iff (step?_fork h s)).mpr ⟨n, rfl, _, by simp, hrest⟩⟩

/-- The choice between a repeated part and what comes after it, whichever is preferred. -/
theorem loopFork {greedy : Bool} (h : code[entry]? = some (loopFork greedy first next))
    (hfirst : Leads code text first next R) :
    Leads code text entry next fun s t => R s t ∨ s = t := by
  cases greedy with
  | true => exact fork h hfirst (refl code text next)
  | false => exact (fork h (refl code text next) hfirst).congr fun s t => or_comm

/-- A loop is gone through any number of times. -/
theorem star {greedy : Bool} (h : code[entry]? = some (Program.loopFork greedy first next))
    (hfirst : Leads code text first entry R) :
    Leads code text entry next fun s t => ∃ n, Times R n s t where
  sound := by
    intro n
    induction n using Nat.strongRecOn with
    | _ n ih =>
      intro s slots hcomes
      obtain ⟨more, hstep, hmem⟩ : ∃ more, step? code text (s.thread entry) = some more ∧
          ∀ thread ∈ more, thread = s.thread first ∨ thread = s.thread next := by
        cases greedy <;> simp [step?, State.thread, h, Program.loopFork, or_comm]
      obtain ⟨m, rfl, thread, hthread, hrest⟩ := (comes_iff hstep).mp hcomes
      rcases hmem thread hthread with rfl | rfl
      · obtain ⟨u, k, hk, hmatch, hcomes⟩ := hfirst.sound hrest
        obtain ⟨t, l, hl, ⟨times, htimes⟩, hcomes⟩ := ih k (Nat.lt_succ_of_le hk) hcomes
        exact ⟨t, l, by omega, ⟨times + 1, u, hmatch, htimes⟩, hcomes⟩
      · exact ⟨s, m, Nat.le_succ m, ⟨0, rfl⟩, hrest⟩
  complete := by
    rintro m s t slots ⟨times, htimes⟩ hcomes
    have hstep (s : State) : ∃ more, step? code text (s.thread entry) = some more ∧
        s.thread first ∈ more ∧ s.thread next ∈ more := by
      cases greedy <;> simp [step?, State.thread, h, Program.loopFork]
    induction times generalizing s with
    | zero =>
      obtain rfl : s = t := htimes
      obtain ⟨more, hmore, -, hnext⟩ := hstep s
      exact ⟨m + 1, (comes_iff hmore).mpr ⟨m, rfl, _, hnext, hcomes⟩⟩
    | succ times ih =>
      obtain ⟨u, hmatch, hrest⟩ := htimes
      obtain ⟨k, hagain⟩ := ih hrest
      obtain ⟨l, hthrough⟩ := hfirst.complete hmatch hagain
      obtain ⟨more, hmore, hmem, -⟩ := hstep s
      exact ⟨l + 1, (comes_iff hmore).mpr ⟨l, rfl, _, hmem, hthrough⟩⟩

end Leads

/-! ## Instructions that are added -/

/-- The instructions that were added to a program are in the final one. -/
def Holds (final code added : Array Instruction) : Prop :=
  ∀ i, code.size ≤ i → i < added.size → final[i]? = added[i]?

/-- The fragment adds instructions to a program, and in every program that has them they lead to the
instruction `next`. -/
structure Adds (text : Haystack) (code : Array Instruction) (next : Nat) (fragment : Fragment)
    (R : State → State → Prop) : Prop where
  size_le : code.size ≤ fragment.1.size
  kept : ∀ i < code.size, fragment.1[i]? = code[i]?
  leads : ∀ final, Holds final code fragment.1 → Leads final text fragment.2 next R

namespace Adds

variable {fragment added : Fragment}

theorem refl (text : Haystack) (code : Array Instruction) (next : Nat) :
    Adds text code next (code, next) Eq where
  size_le := Nat.le_refl _
  kept _ _ := rfl
  leads final _ := .refl final text next

theorem congr (h : Adds text code next fragment R) (hiff : ∀ s t, R s t ↔ S s t) :
    Adds text code next fragment S :=
  ⟨h.size_le, h.kept, fun final hholds => (h.leads final hholds).congr hiff⟩

/-- What holds the later instructions holds the earlier ones as well. -/
theorem holds_of_holds (h : Adds text code next fragment R)
    (hadded : Adds text fragment.1 first added S) (hholds : Holds final code added.1) :
    Holds final code fragment.1 ∧ Holds final fragment.1 added.1 := by
  refine ⟨fun i hfrom hto => ?_, fun i hfrom hto => hholds i (h.size_le.trans hfrom) hto⟩
  rw [hholds i hfrom (hto.trans_le hadded.size_le), hadded.kept i hto]

theorem kept_trans (h : Adds text code next fragment R) (hadded : Adds text fragment.1 first added S) :
    ∀ i < code.size, added.1[i]? = code[i]? := by
  intro i hi
  rw [hadded.kept i (hi.trans_le h.size_le), h.kept i hi]

theorem comp (h : Adds text code next fragment S) (hadded : Adds text fragment.1 fragment.2 added R) :
    Adds text code next added (Relation.Comp R S) where
  size_le := h.size_le.trans hadded.size_le
  kept := h.kept_trans hadded
  leads final hholds := by
    obtain ⟨hfirst, hrest⟩ := h.holds_of_holds hadded hholds
    exact (hadded.leads final hrest).comp (h.leads final hfirst)

/-- A fragment in front of another one that leads past it. -/
theorem after (h : Adds text code next fragment S) (hadded : Adds text fragment.1 next added R) :
    Adds text code next added R where
  size_le := h.size_le.trans hadded.size_le
  kept := h.kept_trans hadded
  leads final hholds := hadded.leads final (h.holds_of_holds hadded hholds).2

/-- One more instruction in front of a fragment. -/
theorem push {instruction : Instruction} (h : Adds text code next fragment S)
    (hleads : ∀ final, final[fragment.1.size]? = some instruction → Holds final code fragment.1 →
      Leads final text fragment.1.size next R) :
    Adds text code next (push fragment.1 instruction) R where
  size_le := by
    simp only [Program.push, Array.size_push]
    exact h.size_le.trans (Nat.le_succ _)
  kept i hi := by
    have hbefore : i < fragment.1.size := hi.trans_le h.size_le
    simp only [Program.push]
    rw [Array.getElem?_push_lt hbefore, ← h.kept i hi, Array.getElem?_eq_getElem hbefore]
  leads final hholds := by
    have hlast : final[fragment.1.size]? = some instruction := by
      rw [hholds _ h.size_le (by simp [Program.push])]
      simp [Program.push]
    refine hleads final hlast fun i hfrom hto => ?_
    have hadded := hholds i hfrom (by simp only [Program.push, Array.size_push]; omega)
    rw [hadded]
    simp only [Program.push]
    rw [Array.getElem?_push_lt hto, Array.getElem?_eq_getElem hto]

/-- The same, so many times. -/
theorem times {add : Fragment → Fragment}
    (hadd : ∀ fragment : Fragment, Adds text fragment.1 fragment.2 (add fragment) R)
    (h : Adds text code next fragment S) (n : Nat) :
    Adds text code next (times add n fragment) (Relation.Comp (Times R n) S) := by
  induction n generalizing fragment S with
  | zero => exact h.congr fun s t => by simp [Times, Relation.Comp]
  | succ n ih =>
    refine (ih (h.comp (hadd fragment))).congr fun s t => ?_
    rw [← Relation.comp_assoc]
    simp only [Relation.Comp, times_succ_iff]

/-- A part that may be left out, in front of others that may be left out. -/
theorem optional {add : Fragment → Fragment} {greedy : Bool}
    (hadd : ∀ fragment : Fragment, Adds text fragment.1 fragment.2 (add fragment) R)
    (h : Adds text code next fragment S) :
    Adds text code next (Program.push (add fragment).1 (loopFork greedy (add fragment).2 next))
      fun s t => Relation.Comp R S s t ∨ s = t :=
  have hboth := h.comp (hadd fragment)
  hboth.push fun final hfork hholds => (hboth.leads final hholds).loopFork hfork

/-- As many as `n` more optional parts. -/
theorem optionals {add : Fragment → Fragment}
    (hadd : ∀ fragment : Fragment, Adds text fragment.1 fragment.2 (add fragment) R) (greedy : Bool) {k : Nat}
    (h : Adds text code next fragment fun s t => ∃ m ≤ k, Times R m s t) (n : Nat) :
    Adds text code next
      (Program.times (fun fragment => Program.push (add fragment).1 (loopFork greedy (add fragment).2 next)) n
        fragment)
      fun s t => ∃ m ≤ k + n, Times R m s t := by
  induction n generalizing fragment k with
  | zero => exact h
  | succ n ih =>
    rw [← Nat.add_assoc, Nat.add_right_comm]
    refine ih ((h.optional hadd).congr fun s t => ?_)
    constructor
    · rintro (⟨u, hfirst, m, hm, hrest⟩ | rfl)
      · exact ⟨m + 1, Nat.succ_le_succ hm, u, hfirst, hrest⟩
      · exact ⟨0, Nat.zero_le _, rfl⟩
    · rintro ⟨_ | m, hm, htimes⟩
      · exact .inr htimes
      · obtain ⟨u, hfirst, hrest⟩ := htimes
        exact .inl ⟨u, hfirst, m, Nat.le_of_succ_le_succ hm, hrest⟩

end Adds

/-- A fragment whose first instruction is the choice of a loop: the place of this instruction was kept while
the body was added. -/
def closeLoop (body : Fragment) (loop : Nat) (greedy : Bool) (next : Nat) : Array Instruction :=
  body.1.setIfInBounds loop (loopFork greedy body.2 next)

section Loop

variable {body : Fragment} {greedy : Bool} (h : Adds text (code.push .accept) code.size body R)
include h

theorem size_lt_of_body : code.size < body.1.size := by
  have hsize := h.size_le
  rwa [Array.size_push] at hsize

omit h in
theorem getElem?_closeLoop_of_ne {i : Nat} (hi : i ≠ code.size) :
    (closeLoop body code.size greedy next)[i]? = body.1[i]? := by
  rw [closeLoop, Array.getElem?_setIfInBounds, if_neg hi.symm]

theorem leads_of_closeLoop (hholds : Holds final code (closeLoop body code.size greedy next)) :
    final[code.size]? = some (loopFork greedy body.2 next) ∧ Leads final text body.2 code.size R := by
  have hsize := size_lt_of_body h
  constructor
  · rw [hholds _ (Nat.le_refl _) (by simpa [closeLoop] using hsize), closeLoop,
      Array.getElem?_setIfInBounds, if_pos rfl, if_pos hsize]
  · refine h.leads final fun i hfrom hto => ?_
    rw [Array.size_push] at hfrom
    rw [hholds i (Nat.le_of_succ_le hfrom) (by simpa [closeLoop] using hto),
      getElem?_closeLoop_of_ne (Nat.ne_of_gt hfrom)]

theorem adds_closeLoop {S : State → State → Prop}
    (hleads : ∀ final, final[code.size]? = some (loopFork greedy body.2 next) →
      Leads final text body.2 code.size R → Leads final text entry next S) :
    Adds text code next (closeLoop body code.size greedy next, entry) S where
  size_le := by
    have hsize := size_lt_of_body h
    simpa [closeLoop] using Nat.le_of_lt hsize
  kept i hi := by
    have hbefore : i < (code.push Instruction.accept).size := by
      rw [Array.size_push]
      exact Nat.lt_succ_of_lt hi
    simp only
    rw [getElem?_closeLoop_of_ne (Nat.ne_of_lt hi), h.kept i hbefore, Array.getElem?_push_lt hi,
      Array.getElem?_eq_getElem hi]
  leads final hholds := by
    obtain ⟨hfork, hfirst⟩ := leads_of_closeLoop h hholds
    exact hleads final hfork hfirst

/-- The loop from its choice on. -/
theorem adds_loop :
    Adds text code next (closeLoop body code.size greedy next, code.size)
      fun s t => ∃ n, Times R n s t :=
  adds_closeLoop h fun _ hfork hfirst => hfirst.star hfork

/-- The loop from its body on. -/
theorem adds_loop_body (greedy : Bool) (next : Nat) :
    Adds text code next (closeLoop body code.size greedy next, body.2)
      fun s t => ∃ n, Times R (n + 1) s t :=
  adds_closeLoop h fun _ hfork hfirst => (hfirst.comp (hfirst.star hfork)).congr fun s t => by
    constructor
    · rintro ⟨u, hone, n, hmore⟩
      exact ⟨n, u, hone, hmore⟩
    · rintro ⟨n, u, hone, hmore⟩
      exact ⟨u, hone, n, hmore⟩

end Loop

section Repetition

variable {body : Expression} (ih : ∀ fragment : Fragment,
  Adds text fragment.1 fragment.2 (add body fragment) (body.Matches text))
include ih

theorem adds_repetition_none (least : Nat) (greedy : Bool) (fragment : Fragment) :
    Adds text fragment.1 fragment.2 (add (.repetition least none greedy body) fragment)
      (Matches text (.repetition least none greedy body)) := by
  obtain ⟨code, next⟩ := fragment
  have hbody := ih (code.push .accept, code.size)
  have honce := adds_loop_body hbody greedy next
  cases least with
  | zero =>
    rw [add]
    simp only
    split
    · exact (adds_loop hbody).congr fun s t => by simp [Matches]
    · -- The choice of the loop is offered only after the body, so there is another one in front of it.
      refine (honce.push fun final hfork hholds => (honce.leads final hholds).loopFork hfork).congr fun s t => ?_
      simp only [Matches, Option.not_mem_none, false_implies, implies_true, true_and, Nat.zero_add]
      constructor
      · rintro (⟨n, hmatch⟩ | rfl)
        · exact ⟨n + 1, hmatch⟩
        · exact ⟨0, rfl⟩
      · rintro ⟨_ | n, hmatch⟩
        · exact .inr hmatch
        · exact .inl ⟨n, hmatch⟩
  | succ least =>
    refine (honce.times ih least).congr fun s t => ?_
    have hsum (n : Nat) : Times (body.Matches text) (least + 1 + n) s t ↔
        Relation.Comp (Times (body.Matches text) least) (Times (body.Matches text) (n + 1)) s t := by
      rw [Nat.add_assoc, Nat.add_comm 1, times_add_iff]
    simp only [Matches, Option.not_mem_none, false_implies, implies_true, true_and, hsum]
    constructor
    · rintro ⟨u, hfirst, n, hrest⟩
      exact ⟨n, u, hfirst, hrest⟩
    · rintro ⟨n, u, hfirst, hrest⟩
      exact ⟨u, hfirst, n, hrest⟩

theorem adds_repetition_some (least most : Nat) (greedy : Bool) (fragment : Fragment) :
    Adds text fragment.1 fragment.2 (add (.repetition least (some most) greedy body) fragment)
      (Matches text (.repetition least (some most) greedy body)) := by
  obtain ⟨code, next⟩ := fragment
  have hnone : Adds text code next (code, next) fun s t => ∃ m ≤ 0, Times (body.Matches text) m s t :=
    (Adds.refl text code next).congr fun s t => by simp [Times]
  have hmost := hnone.optionals ih greedy (most - least)
  refine (hmost.times ih least).congr fun s t => ?_
  simp only [Matches, Option.mem_some_iff, forall_eq', times_add_iff, Nat.zero_add]
  constructor
  · rintro ⟨u, hfirst, m, hm, hrest⟩
    exact ⟨m, hm, u, hfirst, hrest⟩
  · rintro ⟨m, hm, u, hfirst, hrest⟩
    exact ⟨u, hfirst, m, hm, hrest⟩

end Repetition

/-- The instructions of an expression take a match through what the expression matches. -/
theorem adds_add (text : Haystack) (e : Expression) (fragment : Fragment) :
    Adds text fragment.1 fragment.2 (add e fragment) (e.Matches text) := by
  induction e generalizing fragment with
  | empty => exact .refl text fragment.1 fragment.2
  | char set => exact (Adds.refl text fragment.1 fragment.2).push fun _ h _ => .char h
  | look condition => exact (Adds.refl text fragment.1 fragment.2).push fun _ h _ => .look h
  | capture index body ih =>
    have hclose : Adds text fragment.1 fragment.2 (push fragment.1 (.save (2 * index + 1) fragment.2))
        fun s t => t = s.save (2 * index + 1) :=
      (Adds.refl text fragment.1 fragment.2).push fun _ h _ => .save h
    have hbody := hclose.comp (ih _)
    refine (hbody.push fun final h hholds => (Leads.save h).comp (hbody.leads final hholds)).congr fun s t => ?_
    simp [Relation.Comp, Matches]
  | repetition least most greedy body ih =>
    cases most with
    | none => exact adds_repetition_none ih least greedy fragment
    | some most => exact adds_repetition_some ih least most greedy fragment
  | sequence first rest ihFirst ihRest => exact (ihRest fragment).comp (ihFirst _)
  | choice first rest ihFirst ihRest =>
    have hrest := ihRest fragment
    have hfirst := ihFirst ((add rest fragment).1, fragment.2)
    have hboth := hrest.after hfirst
    exact hboth.push fun final hfork hholds =>
      .fork hfork (hboth.leads final hholds) (hrest.leads final (hrest.holds_of_holds hfirst hholds).1)

/-! ## Whole programs -/

/-- Where a match of an expression starts: nothing has been saved. -/
def startAt (e : Expression) (place : Nat) : State := ⟨place, Array.replicate (2 * (e.lastCapture + 1)) none⟩

/-- A thread that starts a program comes to a match just if the expression matches from there. -/
theorem comes_ofExpression_iff (e : Expression) (place : Nat) (slots : Slots) :
    (∃ n, Comes (ofExpression e).code text n ((ofExpression e).threadAt place) slots) ↔
      ∃ finish, Matches text (.capture 0 e) (startAt e place) ⟨finish, slots⟩ := by
  have hadds := adds_add text (.capture 0 e) (#[.accept], 0)
  have hleads := hadds.leads (ofExpression e).code fun i _ _ => rfl
  have haccept : (ofExpression e).code[0]? = some .accept := hadds.kept 0 (by simp)
  have hend (s : State) : step? (ofExpression e).code text (s.thread 0) = none := by
    simp [step?, State.thread, haccept]
  constructor
  · rintro ⟨n, hcomes⟩
    obtain ⟨t, m, -, hmatch, hrest⟩ := hleads.sound (s := startAt e place) hcomes
    cases hrest with
    | accept => exact ⟨t.place, hmatch⟩
    | step hstep =>
      rw [hend] at hstep
      cases hstep
  · rintro ⟨finish, hmatch⟩
    exact hleads.complete hmatch (.accept (hend ⟨finish, slots⟩))

theorem succeeds_ofExpression_iff (e : Expression) (place : Nat) :
    Succeeds (ofExpression e).code text ((ofExpression e).threadAt place) ↔
      ∃ t, Matches text (.capture 0 e) (startAt e place) t := by
  constructor
  · rintro ⟨n, slots, hcomes⟩
    obtain ⟨finish, hmatch⟩ := (comes_ofExpression_iff e place slots).mp ⟨n, hcomes⟩
    exact ⟨_, hmatch⟩
  · rintro ⟨t, hmatch⟩
    obtain ⟨n, hcomes⟩ := (comes_ofExpression_iff e place t.slots).mpr ⟨t.place, hmatch⟩
    exact ⟨n, t.slots, hcomes⟩

/-- A search finds a match from the first place from which the expression matches. -/
theorem search_eq_some {e : Expression} {start : Nat}
    (h : (ofExpression e).search text start = some slots) :
    ∃ place finish, start ≤ place ∧ place ≤ text.size ∧
      Matches text (.capture 0 e) (startAt e place) ⟨finish, slots⟩ ∧
      ∀ earlier, start ≤ earlier → earlier < place → ∀ t, ¬ Matches text (.capture 0 e) (startAt e earlier) t := by
  have hfinds := finds_search (ofExpression e) text start
  rw [h] at hfinds
  cases hfinds with
  | found hfrom hto hcomes hfirst =>
    obtain ⟨finish, hmatch⟩ := (comes_ofExpression_iff e _ slots).mp ⟨_, hcomes⟩
    refine ⟨_, finish, hfrom, hto, hmatch, fun earlier hearlier hbefore t ht => ?_⟩
    exact hfirst earlier hearlier hbefore ((succeeds_ofExpression_iff e earlier).mpr ⟨t, ht⟩)

theorem search_eq_none_iff {e : Expression} {start : Nat} :
    (ofExpression e).search text start = none ↔
      ∀ place, start ≤ place → place ≤ text.size → ∀ t, ¬ Matches text (.capture 0 e) (startAt e place) t := by
  have hfinds := finds_search (ofExpression e) text start
  generalize (ofExpression e).search text start = result at hfinds
  cases hfinds with
  | found hfrom hto hcomes hfirst =>
    refine iff_of_false (by simp) fun hnone => ?_
    obtain ⟨t, hmatch⟩ := (succeeds_ofExpression_iff e _).mp ⟨_, _, hcomes⟩
    exact hnone _ hfrom hto t hmatch
  | missing hmissing =>
    refine iff_of_true rfl fun place hfrom hto t hmatch => ?_
    exact hmissing place hfrom hto ((succeeds_ofExpression_iff e place).mpr ⟨t, hmatch⟩)

end Program

/-- A pattern matches in a text just if its expression matches from some place. -/
theorem isMatch_iff (p : Pattern) (text : String) :
    p.isMatch text = true ↔ ∃ place ≤ text.toList.length, ∃ t,
      Expression.Matches text.toList.toArray (.capture 0 p.expression) (Program.startAt p.expression place) t := by
  rw [isMatch, captures?, Option.isSome_map, ← Bool.not_eq_false, Option.isSome_eq_false_iff, program,
    Option.isNone_iff_eq_none, Program.search_eq_none_iff]
  simp

end Pattern

end ConfigKit
