-- SUMMARY: The truth of an expression, said by its grammar.
import ConfigKit.Condition.Solve
import ConfigKit.Proofs.Condition.Grammar

/-!
# The truth of expressions

An expression is true exactly when it is the text of a layout between the wrapper's brackets, holds no
line feed there, and the comparison of the layout holds in the environment.
-/

namespace ConfigKit

namespace Condition

/-! ## The wrapper -/

/-- A body between the brackets of an expression. -/
def wrapped (body : String) : String := "$\x7b" ++ body ++ "\x7d"

theorem toList_wrapped (body : String) :
    (wrapped body).toList = '$' :: '\x7b' :: (body.toList ++ ['\x7d']) := by
  simp [wrapped, String.toList_append]

theorem unwrapChars?_eq_some_iff {cs body : List Char} :
    unwrapChars? cs = some body ↔
      cs = '$' :: '\x7b' :: (body ++ ['\x7d']) ∧ body ≠ [] ∧ '\n' ∉ body := by
  constructor
  · intro h
    unfold unwrapChars? at h
    split at h
    · rename_i rest
      split at h
      · rename_i hrest
        obtain ⟨hlast, hlength, hline⟩ := hrest
        obtain ⟨inner, rfl⟩ := List.getLast?_eq_some_iff.mp hlast
        rw [List.dropLast_concat] at h
        cases h
        refine ⟨rfl, ?_, fun hmem => hline (List.mem_append_left _ hmem)⟩
        rintro rfl
        simp at hlength
      · cases h
    · cases h
  · rintro ⟨rfl, hbody, hline⟩
    have hlength : 0 < body.length := List.length_pos_iff.mpr hbody
    simp [unwrapChars?, hline, hlength]

theorem unwrap?_eq_some_iff {expression body : String} :
    unwrap? expression = some body ↔
      expression = wrapped body ∧ body ≠ "" ∧ '\n' ∉ body.toList := by
  have hchars : unwrap? expression = some body ↔
      unwrapChars? expression.toList = some body.toList := by
    rw [unwrap?, Option.map_eq_some_iff]
    constructor
    · rintro ⟨cs, hcs, rfl⟩
      rw [hcs, String.toList_ofList]
    · exact fun h => ⟨_, h, String.ofList_toList⟩
  rw [hchars, unwrapChars?_eq_some_iff, ← toList_wrapped, String.toList_inj, ne_eq, ne_eq,
    String.toList_eq_nil_iff]

/-! ## Reading an expression -/

theorem ofExpression_eq_ok_iff {expression : String} {c : Condition} :
    ofExpression expression = .ok c ↔ ∃ body, unwrap? expression = some body ∧ parse? body = some c := by
  unfold ofExpression
  cases unwrap? expression with
  | none => simp
  | some body =>
    cases hparse : parse? body with
    | none => simp [hparse]
    | some d => simp [hparse]

theorem Layout.text_ne_empty (l : Layout) : l.text ≠ "" := by
  intro h
  obtain ⟨first, rest, hname, -⟩ := l.identifier_name
  have hchars := l.toList_text
  rw [h, hname] at hchars
  simp at hchars

/-- Reading an expression accepts exactly the wrapped texts of layouts without a line feed. -/
theorem ofExpression_eq_ok_iff_layout {expression : String} {c : Condition} :
    ofExpression expression = .ok c ↔
      ∃ l : Layout, expression = wrapped l.text ∧ '\n' ∉ l.text.toList ∧ c = l.condition := by
  rw [ofExpression_eq_ok_iff]
  constructor
  · rintro ⟨body, hwrap, hparse⟩
    obtain ⟨l, rfl, rfl⟩ := parse?_eq_some_iff.mp hparse
    obtain ⟨hexpr, -, hline⟩ := unwrap?_eq_some_iff.mp hwrap
    exact ⟨l, hexpr, hline, rfl⟩
  · rintro ⟨l, hexpr, hline, rfl⟩
    exact ⟨l.text, unwrap?_eq_some_iff.mpr ⟨hexpr, l.text_ne_empty, hline⟩,
      parse?_eq_some_iff.mpr ⟨l, rfl, rfl⟩⟩

/-! ## The truth value -/

theorem evaluate_iff (c : Condition) (env : Environment) :
    c.evaluate env = true ↔
      (c.comparison = .equal ∧ c.leftText env = c.right)
        ∨ (c.comparison = .notEqual ∧ c.leftText env ≠ c.right) := by
  unfold evaluate
  cases c.comparison with
  | equal => simp
  | notEqual => simp

namespace Layout

/-- The text that the name stands for: that of the variable, empty if it is absent, or the name. -/
def leftText (l : Layout) (env : Environment) : String :=
  if l.isEnv then (env l.name).getD "" else l.name

/-- The left text and the value compare as the layout says. -/
def Holds (l : Layout) (env : Environment) : Prop :=
  (l.comparison = .equal ∧ l.leftText env = l.value)
    ∨ (l.comparison = .notEqual ∧ l.leftText env ≠ l.value)

theorem leftText_condition (l : Layout) (env : Environment) :
    l.condition.leftText env = l.leftText env := by
  unfold Condition.leftText leftText condition operand
  cases l.isEnv <;> rfl

theorem evaluate_condition_iff (l : Layout) (env : Environment) :
    l.condition.evaluate env = true ↔ l.Holds env := by
  rw [evaluate_iff, leftText_condition]
  rfl

end Layout

theorem solve_fst_eq_true_iff_ofExpression (expression : String) (env : Environment) :
    (solve expression env).1 = true ↔
      ∃ c, ofExpression expression = .ok c ∧ c.evaluate env = true := by
  unfold solve
  cases ofExpression expression with
  | ok c => simp
  | error failure => simp

/-- An expression is true exactly when it is a wrapped layout, on one line, whose comparison holds. Every
other text is false. -/
theorem solve_eq_true_iff (expression : String) (env : Environment) :
    (solve expression env).1 = true ↔
      ∃ l : Layout, expression = wrapped l.text ∧ '\n' ∉ l.text.toList ∧ l.Holds env := by
  rw [solve_fst_eq_true_iff_ofExpression]
  constructor
  · rintro ⟨c, hread, heval⟩
    obtain ⟨l, hexpr, hline, rfl⟩ := ofExpression_eq_ok_iff_layout.mp hread
    exact ⟨l, hexpr, hline, (l.evaluate_condition_iff env).mp heval⟩
  · rintro ⟨l, hexpr, hline, hholds⟩
    exact ⟨l.condition, ofExpression_eq_ok_iff_layout.mpr ⟨l, hexpr, hline, rfl⟩,
      (l.evaluate_condition_iff env).mpr hholds⟩

end Condition

end ConfigKit
