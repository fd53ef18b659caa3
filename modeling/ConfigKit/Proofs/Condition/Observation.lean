-- SUMMARY: What expressions can find out about an environment, and no more.
import ConfigKit.FieldMap.Lemmas
import ConfigKit.Proofs.Condition.RoundTrip

/-!
# What expressions observe of an environment

An expression asks an environment for one variable at most, and compares its text with a text without
blanks. So all that expressions can find out are the texts of variables with an identifier for a name, up
to telling apart texts with blanks. `solve_agree_iff` says that they find out exactly that much.
-/

namespace ConfigKit

/-- The text of a variable in an environment, empty if there is no such variable. -/
def Environment.textOf (env : Environment) (name : String) : String := (env name).getD ""

namespace Condition

/-- Some character has the Unicode property `White_Space`. -/
def HoldsBlank (text : String) : Prop := ∃ c ∈ text.toList, c.isBlank = true

theorem holdsBlank_iff {text : String} : HoldsBlank text ↔ ¬ IsSolidRun text := by
  simp [HoldsBlank, IsSolidRun]

/-- No comparison with a text without blanks tells the two apart. -/
def Alike (text other : String) : Prop := text = other ∨ (HoldsBlank text ∧ HoldsBlank other)

theorem Alike.eq_iff {text other value : String} (h : Alike text other) (hvalue : IsSolidRun value) :
    text = value ↔ other = value := by
  rcases h with rfl | ⟨htext, hother⟩
  · exact Iff.rfl
  · rw [holdsBlank_iff] at htext hother
    constructor
    · rintro rfl
      exact absurd hvalue htext
    · rintro rfl
      exact absurd hvalue hother

/-- Texts that are alike are all that comparisons with texts without blanks leave. -/
theorem alike_of_forall_eq_iff {text other : String}
    (h : ∀ value, IsSolidRun value → (text = value ↔ other = value)) : Alike text other := by
  by_cases htext : IsSolidRun text
  · exact .inl ((h text htext).mp rfl).symm
  · by_cases hother : IsSolidRun other
    · exact .inl ((h other hother).mpr rfl)
    · exact .inr ⟨holdsBlank_iff.mpr htext, holdsBlank_iff.mpr hother⟩

/-! ## From environments to expressions -/

theorem isIdentifier_and_isSolidRun_of_ofExpression {expression : String} {c : Condition}
    (h : ofExpression expression = .ok c) : IsIdentifier c.left.content ∧ IsSolidRun c.right := by
  obtain ⟨l, -, -, rfl⟩ := ofExpression_eq_ok_iff_layout.mp h
  exact ⟨l.isIdentifier_content, l.solid_value⟩

theorem evaluate_eq_of_leftText {c : Condition} {env other : Environment}
    (h : c.leftText env = c.right ↔ c.leftText other = c.right) :
    c.evaluate env = c.evaluate other := by
  rw [Bool.eq_iff_iff, evaluate_iff, evaluate_iff, h, ne_eq, ne_eq, h]

/-- The two environments have texts that are alike for every name that expressions can ask for. -/
def Agree (env other : Environment) : Prop :=
  ∀ name, IsIdentifier name → Alike (env.textOf name) (other.textOf name)

theorem Agree.evaluate_eq {env other : Environment} (h : Agree env other) {c : Condition}
    (hleft : IsIdentifier c.left.content) (hright : IsSolidRun c.right) :
    c.evaluate env = c.evaluate other := by
  refine evaluate_eq_of_leftText ?_
  obtain ⟨left, comparison, right⟩ := c
  cases left with
  | literal text => exact Iff.rfl
  | env name => exact (h name hleft).eq_iff hright

theorem Agree.solve_eq {env other : Environment} (h : Agree env other) (expression : String) :
    solve expression env = solve expression other := by
  unfold solve
  cases hread : ofExpression expression with
  | error failure => rfl
  | ok c =>
    obtain ⟨hleft, hright⟩ := isIdentifier_and_isSolidRun_of_ofExpression hread
    simp only [h.evaluate_eq hleft hright]

/-! ## From expressions to environments -/

/-- The written form of a condition without blanks is an expression for it: it has no line feed. -/
theorem ofExpression_wrapped_text {c : Condition} (hleft : IsIdentifier c.left.content)
    (hright : IsSolidRun c.right) : ofExpression (wrapped c.text) = .ok c := by
  have htext := Layout.text_tight hleft hright
  have hcondition := Layout.condition_tight hleft hright
  refine ofExpression_eq_ok_iff_layout.mpr ⟨Layout.tight c hleft hright, by rw [htext], ?_,
    hcondition.symm⟩
  have hsame := (Layout.tight c hleft hright).withoutBlanks_text
  rw [htext, hcondition] at hsame
  rw [htext, ← hsame]
  exact newline_not_mem_withoutBlanks _

/-- The expression that asks whether a variable has a text. -/
def asks (name value : String) : String := wrapped (text ⟨.env name, .equal, value⟩)

theorem solve_asks_iff {name value : String} (hname : IsIdentifier name) (hvalue : IsSolidRun value)
    (env : Environment) : (solve (asks name value) env).1 = true ↔ env.textOf name = value := by
  have hread : ofExpression (asks name value) = .ok ⟨.env name, .equal, value⟩ :=
    ofExpression_wrapped_text hname hvalue
  have hsolve : solve (asks name value) env = (evaluate ⟨.env name, .equal, value⟩ env, []) := by
    simp only [solve, hread]
  rw [hsolve, evaluate_iff]
  simp [leftText, Environment.textOf]

theorem agree_of_solve {env other : Environment}
    (h : ∀ expression, (solve expression env).1 = (solve expression other).1) : Agree env other := by
  intro name hname
  refine alike_of_forall_eq_iff fun value hvalue => ?_
  rw [← solve_asks_iff hname hvalue, ← solve_asks_iff hname hvalue, h]

theorem solve_agree_iff {env other : Environment} :
    (∀ expression, (solve expression env).1 = (solve expression other).1) ↔ Agree env other :=
  ⟨agree_of_solve, fun h expression => by rw [h.solve_eq expression]⟩

/-! ## Maps of texts -/

/-- The map without the entry of a name. -/
def withoutName (m : TextMap) (name : String) : TextMap := FieldMap.filterKeys m (· ≠ name)

theorem textOf_insert (m : TextMap) (name value other : String) :
    (TextMap.environment (FieldMap.insert m name value)).textOf other
      = if other = name then value else m.environment.textOf other := by
  simp only [Environment.textOf, TextMap.environment, FieldMap.get?_insert]
  split <;> rfl

theorem textOf_withoutName (m : TextMap) (name other : String) :
    (withoutName m name).environment.textOf other
      = if other = name then "" else m.environment.textOf other := by
  simp only [Environment.textOf, TextMap.environment, withoutName, FieldMap.get?_filterKeys]
  by_cases h : other = name <;> simp [h]

/-- Expressions have the same values in two maps exactly if each variable with an identifier for a name has
the same text in both, an absent one counting as empty, or a text with a blank in both. So an absent
variable cannot be told from an empty one, and a variable with another name not from its absence. -/
theorem solve_observes :
    (∀ m other : TextMap,
      (∀ expression, (solve expression m.environment).1 = (solve expression other.environment).1) ↔
        ∀ name, IsIdentifier name →
          m.environment.textOf name = other.environment.textOf name ∨
            (HoldsBlank (m.environment.textOf name) ∧ HoldsBlank (other.environment.textOf name))) ∧
    (∀ (m : TextMap) (name expression : String),
      (solve expression (withoutName m name).environment).1
        = (solve expression (TextMap.environment (FieldMap.insert m name ""))).1) ∧
    ∀ (m : TextMap) (name value expression : String), ¬ IsIdentifier name →
      (solve expression (TextMap.environment (FieldMap.insert m name value))).1
        = (solve expression (withoutName m name).environment).1 := by
  refine ⟨fun m other => solve_agree_iff, fun m name => ?_, fun m name value expression hname => ?_⟩
  · refine solve_agree_iff.mpr fun other _ => .inl ?_
    rw [textOf_insert, textOf_withoutName]
  · refine solve_agree_iff.mpr (fun other hother => .inl ?_) expression
    have hne : other ≠ name := fun heq => hname (heq ▸ hother)
    rw [textOf_insert, textOf_withoutName, if_neg hne, if_neg hne]

/-- Texts with different blanks look the same, and so does a map with a variable of a name with a point. -/
theorem solve_observes_blanks :
    (∀ expression,
      (solve expression (TextMap.environment (FieldMap.ofList [("A", "x y")]))).1
        = (solve expression (TextMap.environment (FieldMap.ofList [("A", "\t")]))).1) ∧
    ¬ IsIdentifier "a.b" ∧ ∀ expression,
      (solve expression (TextMap.environment (FieldMap.insert FieldMap.empty "a.b" "1"))).1
        = (solve expression (withoutName FieldMap.empty "a.b").environment).1 := by
  have hname : ¬ IsIdentifier "a.b" := by decide
  refine ⟨(solve_observes.1 _ _).mpr fun name _ => ?_, hname,
    fun expression => solve_observes.2.2 _ _ _ expression hname⟩
  by_cases h : name = "A"
  · subst h
    refine .inr ⟨⟨' ', by decide, by decide⟩, ⟨'\t', by decide, by decide⟩⟩
  · refine .inl ?_
    have hget (value : String) :
        (TextMap.environment (FieldMap.ofList [("A", value)])).textOf name = "" :=
      (textOf_insert FieldMap.empty "A" value name).trans (if_neg h)
    rw [hget, hget]

end Condition

end ConfigKit
