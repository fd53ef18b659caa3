-- SUMMARY: Which conditions are read back from their written form, and what writing leaves of a text that was read.
import ConfigKit.Proofs.Condition.Truth

/-!
# Written conditions

Writing a condition and reading it back gives the condition exactly if its left side is an identifier and
its right side has no blanks. What reading accepts is of this kind, and its written form is the text that
was read, without the blanks.
-/

namespace ConfigKit

/-- The text or the name that an operand holds. -/
def Operand.content : Operand → String
  | .literal text => text
  | .env name => name

namespace Condition

/-- The text without its blank characters. -/
def withoutBlanks (text : String) : String :=
  String.ofList (text.toList.filter fun c => !c.isBlank)

/-! ## Layouts without blanks -/

/-- Whether the operand is a variable. -/
def isEnvOperand : Operand → Bool
  | .literal _ => false
  | .env _ => true

theorem operand_content (o : Operand) : operand (isEnvOperand o) o.content = o := by
  cases o <;> rfl

theorem content_operand (isEnv : Bool) (name : String) : (operand isEnv name).content = name := by
  cases isEnv <;> rfl

theorem text_operand (isEnv : Bool) (name : String) :
    (operand isEnv name).text = prefixText isEnv ++ name := by
  cases isEnv with
  | true => rfl
  | false => simp [operand, Operand.text, prefixText]

theorem isBlankRun_empty : IsBlankRun "" := by simp [IsBlankRun]

namespace Layout

/-- The layout of a condition that has no blanks. -/
def tight (c : Condition) (hleft : IsIdentifier c.left.content) (hright : IsSolidRun c.right) :
    Layout where
  lead := ""
  isEnv := isEnvOperand c.left
  name := c.left.content
  beforeComparison := ""
  comparison := c.comparison
  afterComparison := ""
  value := c.right
  trail := ""
  blank_lead := isBlankRun_empty
  identifier_name := hleft
  blank_beforeComparison := isBlankRun_empty
  blank_afterComparison := isBlankRun_empty
  solid_value := hright
  blank_trail := isBlankRun_empty

theorem condition_tight {c : Condition} (hleft : IsIdentifier c.left.content)
    (hright : IsSolidRun c.right) : (tight c hleft hright).condition = c := by
  simp only [condition, tight, operand_content]

theorem text_tight {c : Condition} (hleft : IsIdentifier c.left.content)
    (hright : IsSolidRun c.right) : (tight c hleft hright).text = c.text := by
  simp only [Layout.text, tight, Condition.text, String.empty_append, String.append_empty]
  rw [← text_operand, operand_content]

theorem text_condition (l : Layout) :
    l.condition.text = prefixText l.isEnv ++ l.name ++ l.comparison.text ++ l.value := by
  rw [Condition.text, condition, text_operand]

theorem isIdentifier_content (l : Layout) : IsIdentifier l.condition.left.content := by
  rw [condition, content_operand]
  exact l.identifier_name

end Layout

/-! ## Reading what was written -/

theorem parse?_text_iff (c : Condition) :
    parse? c.text = some c ↔ IsIdentifier c.left.content ∧ IsSolidRun c.right := by
  rw [parse?_eq_some_iff]
  constructor
  · rintro ⟨l, -, rfl⟩
    exact ⟨l.isIdentifier_content, l.solid_value⟩
  · rintro ⟨hleft, hright⟩
    exact ⟨Layout.tight c hleft hright, (Layout.text_tight hleft hright).symm,
      (Layout.condition_tight hleft hright).symm⟩

/-! ## Writing what was read -/

theorem filter_blankRun {text : String} (h : IsBlankRun text) :
    text.toList.filter (fun c => !c.isBlank) = [] := by
  simpa [List.filter_eq_nil_iff, IsBlankRun] using h

theorem filter_solidRun {text : String} (h : IsSolidRun text) :
    text.toList.filter (fun c => !c.isBlank) = text.toList := by
  simpa [List.filter_eq_self, IsSolidRun] using h

theorem isSolidRun_of_isIdentifier {name : String} (h : IsIdentifier name) : IsSolidRun name :=
  fun c hc => isBlank_of_isNameRest (isNameRest_of_isName (isName_iff.mpr h) c hc)

theorem isSolidRun_comparison (comparison : Comparison) : IsSolidRun comparison.text := by
  cases comparison <;> decide

theorem Layout.withoutBlanks_text (l : Layout) : withoutBlanks l.text = l.condition.text := by
  rw [← String.toList_inj, withoutBlanks, String.toList_ofList, l.toList_text]
  simp only [List.filter_append, filter_blankRun l.blank_lead, filter_blankRun l.blank_trail,
    filter_blankRun l.blank_beforeComparison, filter_blankRun l.blank_afterComparison,
    filter_solidRun (isSolidRun_prefixText l.isEnv),
    filter_solidRun (isSolidRun_of_isIdentifier l.identifier_name),
    filter_solidRun (isSolidRun_comparison l.comparison), filter_solidRun l.solid_value]
  simp [l.text_condition, String.toList_append]

theorem newline_not_mem_withoutBlanks (text : String) : '\n' ∉ (withoutBlanks text).toList := by
  intro h
  rw [withoutBlanks, String.toList_ofList] at h
  exact absurd (List.mem_filter.mp h).2 (by decide)

/-- Reading inverts writing exactly on the conditions of an identifier and a text without blanks. All that
is read is of this kind: its written form is the body without blanks, and reads back to it both as a body
and within the wrapper. -/
theorem text_inverse :
    (∀ c : Condition, parse? c.text = some c ↔ IsIdentifier c.left.content ∧ IsSolidRun c.right) ∧
    ∀ (body : String) (c : Condition), parse? body = some c →
      c.text = withoutBlanks body ∧ parse? c.text = some c ∧
        ofExpression (wrapped c.text) = .ok c := by
  refine ⟨parse?_text_iff, fun body c h => ?_⟩
  obtain ⟨l, rfl, rfl⟩ := parse?_eq_some_iff.mp h
  have hread : parse? l.condition.text = some l.condition :=
    (parse?_text_iff _).mpr ⟨l.isIdentifier_content, l.solid_value⟩
  refine ⟨l.withoutBlanks_text.symm, hread, ?_⟩
  obtain ⟨l', htext, hcondition⟩ := parse?_eq_some_iff.mp hread
  refine ofExpression_eq_ok_iff_layout.mpr ⟨l', by rw [htext], ?_, hcondition⟩
  rw [← htext, ← l.withoutBlanks_text]
  exact newline_not_mem_withoutBlanks _

/-- Blanks around the comparison disappear when the condition is written. -/
theorem text_inverse_blanks :
    parse? "env.X == y" = some ⟨.env "X", .equal, "y"⟩ ∧
      Condition.text ⟨.env "X", .equal, "y"⟩ = withoutBlanks "env.X == y" ∧
      ofExpression (wrapped "env.X==y") = .ok ⟨.env "X", .equal, "y"⟩ := by
  have hread : parse? "env.X == y" = some ⟨.env "X", .equal, "y"⟩ := by decide +kernel
  obtain ⟨htext, -, hexpr⟩ := text_inverse.2 _ _ hread
  exact ⟨hread, htext, hexpr⟩

end Condition

end ConfigKit
