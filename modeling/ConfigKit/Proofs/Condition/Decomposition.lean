-- SUMMARY: The parts of a written condition are determined by its text.
import ConfigKit.Proofs.Condition.Grammar

/-!
# Taking conditions apart

A text is the text of at most one layout, but for one freedom: around an empty value, the blanks after the
comparison can be divided in several ways. The main result `parse_reads_uniquely` puts this together with
what reading accepts: the parts that make up the condition are those of every layout of the text.
-/

namespace ConfigKit

namespace Condition

theorem operand_inj {isEnv isEnv' : Bool} {name name' : String}
    (h : operand isEnv name = operand isEnv' name') : isEnv = isEnv' ∧ name = name' := by
  unfold operand at h
  cases isEnv <;> cases isEnv' <;> simp_all

namespace Layout

variable {l other : Layout}

/-- The layouts have the same parts, blanks apart. -/
structure SameParts (l other : Layout) : Prop where
  isEnv : l.isEnv = other.isEnv
  name : l.name = other.name
  comparison : l.comparison = other.comparison
  value : l.value = other.value

theorem sameParts_of_text_eq (h : l.text = other.text) : SameParts l other := by
  have hread : parse? l.text = some l.condition := ofChars?_text l
  rw [h] at hread
  have hcondition : other.condition = l.condition :=
    Option.some.inj ((ofChars?_text other).symm.trans hread)
  obtain ⟨hleft, hcomparison, hvalue⟩ := Condition.mk.inj hcondition
  obtain ⟨hisEnv, hname⟩ := operand_inj hleft
  exact ⟨hisEnv.symm, hname.symm, hcomparison.symm, hvalue.symm⟩

/-! ## Blanks -/

theorem takeWhile_isBlank_text (l : Layout) :
    l.text.toList.takeWhile Char.isBlank = l.lead.toList := by
  rw [toList_text]
  exact takeWhile_append_stops l.blank_lead
    (stops_append (isSolidRun_prefixText _) (stops_isBlank_name l.identifier_name _))

theorem lead_eq (h : l.text = other.text) : l.lead = other.lead := by
  rw [← String.toList_inj, ← takeWhile_isBlank_text, h, takeWhile_isBlank_text]

/-- A run of blanks before a comparison ends at the comparison. -/
theorem eq_of_blanks_append {blanks blanks' : String} (hblanks : IsBlankRun blanks)
    (hblanks' : IsBlankRun blanks') (comparison : Comparison) {rest rest' : List Char}
    (h : blanks.toList ++ (comparison.text.toList ++ rest)
      = blanks'.toList ++ (comparison.text.toList ++ rest')) :
    blanks = blanks' ∧ rest = rest' := by
  have hstops (rest : List Char) : Stops Char.isBlank (comparison.text.toList ++ rest) :=
    stops_comparison comparison rest (by decide) (by decide)
  have hsame : blanks.toList = blanks'.toList := by
    rw [← takeWhile_append_stops hblanks (hstops rest), h,
      takeWhile_append_stops hblanks' (hstops rest')]
  rw [hsame] at h
  exact ⟨String.toList_inj.mp hsame, List.append_cancel_left (List.append_cancel_left h)⟩

/-- The first character of a value ends the blanks before it. -/
theorem stops_isBlank_solid {value : String} (hsolid : IsSolidRun value) (hvalue : value ≠ "")
    (rest : List Char) : Stops Char.isBlank (value.toList ++ rest) := by
  obtain ⟨first, more, hchars⟩ := List.exists_cons_of_ne_nil (mt String.toList_eq_nil_iff.mp hvalue)
  intro c hc
  obtain rfl : first = c := by simpa [hchars] using hc
  exact hsolid first (by simp [hchars])

theorem beforeComparison_and_rest (h : l.text = other.text) :
    l.beforeComparison = other.beforeComparison ∧
      l.afterComparison.toList ++ (l.value.toList ++ l.trail.toList)
        = other.afterComparison.toList ++ (l.value.toList ++ other.trail.toList) := by
  have hsame := sameParts_of_text_eq h
  have htext := congrArg String.toList h
  rw [toList_text, toList_text, lead_eq h, ← hsame.isEnv, ← hsame.name, ← hsame.comparison,
    ← hsame.value] at htext
  have hname := List.append_cancel_left (List.append_cancel_left (List.append_cancel_left htext))
  exact eq_of_blanks_append l.blank_beforeComparison other.blank_beforeComparison l.comparison hname

/-- The layouts have the same blanks. Those around an empty value may be divided differently. -/
structure SameBlanks (l other : Layout) : Prop where
  lead : l.lead = other.lead
  beforeComparison : l.beforeComparison = other.beforeComparison
  around_value : l.afterComparison ++ l.trail = other.afterComparison ++ other.trail
  divided : l.value ≠ "" → l.afterComparison = other.afterComparison ∧ l.trail = other.trail

theorem sameBlanks_of_text_eq (h : l.text = other.text) : SameBlanks l other := by
  obtain ⟨hbefore, hrest⟩ := beforeComparison_and_rest h
  by_cases hvalue : l.value = ""
  · rw [hvalue] at hrest
    refine ⟨lead_eq h, hbefore, ?_, fun hne => absurd hvalue hne⟩
    rw [← String.toList_inj, String.toList_append, String.toList_append]
    simpa using hrest
  · have hstops (trail : List Char) := stops_isBlank_solid l.solid_value hvalue trail
    have hafter : l.afterComparison.toList = other.afterComparison.toList := by
      rw [← takeWhile_append_stops l.blank_afterComparison (hstops l.trail.toList), hrest,
        takeWhile_append_stops other.blank_afterComparison (hstops other.trail.toList)]
    rw [hafter] at hrest
    have htrail := List.append_cancel_left (List.append_cancel_left hrest)
    rw [String.toList_inj] at hafter htrail
    exact ⟨lead_eq h, hbefore, by rw [hafter, htrail], fun _ => ⟨hafter, htrail⟩⟩

end Layout

/-- Reading a text is taking it apart, and there is one way to do so. -/
structure ReadsUniquely (body : String) : Prop where
  accepts : ∀ c, parse? body = some c ↔ ∃ l : Layout, l.text = body ∧ l.condition = c
  refuses : parse? body = none ↔ ∀ l : Layout, l.text ≠ body
  sameParts : ∀ l other : Layout, l.text = body → other.text = body → l.SameParts other
  sameBlanks : ∀ l other : Layout, l.text = body → other.text = body → l.SameBlanks other

theorem parse_reads_uniquely (body : String) : ReadsUniquely body where
  accepts c := by
    rw [parse?_eq_some_iff]
    simp only [eq_comm]
  refuses := by
    rw [Option.eq_none_iff_forall_ne_some]
    constructor
    · rintro h l rfl
      exact h l.condition (ofChars?_text l)
    · intro h c hread
      obtain ⟨l, hl, -⟩ := parse?_eq_some_iff.mp hread
      exact h l hl.symm
  sameParts l other hl hother := Layout.sameParts_of_text_eq (hl.trans hother.symm)
  sameBlanks l other hl hother := Layout.sameBlanks_of_text_eq (hl.trans hother.symm)

-- Without its dot `env` is a name as any other, and what follows a comparison belongs to the value.
example : parse? "env==x" = some ⟨.literal "env", .equal, "x"⟩ := by rfl

example : parse? "env.env!==x" = some ⟨.env "env", .notEqual, "=x"⟩ := by rfl

end Condition

end ConfigKit
