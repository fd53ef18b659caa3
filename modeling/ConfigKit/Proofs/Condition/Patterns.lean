-- SUMMARY: The two patterns of the syntax of expressions capture exactly what the readers of expressions and conditions read.
import ConfigKit.Proofs.Condition.Truth
import ConfigKit.Proofs.Pattern.Captures

/-!
# Expressions as patterns

The syntax of expressions can be given by two patterns: one for the wrapper and one for the condition in it.
The main results say that the readers give what the groups of a first match give:
`unwrapChars?_eq_search` and `ofChars?_eq_search`.
-/

namespace ConfigKit

namespace Condition

open Pattern CodeRanges

/-! ## The patterns -/

/-- What an expression matches from the start of the text on. -/
def wrapperExpression : Expression :=
  .sequence (.char (.singleton '$')) <| .sequence (.char (.singleton '\x7b')) <|
  .sequence (.capture 1 (.repetition 1 none true (.char (ofChars ['\n']).complement))) <|
  .sequence (.char (.singleton '\x7d')) (.look .textEnd)

/-- The pattern of an expression. Its group is the body. -/
def wrapperPattern : Pattern where
  text := "^\\$\\\x7b(.+)\\\x7d$"
  expression := .sequence (.look .textStart) wrapperExpression
  expression_eq := by decide +kernel

def conditionText : String := "^\\s*(env\\.)?([A-Za-z_][A-Za-z0-9_]*)\\s*(==|!=)\\s*(\\S*)\\s*$"

def conditionSyntax : Syntax :=
  let blanks : Syntax := .repetition ⟨0, none⟩ true (.charClass (.shorthand .space false))
  let literal (c : Char) : Syntax := .literal ⟨c, false⟩
  let range (first last : Char) : ClassItem := .range ⟨first, false⟩ ⟨last, false⟩
  let underscore : ClassItem := .literal ⟨'_', false⟩
  let starts : ClassItem := .union [range 'A' 'Z', range 'a' 'z', underscore]
  let rests : ClassItem := .union [range 'A' 'Z', range 'a' 'z', range '0' '9', underscore]
  .sequence [.assertion .lineStart, blanks,
    .repetition ⟨0, some 1⟩ true
      (.group (.capture 1) (.sequence [literal 'e', literal 'n', literal 'v', literal '.'])),
    .group (.capture 2) (.sequence [.charClass (.bracketed starts false),
      .repetition ⟨0, none⟩ true (.charClass (.bracketed rests false))]),
    blanks,
    .group (.capture 3) (.alternation [.sequence [literal '=', literal '='], .sequence [literal '!', literal '=']]),
    blanks,
    .group (.capture 4) (.repetition ⟨0, none⟩ true (.charClass (.shorthand .space true))),
    blanks, .assertion .lineEnd]

/-- The characters that a name may start with. -/
def nameStarts : CodeRanges := .unions [.between 'A' 'Z', .between 'a' 'z', .singleton '_']

/-- The characters that a name may go on with. -/
def nameRests : CodeRanges := .unions [.between 'A' 'Z', .between 'a' 'z', .between '0' '9', .singleton '_']

def literals (c d : Char) : Expression := .sequence (.char (.singleton c)) (.char (.singleton d))

def blanks : Expression := .repetition 0 none true (.char Unicode.whiteSpace)

/-- What a condition matches from the start of the text on. -/
def conditionExpression : Expression :=
  .sequence blanks <|
  .sequence (.repetition 0 (some 1) true (.capture 1 (.sequence (.char (.singleton 'e')) <|
    .sequence (.char (.singleton 'n')) (literals 'v' '.')))) <|
  .sequence (.capture 2 (.sequence (.char nameStarts) (.repetition 0 none true (.char nameRests)))) <|
  .sequence blanks <| .sequence (.capture 3 (.choice (literals '=' '=') (literals '!' '='))) <|
  .sequence blanks <| .sequence (.capture 4 (.repetition 0 none true (.char Unicode.whiteSpace.complement))) <|
  .sequence blanks (.look .textEnd)

theorem nameStarts_eq : nameStarts = ⟨#[(65, 90), (95, 95), (97, 122)]⟩ := by
  simp [nameStarts, unions, ofList, toList, between, CodeRanges.singleton, List.mergeSort,
    List.MergeSort.Internal.splitInTwo, join, joinFrom]

theorem nameRests_eq : nameRests = ⟨#[(48, 57), (65, 90), (95, 95), (97, 122)]⟩ := by
  simp [nameRests, unions, ofList, toList, between, CodeRanges.singleton, List.mergeSort,
    List.MergeSort.Internal.splitInTwo, join, joinFrom]

theorem ofText?_conditionText : Syntax.ofText? conditionText = .ok conditionSyntax := by
  with_unfolding_all rfl

theorem ofSyntax_conditionSyntax :
    Expression.ofSyntax Flags.initial conditionSyntax
      = .ok (.sequence (.look .textStart) conditionExpression, Flags.initial) :=
  rfl

theorem isTooLarge_conditionExpression :
    (Expression.sequence (.look .textStart) conditionExpression).isTooLarge = false := by
  rw [conditionExpression, nameStarts_eq, nameRests_eq]
  decide +kernel

/-- The pattern of a condition. Its groups are the prefix, the name, the comparison and the value. -/
def conditionPattern : Pattern where
  text := conditionText
  expression := .sequence (.look .textStart) conditionExpression
  expression_eq := by
    rw [expressionOf, ofText?_conditionText]
    simp only [Except.bind, bind, ofSyntax_conditionSyntax, isTooLarge_conditionExpression]
    rfl

/-! ## The classes of characters -/

theorem containsChar_nameStarts (c : Char) : nameStarts.containsChar c = isNameStart c := by
  rw [Bool.eq_iff_iff, isNameStart_iff, IsLetter, nameStarts, containsChar_unions (by decide)]
  simp [containsChar_between, containsChar_singleton]

theorem containsChar_nameRests (c : Char) : nameRests.containsChar c = isNameRest c := by
  rw [Bool.eq_iff_iff, isNameRest_iff, IsLetter, IsDigit, nameRests, containsChar_unions (by decide)]
  simp only [List.exists_mem_cons_iff, List.not_mem_nil, false_and, exists_false, or_false,
    containsChar_between (show 'A' ≤ 'Z' by decide), containsChar_between (show 'a' ≤ 'z' by decide),
    containsChar_between (show '0' ≤ '9' by decide), containsChar_singleton]
  rw [or_assoc, or_assoc, or_comm (a := c = '_')]

theorem whiteSpace_eq : Unicode.whiteSpace = ⟨#[(9, 13), (32, 32), (133, 133), (160, 160), (5760, 5760),
    (8192, 8202), (8232, 8233), (8239, 8239), (8287, 8287), (12288, 12288)]⟩ := by
  decide +kernel

theorem ordered_whiteSpace : Unicode.whiteSpace.Ordered := by
  rw [whiteSpace_eq]
  decide

theorem containsChar_whiteSpace (c : Char) : Unicode.whiteSpace.containsChar c = c.isBlank := by
  rw [Bool.eq_iff_iff, containsChar, contains_iff ordered_whiteSpace, whiteSpace_eq]
  simp [toList, Holds, Char.isBlank]
  omega

theorem containsChar_solid (c : Char) : Unicode.whiteSpace.complement.containsChar c = !c.isBlank := by
  rw [containsChar_complement ordered_whiteSpace, containsChar_whiteSpace]

theorem containsChar_line (c : Char) :
    (ofChars ['\n']).complement.containsChar c = true ↔ c ≠ '\n' := by
  rw [containsChar_complement (ordered_ofChars _), Bool.not_eq_true', ← Bool.not_eq_true, containsChar_ofChars,
    List.mem_singleton]

/-! ## The parts of an expression -/

variable {cs : List Char} {s t : State} {greedy : Bool}

theorem exists_toList_iff {P : List Char → Prop} : (∃ text : String, P text.toList) ↔ ∃ part, P part :=
  ⟨fun ⟨text, h⟩ => ⟨text.toList, h⟩, fun ⟨part, h⟩ => ⟨String.ofList part, by rwa [String.toList_ofList]⟩⟩

theorem matches_blanks_iff :
    blanks.Matches cs.toArray s t ↔ ∃ text, IsBlankRun text ∧ Reads cs text.toList s t := by
  rw [blanks, matches_repetition_iff]
  simp only [containsChar_whiteSpace, Nat.zero_le, true_and]
  exact exists_toList_iff.symm

theorem matches_solid_iff :
    Expression.Matches cs.toArray (.repetition 0 none greedy (.char Unicode.whiteSpace.complement)) s t ↔
      ∃ text, IsSolidRun text ∧ Reads cs text.toList s t := by
  rw [matches_repetition_iff]
  simp only [containsChar_solid, Nat.zero_le, true_and, Bool.not_eq_true']
  exact exists_toList_iff.symm

theorem matches_name_iff : Expression.Matches cs.toArray
      (.sequence (.char nameStarts) (.repetition 0 none greedy (.char nameRests))) s t ↔
    ∃ name, IsIdentifier name ∧ Reads cs name.toList s t := by
  simp only [← isName_iff]
  rw [exists_toList_iff (P := fun name => isName name = true ∧ Reads cs name s t)]
  constructor
  · rintro ⟨u, hstart, hrest⟩
    obtain ⟨c, hc, hfirst⟩ := matches_char_iff.mp hstart
    obtain ⟨part, -, hpart, hmore⟩ := matches_repetition_iff.mp hrest
    refine ⟨c :: part, ?_, reads_cons_iff.mpr ⟨u, hfirst, hmore⟩⟩
    simp only [containsChar_nameStarts, containsChar_nameRests] at hc hpart
    simp [isName, hc, List.all_eq_true.mpr hpart]
  · rintro ⟨_ | ⟨c, part⟩, hname, hreads⟩
    · cases hname
    · obtain ⟨u, hfirst, hmore⟩ := reads_cons_iff.mp hreads
      simp only [isName, Bool.and_eq_true, List.all_eq_true, ← containsChar_nameStarts,
        ← containsChar_nameRests] at hname
      exact ⟨u, matches_char_iff.mpr ⟨c, hname.1, hfirst⟩,
        matches_repetition_iff.mpr ⟨part, Nat.zero_le _, hname.2, hmore⟩⟩

theorem matches_comparison_iff :
    Expression.Matches cs.toArray (.choice (literals '=' '=') (literals '!' '=')) s t ↔
      ∃ comparison : Comparison, Reads cs comparison.text.toList s t := by
  have hliterals (c d : Char) : (literals c d).Matches cs.toArray s t ↔ Reads cs [c, d] s t :=
    matches_sequence_literal_iff fun _ _ => matches_literal_iff
  simp only [Expression.Matches, hliterals]
  constructor
  · rintro (h | h)
    · exact ⟨.equal, h⟩
    · exact ⟨.notEqual, h⟩
  · rintro ⟨_ | _, h⟩
    · exact .inl h
    · exact .inr h

/-- What stands before a name. Only the prefix of a variable is captured. -/
def prefixPiece (isEnv : Bool) : Piece := ⟨if isEnv then some 1 else none, (prefixText isEnv).toList⟩

theorem matches_prefix_iff : Expression.Matches cs.toArray
      (.repetition 0 (some 1) greedy (.capture 1 (.sequence (.char (.singleton 'e'))
        (.sequence (.char (.singleton 'n')) (literals 'v' '.'))))) s t ↔
    ∃ isEnv, (prefixPiece isEnv).Reads cs s t := by
  have hoptional (s t : State) : Expression.Matches cs.toArray (.sequence (.char (.singleton 'e'))
      (.sequence (.char (.singleton 'n')) (literals 'v' '.'))) s t ↔ Reads cs (prefixText true).toList s t :=
    matches_sequence_literal_iff fun _ _ => matches_sequence_literal_iff fun _ _ =>
      matches_sequence_literal_iff fun _ _ => matches_literal_iff
  rw [matches_optional_iff, Bool.exists_bool]
  exact or_congr reads_nil_iff.symm (exists_congr fun u => and_congr_left' (hoptional _ u))

/-- The parts of a condition, with the groups of the pattern. -/
def Layout.pieces (l : Layout) : List Piece :=
  [⟨none, l.lead.toList⟩, prefixPiece l.isEnv, ⟨some 2, l.name.toList⟩, ⟨none, l.beforeComparison.toList⟩,
    ⟨some 3, l.comparison.text.toList⟩, ⟨none, l.afterComparison.toList⟩, ⟨some 4, l.value.toList⟩,
    ⟨none, l.trail.toList⟩]

theorem Layout.flatMap_pieces (l : Layout) : l.pieces.flatMap Piece.part = l.text.toList := by
  simp [pieces, prefixPiece, toList_text]

theorem matches_condition_iff : conditionExpression.Matches cs.toArray s t ↔
    ∃ l : Layout, ReadsAll cs l.pieces s t ∧ t.place = cs.length := by
  constructor
  · rintro ⟨s1, hlead, s2, hoptional, s3, ⟨u, hname, hname'⟩, s4, hbefore, s5, ⟨v, hcomparison, hcomparison'⟩,
      s6, hafter, s7, ⟨w, hvalue, hvalue'⟩, s8, htrail, hend⟩
    obtain ⟨lead, blank_lead, hlead⟩ := matches_blanks_iff.mp hlead
    obtain ⟨isEnv, hoptional⟩ := matches_prefix_iff.mp hoptional
    obtain ⟨name, identifier_name, hname⟩ := matches_name_iff.mp hname
    obtain ⟨before, blank_before, hbefore⟩ := matches_blanks_iff.mp hbefore
    obtain ⟨comparison, hcomparison⟩ := matches_comparison_iff.mp hcomparison
    obtain ⟨after, blank_after, hafter⟩ := matches_blanks_iff.mp hafter
    obtain ⟨value, solid_value, hvalue⟩ := matches_solid_iff.mp hvalue
    obtain ⟨trail, blank_trail, htrail⟩ := matches_blanks_iff.mp htrail
    obtain ⟨hplace, rfl⟩ := matches_textEnd_iff.mp hend
    exact ⟨⟨lead, isEnv, name, before, comparison, after, value, trail, blank_lead, identifier_name, blank_before,
      blank_after, solid_value, blank_trail⟩, ⟨s1, hlead, s2, hoptional, s3, ⟨u, hname, hname'⟩, s4, hbefore, s5,
      ⟨v, hcomparison, hcomparison'⟩, s6, hafter, s7, ⟨w, hvalue, hvalue'⟩, _, htrail, rfl⟩, hplace⟩
  · rintro ⟨l, ⟨s1, hlead, s2, hoptional, s3, ⟨u, hname, hname'⟩, s4, hbefore, s5, ⟨v, hcomparison, hcomparison'⟩,
      s6, hafter, s7, ⟨w, hvalue, hvalue'⟩, _, htrail, rfl⟩, hplace⟩
    exact ⟨s1, matches_blanks_iff.mpr ⟨_, l.blank_lead, hlead⟩, s2, matches_prefix_iff.mpr ⟨_, hoptional⟩,
      s3, ⟨u, matches_name_iff.mpr ⟨_, l.identifier_name, hname⟩, hname'⟩,
      s4, matches_blanks_iff.mpr ⟨_, l.blank_beforeComparison, hbefore⟩,
      s5, ⟨v, matches_comparison_iff.mpr ⟨_, hcomparison⟩, hcomparison'⟩,
      s6, matches_blanks_iff.mpr ⟨_, l.blank_afterComparison, hafter⟩,
      s7, ⟨w, matches_solid_iff.mpr ⟨_, l.solid_value, hvalue⟩, hvalue'⟩,
      _, matches_blanks_iff.mpr ⟨_, l.blank_trail, htrail⟩, matches_textEnd_iff.mpr ⟨hplace, rfl⟩⟩

/-! ## The condition that a match gives -/

/-- The condition that the groups of a match give. -/
def ofGroups? (cs : List Char) (slots : Slots) : Option Condition := do
  let name ← groupText? cs slots 2
  let (comparison, _) ← readComparison? (← groupText? cs slots 3)
  let value ← groupText? cs slots 4
  some ⟨operand (groupText? cs slots 1).isSome (String.ofList name), comparison, String.ofList value⟩

theorem ofGroups?_eq_some {l : Layout} (h : ReadsAll cs l.pieces s t) (hsize : s.slots.size = 10)
    (hnone : groupText? cs s.slots 1 = none) : ofGroups? cs t.slots = some l.condition := by
  have hoptional : (groupText? cs t.slots 1).isSome = l.isEnv := by
    cases henv : l.isEnv with
    | true =>
      have hgroup : (prefixPiece l.isEnv).group = some 1 := by
        rw [henv]
        rfl
      rw [ReadsAll.groupText? [_] h hgroup (by omega) (by simp)]
      rfl
    | false =>
      rw [h.groupText?_of_ne (by simp [Layout.pieces, prefixPiece, henv]), hnone]
      rfl
  have hname : groupText? cs t.slots 2 = some l.name.toList :=
    ReadsAll.groupText? [_, _] h rfl (by omega) (by simp)
  have hcomparison : groupText? cs t.slots 3 = some l.comparison.text.toList :=
    ReadsAll.groupText? [_, _, _, _] h rfl (by omega) (by simp)
  have hvalue : groupText? cs t.slots 4 = some l.value.toList :=
    ReadsAll.groupText? [_, _, _, _, _, _] h rfl (by omega) (by simp)
  have hread : readComparison? l.comparison.text.toList = some (l.comparison, []) :=
    readComparison?_eq_some_iff.mpr (List.append_nil _).symm
  simp [ofGroups?, hoptional, hname, hcomparison, hvalue, hread, Layout.condition]

theorem ofGroups?_save (cs : List Char) (t : State) : ofGroups? cs (t.save 1).slots = ofGroups? cs t.slots := by
  simp [ofGroups?, groupText?_save]

/-- Reading a condition gives what the groups of the first match of its pattern give. -/
theorem ofChars?_eq_search (cs : List Char) :
    ofChars? cs = (conditionPattern.program.search cs.toArray 0).bind (ofGroups? cs) := by
  refine eq_search_bind conditionExpression (fun t hmatch => ?_) fun hnone => ?_
  · obtain ⟨l, hreads, hend⟩ := matches_condition_iff.mp hmatch
    have hcs : cs = l.text.toList := by
      rw [← l.flatMap_pieces]
      exact readsAll_text_iff.mp ⟨t, hreads, hend⟩
    calc ofChars? cs
        = some l.condition := by rw [hcs, ofChars?_text]
      _ = ofGroups? cs t.slots := (ofGroups?_eq_some hreads rfl rfl).symm
      _ = ofGroups? cs (t.save 1).slots := (ofGroups?_save cs t).symm
  · cases hread : ofChars? cs with
    | none => rfl
    | some c =>
      obtain ⟨l, hcs, -⟩ := exists_layout_of_ofChars? hread
      rw [← l.flatMap_pieces] at hcs
      obtain ⟨t, hreads, hend⟩ := readsAll_text_iff.mpr hcs
      exact absurd (matches_condition_iff.mpr ⟨l, hreads, hend⟩) (hnone t)

/-- The parts of an expression, with the group of the pattern. -/
def wrapperPieces (body : List Char) : List Piece :=
  [⟨none, ['$']⟩, ⟨none, ['\x7b']⟩, ⟨some 1, body⟩, ⟨none, ['\x7d']⟩]

theorem matches_wrapper_iff : wrapperExpression.Matches cs.toArray s t ↔
    ∃ body, (body ≠ [] ∧ '\n' ∉ body) ∧ ReadsAll cs (wrapperPieces body) s t ∧ t.place = cs.length := by
  have hbody (s t : State) :
      Expression.Matches cs.toArray (.repetition 1 none true (.char (ofChars ['\n']).complement)) s t ↔
        ∃ body, (body ≠ [] ∧ '\n' ∉ body) ∧ Reads cs body s t := by
    rw [matches_repetition_iff]
    simp only [containsChar_line, Nat.succ_le_iff, List.length_pos_iff, and_assoc]
    refine exists_congr fun body => and_congr_right fun _ => and_congr_left fun _ => ?_
    exact ⟨fun h hmem => h _ hmem rfl, fun h c hc heq => h (heq ▸ hc)⟩
  constructor
  · rintro ⟨s1, hdollar, s2, hopen, s3, ⟨u, hmatch, hsave⟩, s4, hclose, hend⟩
    obtain ⟨body, hchars, hreads⟩ := (hbody _ _).mp hmatch
    obtain ⟨hplace, rfl⟩ := matches_textEnd_iff.mp hend
    exact ⟨body, hchars, ⟨s1, matches_literal_iff.mp hdollar, s2, matches_literal_iff.mp hopen, s3,
      ⟨u, hreads, hsave⟩, _, matches_literal_iff.mp hclose, rfl⟩, hplace⟩
  · rintro ⟨body, hchars, ⟨s1, hdollar, s2, hopen, s3, ⟨u, hreads, hsave⟩, _, hclose, rfl⟩, hplace⟩
    exact ⟨s1, matches_literal_iff.mpr hdollar, s2, matches_literal_iff.mpr hopen, s3,
      ⟨u, (hbody _ _).mpr ⟨body, hchars, hreads⟩, hsave⟩, _, matches_literal_iff.mpr hclose,
      matches_textEnd_iff.mpr ⟨hplace, rfl⟩⟩

/-- Taking an expression out of its wrapper gives what the group of the first match of its pattern gives. -/
theorem unwrapChars?_eq_search (cs : List Char) :
    unwrapChars? cs = (wrapperPattern.program.search cs.toArray 0).bind (groupText? cs · 1) := by
  refine eq_search_bind wrapperExpression (fun t hmatch => ?_) fun hnone => ?_
  · obtain ⟨body, ⟨hbody, hline⟩, hreads, hend⟩ := matches_wrapper_iff.mp hmatch
    have hcs : cs = '$' :: '\x7b' :: (body ++ ['\x7d']) := by
      simpa [wrapperPieces] using readsAll_text_iff.mp ⟨t, hreads, hend⟩
    calc unwrapChars? cs
        = some body := unwrapChars?_eq_some_iff.mpr ⟨hcs, hbody, hline⟩
      _ = groupText? cs t.slots 1 := (ReadsAll.groupText? [_, _] hreads rfl (by decide) (by simp)).symm
      _ = groupText? cs (t.save 1).slots 1 := (groupText?_save (by omega) (by omega)).symm
  · cases hread : unwrapChars? cs with
    | none => rfl
    | some body =>
      obtain ⟨hcs, hbody⟩ := unwrapChars?_eq_some_iff.mp hread
      have hpieces : cs = (wrapperPieces body).flatMap Piece.part := by
        simpa [wrapperPieces] using hcs
      obtain ⟨t, hreads, hend⟩ := readsAll_text_iff.mpr hpieces
      exact absurd (matches_wrapper_iff.mpr ⟨body, hbody, hreads, hend⟩) (hnone t)

end Condition

end ConfigKit
