-- SUMMARY: The grammar of written conditions: reading accepts exactly the texts of layouts.
import Mathlib.Data.Option.Basic
import ConfigKit.Condition.Basic

/-!
# The grammar of conditions

A written condition has eight parts: blanks, an optional `env.`, a name, blanks, a comparison, blanks, a
value without blanks, and blanks. `Layout` holds the parts and what is asked of each. The main result
`parse?_eq_some_iff` says that reading accepts exactly the texts of layouts, and that it gives the
condition of the layout.
-/

namespace ConfigKit

namespace Condition

/-! ## Classes of characters -/

/-- A letter of ASCII or the underscore. -/
def IsLetter (c : Char) : Prop :=
  ('A' ≤ c ∧ c ≤ 'Z') ∨ ('a' ≤ c ∧ c ≤ 'z') ∨ c = '_'

/-- A digit of ASCII. -/
def IsDigit (c : Char) : Prop := '0' ≤ c ∧ c ≤ '9'

/-- A letter, and then letters and digits. -/
def IsIdentifier (name : String) : Prop :=
  ∃ first rest, name.toList = first :: rest ∧ IsLetter first ∧ ∀ c ∈ rest, IsLetter c ∨ IsDigit c

/-- All characters have the Unicode property `White_Space`. -/
def IsBlankRun (text : String) : Prop := ∀ c ∈ text.toList, c.isBlank = true

/-- No character has the Unicode property `White_Space`. -/
def IsSolidRun (text : String) : Prop := ∀ c ∈ text.toList, c.isBlank = false

instance (text : String) : Decidable (IsSolidRun text) :=
  List.decidableBAll (fun c : Char => c.isBlank = false) text.toList

theorem isUpper_iff {c : Char} : c.isUpper = true ↔ 'A' ≤ c ∧ c ≤ 'Z' :=
  decide_eq_true_iff

theorem isLower_iff {c : Char} : c.isLower = true ↔ 'a' ≤ c ∧ c ≤ 'z' :=
  Bool.and_eq_true_iff.trans (and_congr decide_eq_true_iff decide_eq_true_iff)

theorem isDigit_iff {c : Char} : c.isDigit = true ↔ IsDigit c :=
  Bool.and_eq_true_iff.trans (and_congr decide_eq_true_iff decide_eq_true_iff)

theorem isAlpha_iff {c : Char} : c.isAlpha = true ↔ ('A' ≤ c ∧ c ≤ 'Z') ∨ ('a' ≤ c ∧ c ≤ 'z') :=
  Bool.or_eq_true_iff.trans (or_congr isUpper_iff isLower_iff)

theorem isNameStart_iff {c : Char} : isNameStart c = true ↔ IsLetter c := by
  rw [isNameStart, IsLetter, Bool.or_eq_true, isAlpha_iff, decide_eq_true_eq, or_assoc]

theorem isNameRest_iff {c : Char} : isNameRest c = true ↔ IsLetter c ∨ IsDigit c := by
  have halphanum : c.isAlphanum = true ↔ c.isAlpha = true ∨ c.isDigit = true := Bool.or_eq_true_iff
  rw [isNameRest, IsLetter, Bool.or_eq_true, halphanum, isAlpha_iff, isDigit_iff, decide_eq_true_eq, ← or_assoc]
  exact or_right_comm

theorem isName_iff {name : String} : isName name.toList = true ↔ IsIdentifier name := by
  unfold IsIdentifier
  cases name.toList with
  | nil => simp [isName]
  | cons first rest =>
    simp only [isName, Bool.and_eq_true, List.all_eq_true, isNameStart_iff, isNameRest_iff]
    constructor
    · rintro ⟨hfirst, hrest⟩
      exact ⟨first, rest, rfl, hfirst, hrest⟩
    · rintro ⟨_, _, heq, hfirst, hrest⟩
      obtain ⟨rfl, rfl⟩ := List.cons.inj heq
      exact ⟨hfirst, hrest⟩

instance (name : String) : Decidable (IsIdentifier name) :=
  decidable_of_iff (isName name.toList = true) isName_iff

theorem isNameRest_of_isName {cs : List Char} (h : isName cs = true) :
    ∀ c ∈ cs, isNameRest c = true := by
  cases cs with
  | nil => simp
  | cons first rest =>
    simp only [isName, Bool.and_eq_true, List.all_eq_true] at h
    intro c hc
    rcases List.mem_cons.mp hc with rfl | hc
    · exact isNameRest_iff.mpr (.inl (isNameStart_iff.mp h.1))
    · exact h.2 c hc

theorem isBlank_of_isNameRest {c : Char} (h : isNameRest c = true) : c.isBlank = false := by
  simp only [isNameRest_iff, IsLetter, IsDigit, Char.le_def, UInt32.le_iff_toNat_le] at h
  rcases h with (h | h | rfl) | h
  · change 65 ≤ c.toNat ∧ c.toNat ≤ 90 at h
    simp [Char.isBlank]
    omega
  · change 97 ≤ c.toNat ∧ c.toNat ≤ 122 at h
    simp [Char.isBlank]
    omega
  · decide
  · change 48 ≤ c.toNat ∧ c.toNat ≤ 57 at h
    simp [Char.isBlank]
    omega

theorem isNameRest_of_isBlank {c : Char} (h : c.isBlank = true) : isNameRest c = false := by
  cases hrest : isNameRest c with
  | false => rfl
  | true =>
    rw [isBlank_of_isNameRest hrest] at h
    cases h

/-! ## Layouts -/

/-- What stands before the name of a left operand. -/
def prefixText (isEnv : Bool) : String := if isEnv then "env." else ""

/-- The parts of a written condition, from left to right. -/
structure Layout where
  lead : String
  isEnv : Bool
  name : String
  beforeComparison : String
  comparison : Comparison
  afterComparison : String
  value : String
  trail : String
  blank_lead : IsBlankRun lead
  identifier_name : IsIdentifier name
  blank_beforeComparison : IsBlankRun beforeComparison
  blank_afterComparison : IsBlankRun afterComparison
  solid_value : IsSolidRun value
  blank_trail : IsBlankRun trail

namespace Layout

/-- The parts one after the other. -/
def text (l : Layout) : String :=
  l.lead ++ prefixText l.isEnv ++ l.name ++ l.beforeComparison ++ l.comparison.text
    ++ l.afterComparison ++ l.value ++ l.trail

/-- The condition that the parts stand for. -/
def condition (l : Layout) : Condition where
  left := operand l.isEnv l.name
  comparison := l.comparison
  right := l.value

theorem toList_text (l : Layout) :
    l.text.toList = l.lead.toList ++ ((prefixText l.isEnv).toList ++ (l.name.toList ++
      (l.beforeComparison.toList ++ (l.comparison.text.toList ++ (l.afterComparison.toList ++
        (l.value.toList ++ l.trail.toList)))))) := by
  simp only [text, String.toList_append, List.append_assoc]

end Layout

/-! ## Runs of a class -/

/-- The text does not start with a character of the class. -/
def Stops (p : Char → Bool) (cs : List Char) : Prop := ∀ c ∈ cs.head?, p c = false

theorem stops_nil (p : Char → Bool) : Stops p [] := by simp [Stops]

theorem stops_append {p : Char → Bool} {cs rest : List Char} (hcs : ∀ c ∈ cs, p c = false)
    (hrest : Stops p rest) : Stops p (cs ++ rest) := by
  cases cs with
  | nil => exact hrest
  | cons c cs =>
    intro d hd
    obtain rfl : c = d := by simpa using hd
    exact hcs c List.mem_cons_self

theorem takeWhile_append_stops {p : Char → Bool} {cs rest : List Char} (hcs : ∀ c ∈ cs, p c = true)
    (hrest : Stops p rest) : (cs ++ rest).takeWhile p = cs := by
  rw [List.takeWhile_append_of_pos hcs]
  cases rest with
  | nil => simp
  | cons c rest => simp [hrest c rfl]

theorem dropWhile_append_stops {p : Char → Bool} {cs rest : List Char} (hcs : ∀ c ∈ cs, p c = true)
    (hrest : Stops p rest) : (cs ++ rest).dropWhile p = rest := by
  rw [List.dropWhile_append_of_pos hcs]
  cases rest with
  | nil => rfl
  | cons c rest => simp [hrest c rfl]

/-! ## The readers of the parts -/

theorem eq_append_of_readPrefix {cs rest : List Char} {isEnv : Bool}
    (h : readPrefix cs = (isEnv, rest)) : cs = (prefixText isEnv).toList ++ rest := by
  unfold readPrefix at h
  split at h
  · obtain ⟨rfl, rfl⟩ := Prod.mk.inj h
    rfl
  · obtain ⟨rfl, rfl⟩ := Prod.mk.inj h
    rfl

/-- A name cannot be taken for `env.`: the point would have to follow the name. -/
theorem readPrefix_name {name rest : List Char} (hname : isName name = true)
    (hrest : Stops isNameRest rest) (hpoint : Stops (· = '.') rest) :
    readPrefix (name ++ rest) = (false, name ++ rest) := by
  unfold readPrefix
  split
  · rename_i tail heq
    have hsplit : name = ['e', 'n', 'v'] := by
      rw [← takeWhile_append_stops (isNameRest_of_isName hname) hrest, heq]
      rfl
    subst hsplit
    obtain rfl : rest = '.' :: tail := by simpa using heq
    simpa using hpoint '.' rfl
  · rfl

theorem readPrefix_append {name rest : List Char} (isEnv : Bool) (hname : isName name = true)
    (hrest : Stops isNameRest rest) (hpoint : Stops (· = '.') rest) :
    readPrefix ((prefixText isEnv).toList ++ (name ++ rest)) = (isEnv, name ++ rest) := by
  cases isEnv with
  | true => rfl
  | false =>
    change readPrefix (name ++ rest) = _
    exact readPrefix_name hname hrest hpoint

theorem readComparison?_eq_some_iff {cs rest : List Char} {comparison : Comparison} :
    readComparison? cs = some (comparison, rest) ↔ cs = comparison.text.toList ++ rest := by
  constructor
  · intro h
    unfold readComparison? at h
    split at h
    · cases h; rfl
    · cases h; rfl
    · cases h
  · rintro rfl
    cases comparison <;> rfl

/-- What reading comes to after the prefix. -/
theorem ofChars?_eq_some_iff {cs afterPrefix : List Char} {isEnv : Bool} {c : Condition}
    (hpre : readPrefix (cs.dropWhile Char.isBlank) = (isEnv, afterPrefix)) :
    ofChars? cs = some c ↔
      isName (afterPrefix.takeWhile isNameRest) = true ∧ ∃ comparison afterSign,
        readComparison? ((afterPrefix.dropWhile isNameRest).dropWhile Char.isBlank)
          = some (comparison, afterSign) ∧
        (∀ d ∈ (afterSign.dropWhile Char.isBlank).dropWhile fun d => !d.isBlank, d.isBlank = true) ∧
        ⟨operand isEnv (String.ofList (afterPrefix.takeWhile isNameRest)), comparison,
          String.ofList ((afterSign.dropWhile Char.isBlank).takeWhile fun d => !d.isBlank)⟩ = c := by
  simp [ofChars?, hpre, guard, Option.bind_eq_some_iff]

/-! ## Reading accepts the texts of layouts -/

theorem isBlankRun_takeWhile (cs : List Char) :
    IsBlankRun (String.ofList (cs.takeWhile Char.isBlank)) := by
  intro c hc
  rw [String.toList_ofList] at hc
  exact List.all_eq_true.mp List.all_takeWhile c hc

theorem isSolidRun_takeWhile (cs : List Char) :
    IsSolidRun (String.ofList (cs.takeWhile fun c => !c.isBlank)) := by
  intro c hc
  rw [String.toList_ofList] at hc
  simpa using List.all_eq_true.mp List.all_takeWhile c hc

theorem exists_layout_of_ofChars? {cs : List Char} {c : Condition} (h : ofChars? cs = some c) :
    ∃ l : Layout, cs = l.text.toList ∧ c = l.condition := by
  cases hpre : readPrefix (cs.dropWhile Char.isBlank) with
  | mk isEnv afterPrefix =>
    obtain ⟨hname, comparison, afterSign, hsign, htrail, rfl⟩ :=
      (ofChars?_eq_some_iff hpre).mp h
    let l : Layout :=
      { lead := String.ofList (cs.takeWhile Char.isBlank)
        isEnv := isEnv
        name := String.ofList (afterPrefix.takeWhile isNameRest)
        beforeComparison := String.ofList ((afterPrefix.dropWhile isNameRest).takeWhile Char.isBlank)
        comparison := comparison
        afterComparison := String.ofList (afterSign.takeWhile Char.isBlank)
        value := String.ofList ((afterSign.dropWhile Char.isBlank).takeWhile fun d => !d.isBlank)
        trail := String.ofList ((afterSign.dropWhile Char.isBlank).dropWhile fun d => !d.isBlank)
        blank_lead := isBlankRun_takeWhile _
        identifier_name := isName_iff.mp (by rwa [String.toList_ofList])
        blank_beforeComparison := isBlankRun_takeWhile _
        blank_afterComparison := isBlankRun_takeWhile _
        solid_value := isSolidRun_takeWhile _
        blank_trail := by simpa [IsBlankRun] using htrail }
    refine ⟨l, ?_, rfl⟩
    have hafterSign : afterSign = l.afterComparison.toList ++ (l.value.toList ++ l.trail.toList) := by
      simp only [l, String.toList_ofList, List.takeWhile_append_dropWhile]
    have hafterPrefix : afterPrefix = l.name.toList ++ (l.beforeComparison.toList
        ++ (l.comparison.text.toList ++ afterSign)) := by
      rw [← readComparison?_eq_some_iff.mp hsign]
      simp only [l, String.toList_ofList, List.takeWhile_append_dropWhile]
    calc cs
        = l.lead.toList ++ cs.dropWhile Char.isBlank := by
          simp only [l, String.toList_ofList, List.takeWhile_append_dropWhile]
      _ = l.lead.toList ++ ((prefixText isEnv).toList ++ afterPrefix) := by
          rw [eq_append_of_readPrefix hpre]
      _ = l.text.toList := by
          rw [Layout.toList_text, ← hafterSign, ← hafterPrefix]

/-! ## The texts of layouts are accepted -/

theorem stops_comparison {p : Char → Bool} (comparison : Comparison) (rest : List Char)
    (hequal : p '=' = false) (hnot : p '!' = false) :
    Stops p (comparison.text.toList ++ rest) := by
  intro c hc
  cases comparison with
  | equal =>
    obtain rfl : '=' = c := by simpa [Comparison.text] using hc
    exact hequal
  | notEqual =>
    obtain rfl : '!' = c := by simpa [Comparison.text] using hc
    exact hnot

theorem stops_isBlank_name {name : String} (h : IsIdentifier name) (rest : List Char) :
    Stops Char.isBlank (name.toList ++ rest) := by
  obtain ⟨first, more, hname, hfirst, -⟩ := h
  intro c hc
  obtain rfl : first = c := by simpa [hname] using hc
  exact isBlank_of_isNameRest (isNameRest_iff.mpr (.inl hfirst))

theorem isSolidRun_prefixText (isEnv : Bool) : IsSolidRun (prefixText isEnv) := by
  cases isEnv <;> decide

/-- Where a value is read, an empty one leaves all blanks to be skipped at once. -/
theorem read_value {value trail : String} (hvalue : IsSolidRun value) (htrail : IsBlankRun trail) :
    ((value.toList ++ trail.toList).dropWhile Char.isBlank).takeWhile (fun d => !d.isBlank)
        = value.toList ∧
      ∀ d ∈ ((value.toList ++ trail.toList).dropWhile Char.isBlank).dropWhile fun d => !d.isBlank,
        d.isBlank = true := by
  have hsolid : ∀ d ∈ value.toList, (!d.isBlank) = true := by simpa [IsSolidRun] using hvalue
  have hstops : Stops (fun d => !d.isBlank) trail.toList := by
    simpa using stops_append (fun d hd => by simp [htrail d hd]) (stops_nil fun d => !d.isBlank)
  cases hv : value.toList with
  | nil =>
    have hdrop : trail.toList.dropWhile Char.isBlank = [] := by
      simpa using dropWhile_append_stops htrail (stops_nil Char.isBlank)
    simp [hdrop]
  | cons v vs =>
    rw [hv] at hsolid
    have hdrop : ((v :: vs) ++ trail.toList).dropWhile Char.isBlank = (v :: vs) ++ trail.toList := by
      have hfirst : v.isBlank = false := by simpa using hsolid v List.mem_cons_self
      simp [hfirst]
    rw [hdrop, takeWhile_append_stops hsolid hstops, dropWhile_append_stops hsolid hstops]
    exact ⟨rfl, htrail⟩

theorem ofChars?_text (l : Layout) : ofChars? l.text.toList = some l.condition := by
  let afterSign := l.afterComparison.toList ++ (l.value.toList ++ l.trail.toList)
  let afterName := l.beforeComparison.toList ++ (l.comparison.text.toList ++ afterSign)
  have hname : isName l.name.toList = true := isName_iff.mpr l.identifier_name
  have hrest := isNameRest_of_isName hname
  have hstop : Stops isNameRest afterName := by
    refine stops_append (fun c hc => ?_) (stops_comparison _ _ rfl rfl)
    exact isNameRest_of_isBlank (l.blank_beforeComparison c hc)
  have hpoint : Stops (· = '.') afterName := by
    refine stops_append (fun c hc => ?_) (stops_comparison _ _ rfl rfl)
    refine decide_eq_false ?_
    rintro rfl
    exact absurd (l.blank_beforeComparison '.' hc) (by decide)
  have hpre : readPrefix (l.text.toList.dropWhile Char.isBlank)
      = (l.isEnv, l.name.toList ++ afterName) := by
    rw [l.toList_text, dropWhile_append_stops l.blank_lead
      (stops_append (isSolidRun_prefixText _) (stops_isBlank_name l.identifier_name _))]
    exact readPrefix_append l.isEnv hname hstop hpoint
  rw [ofChars?_eq_some_iff hpre, takeWhile_append_stops hrest hstop,
    dropWhile_append_stops hrest hstop,
    dropWhile_append_stops l.blank_beforeComparison (stops_comparison _ _ (by decide) (by decide))]
  obtain ⟨hvalue, htrail⟩ := read_value l.solid_value l.blank_trail
  rw [← List.dropWhile_append_of_pos l.blank_afterComparison] at hvalue htrail
  refine ⟨hname, l.comparison, afterSign, readComparison?_eq_some_iff.mpr rfl, htrail, ?_⟩
  rw [hvalue, String.ofList_toList, String.ofList_toList]
  rfl

/-- Reading accepts exactly the texts of layouts and gives their conditions. -/
theorem parse?_eq_some_iff {body : String} {c : Condition} :
    parse? body = some c ↔ ∃ l : Layout, body = l.text ∧ c = l.condition := by
  constructor
  · intro h
    obtain ⟨l, htext, hc⟩ := exists_layout_of_ofChars? h
    exact ⟨l, String.toList_inj.mp htext, hc⟩
  · rintro ⟨l, rfl, rfl⟩
    exact ofChars?_text l

end Condition

end ConfigKit
