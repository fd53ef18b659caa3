-- SUMMARY: What becomes of a JSON string between YAML quotes.
import ConfigKit.Proofs.Json.Scalars
import ConfigKit.Yaml.Token.Scalar

/-!
# JSON strings between YAML quotes

YAML reads a JSON string as a double-quoted scalar. The escapes mean the same, but JSON leaves three
characters unescaped that end a line in YAML: next line, line separator and paragraph separator. Blanks
around them are lost, and the line behind them may look like the mark of a document. `foldText` is what
becomes of a text then (`readDoubleQuoted_escaped`), and `KeptText` says which texts stay as they are
(`foldText_eq_some_iff`).
-/

namespace ConfigKit

namespace Yaml

open Json

/-- A character that JSON does not escape and that ends a line. -/
def isLineEnd (c : Char) : Bool := c = '\x85' || c = '\u2028' || c = '\u2029'

/-- The character that is read for one, since a next-line character means a line feed. -/
def unifyBreak (c : Char) : Char := if c = '\x85' then '\n' else c

/-- Whether a line marks the start or the end of a document, if a text goes on with these characters. -/
def marksDocument : List Char → Bool
  | a :: b :: c :: d :: _ => (a = '-' || a = '.') && b = a && c = a && (d = ' ' || isLineEnd d)
  | _ => false

/-- What a text is read as behind a gap. A line that marks a document ends the reading. -/
def foldText (gap : Gap) (lineStart : Bool) : List Char → Option (List Char)
  | [] => some gap.folded.reverse
  | c :: cs =>
    if isLineEnd c then foldText (gap.addBreak (unifyBreak c)) true cs
    else if c = ' ' then foldText (gap.addBlank c) false cs
    else if lineStart && marksDocument (c :: cs) then none
    else (foldText .none false cs).map fun text => gap.folded.reverse ++ c :: text

/-- A character is read as itself before these ones. -/
structure StaysBefore (c : Char) (cs : List Char) : Prop where
  noNextLine : c ≠ '\x85'
  noBlankBefore : c = ' ' → ∀ d ∈ cs.head?, isLineEnd d = false
  noBlankBehind : isLineEnd c = true → ∀ d ∈ cs.head?, d ≠ ' '
  noMark : isLineEnd c = true → marksDocument cs = false

/-- A text whose characters are all read as themselves. -/
def KeptText : List Char → Prop
  | [] => True
  | c :: cs => StaysBefore c cs ∧ KeptText cs

variable {c : Char} {cs rest text done : List Char} {gap : Gap} {lineStart : Bool} {mark : Mark}

/-! ## Texts that are kept -/

/-- A gap that is read as it is written. -/
def Gap.Faithful : Gap → Prop
  | .none => True
  | .blanks text => text ≠ []
  | .lines first? _ => ∃ c, first? = some c ∧ c ≠ '\n'

/-- A gap and a text behind it do not lose a blank where they meet. -/
def Gap.Joins : Gap → List Char → Prop
  | .none, _ => True
  | .blanks _, cs => ∀ c ∈ cs.head?, isLineEnd c = false
  | .lines _ _, cs => ∀ c ∈ cs.head?, c ≠ ' '

theorem isLineEnd_iff : isLineEnd c = true ↔ c = '\x85' ∨ c = '\u2028' ∨ c = '\u2029' := by
  simp [isLineEnd, or_assoc]

theorem unifyBreak_of_ne (h : c ≠ '\x85') : unifyBreak c = c := if_neg h

theorem length_folded_addBreak (c : Char) (gap : Gap) :
    (gap.addBreak c).folded.length ≤ gap.folded.length + 1 := by
  rcases gap with _ | text | ⟨_ | d, more⟩ <;> grind [Gap.addBreak, Gap.folded]

theorem length_folded_addBlank (c : Char) (gap : Gap) :
    (gap.addBlank c).folded.length ≤ gap.folded.length + 1 := by
  rcases gap with _ | text | ⟨_ | d, more⟩ <;> grind [Gap.addBlank, Gap.folded]

theorem not_mem_folded_addBreak (h : '\x85' ∉ gap.folded) (hc : c ≠ '\x85') :
    '\x85' ∉ (gap.addBreak c).folded := by
  rcases gap with _ | text | ⟨_ | d, more⟩ <;> grind [Gap.addBreak, Gap.folded]

theorem not_mem_folded_addBlank (h : '\x85' ∉ gap.folded) (hc : c ≠ '\x85') :
    '\x85' ∉ (gap.addBlank c).folded := by
  rcases gap with _ | text | ⟨_ | d, more⟩ <;> grind [Gap.addBlank, Gap.folded]

theorem unifyBreak_ne (c : Char) : unifyBreak c ≠ '\x85' := by
  grind [unifyBreak]

/-- Reading never makes a text longer. -/
theorem length_le_of_foldText (h : foldText gap lineStart cs = some text) :
    text.length ≤ gap.folded.length + cs.length := by
  fun_induction foldText gap lineStart cs generalizing text with
  | case1 gap lineStart =>
    cases h
    simp
  | case2 gap lineStart c cs _ ih =>
    have hnext := ih h
    have hgap := length_folded_addBreak (unifyBreak c) gap
    simp only [List.length_cons]
    omega
  | case3 gap lineStart cs _ ih =>
    have hnext := ih h
    have hgap := length_folded_addBlank ' ' gap
    simp only [List.length_cons]
    omega
  | case4 => cases h
  | case5 gap lineStart c cs _ _ _ ih =>
    obtain ⟨rest, hrest, rfl⟩ := Option.map_eq_some_iff.mp h
    have hnext := ih hrest
    simp only [List.length_append, List.length_reverse, List.length_cons, Gap.folded,
      List.length_nil] at hnext ⊢
    omega

/-- Nothing is read as a next-line character. -/
theorem not_mem_of_foldText (h : foldText gap lineStart cs = some text) (hgap : '\x85' ∉ gap.folded) :
    '\x85' ∉ text := by
  fun_induction foldText gap lineStart cs generalizing text with
  | case1 gap lineStart =>
    cases h
    simpa using hgap
  | case2 gap lineStart c cs _ ih => exact ih h (not_mem_folded_addBreak hgap (unifyBreak_ne c))
  | case3 gap lineStart cs _ ih => exact ih h (not_mem_folded_addBlank hgap (by decide))
  | case4 => cases h
  | case5 gap lineStart c cs hend _ _ ih =>
    obtain ⟨rest, hrest, rfl⟩ := Option.map_eq_some_iff.mp h
    have hc : c ≠ '\x85' := by
      rintro rfl
      exact hend rfl
    simp [hgap, hc.symm, ih hrest (by simp [Gap.folded])]

theorem marksDocument_cons (hdash : c ≠ '-') (hdot : c ≠ '.') (cs : List Char) :
    marksDocument (c :: cs) = false := by
  rcases cs with _ | ⟨_, _ | ⟨_, _ | ⟨_, _⟩⟩⟩ <;> simp [marksDocument, hdash, hdot]

theorem marksDocument_of_isLineEnd (h : isLineEnd c = true) (cs : List Char) :
    marksDocument (c :: cs) = false := by
  rcases isLineEnd_iff.mp h with rfl | rfl | rfl <;>
    exact marksDocument_cons (by decide) (by decide) cs

theorem marksDocument_space (cs : List Char) : marksDocument (' ' :: cs) = false :=
  marksDocument_cons (by decide) (by decide) cs

theorem staysBefore_lineEnd (hend : isLineEnd c = true) (hc : c ≠ '\x85') (cs : List Char) :
    StaysBefore c cs ↔ (∀ d ∈ cs.head?, d ≠ ' ') ∧ marksDocument cs = false := by
  constructor
  · intro h
    exact ⟨h.noBlankBehind hend, h.noMark hend⟩
  · rintro ⟨hblank, hmark⟩
    refine ⟨hc, ?_, fun _ => hblank, fun _ => hmark⟩
    rintro rfl
    cases hend

theorem staysBefore_space (cs : List Char) : StaysBefore ' ' cs ↔ ∀ d ∈ cs.head?, isLineEnd d = false :=
  ⟨fun h => h.noBlankBefore rfl, fun h => ⟨by decide, fun _ => h, nofun, nofun⟩⟩

theorem staysBefore_word (hend : isLineEnd c = false) (hspace : c ≠ ' ') (cs : List Char) :
    StaysBefore c cs := by
  refine ⟨?_, fun h => absurd h hspace, ?_, ?_⟩
  · rintro rfl
    cases hend
  all_goals
    intro h
    rw [hend] at h
    cases h

/-- A line end that meets no blank makes the gap longer. -/
theorem Gap.addBreak_of_joins (hgap : gap.Faithful) (hend : isLineEnd c = true)
    (hjoins : gap.Joins (c :: cs)) :
    (gap.addBreak c).Faithful ∧ (gap.addBreak c).folded = c :: gap.folded ∧
      ((gap.addBreak c).Joins cs ↔ ∀ d ∈ cs.head?, d ≠ ' ') := by
  have hfeed : c ≠ '\n' := by
    rintro rfl
    cases hend
  cases gap with
  | none => exact ⟨⟨c, rfl, hfeed⟩, if_neg hfeed, Iff.rfl⟩
  | blanks blanks =>
    have hnone := hjoins c rfl
    rw [hend] at hnone
    cases hnone
  | lines first? more =>
    obtain ⟨d, rfl, hd⟩ := hgap
    refine ⟨⟨d, rfl, hd⟩, ?_, Iff.rfl⟩
    simp [Gap.addBreak, Gap.folded, hd]

/-- A line end that meets blanks takes their place. -/
theorem Gap.addBreak_of_not_joins (hgap : gap.Faithful) (hend : isLineEnd c = true)
    (hjoins : ¬ gap.Joins (c :: cs)) : (gap.addBreak c).folded.length ≤ gap.folded.length := by
  have hfeed : c ≠ '\n' := by
    rintro rfl
    cases hend
  cases gap with
  | none => exact absurd trivial hjoins
  | blanks blanks =>
    simp only [Gap.addBreak, Gap.folded, if_neg hfeed]
    exact List.length_pos_iff.mpr hgap
  | lines first? more =>
    refine absurd (fun d hd => ?_) hjoins
    rintro rfl
    cases hd
    cases hend

theorem Gap.addBlank_of_joins (hjoins : gap.Joins (' ' :: cs)) :
    (gap.addBlank ' ').Faithful ∧ (gap.addBlank ' ').folded = ' ' :: gap.folded ∧
      ((gap.addBlank ' ').Joins cs ↔ ∀ d ∈ cs.head?, isLineEnd d = false) := by
  cases gap with
  | none => exact ⟨List.cons_ne_nil _ _, rfl, Iff.rfl⟩
  | blanks blanks => exact ⟨List.cons_ne_nil _ _, rfl, Iff.rfl⟩
  | lines first? more => exact absurd rfl (hjoins ' ' rfl)

/-- A blank that meets a line end is lost. -/
theorem Gap.addBlank_of_not_joins (hjoins : ¬ gap.Joins (' ' :: cs)) : gap.addBlank ' ' = gap := by
  cases gap with
  | none => exact absurd trivial hjoins
  | blanks blanks =>
    refine absurd (fun d hd => ?_) hjoins
    cases hd
    rfl
  | lines first? more => rfl

/-- A gap that did not get longer has lost a character. -/
theorem foldText_ne_of_length_le {next : Gap} (h : next.folded.length ≤ gap.folded.length) :
    foldText next lineStart cs ≠ some (gap.folded.reverse ++ c :: cs) := by
  intro hread
  have hle := length_le_of_foldText hread
  simp only [List.length_append, List.length_reverse, List.length_cons] at hle
  omega

/-- Behind a gap that is read as it is written, a text is read as itself just if no blank is lost where
they meet, no document starts there, and the text is kept. -/
theorem foldText_gap (hgap : gap.Faithful) (hnext : '\x85' ∉ gap.folded) :
    foldText gap lineStart cs = some (gap.folded.reverse ++ cs) ↔
      gap.Joins cs ∧ (lineStart = true → marksDocument cs = false) ∧ KeptText cs := by
  fun_induction foldText gap lineStart cs with
  | case1 gap lineStart => cases gap <;> simp [Gap.Joins, marksDocument, KeptText]
  | case2 gap lineStart c cs hend ih =>
    by_cases hc : c = '\x85'
    · subst hc
      have hlost (h : foldText (gap.addBreak (unifyBreak '\x85')) true cs
          = some (gap.folded.reverse ++ '\x85' :: cs)) : False :=
        not_mem_of_foldText h (not_mem_folded_addBreak hnext (unifyBreak_ne _)) (by simp)
      exact iff_of_false hlost fun h => h.2.2.1.noNextLine rfl
    · rw [unifyBreak_of_ne hc] at ih ⊢
      rw [KeptText, staysBefore_lineEnd hend hc]
      by_cases hjoins : gap.Joins (c :: cs)
      · obtain ⟨hfaithful, hfolded, hjoinsNext⟩ := Gap.addBreak_of_joins hgap hend hjoins
        have hstep := ih hfaithful (not_mem_folded_addBreak hnext hc)
        rw [hfolded, hjoinsNext] at hstep
        simpa [hjoins, marksDocument_of_isLineEnd hend, and_assoc] using hstep
      · have hshort := Gap.addBreak_of_not_joins hgap hend hjoins
        exact iff_of_false (foldText_ne_of_length_le hshort) fun h => hjoins h.1
  | case3 gap lineStart cs _ ih =>
    rw [KeptText, staysBefore_space]
    by_cases hjoins : gap.Joins (' ' :: cs)
    · obtain ⟨hfaithful, hfolded, hjoinsNext⟩ := Gap.addBlank_of_joins hjoins
      have hstep := ih hfaithful (not_mem_folded_addBlank hnext (by decide))
      rw [hfolded, hjoinsNext] at hstep
      simpa [hjoins, marksDocument_space] using hstep
    · rw [Gap.addBlank_of_not_joins hjoins]
      exact iff_of_false (foldText_ne_of_length_le (Nat.le_refl _)) fun h => hjoins h.1
  | case4 gap lineStart c cs _ _ hmark =>
    rw [Bool.and_eq_true] at hmark
    simp [hmark]
  | case5 gap lineStart c cs hend hspace hmark ih =>
    have hend' : isLineEnd c = false := by simpa using hend
    have hmark' : lineStart = true → marksDocument (c :: cs) = false := by simpa using hmark
    have hjoins : gap.Joins (c :: cs) := by cases gap <;> simp [Gap.Joins, hend', hspace]
    have hstep := ih trivial (by simp [Gap.folded])
    rw [KeptText, and_iff_right hjoins, and_iff_right hmark',
      and_iff_right (staysBefore_word hend' hspace cs)]
    simpa [Gap.folded, Gap.Joins] using hstep

theorem foldText_eq_some_iff (cs : List Char) : foldText .none false cs = some cs ↔ KeptText cs := by
  have h : foldText .none false cs = some (Gap.none.folded.reverse ++ cs) ↔ _ :=
    foldText_gap trivial (by simp [Gap.folded])
  simpa [Gap.folded, Gap.Joins] using h

/-- A text of one line is kept. -/
theorem keptText_of_oneLine {cs : List Char} (h : ∀ c ∈ cs, isLineEnd c = false) : KeptText cs := by
  induction cs with
  | nil => trivial
  | cons c cs ih =>
    have hc := h c List.mem_cons_self
    have hcs : ∀ d ∈ cs, isLineEnd d = false := fun d hd => h d (List.mem_cons_of_mem _ hd)
    refine ⟨⟨?_, ?_, ?_, ?_⟩, ih hcs⟩
    · rintro rfl
      cases hc
    · exact fun _ d hd => hcs d (List.mem_of_mem_head? hd)
    all_goals
      intro hend
      rw [hc] at hend
      cases hend

instance (cs : List Char) : Decidable (KeptText cs) := decidable_of_iff _ (foldText_eq_some_iff cs)

/-! ## Reading strings -/

/-- The text of a string between its quotes, as a YAML reader meets it. -/
def escapedText (cs : List Char) : List Char := (cs.flatMap escapeChar).map unifyBreak

/-- The place behind some characters. -/
def Mark.over (mark : Mark) (cs : List Char) : Mark :=
  cs.foldl (fun mark c => if isBreak c then mark.nextLine else mark.next) mark

theorem Mark.over_append (mark : Mark) (cs rest : List Char) :
    mark.over (cs ++ rest) = (mark.over cs).over rest :=
  List.foldl_append

theorem Mark.over_cons (mark : Mark) (c : Char) (cs : List Char) :
    mark.over (c :: cs) = (if isBreak c then mark.nextLine else mark.next).over cs := rfl

theorem escapedText_cons (c : Char) (cs : List Char) :
    escapedText (c :: cs) = (escapeChar c).map unifyBreak ++ escapedText cs := by
  simp [escapedText]

theorem atDocumentMark_cons (hdash : c ≠ '-') (hdot : c ≠ '.') (cs : List Char) :
    atDocumentMark (c :: cs) = false := by
  rcases cs with _ | ⟨_, _ | ⟨_, _⟩⟩ <;> simp [atDocumentMark, hdash, hdot]

theorem Mark.over_eq_advance (mark : Mark) (h : ∀ c ∈ cs, isBreak c = false) :
    mark.over cs = mark.advance cs.length := by
  induction cs generalizing mark with
  | nil => rfl
  | cons c cs ih =>
    rw [Mark.over_cons, h c List.mem_cons_self, ih _ fun d hd => h d (List.mem_cons_of_mem _ hd)]
    simp [Mark.next, Mark.advance, Nat.add_comm, Nat.add_left_comm]

theorem hexCharacter?_digitChars : ∀ n < 0x20,
    hexCharacter? ['0', '0', Nat.digitChar (n / 16), Nat.digitChar (n % 16)] = some (Char.ofNat n) := by
  decide

/-- An escape of one letter is read as its character. -/
theorem readDoubleQuoted_letter {e : Char} (hbreak : isBreak e = false) (he : escaped? e = some c) :
    readDoubleQuoted done gap mark ('\\' :: e :: rest)
      = readDoubleQuoted (c :: (gap.folded ++ done)) .none (mark.advance 2) rest := by
  rw [readDoubleQuoted, if_neg (by decide), if_neg (by decide),
    atDocumentMark_cons (by decide) (by decide), Bool.and_false, if_neg (by decide), if_neg (by decide),
    if_pos rfl]
  simp only [hbreak, he]
  rfl

/-- A control character is read from its code. -/
theorem readDoubleQuoted_code (hc : c.toNat < 0x20) :
    readDoubleQuoted done gap mark ('\\' :: 'u' :: '0' :: '0' :: Nat.digitChar (c.toNat / 16)
        :: Nat.digitChar (c.toNat % 16) :: rest)
      = readDoubleQuoted (c :: (gap.folded ++ done)) .none (mark.advance 6) rest := by
  have hread := hexCharacter?_digitChars c.toNat hc
  rw [Char.ofNat_toNat] at hread
  rw [readDoubleQuoted, if_neg (by decide), if_neg (by decide),
    atDocumentMark_cons (by decide) (by decide), Bool.and_false, if_neg (by decide), if_neg (by decide),
    if_pos rfl]
  simp only [hread]
  rfl

/-- An escape as it stands between quotes, which is read as its character. -/
structure IsEscape (c : Char) (code : List Char) : Prop where
  noBreak : ∀ d ∈ code, isBreak d = false
  read : ∀ done gap mark rest, readDoubleQuoted done gap mark ('\\' :: (code ++ rest))
    = readDoubleQuoted (c :: (gap.folded ++ done)) .none (mark.advance (code.length + 1)) rest
  /-- The character is of no kind that folding or the mark of a document would tell. -/
  plain : isLineEnd c = false ∧ c ≠ ' ' ∧ c ≠ '-' ∧ c ≠ '.'

theorem isEscape_letter {e : Char} (hbreak : isBreak e = false) (he : escaped? e = some c)
    (hplain : isLineEnd c = false ∧ c ≠ ' ' ∧ c ≠ '-' ∧ c ≠ '.') : IsEscape c [e] :=
  ⟨by simpa using hbreak, fun _ _ _ _ => readDoubleQuoted_letter hbreak he, hplain⟩

theorem isEscape_code (hc : c.toNat < 0x20) :
    IsEscape c ['u', '0', '0', Nat.digitChar (c.toNat / 16), Nat.digitChar (c.toNat % 16)] where
  noBreak := by simp [isBreak]
  read _ _ _ _ := readDoubleQuoted_code hc
  plain := by
    have hne (d : Char) (hd : 0x20 ≤ d.toNat) : c ≠ d := by
      rintro rfl
      omega
    refine ⟨?_, hne ' ' (by decide), hne '-' (by decide), hne '.' (by decide)⟩
    simp [isLineEnd, hne '\x85' (by decide), hne '\u2028' (by decide), hne '\u2029' (by decide)]

/-- A character is written as an escape that a YAML reader knows too, or as itself. -/
theorem escaped_cases (c : Char) :
    (∃ code, (escapeChar c).map unifyBreak = '\\' :: code ∧ IsEscape c code) ∨
      (escapeChar c).map unifyBreak = [unifyBreak c] ∧ c ≠ '"' ∧ c ≠ '\\' ∧ 0x20 ≤ c.toNat := by
  unfold escapeChar
  -- The seven escapes of one letter.
  iterate 7
    split
    · rename_i h
      subst h
      exact .inl ⟨_, rfl, isEscape_letter rfl rfl (by decide)⟩
  split
  · rename_i hcontrol
    exact .inl ⟨_, by simp [unifyBreak], isEscape_code hcontrol⟩
  · rename_i hquote hbackslash _ _ _ _ _ hcontrol
    exact .inr ⟨rfl, hquote, hbackslash, Nat.not_lt.mp hcontrol⟩

theorem isBreak_unifyBreak (hcontrol : 0x20 ≤ c.toNat) : isBreak (unifyBreak c) = isLineEnd c := by
  have hfeed : c ≠ '\n' := by
    rintro rfl
    exact absurd hcontrol (by decide)
  grind [isBreak, isLineEnd, unifyBreak]

theorem isGap_unifyBreak (hcontrol : 0x20 ≤ c.toNat) : isGap (unifyBreak c) = decide (c = ' ') := by
  have htab : c ≠ '\t' := by
    rintro rfl
    exact absurd hcontrol (by decide)
  grind [isGap, unifyBreak]

/-- Up to escapes, a text between quotes shows its first character. -/
theorem escapedText_first (c : Char) (cs : List Char) :
    ∃ x more, escapedText (c :: cs) = x :: more ∧ (x = '-' ∨ x = '.' → x = c) ∧
      (c = '-' ∨ c = '.' → x = c ∧ more = escapedText cs) ∧
      (isGap x || isBreak x) = (decide (c = ' ') || isLineEnd c) := by
  rw [escapedText_cons]
  rcases escaped_cases c with ⟨code, hcode, hescape⟩ | ⟨hself, hquote, hbackslash, hcontrol⟩
  · obtain ⟨hend, hspace, hdash, hdot⟩ := hescape.plain
    refine ⟨'\\', _, by rw [hcode, List.cons_append], by simp, by simp [hdash, hdot], ?_⟩
    simp [hend, hspace, isGap, isBreak]
  · refine ⟨unifyBreak c, _, by rw [hself, List.singleton_append], ?_, ?_, ?_⟩
    · grind [unifyBreak]
    · grind [unifyBreak]
    · rw [isGap_unifyBreak hcontrol, isBreak_unifyBreak hcontrol]

/-- A dash or a point between quotes comes from the text. -/
theorem escapedText_eq_cons_iff {a : Char} (ha : a = '-' ∨ a = '.') (cs rest more : List Char) :
    escapedText cs ++ '"' :: rest = a :: more ↔
      ∃ others, cs = a :: others ∧ more = escapedText others ++ '"' :: rest := by
  cases cs with
  | nil =>
    have hquote : '"' ≠ a := by
      rintro rfl
      simp at ha
    simp [escapedText, hquote]
  | cons c cs =>
    obtain ⟨x, others, htext, hback, hforth, -⟩ := escapedText_first c cs
    rw [htext, List.cons_append]
    constructor
    · intro h
      obtain ⟨rfl, rfl⟩ := List.cons.inj h
      obtain rfl := hback ha
      obtain ⟨-, rfl⟩ := hforth ha
      exact ⟨cs, rfl, rfl⟩
    · rintro ⟨others', h, rfl⟩
      obtain ⟨rfl, rfl⟩ := List.cons.inj h
      obtain ⟨rfl, rfl⟩ := hforth ha
      rfl

theorem endsWord_escapedText (cs rest : List Char) :
    endsWord (escapedText cs ++ '"' :: rest) = true ↔
      ∃ c others, cs = c :: others ∧ (c = ' ' ∨ isLineEnd c = true) := by
  cases cs with
  | nil => simp [escapedText, endsWord, isGap, isBreak]
  | cons c cs =>
    obtain ⟨x, others, htext, -, -, hends⟩ := escapedText_first c cs
    rw [htext, List.cons_append, endsWord, hends]
    simp

theorem atDocumentMark_iff : atDocumentMark cs = true ↔
    ∃ a rest, (a = '-' ∨ a = '.') ∧ cs = a :: a :: a :: rest ∧ endsWord rest = true := by
  unfold atDocumentMark
  split
  · simp only [Bool.and_eq_true, Bool.or_eq_true, decide_eq_true_eq]
    constructor
    · rintro ⟨⟨⟨ha, rfl⟩, rfl⟩, hends⟩
      exact ⟨_, _, ha, rfl, hends⟩
    · rintro ⟨a, rest, ha, heq, hends⟩
      cases heq
      exact ⟨⟨⟨ha, rfl⟩, rfl⟩, hends⟩
  · grind

theorem marksDocument_iff : marksDocument cs = true ↔
    ∃ a d rest, (a = '-' ∨ a = '.') ∧ cs = a :: a :: a :: d :: rest ∧
      (d = ' ' ∨ isLineEnd d = true) := by
  unfold marksDocument
  split
  · simp only [Bool.and_eq_true, Bool.or_eq_true, decide_eq_true_eq]
    constructor
    · rintro ⟨⟨⟨ha, rfl⟩, rfl⟩, hd⟩
      exact ⟨_, _, _, ha, rfl, hd⟩
    · rintro ⟨a, d, rest, ha, heq, hd⟩
      cases heq
      exact ⟨⟨⟨ha, rfl⟩, rfl⟩, hd⟩
  · grind

/-- A line between quotes marks a document just if the text does. -/
theorem atDocumentMark_escapedText (cs rest : List Char) :
    atDocumentMark (escapedText cs ++ '"' :: rest) = marksDocument cs := by
  rw [Bool.eq_iff_iff, atDocumentMark_iff, marksDocument_iff]
  constructor
  · rintro ⟨a, more, ha, hfirst, hends⟩
    obtain ⟨cs, rfl, hsecond⟩ := (escapedText_eq_cons_iff ha _ _ _).mp hfirst
    obtain ⟨cs, rfl, hthird⟩ := (escapedText_eq_cons_iff ha _ _ _).mp hsecond.symm
    obtain ⟨cs, rfl, rfl⟩ := (escapedText_eq_cons_iff ha _ _ _).mp hthird.symm
    obtain ⟨d, cs, rfl, hd⟩ := (endsWord_escapedText _ _).mp hends
    exact ⟨a, d, cs, ha, rfl, hd⟩
  · rintro ⟨a, d, cs, ha, rfl, hd⟩
    have hstep (cs : List Char) :
        escapedText (a :: cs) ++ '"' :: rest = a :: (escapedText cs ++ '"' :: rest) :=
      (escapedText_eq_cons_iff ha _ _ _).mpr ⟨cs, rfl, rfl⟩
    have hends := (endsWord_escapedText (d :: cs) rest).mpr ⟨d, cs, rfl, hd⟩
    refine ⟨a, escapedText (d :: cs) ++ '"' :: rest, ha, ?_, hends⟩
    rw [hstep, hstep, hstep]

theorem foldText_word (hend : isLineEnd c = false) (hspace : c ≠ ' ')
    (hmark : (lineStart && marksDocument (c :: cs)) = false) :
    foldText gap lineStart (c :: cs)
      = (foldText .none false cs).map fun text => gap.folded.reverse ++ c :: text := by
  rw [foldText, hend, if_neg (by decide), if_neg hspace, hmark, if_neg (by decide)]

/-- A text between quotes is read as it is folded. -/
theorem readDoubleQuoted_escapedText (cs done : List Char) (gap : Gap) (mark : Mark) (rest : List Char) :
    readDoubleQuoted done gap mark (escapedText cs ++ '"' :: rest)
      = match foldText gap (mark.column = 0) cs with
        | none => .error .token
        | some text =>
          .ok ⟨String.ofList (done.reverse ++ text), false, mark.over (escapedText cs ++ ['"']),
            rest⟩ := by
  induction cs generalizing done gap mark with
  | nil =>
    change readDoubleQuoted done gap mark ('"' :: rest) = _
    rw [readDoubleQuoted, if_neg (by decide), if_neg (by decide),
      atDocumentMark_cons (by decide) (by decide), Bool.and_false, if_neg (by decide), if_pos rfl, foldText]
    simp [escapedText, Mark.over, isBreak]
  | cons c cs ih =>
    have hmark := atDocumentMark_escapedText (c :: cs) rest
    rw [escapedText_cons] at hmark ⊢
    rcases escaped_cases c with ⟨code, hcode, hescape⟩ | ⟨hself, hquote, hbackslash, hcontrol⟩
    · obtain ⟨hend, hspace, hdash, hdot⟩ := hescape.plain
      have hword : foldText gap (mark.column = 0) (c :: cs) = _ :=
        foldText_word hend hspace (by rw [marksDocument_cons hdash hdot, Bool.and_false])
      have hover : mark.over ('\\' :: code) = mark.advance (code.length + 1) :=
        mark.over_eq_advance (List.forall_mem_cons.mpr ⟨by decide, hescape.noBreak⟩)
      have hcolumn : (mark.advance (code.length + 1)).column ≠ 0 := Nat.succ_ne_zero _
      rw [hcode, List.append_assoc, List.cons_append, hescape.read, ih, hword, List.append_assoc,
        mark.over_append ('\\' :: code), hover, decide_eq_false hcolumn]
      cases foldText .none false cs <;> simp
    · have hbreak := isBreak_unifyBreak hcontrol
      have hgap := isGap_unifyBreak hcontrol
      rw [hself, List.append_assoc, List.singleton_append] at hmark ⊢
      rw [readDoubleQuoted, List.append_assoc, List.singleton_append, Mark.over_cons, hbreak, hgap]
      by_cases hend : isLineEnd c = true
      · rw [if_pos hend, ih, foldText, if_pos hend, if_pos hend]
        rfl
      · have hnext : unifyBreak c = c := unifyBreak_of_ne fun h => hend (by rw [h]; rfl)
        rw [hnext] at hmark ⊢
        rw [if_neg hend, if_neg hend, hmark]
        by_cases hspace : c = ' '
        · rw [if_pos (by simpa using hspace), ih, foldText, if_neg hend, if_pos hspace]
          rfl
        · rw [if_neg (by simpa using hspace)]
          by_cases hstart : (decide (mark.column = 0) && marksDocument (c :: cs)) = true
          · rw [if_pos hstart, foldText, if_neg hend, if_neg hspace, if_pos hstart]
          · have hcolumn : mark.next.column ≠ 0 := Nat.succ_ne_zero _
            rw [if_neg hstart, if_neg hquote, if_neg hbackslash, ih,
              foldText_word (by simpa using hend) hspace (by simpa using hstart), decide_eq_false hcolumn]
            cases foldText .none false cs <;> simp

end Yaml

end ConfigKit
