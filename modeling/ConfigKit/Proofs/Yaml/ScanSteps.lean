-- SUMMARY: Rules for the scan of JSON text, one for each kind of token.
import Mathlib.Data.List.DropRight
import ConfigKit.Proofs.Json.RoundTrip
import ConfigKit.Proofs.Yaml.QuotedText
import ConfigKit.Yaml.Token.Scan

/-!
# Scanning JSON text step by step

JSON text is a flow value of YAML on no indentation. `Gives` says what the scan makes of the rest of a
stream from where it stands, whatever it remembers of the layout. There is one rule for each kind of token:
brackets, commas, strings, names with their colon, words and numbers.
-/

namespace ConfigKit

namespace Yaml

open Json

/-! ## Tokens of a string and of a name -/

/-- What the text of a string is read as. -/
def unquote (text : String) : Except Fault String :=
  match foldText .none false text.toList with
  | none => .error .token
  | some cs => .ok (String.ofList cs)

/-- Whether a name can be a key: it stands on one line, and is not too long with its quotes and escapes. -/
def isShort (name : String) : Bool :=
  name.toList.all (fun c => !isLineEnd c) && (stringChars name).length ≤ Scan.maxKeyLength

theorem unquote_eq_self_iff (text : String) : unquote text = .ok text ↔ KeptText text.toList := by
  rw [← foldText_eq_some_iff, unquote]
  cases foldText .none false text.toList with
  | none => simp
  | some cs =>
    have hinj : String.ofList cs = text ↔ cs = text.toList := by
      rw [← String.ofList_toList (s := text), String.ofList_inj, String.toList_ofList]
    simpa using hinj

/-- A short name is read as it is written. -/
theorem unquote_of_isShort {name : String} (h : isShort name = true) : unquote name = .ok name := by
  rw [isShort, Bool.and_eq_true, List.all_eq_true] at h
  exact (unquote_eq_self_iff name).mpr (keptText_of_oneLine fun c hc => by simpa using h.1 c hc)

/-- The tokens of a name and its colon. -/
def tokensOfName (name : String) : Except Fault (List Token) := do
  let text ← unquote name
  .ok ((if isShort name then [.key] else []) ++ [.scalar .doubleQuoted text, .value])

/-! ## Where a scan stands -/

/-- A blank that a layout puts between tokens. -/
def isLayoutBlank (c : Char) : Bool := c = ' ' || c = '\n'

/-- No block collection is open and no key has to follow, in so many flow collections. -/
structure Scan.Flat (s : Scan) (level : Nat) : Prop where
  indent : s.indent = -1
  outerIndents : s.outerIndents = []
  flow : s.flow = level
  depth : s.outerCandidates.length = level
  optional : ∀ candidate? ∈ s.candidate? :: s.outerCandidates, ∀ candidate ∈ candidate?,
    candidate.required = false

/-- The scan has read some tokens, the last one first, and stands before a text, blanks aside. If `key`,
a key may start there. -/
structure Scan.Before (s : Scan) (level : Nat) (key : Bool) (tokens : List Token) (rest : List Char) :
    Prop where
  flat : s.Flat level
  keyAllowed : key = true → s.keyAllowed = true
  tokens : s.tokens = tokens
  rest : s.rest.dropWhile isLayoutBlank = rest.dropWhile isLayoutBlank

/-- From wherever a scan stands so, it has this outcome. -/
def Gives (level : Nat) (key : Bool) (tokens : List Token) (rest : List Char)
    (outcome : Except Fault (List Token)) : Prop :=
  ∀ (s : Scan) (fuel : Nat), s.Before level key tokens rest → s.rest.length < fuel →
    Scan.run fuel s = outcome

/-- A character that is skipped neither as a blank nor as a comment. -/
def StartsToken (c : Char) : Prop := isBreak c = false ∧ c ≠ ' ' ∧ c ≠ '\t' ∧ c ≠ '#'

/-- A candidate is given up behind its line, or too far behind it. -/
def Candidate.isNear (mark : Mark) (candidate : Candidate) : Bool :=
  ¬ (candidate.mark.line < mark.line ∨ candidate.mark.index + Scan.maxKeyLength < mark.index)

/-- The scan at its next token. -/
def Scan.arrive (s : Scan) : Scan :=
  let t := s.toNextToken
  { t with
    candidate? := t.candidate?.filter (Candidate.isNear t.mark)
    outerCandidates := t.outerCandidates.map (Option.filter (Candidate.isNear t.mark)) }

variable {s a : Scan} {level : Nat} {key : Bool} {tokens : List Token} {rest cs : List Char} {c : Char}
  {mark : Mark} {candidate? : Option Candidate} {outcome : Except Fault (List Token)}

/-! ## The next token -/

theorem skipSpace_blanks (inFlow keyAllowed : Bool) (mark : Mark) (hrest : cs.dropWhile isLayoutBlank = rest)
    (hstart : ∀ c ∈ rest.head?, StartsToken c) :
    ∃ later mark', Scan.skipSpace inFlow keyAllowed false mark cs = (later, mark', rest) ∧
      (keyAllowed = true → later = true) := by
  induction cs generalizing keyAllowed mark with
  | nil =>
    subst hrest
    exact ⟨keyAllowed, mark, rfl, id⟩
  | cons c cs ih =>
    by_cases hblank : isLayoutBlank c = true
    · rw [List.dropWhile_cons_of_pos hblank] at hrest
      simp only [isLayoutBlank, Bool.or_eq_true, decide_eq_true_eq] at hblank
      rcases hblank with rfl | rfl
      · obtain ⟨later, mark', hskip, hkey⟩ := ih keyAllowed mark.next hrest
        exact ⟨later, mark', by rw [Scan.skipSpace]; simpa [isBreak] using hskip, hkey⟩
      · obtain ⟨later, mark', hskip, hkey⟩ := ih (keyAllowed || !inFlow) mark.nextLine hrest
        exact ⟨later, mark', by rw [Scan.skipSpace]; simpa [isBreak] using hskip,
          fun h => hkey (by rw [h, Bool.true_or])⟩
    · rw [List.dropWhile_cons_of_neg hblank] at hrest
      subst hrest
      obtain ⟨hbreak, hspace, htab, hcomment⟩ := hstart c rfl
      exact ⟨keyAllowed, mark, by simp [Scan.skipSpace, hbreak, hspace, htab, hcomment], id⟩

theorem fresh?_of_optional (h : ∀ candidate ∈ candidate?, candidate.required = false) :
    Scan.fresh? mark candidate? = .ok (candidate?.filter (Candidate.isNear mark)) := by
  cases candidate? with
  | none => rfl
  | some candidate =>
    have hoptional : candidate.required = false := h candidate rfl
    by_cases hfar : candidate.mark.line < mark.line ∨ candidate.mark.index + Scan.maxKeyLength < mark.index
    · have hnear : Candidate.isNear mark candidate = false := decide_eq_false (not_not_intro hfar)
      simp [Scan.fresh?, hfar, Scan.giveUp, hoptional, Option.filter, hnear, bind, Except.bind]
    · have hnear : Candidate.isNear mark candidate = true := decide_eq_true hfar
      simp [Scan.fresh?, hfar, Option.filter, hnear]

theorem mapM_fresh? {candidates : List (Option Candidate)}
    (h : ∀ candidate? ∈ candidates, ∀ candidate ∈ candidate?, candidate.required = false) :
    candidates.mapM (Scan.fresh? mark) = .ok (candidates.map (Option.filter (Candidate.isNear mark))) := by
  induction candidates with
  | nil => rfl
  | cons candidate? candidates ih =>
    rw [List.mapM_cons, fresh?_of_optional (h candidate? List.mem_cons_self),
      ih fun other hother => h other (List.mem_cons_of_mem _ hother)]
    rfl

theorem Scan.Flat.toNextToken (h : s.Flat level) : s.toNextToken.Flat level :=
  ⟨h.indent, h.outerIndents, h.flow, h.depth, h.optional⟩

theorem Scan.Flat.arrive (h : s.Flat level) : s.arrive.Flat level where
  indent := h.indent
  outerIndents := h.outerIndents
  flow := h.flow
  depth := (List.length_map _).trans h.depth
  optional := by
    intro candidate? hmem candidate hcandidate
    have hmap : candidate? ∈ (s.candidate? :: s.outerCandidates).map
        (Option.filter (Candidate.isNear s.toNextToken.mark)) := hmem
    obtain ⟨before?, hbefore, rfl⟩ := List.mem_map.mp hmap
    exact h.optional before? hbefore candidate (Option.mem_filter_iff.mp hcandidate).1

theorem Scan.Flat.unindent (h : s.Flat level) (column : Int) : s.unindent column = s := by
  unfold Scan.unindent
  split
  · rfl
  · rw [h.outerIndents, Scan.closeBlocks, ← h.outerIndents]

/-- The scan goes to the next token, and reads it. -/
theorem run_arrive (h : s.Flat level) (fuel : Nat) :
    Scan.run (fuel + 1) s = match s.arrive.rest with
      | [] => s.arrive.finish
      | c :: _ => s.arrive.readToken c >>= Scan.run fuel := by
  have hstale : s.toNextToken.dropStale = .ok s.arrive := by
    rw [Scan.dropStale, fresh?_of_optional (h.toNextToken.optional _ List.mem_cons_self),
      mapM_fresh? fun other hother => h.toNextToken.optional other (List.mem_cons_of_mem _ hother)]
    rfl
  rw [Scan.run, hstale]
  exact congrArg (fun t : Scan => match t.rest with
    | [] => t.finish
    | c :: _ => t.readToken c >>= Scan.run fuel) (h.arrive.unindent _)

theorem Scan.Before.arrive (h : s.Before level key tokens rest) (hrest : rest.dropWhile isLayoutBlank = rest)
    (hstart : ∀ c ∈ rest.head?, StartsToken c) :
    s.arrive.Before level key tokens rest ∧ s.arrive.rest = rest ∧ rest.length ≤ s.rest.length := by
  obtain ⟨later, mark', hskip, hkey⟩ :=
    skipSpace_blanks s.inFlow s.keyAllowed s.mark (h.rest.trans hrest) hstart
  have hsame : s.arrive.rest = rest := congrArg (·.2.2) hskip
  have hlater : s.arrive.keyAllowed = later := congrArg (·.1) hskip
  refine ⟨⟨h.flat.arrive, fun hk => ?_, h.tokens, by rw [hsame]⟩, hsame, ?_⟩
  · rw [hlater]
    exact hkey (h.keyAllowed hk)
  · rw [← hrest, ← h.rest]
    exact (List.dropWhile_suffix _).length_le

/-! ## Single tokens -/

theorem StartsToken.isLayoutBlank (h : StartsToken c) : isLayoutBlank c = false := by
  obtain ⟨hbreak, hspace, -⟩ := h
  have hfeed : c ≠ '\n' := by
    rintro rfl
    cases hbreak
  simp [Yaml.isLayoutBlank, hspace, hfeed]

/-- Blanks do not count. -/
theorem gives_blanks {blanks : List Char} (hblanks : ∀ c ∈ blanks, isLayoutBlank c = true)
    (h : Gives level key tokens rest outcome) : Gives level key tokens (blanks ++ rest) outcome := by
  intro s fuel hs hfuel
  refine h s fuel ⟨hs.flat, hs.keyAllowed, hs.tokens, ?_⟩ hfuel
  rw [hs.rest, List.dropWhile_append_of_pos hblanks]

theorem Scan.Flat.giveUp (h : s.Flat level) : Scan.giveUp s.candidate? = .ok () := by
  have hoptional := h.optional _ List.mem_cons_self
  cases hcandidate : s.candidate? with
  | none => rfl
  | some candidate => simp [Scan.giveUp, hoptional candidate hcandidate]

theorem Scan.Flat.dropCandidate (h : s.Flat level) : s.dropCandidate = .ok { s with candidate? := none } := by
  simp only [Scan.dropCandidate, h.giveUp, bind, Except.bind]

/-- The scan with this place as a candidate, if a key may start here. -/
def Scan.saved (s : Scan) : Scan :=
  if s.keyAllowed then { s with candidate? := some ⟨false, s.count, s.mark⟩ } else s

/-- A key is never required here, for the indentation is that of no column. -/
theorem Scan.Flat.saveCandidate (h : s.Flat level) : s.saveCandidate = .ok s.saved := by
  unfold Scan.saveCandidate Scan.saved
  split
  · have hcolumn : ¬ s.indent = (s.mark.column : Int) := by
      rw [h.indent]
      omega
    simp [h.giveUp, hcolumn, bind, Except.bind]
  · rfl

theorem Scan.saved_fields (s : Scan) : s.saved.indent = s.indent ∧ s.saved.outerIndents = s.outerIndents ∧
    s.saved.flow = s.flow ∧ s.saved.outerCandidates = s.outerCandidates ∧ s.saved.tokens = s.tokens ∧
    s.saved.rest = s.rest ∧ s.saved.mark = s.mark ∧ s.saved.count = s.count := by
  unfold Scan.saved
  split <;> simp

theorem Scan.Flat.saved (h : s.Flat level) : s.saved.Flat level := by
  unfold Scan.saved
  split
  · refine ⟨h.indent, h.outerIndents, h.flow, h.depth, ?_⟩
    intro candidate? hmem candidate hcandidate
    rcases List.mem_cons.mp hmem with rfl | hmem
    · cases hcandidate
      rfl
    · exact h.optional candidate? (List.mem_cons_of_mem _ hmem) candidate hcandidate
  · exact h

/-- The stream ends. -/
theorem gives_nil : Gives 0 key tokens [] (.ok tokens.reverse) := by
  intro s fuel hs hfuel
  obtain ⟨harrive, hrest, -⟩ := hs.arrive rfl (by simp)
  have hflat := harrive.flat
  cases fuel with
  | zero => cases hfuel
  | succ fuel =>
    rw [run_arrive hs.flat, hrest]
    simp only [Scan.finish, hflat.unindent, hflat.dropCandidate, bind, Except.bind, harrive.tokens]

/-- Reading one token leads to another place. -/
theorem gives_step {level' : Nat} {key' : Bool} {tokens' : List Token} {rest' : List Char}
    (hc : StartsToken c)
    (hread : ∀ a : Scan, a.Before level key tokens (c :: rest) → a.rest = c :: rest →
      ∃ t, a.readToken c = .ok t ∧ t.rest.length ≤ rest.length ∧ t.Before level' key' tokens' rest')
    (h : Gives level' key' tokens' rest' outcome) : Gives level key tokens (c :: rest) outcome := by
  intro s fuel hs hfuel
  obtain ⟨harrive, hrest, hlength⟩ := hs.arrive
    (List.dropWhile_cons_of_neg (by simp [hc.isLayoutBlank])) (by simpa using hc)
  obtain ⟨t, htoken, hshort, ht⟩ := hread s.arrive harrive hrest
  rw [List.length_cons] at hlength
  cases fuel with
  | zero => cases hfuel
  | succ fuel =>
    rw [run_arrive hs.flat, hrest]
    simp only [htoken, bind, Except.bind]
    exact h t fuel ht (by omega)

/-- An opening bracket leads into a flow collection. -/
theorem gives_openFlow {token : Token} (hc : StartsToken c)
    (hread : ∀ a : Scan, a.rest = c :: rest → a.readToken c = a.openFlow token)
    (h : Gives (level + 1) true (token :: tokens) rest outcome) :
    Gives level key tokens (c :: rest) outcome := by
  refine gives_step hc (fun a ha hrest => ?_) h
  obtain ⟨hindent, houter, hflow, hcandidates, htokens, hsame, -⟩ := a.saved_fields
  have hsaved := ha.flat.saved
  rw [hread a hrest, Scan.openFlow, ha.flat.saveCandidate]
  refine ⟨_, rfl, ?_, ⟨⟨?_, ?_, ?_, ?_, ?_⟩, fun _ => rfl, ?_, ?_⟩⟩
  · simp [Scan.push, Scan.advance, hsame, hrest]
  · exact hsaved.indent
  · exact hsaved.outerIndents
  · simp [Scan.push, Scan.advance, hsaved.flow]
  · simp [Scan.push, Scan.advance, hsaved.depth]
  · intro candidate? hmem
    rcases List.mem_cons.mp hmem with rfl | hmem
    · simp [Scan.push, Scan.advance]
    · exact hsaved.optional candidate? hmem
  · simp [Scan.push, Scan.advance, htokens, ha.tokens]
  · simp [Scan.push, Scan.advance, hsame, hrest]

/-- A closing bracket leads out of a flow collection. -/
theorem gives_closeFlow {token : Token} (hc : StartsToken c)
    (hread : ∀ a : Scan, a.rest = c :: rest → a.readToken c = a.closeFlow token)
    (h : Gives level false (token :: tokens) rest outcome) :
    Gives (level + 1) key tokens (c :: rest) outcome := by
  refine gives_step hc (fun a ha hrest => ?_) h
  rw [hread a hrest, Scan.closeFlow, ha.flat.dropCandidate]
  obtain ⟨candidate?, more, hmore⟩ := List.exists_cons_of_length_eq_add_one ha.flat.depth
  have hdepth := ha.flat.depth
  have hflow := ha.flat.flow
  simp only [bind, Except.bind, hflow, hmore]
  refine ⟨_, rfl, ?_, ⟨⟨?_, ?_, ?_, ?_, ?_⟩, nofun, ?_, ?_⟩⟩
  · simp [Scan.push, Scan.advance, hrest]
  · exact ha.flat.indent
  · exact ha.flat.outerIndents
  · rfl
  · rw [hmore] at hdepth
    exact Nat.succ.inj hdepth
  · intro other? hmem
    refine ha.flat.optional other? (List.mem_cons_of_mem _ ?_)
    rwa [hmore]
  · simp [Scan.push, Scan.advance, ha.tokens]
  · simp [Scan.push, Scan.advance, hrest]

theorem atDocumentMark_of_rest (hrest : a.rest = c :: rest) (hdash : c ≠ '-') (hdot : c ≠ '.') :
    atDocumentMark a.rest = false := by
  rw [hrest, atDocumentMark_cons hdash hdot]

theorem gives_openSequence (h : Gives (level + 1) true (.flowSequenceStart :: tokens) rest outcome) :
    Gives level key tokens ('[' :: rest) outcome :=
  gives_openFlow (by simp [StartsToken, isBreak])
    (fun a hrest => by simp [Scan.readToken, atDocumentMark_of_rest hrest]) h

theorem gives_openMapping (h : Gives (level + 1) true (.flowMappingStart :: tokens) rest outcome) :
    Gives level key tokens ('\x7b' :: rest) outcome :=
  gives_openFlow (by simp [StartsToken, isBreak])
    (fun a hrest => by simp [Scan.readToken, atDocumentMark_of_rest hrest]) h

theorem gives_closeSequence (h : Gives level false (.flowSequenceEnd :: tokens) rest outcome) :
    Gives (level + 1) key tokens (']' :: rest) outcome :=
  gives_closeFlow (by simp [StartsToken, isBreak])
    (fun a hrest => by simp [Scan.readToken, atDocumentMark_of_rest hrest]) h

theorem gives_closeMapping (h : Gives level false (.flowMappingEnd :: tokens) rest outcome) :
    Gives (level + 1) key tokens ('\x7d' :: rest) outcome :=
  gives_closeFlow (by simp [StartsToken, isBreak])
    (fun a hrest => by simp [Scan.readToken, atDocumentMark_of_rest hrest]) h

/-- Behind a comma a key may start. -/
theorem gives_comma (h : Gives level true (.flowEntry :: tokens) rest outcome) :
    Gives level key tokens (',' :: rest) outcome := by
  refine gives_step (by simp [StartsToken, isBreak]) (fun a ha hrest => ?_) h
  have hread : a.readToken ',' = a.readFlowEntry := by
    simp [Scan.readToken, atDocumentMark_of_rest hrest]
  rw [hread, Scan.readFlowEntry, ha.flat.dropCandidate]
  refine ⟨_, rfl, ?_, ⟨⟨ha.flat.indent, ha.flat.outerIndents, ha.flat.flow, ha.flat.depth, ?_⟩,
    fun _ => rfl, ?_, ?_⟩⟩
  · simp [Scan.push, Scan.advance, hrest]
  · intro candidate? hmem
    rcases List.mem_cons.mp hmem with rfl | hmem
    · simp [Scan.push, Scan.advance]
    · exact ha.flat.optional candidate? (List.mem_cons_of_mem _ hmem)
  · simp [Scan.push, Scan.advance, ha.tokens]
  · simp [Scan.push, Scan.advance, hrest]

/-! ## Strings and names -/

/-- A string with its quotes, as a YAML reader meets it. -/
def quotedText (text : String) : List Char := '"' :: (escapedText text.toList ++ ['"'])

theorem map_unifyBreak_stringChars (text : String) : (stringChars text).map unifyBreak = quotedText text := by
  simp [stringChars, quotedText, escapedText, unifyBreak]

/-- The scan behind a string that is read as this text. -/
def Scan.behindString (a : Scan) (text : String) (rest : List Char) (folded : String) : Scan :=
  { a.saved with keyAllowed := false, mark := a.mark.over (quotedText text), rest }.push
    (.scalar .doubleQuoted folded)

theorem readToken_quote (ha : a.Flat level) {text : String} (hrest : a.rest = quotedText text ++ rest) :
    a.readToken '"' = (unquote text).map (a.behindString text rest) := by
  have hcs : quotedText text ++ rest = '"' :: (escapedText text.toList ++ '"' :: rest) := by
    simp [quotedText]
  have hmark : atDocumentMark a.rest = false := by
    rw [hrest, hcs, atDocumentMark_cons (by decide) (by decide)]
  have hread : a.readToken '"' = a.readQuoted .doubleQuoted := by simp [Scan.readToken, hmark]
  have hcolumn : a.mark.next.column ≠ 0 := Nat.succ_ne_zero _
  obtain ⟨-, -, -, -, -, hsame, hplace, -⟩ := a.saved_fields
  rw [hread, Scan.readQuoted, ha.saveCandidate]
  simp only [bind, Except.bind, hsame, hplace, hrest, hcs, List.drop_succ_cons, List.drop_zero,
    readDoubleQuoted_escapedText, decide_eq_false hcolumn, unquote]
  cases foldText .none false text.toList with
  | none => rfl
  | some cs => rfl

theorem Scan.Before.behindString (ha : a.Before level key tokens cs) (text folded : String)
    (rest : List Char) :
    (a.behindString text rest folded).Before level false (.scalar .doubleQuoted folded :: tokens) rest := by
  obtain ⟨-, -, -, -, htokens, -⟩ := a.saved_fields
  have hsaved := ha.flat.saved
  refine ⟨⟨hsaved.indent, hsaved.outerIndents, hsaved.flow, hsaved.depth, hsaved.optional⟩,
    nofun, ?_, rfl⟩
  simp [Scan.behindString, Scan.push, htokens, ha.tokens]

theorem quotedText_length_lt (text : String) (rest : List Char) :
    rest.length < (quotedText text ++ rest).length := by
  simp only [quotedText, List.cons_append, List.length_cons, List.length_append]
  omega

/-- A string is read as it is folded. -/
theorem gives_string (text : String) {next : String → Except Fault (List Token)}
    (h : ∀ folded, Gives level false (.scalar .doubleQuoted folded :: tokens) rest (next folded)) :
    Gives level key tokens (quotedText text ++ rest) (unquote text >>= next) := by
  intro s fuel hs hfuel
  obtain ⟨harrive, hrest, hlength⟩ := hs.arrive rfl (by simp [quotedText, StartsToken, isBreak])
  cases fuel with
  | zero => cases hfuel
  | succ fuel =>
    rw [run_arrive hs.flat, hrest]
    change s.arrive.readToken '"' >>= Scan.run fuel = _
    rw [readToken_quote harrive.flat hrest]
    cases hread : unquote text with
    | error fault => rfl
    | ok folded =>
      refine h folded _ fuel (harrive.behindString text folded rest) ?_
      have hbehind := quotedText_length_lt text rest
      simp only [Scan.behindString, Scan.push]
      omega

theorem Mark.over_index (mark : Mark) (cs : List Char) : (mark.over cs).index = mark.index + cs.length := by
  induction cs generalizing mark with
  | nil => rfl
  | cons c cs ih =>
    rw [Mark.over_cons, ih, List.length_cons]
    split
    · simp only [Mark.nextLine]
      omega
    · simp only [Mark.next, Mark.advance]
      omega

theorem Mark.line_over (mark : Mark) (cs : List Char) :
    (mark.over cs).line = mark.line + cs.countP isBreak := by
  induction cs generalizing mark with
  | nil => rfl
  | cons c cs ih =>
    rw [Mark.over_cons, ih, List.countP_cons]
    split
    · simp only [Mark.nextLine]
      omega
    · simp only [Mark.next, Mark.advance]
      omega

theorem any_isBreak_escapedText (cs : List Char) : (escapedText cs).any isBreak = cs.any isLineEnd := by
  induction cs with
  | nil => rfl
  | cons c cs ih =>
    rw [escapedText_cons, List.any_append, ih, List.any_cons]
    congr 1
    rcases escaped_cases c with ⟨code, hcode, hescape⟩ | ⟨hself, -, -, hcontrol⟩
    · rw [hcode, hescape.plain.1, List.any_eq_false]
      intro d hd
      rcases List.mem_cons.mp hd with rfl | hd
      · decide
      · simp [hescape.noBreak d hd]
    · simp [hself, isBreak_unifyBreak hcontrol]

/-- Behind a string, its start is near just if the string is short. -/
theorem isNear_over (candidate : Candidate) (name : String) :
    candidate.isNear (candidate.mark.over (quotedText name)) = isShort name := by
  have hlength : (quotedText name).length = (stringChars name).length := by
    rw [← map_unifyBreak_stringChars, List.length_map]
  have hany : (quotedText name).any isBreak = name.toList.any isLineEnd := by
    simp [quotedText, ← any_isBreak_escapedText, isBreak]
  have hbreaks : 0 < (quotedText name).countP isBreak ↔ name.toList.any isLineEnd = true := by
    rw [List.countP_pos_iff, ← hany, List.any_eq_true]
  have hall : name.toList.all (fun c => !isLineEnd c) = !name.toList.any isLineEnd :=
    List.not_any_eq_all_not.symm
  rw [Candidate.isNear, isShort, Mark.line_over, Mark.over_index, hlength, hall]
  cases hend : name.toList.any isLineEnd with
  | true =>
    have hpos := hbreaks.mpr hend
    simp only [Bool.not_true, Bool.false_and, decide_eq_false_iff_not, Classical.not_not]
    omega
  | false =>
    have hzero : (quotedText name).countP isBreak = 0 := by
      rw [hend] at hbreaks
      simpa using hbreaks
    simp only [hzero, Bool.not_false, Bool.true_and, decide_eq_decide]
    omega

theorem Scan.openBlock_of_inFlow (h : s.inFlow = true) (column position : Nat) (token : Token) :
    s.openBlock column position token = s := by
  simp [Scan.openBlock, h]

theorem readToken_colon (ha : a.Flat (level + 1)) (hrest : a.rest = ':' :: rest) :
    a.readToken ':' = a.readValue := by
  simp [Scan.readToken, atDocumentMark_of_rest hrest, Scan.inFlow, ha.flow]

/-- A colon makes a key of the token before it, if that is a candidate. -/
theorem readValue_key (ha : a.Flat (level + 1)) (hrest : a.rest = ':' :: rest)
    {candidate : Candidate} {token : Token} (hcandidate : a.candidate? = some candidate)
    (hcount : a.count = candidate.position + 1) (htokens : a.tokens = token :: tokens) :
    ∃ t, a.readValue = .ok t ∧ t.rest = rest ∧
      t.Before (level + 1) false (.value :: token :: .key :: tokens) rest := by
  have hflow : (a.insertAt candidate.position .key).inFlow = true := by
    simp [Scan.insertAt, Scan.inFlow, ha.flow]
  have hlater : a.count - candidate.position = 1 := by omega
  rw [Scan.readValue, hcandidate]
  simp only [Scan.openBlock_of_inFlow hflow]
  have hafter : (a.rest.drop 1) = rest := by rw [hrest, List.drop_succ_cons, List.drop_zero]
  refine ⟨_, rfl, hafter, ⟨⟨ha.indent, ha.outerIndents, ha.flow, ha.depth, ?_⟩, nofun, ?_, ?_⟩⟩
  · intro candidate? hmem
    rcases List.mem_cons.mp hmem with rfl | hmem
    · exact nofun
    · exact ha.optional candidate? (List.mem_cons_of_mem _ hmem)
  · simp [Scan.insertAt, Scan.push, Scan.advance, hlater, htokens]
  · exact congrArg (List.dropWhile isLayoutBlank) hafter

/-- Without a candidate nothing is a key. -/
theorem readValue_none (ha : a.Flat (level + 1)) (hrest : a.rest = ':' :: rest)
    (hcandidate : a.candidate? = none) (htokens : a.tokens = tokens) :
    ∃ t, a.readValue = .ok t ∧ t.rest = rest ∧ t.Before (level + 1) false (.value :: tokens) rest := by
  have hflow : a.inFlow = true := by simp [Scan.inFlow, ha.flow]
  rw [Scan.readValue, hcandidate]
  simp only [Scan.openBlock_of_inFlow hflow, hflow, Bool.true_or, if_true]
  have hafter : (a.rest.drop 1) = rest := by rw [hrest, List.drop_succ_cons, List.drop_zero]
  refine ⟨_, rfl, hafter, ⟨⟨ha.indent, ha.outerIndents, ha.flow, ha.depth, ?_⟩, nofun, ?_, ?_⟩⟩
  · exact ha.optional
  · simp [Scan.push, Scan.advance, htokens]
  · exact congrArg (List.dropWhile isLayoutBlank) hafter

/-- The candidate at the start of a name is left at the colon behind it if the name is short. -/
theorem candidate?_behindString (hkey : a.keyAllowed = true) (name folded : String) (rest : List Char) :
    (a.behindString name (':' :: rest) folded).arrive.candidate?
      = if isShort name then some ⟨false, a.count, a.mark⟩ else none := by
  have hsaved : a.saved = { a with candidate? := some ⟨false, a.count, a.mark⟩ } := if_pos hkey
  have hcandidate : (a.behindString name (':' :: rest) folded).arrive.candidate?
      = a.saved.candidate?.filter (Candidate.isNear (a.mark.over (quotedText name))) := rfl
  have hnear : Candidate.isNear (a.mark.over (quotedText name)) ⟨false, a.count, a.mark⟩ = isShort name :=
    isNear_over ⟨false, a.count, a.mark⟩ name
  rw [hcandidate, hsaved, Option.filter_some, hnear]

/-- A name with its colon is a key if it is short, and a text before a value otherwise. -/
theorem gives_name (name : String) {next : List Token → Except Fault (List Token)}
    (h : ∀ new, Gives (level + 1) false (new.reverse ++ tokens) rest (next new)) :
    Gives (level + 1) true tokens (quotedText name ++ ':' :: rest) (tokensOfName name >>= next) := by
  intro s fuel hs hfuel
  obtain ⟨harrive, hrest, hlength⟩ := hs.arrive rfl (by simp [quotedText, StartsToken, isBreak])
  have hbehind := quotedText_length_lt name (':' :: rest)
  rw [List.length_cons] at hbehind
  -- The name and the colon take a turn each.
  obtain ⟨fuel, rfl⟩ : ∃ more, fuel = more + 2 := ⟨fuel - 2, by omega⟩
  rw [run_arrive hs.flat, hrest]
  change s.arrive.readToken '"' >>= Scan.run (fuel + 1) = _
  rw [readToken_quote harrive.flat hrest, tokensOfName]
  cases hread : unquote name with
  | error fault => rfl
  | ok folded =>
    have hcandidate := candidate?_behindString (harrive.keyAllowed rfl) name folded rest
    obtain ⟨hcolon, hafter, -⟩ := (harrive.behindString name folded (':' :: rest)).arrive rfl
      (by simp [StartsToken, isBreak])
    have hcount : (s.arrive.behindString name (':' :: rest) folded).arrive.count = s.arrive.count + 1 :=
      congrArg (· + 1) s.arrive.saved_fields.2.2.2.2.2.2.2
    change Scan.run (fuel + 1) (s.arrive.behindString name (':' :: rest) folded) = _
    rw [run_arrive (harrive.behindString name folded (':' :: rest)).flat, hafter]
    change (s.arrive.behindString name (':' :: rest) folded).arrive.readToken ':' >>= Scan.run fuel = _
    rw [readToken_colon hcolon.flat hafter]
    cases hshort : isShort name with
    | true =>
      rw [hshort, if_pos rfl] at hcandidate
      obtain ⟨t, hvalue, hnext, ht⟩ := readValue_key hcolon.flat hafter hcandidate hcount hcolon.tokens
      rw [hvalue]
      exact h [.key, .scalar .doubleQuoted folded, .value] t fuel ht (by rw [hnext]; omega)
    | false =>
      rw [hshort] at hcandidate
      obtain ⟨t, hvalue, hnext, ht⟩ := readValue_none hcolon.flat hafter hcandidate hcolon.tokens
      rw [hvalue]
      exact h [.scalar .doubleQuoted folded, .value] t fuel ht (by rw [hnext]; omega)

/-! ## Words and numbers -/

/-- A letter, a digit or a minus sign. -/
def isWordChar (c : Char) : Bool := c.isAlphanum || c = '-'

/-- Nothing but blanks stands before the end of the stream, or before what ends an item. -/
def EndsItem (level : Nat) (rest : List Char) : Prop :=
  ∀ c ∈ (rest.dropWhile isLayoutBlank).head?, level ≠ 0 ∧ isFlowIndicator c = true

theorem ne_of_isWordChar (h : isWordChar c = true) {d : Char} (hd : isWordChar d = false) : c ≠ d := by
  rintro rfl
  rw [h] at hd
  cases hd

theorem isWordChar_classes (h : isWordChar c = true) :
    isBreak c = false ∧ isGap c = false ∧ isFlowIndicator c = false ∧ c ≠ ':' := by
  have hne (d : Char) (hd : isWordChar d = false) : c ≠ d := ne_of_isWordChar h hd
  refine ⟨?_, ?_, ?_, hne ':' rfl⟩
  · simp [isBreak, hne '\n' rfl, hne '\u2028' rfl, hne '\u2029' rfl]
  · simp [isGap, hne ' ' rfl, hne '\t' rfl]
  · simp [isFlowIndicator, hne ',' rfl, hne '[' rfl, hne ']' rfl, hne '\x7b' rfl, hne '\x7d' rfl]

theorem readPlain_word (inFlow : Bool) (indent : Int) {word : List Char} (done : List Char)
    (hword : ∀ c ∈ word, isWordChar c = true) (mark : Mark) (rest : List Char) :
    ∃ mark', readPlain inFlow indent done .none mark (word ++ rest)
      = readPlain inFlow indent (word.reverse ++ done) .none mark' rest := by
  induction word generalizing done mark with
  | nil => exact ⟨mark, rfl⟩
  | cons c word ih =>
    obtain ⟨mark', hread⟩ := ih (c :: done) (fun d hd => hword d (List.mem_cons_of_mem _ hd)) mark.next
    obtain ⟨hbreak, hgap, hflow, hcolon⟩ := isWordChar_classes (hword c List.mem_cons_self)
    refine ⟨mark', ?_⟩
    rw [List.cons_append, readPlain]
    simpa [hbreak, hgap, hflow, hcolon, Gap.folded] using hread

theorem readPlain_end {inFlow : Bool} (done : List Char) (hrest : EndsItem level rest)
    (hflow : level ≠ 0 → inFlow = true) (gap : Gap) (mark : Mark) :
    ∃ broke mark', readPlain inFlow 0 done gap mark rest
      = .ok ⟨String.ofList done.reverse, broke, mark', rest.dropWhile isLayoutBlank⟩ := by
  induction rest generalizing gap mark with
  | nil => exact ⟨_, _, rfl⟩
  | cons c rest ih =>
    by_cases hblank : isLayoutBlank c = true
    · rw [EndsItem, List.dropWhile_cons_of_pos hblank] at hrest
      rw [List.dropWhile_cons_of_pos hblank]
      simp only [isLayoutBlank, Bool.or_eq_true, decide_eq_true_eq] at hblank
      rcases hblank with rfl | rfl
      · obtain ⟨broke, mark', hread⟩ := ih hrest (gap.addBlank ' ') mark.next
        exact ⟨broke, mark', by rw [readPlain]; simpa [isBreak, isGap] using hread⟩
      · obtain ⟨broke, mark', hread⟩ := ih hrest (gap.addBreak '\n') mark.nextLine
        exact ⟨broke, mark', by rw [readPlain]; simpa [isBreak] using hread⟩
    · rw [EndsItem, List.dropWhile_cons_of_neg hblank] at hrest
      obtain ⟨hlevel, hindicator⟩ := hrest c rfl
      rw [List.dropWhile_cons_of_neg hblank, readPlain, hflow hlevel]
      have hends : c = ',' ∨ c = '[' ∨ c = ']' ∨ c = '\x7b' ∨ c = '\x7d' := by
        simpa [isFlowIndicator, or_assoc] using hindicator
      refine ⟨gap.hasBreak, mark, ?_⟩
      rcases hends with rfl | rfl | rfl | rfl | rfl <;> simp [isBreak, isGap, isFlowIndicator]

theorem endsItem_cons (hc : isFlowIndicator c = true) (rest : List Char) :
    EndsItem (level + 1) (c :: rest) := by
  have hblank : isLayoutBlank c = false := by
    have hends : c = ',' ∨ c = '[' ∨ c = ']' ∨ c = '\x7b' ∨ c = '\x7d' := by
      simpa [isFlowIndicator, or_assoc] using hc
    rcases hends with rfl | rfl | rfl | rfl | rfl <;> rfl
  rw [EndsItem, List.dropWhile_cons_of_neg (by simp [hblank])]
  simpa using hc

theorem EndsItem.append {blanks : List Char} (h : EndsItem level rest)
    (hblanks : ∀ c ∈ blanks, isLayoutBlank c = true) : EndsItem level (blanks ++ rest) := by
  rwa [EndsItem, List.dropWhile_append_of_pos hblanks]

/-- A letter or digit starts a word, and so does a minus sign before one of them. -/
def StartsWord : List Char → Prop
  | [] => False
  | c :: cs => c.isAlphanum = true ∨ c = '-' ∧ ∃ d, cs.head? = some d ∧ d.isAlphanum = true

theorem ne_of_isAlphanum (h : c.isAlphanum = true) {d : Char} (hd : d.isAlphanum = false) : c ≠ d := by
  rintro rfl
  rw [h] at hd
  cases hd

theorem startsPlain_of_isAlphanum (h : c.isAlphanum = true) (inFlow : Bool) (cs : List Char) :
    Scan.startsPlain inFlow c cs = true := by
  have hne (d : Char) (hd : d.isAlphanum = false) : c ≠ d := ne_of_isAlphanum h hd
  obtain ⟨hbreak, hgap, -, -⟩ := isWordChar_classes (c := c) (by simp [isWordChar, h])
  have hmarks : ",[]\x7b\x7d#&*!|>'\"%@`".toList.any Char.isAlphanum = false := by decide
  have hcontains : ",[]\x7b\x7d#&*!|>'\"%@`".toList.contains c = false := by
    rw [List.contains_eq_mem, decide_eq_false_iff_not]
    intro hmem
    exact List.any_eq_false.mp hmarks c hmem h
  rw [Scan.startsPlain, if_neg (hne '-' rfl), if_neg (not_or.mpr ⟨hne '?' rfl, hne ':' rfl⟩), hbreak,
    hgap, hcontains]
  rfl

theorem readToken_alphanum (h : c.isAlphanum = true) (hrest : a.rest = c :: rest) :
    a.readToken c = a.readPlainScalar := by
  have hne (d : Char) (hd : d.isAlphanum = false) : c ≠ d := ne_of_isAlphanum h hd
  have hmark : atDocumentMark a.rest = false := by
    rw [hrest, atDocumentMark_cons (hne '-' rfl) (hne '.' rfl)]
  simp [Scan.readToken, hmark, startsPlain_of_isAlphanum h, hne '%' rfl, hne '[' rfl, hne '\x7b' rfl,
    hne ']' rfl, hne '\x7d' rfl, hne ',' rfl, hne '-' rfl, hne '?' rfl, hne ':' rfl, hne '*' rfl,
    hne '&' rfl, hne '!' rfl, hne '|' rfl, hne '>' rfl, hne '\'' rfl, hne '"' rfl]

theorem readToken_minus (h : c.isAlphanum = true) (hrest : a.rest = '-' :: c :: rest) :
    a.readToken '-' = a.readPlainScalar := by
  obtain ⟨hbreak, hgap, -, -⟩ := isWordChar_classes (c := c) (by simp [isWordChar, h])
  have hmark : atDocumentMark ('-' :: c :: rest) = false := by
    rw [Bool.eq_false_iff, ne_eq, atDocumentMark_iff]
    rintro ⟨d, more, hd, heq, -⟩
    cases heq
    cases h
  have hends : endsWord (c :: rest) = false := by rw [endsWord, hbreak, hgap]; rfl
  simp [Scan.readToken, hmark, hrest, hends, Scan.startsPlain, hgap]

/-- A word or a number is a plain scalar. -/
theorem gives_word (word : List Char) (hword : ∀ c ∈ word, isWordChar c = true) (hstart : StartsWord word)
    (hrest : EndsItem level rest)
    (h : Gives level false (.scalar .plain (String.ofList word) :: tokens) rest outcome) :
    Gives level key tokens (word ++ rest) outcome := by
  cases word with
  | nil => cases hstart
  | cons c word =>
    have hchar := hword c List.mem_cons_self
    obtain ⟨hbreak, -, -, -⟩ := isWordChar_classes hchar
    have hc : StartsToken c := by
      have hne (d : Char) (hd : isWordChar d = false) : c ≠ d := ne_of_isWordChar hchar hd
      exact ⟨hbreak, hne ' ' rfl, hne '\t' rfl, hne '#' rfl⟩
    rw [List.cons_append]
    refine gives_step hc (fun a ha hsame => ?_) h
    have hread : a.readToken c = a.readPlainScalar := by
      rcases hstart with halpha | ⟨rfl, d, hhead, halpha⟩
      · exact readToken_alphanum halpha hsame
      · obtain ⟨more, rfl⟩ := List.head?_eq_some_iff.mp hhead
        exact readToken_minus halpha hsame
    obtain ⟨-, -, -, -, htokens, hkept, -⟩ := a.saved_fields
    have hsaved := ha.flat.saved
    obtain ⟨mark', hinside⟩ := readPlain_word a.saved.inFlow 0 [] hword a.saved.mark rest
    obtain ⟨broke, mark'', hend⟩ := readPlain_end ((c :: word).reverse ++ []) hrest
      (fun hlevel => show a.saved.inFlow = true by simp [Scan.inFlow, hsaved.flow, hlevel]) .none mark'
    have hscalar := hinside.trans hend
    rw [List.cons_append] at hscalar
    have hindent : (-1 : Int) + 1 = 0 := rfl
    rw [hread, Scan.readPlainScalar, ha.flat.saveCandidate]
    simp only [bind, Except.bind, hsaved.indent, hkept, hsame, hindent, hscalar]
    refine ⟨_, rfl, ?_, ⟨⟨rfl, hsaved.outerIndents, hsaved.flow, hsaved.depth, hsaved.optional⟩,
      nofun, ?_, ?_⟩⟩
    · have hle := (List.dropWhile_suffix isLayoutBlank (l := rest)).length_le
      simp only [Scan.push, List.length_append]
      omega
    · simp [Scan.push, htokens, ha.tokens]
    · exact List.dropWhile_idempotent isLayoutBlank rest

theorem isWordChar_of_isDigit (h : c.isDigit = true) : isWordChar c = true := by
  simp [isWordChar, Char.isAlphanum, h]

theorem isWordChar_toDigits (n : Nat) : ∀ c ∈ Nat.toDigits 10 n, isWordChar c = true := fun c hc =>
  isWordChar_of_isDigit (isDigit_toDigits n c hc)

theorem head?_toDigits (n : Nat) : ∃ d, (Nat.toDigits 10 n).head? = some d ∧ d.isDigit = true := by
  cases hdigits : Nat.toDigits 10 n with
  | nil => exact absurd hdigits Nat.toDigits_ne_nil
  | cons d digits =>
    exact ⟨d, rfl, isDigit_toDigits n d (by simp [hdigits])⟩

/-- An integer in decimal starts with a digit or a minus sign. -/
theorem head?_numberText (n : Int) :
    ∃ c, (Json.numberText (.int n)).toList.head? = some c ∧ (c.isDigit = true ∨ c = '-') := by
  cases n with
  | ofNat n =>
    obtain ⟨d, hd, hdigit⟩ := head?_toDigits n
    rw [Int.ofNat_eq_natCast, numberText_natural]
    exact ⟨d, hd, .inl hdigit⟩
  | negSucc n =>
    rw [numberText_negative]
    exact ⟨'-', rfl, .inr rfl⟩

/-- An integer in decimal is a word. -/
theorem isWord_numberText (n : Int) : (∀ c ∈ (Json.numberText (.int n)).toList, isWordChar c = true) ∧
    StartsWord (Json.numberText (.int n)).toList := by
  cases n with
  | ofNat n =>
    obtain ⟨d, hd, hdigit⟩ := head?_toDigits n
    obtain ⟨digits, hdigits⟩ := List.head?_eq_some_iff.mp hd
    rw [Int.ofNat_eq_natCast, numberText_natural]
    refine ⟨isWordChar_toDigits n, ?_⟩
    rw [hdigits]
    exact .inl (by simp [Char.isAlphanum, hdigit])
  | negSucc n =>
    obtain ⟨d, hd, hdigit⟩ := head?_toDigits (n + 1)
    rw [numberText_negative]
    exact ⟨List.forall_mem_cons.mpr ⟨rfl, isWordChar_toDigits (n + 1)⟩,
      .inr ⟨rfl, d, hd, by simp [Char.isAlphanum, hdigit]⟩⟩

end Yaml

end ConfigKit
