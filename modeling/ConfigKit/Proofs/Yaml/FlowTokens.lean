-- SUMMARY: The tokens that the scan finds in JSON text.
import ConfigKit.Proofs.Results
import ConfigKit.Proofs.Yaml.ScanSteps

/-!
# The tokens of JSON text

The tokens of JSON text are those of its value, whatever blanks its layout puts between them
(`tokens_flowText`).
-/

namespace ConfigKit

namespace Yaml

open Json

/-! ## Tokens of a value -/

mutual

/-- The tokens of the JSON text of a value. -/
def tokensOf : Json → Except Fault (List Token)
  | .null => .ok [.scalar .plain "null"]
  | .bool true => .ok [.scalar .plain "true"]
  | .bool false => .ok [.scalar .plain "false"]
  | .number n => .ok [.scalar .plain (Json.numberText n)]
  | .string text => do
    let text ← unquote text
    .ok [.scalar .doubleQuoted text]
  | .array [] => .ok [.flowSequenceStart, .flowSequenceEnd]
  | .array (item :: items) => do
    let first ← tokensOf item
    let more ← tokensOfItems items
    .ok (.flowSequenceStart :: (first ++ more ++ [.flowSequenceEnd]))
  | .object [] => .ok [.flowMappingStart, .flowMappingEnd]
  | .object ((name, value) :: members) => do
    let name ← tokensOfName name
    let value ← tokensOf value
    let more ← tokensOfMembers members
    .ok (.flowMappingStart :: (name ++ value ++ more ++ [.flowMappingEnd]))

def tokensOfItems : List Json → Except Fault (List Token)
  | [] => .ok []
  | item :: items => do
    let first ← tokensOf item
    let more ← tokensOfItems items
    .ok (.flowEntry :: (first ++ more))

def tokensOfMembers : List (String × Json) → Except Fault (List Token)
  | [] => .ok []
  | (name, value) :: members => do
    let name ← tokensOfName name
    let value ← tokensOf value
    let more ← tokensOfMembers members
    .ok (.flowEntry :: (name ++ value ++ more))

end

variable {level : Nat} {rest cs : List Char}

/-! ## Texts of values -/

/-- A layout that puts nothing but spaces and line feeds between tokens. -/
structure IsBlankLayout (layout : Layout) : Prop where
  lineBreak : ∀ depth, ∀ c ∈ layout.lineBreak depth, isLayoutBlank c = true
  colon : ∃ blanks, layout.colon = ':' :: blanks ∧ ∀ c ∈ blanks, isLayoutBlank c = true

theorem isBlankLayout_of_pretty (pretty : Bool) :
    IsBlankLayout (if pretty then .indented else .compact) := by
  cases pretty with
  | false => exact ⟨fun _ => nofun, [], rfl, nofun⟩
  | true =>
    refine ⟨fun depth c hc => ?_, [' '], rfl, by simp [isLayoutBlank]⟩
    rcases List.mem_cons.mp hc with rfl | hc
    · rfl
    · obtain rfl := List.eq_of_mem_replicate hc
      rfl

/-- The text of a value, as a YAML reader meets it. -/
def flowText (layout : Layout) (place : Nat) (value : Json) : List Char :=
  (value.render layout place).map unifyBreak

def flowTextOfItems (layout : Layout) (place : Nat) (items : List Json) : List Char :=
  (renderItems layout place items).map unifyBreak

def flowTextOfMembers (layout : Layout) (place : Nat) (members : List (String × Json)) : List Char :=
  (renderMembers layout place members).map unifyBreak

theorem map_unifyBreak (h : '\x85' ∉ cs) : cs.map unifyBreak = cs := by
  rw [List.map_congr_left fun c hc => unifyBreak_of_ne fun heq => h (heq ▸ hc), List.map_id']

theorem map_unifyBreak_blanks (h : ∀ c ∈ cs, isLayoutBlank c = true) : cs.map unifyBreak = cs :=
  map_unifyBreak fun hmem => by cases h _ hmem

theorem map_unifyBreak_word (h : ∀ c ∈ cs, isWordChar c = true) : cs.map unifyBreak = cs :=
  map_unifyBreak fun hmem => by cases h _ hmem

section Blank

variable {layout : Layout} (hlayout : IsBlankLayout layout)
include hlayout

theorem flowText_array (place : Nat) (item : Json) (items : List Json) (rest : List Char) :
    flowText layout place (.array (item :: items)) ++ rest
      = '[' :: (layout.lineBreak (place + 1) ++ (flowText layout (place + 1) item
          ++ (flowTextOfItems layout (place + 1) items ++ (layout.lineBreak place ++ ']' :: rest)))) := by
  have hopen := map_unifyBreak_blanks (hlayout.lineBreak (place + 1))
  have hclose := map_unifyBreak_blanks (hlayout.lineBreak place)
  simp [flowText, flowTextOfItems, render, hopen, hclose, unifyBreak]

theorem flowText_items (place : Nat) (item : Json) (items : List Json) (rest : List Char) :
    flowTextOfItems layout place (item :: items) ++ rest
      = ',' :: (layout.lineBreak place ++ (flowText layout place item
          ++ (flowTextOfItems layout place items ++ rest))) := by
  have hbreak := map_unifyBreak_blanks (hlayout.lineBreak place)
  simp [flowText, flowTextOfItems, renderItems, hbreak, unifyBreak]

theorem flowText_object (place : Nat) (name : String) (value : Json) (members : List (String × Json))
    (rest : List Char) : ∃ blanks, (∀ c ∈ blanks, isLayoutBlank c = true) ∧
    flowText layout place (.object ((name, value) :: members)) ++ rest
      = '\x7b' :: (layout.lineBreak (place + 1) ++ (quotedText name ++ ':' :: (blanks
          ++ (flowText layout (place + 1) value ++ (flowTextOfMembers layout (place + 1) members
          ++ (layout.lineBreak place ++ '\x7d' :: rest)))))) := by
  obtain ⟨blanks, hcolon, hblanks⟩ := hlayout.colon
  have hopen := map_unifyBreak_blanks (hlayout.lineBreak (place + 1))
  have hclose := map_unifyBreak_blanks (hlayout.lineBreak place)
  refine ⟨blanks, hblanks, ?_⟩
  simp [flowText, flowTextOfMembers, render, hopen, hclose, unifyBreak, hcolon,
    map_unifyBreak_blanks hblanks, map_unifyBreak_stringChars]

theorem flowText_members (place : Nat) (name : String) (value : Json) (members : List (String × Json))
    (rest : List Char) : ∃ blanks, (∀ c ∈ blanks, isLayoutBlank c = true) ∧
    flowTextOfMembers layout place ((name, value) :: members) ++ rest
      = ',' :: (layout.lineBreak place ++ (quotedText name ++ ':' :: (blanks
          ++ (flowText layout place value ++ (flowTextOfMembers layout place members ++ rest))))) := by
  obtain ⟨blanks, hcolon, hblanks⟩ := hlayout.colon
  have hbreak := map_unifyBreak_blanks (hlayout.lineBreak place)
  refine ⟨blanks, hblanks, ?_⟩
  simp [flowText, flowTextOfMembers, renderMembers, hbreak, unifyBreak, hcolon,
    map_unifyBreak_blanks hblanks, map_unifyBreak_stringChars]

theorem endsItem_items (items : List Json) (place : Nat) (h : EndsItem (level + 1) rest) :
    EndsItem (level + 1) (flowTextOfItems layout place items ++ rest) := by
  cases items with
  | nil => exact h
  | cons item items =>
    rw [flowText_items hlayout]
    exact endsItem_cons rfl _

theorem endsItem_members (members : List (String × Json)) (place : Nat) (h : EndsItem (level + 1) rest) :
    EndsItem (level + 1) (flowTextOfMembers layout place members ++ rest) := by
  rcases members with _ | ⟨⟨name, value⟩, members⟩
  · exact h
  · obtain ⟨blanks, -, htext⟩ := flowText_members hlayout place name value members rest
    rw [htext]
    exact endsItem_cons rfl _

mutual

/-- The text of a value is read as its tokens. -/
theorem gives_value : (value : Json) → (place level : Nat) → (key : Bool) → (tokens : List Token) →
    (rest : List Char) → (next : List Token → Except Fault (List Token)) → value.FloatFree →
    EndsItem level rest → (∀ new, Gives level false (new.reverse ++ tokens) rest (next new)) →
    Gives level key tokens (flowText layout place value ++ rest) (tokensOf value >>= next)
  | .null, place, level, key, tokens, rest, next, _, hrest, h =>
    gives_word "null".toList (List.all_eq_true.mp (by decide)) (.inl rfl) hrest
      (h [.scalar .plain "null"])
  | .bool true, place, level, key, tokens, rest, next, _, hrest, h =>
    gives_word "true".toList (List.all_eq_true.mp (by decide)) (.inl rfl) hrest
      (h [.scalar .plain "true"])
  | .bool false, place, level, key, tokens, rest, next, _, hrest, h =>
    gives_word "false".toList (List.all_eq_true.mp (by decide)) (.inl rfl) hrest
      (h [.scalar .plain "false"])
  | .number (.int n), place, level, key, tokens, rest, next, _, hrest, h => by
    obtain ⟨hword, hstart⟩ := isWord_numberText n
    have htext : flowText layout place (.number (.int n)) = (Json.numberText (.int n)).toList :=
      map_unifyBreak_word hword
    rw [htext]
    refine gives_word _ hword hstart hrest ?_
    rw [String.ofList_toList]
    exact h [.scalar .plain (Json.numberText (.int n))]
  | .string text, place, level, key, tokens, rest, next, _, hrest, h => by
    have htext : flowText layout place (.string text) = quotedText text := map_unifyBreak_stringChars text
    rw [htext, tokensOf, bind_assoc]
    exact gives_string text fun folded => h [.scalar .doubleQuoted folded]
  | .array [], place, level, key, tokens, rest, next, _, _, h => by
    exact gives_openSequence (gives_closeSequence (h [.flowSequenceStart, .flowSequenceEnd]))
  | .array (item :: items), place, level, key, tokens, rest, next, hfree, _, h => by
    have hclose : EndsItem (level + 1) (layout.lineBreak place ++ ']' :: rest) :=
      (endsItem_cons rfl rest).append (hlayout.lineBreak place)
    rw [flowText_array hlayout, tokensOf]
    simp only [bind_assoc, ok_bind]
    refine gives_openSequence (gives_blanks (hlayout.lineBreak (place + 1))
      (gives_value item (place + 1) (level + 1) true _ _ _ hfree.1
        (endsItem_items hlayout items (place + 1) hclose) fun first => ?_))
    refine gives_items items (place + 1) level _ _ _ hfree.2 hclose fun more => ?_
    refine gives_blanks (hlayout.lineBreak place) (gives_closeSequence ?_)
    have hall := h (.flowSequenceStart :: (first ++ more ++ [.flowSequenceEnd]))
    simpa using hall
  | .object [], place, level, key, tokens, rest, next, _, _, h => by
    exact gives_openMapping (gives_closeMapping (h [.flowMappingStart, .flowMappingEnd]))
  | .object ((name, value) :: members), place, level, key, tokens, rest, next, hfree, _, h => by
    have hclose : EndsItem (level + 1) (layout.lineBreak place ++ '\x7d' :: rest) :=
      (endsItem_cons rfl rest).append (hlayout.lineBreak place)
    obtain ⟨blanks, hblanks, htext⟩ := flowText_object hlayout place name value members rest
    rw [htext, tokensOf]
    simp only [bind_assoc, ok_bind]
    refine gives_openMapping (gives_blanks (hlayout.lineBreak (place + 1)) (gives_name name fun named => ?_))
    refine gives_blanks hblanks (gives_value value (place + 1) (level + 1) false _ _ _ hfree.1
      (endsItem_members hlayout members (place + 1) hclose) fun first => ?_)
    refine gives_members members (place + 1) level _ _ _ hfree.2 hclose fun more => ?_
    refine gives_blanks (hlayout.lineBreak place) (gives_closeMapping ?_)
    have hall := h (.flowMappingStart :: (named ++ first ++ more ++ [.flowMappingEnd]))
    simpa using hall

/-- The items after the first one are read as their tokens. -/
theorem gives_items : (items : List Json) → (place level : Nat) → (tokens : List Token) →
    (rest : List Char) → (next : List Token → Except Fault (List Token)) → FloatFreeItems items →
    EndsItem (level + 1) rest →
    (∀ new, Gives (level + 1) false (new.reverse ++ tokens) rest (next new)) →
    Gives (level + 1) false tokens (flowTextOfItems layout place items ++ rest) (tokensOfItems items >>= next)
  | [], _, _, _, _, _, _, _, h => h []
  | item :: items, place, level, tokens, rest, next, hfree, hrest, h => by
    rw [flowText_items hlayout, tokensOfItems]
    simp only [bind_assoc, ok_bind]
    refine gives_comma (gives_blanks (hlayout.lineBreak place)
      (gives_value item place (level + 1) true _ _ _ hfree.1 (endsItem_items hlayout items place hrest)
        fun first => ?_))
    refine gives_items items place level _ _ _ hfree.2 hrest fun more => ?_
    have hall := h (.flowEntry :: (first ++ more))
    simpa using hall

/-- The members after the first one are read as their tokens. -/
theorem gives_members : (members : List (String × Json)) → (place level : Nat) →
    (tokens : List Token) → (rest : List Char) → (next : List Token → Except Fault (List Token)) →
    FloatFreeMembers members → EndsItem (level + 1) rest →
    (∀ new, Gives (level + 1) false (new.reverse ++ tokens) rest (next new)) →
    Gives (level + 1) false tokens (flowTextOfMembers layout place members ++ rest)
      (tokensOfMembers members >>= next)
  | [], _, _, _, _, _, _, _, h => h []
  | (name, value) :: members, place, level, tokens, rest, next, hfree, hrest, h => by
    obtain ⟨blanks, hblanks, htext⟩ := flowText_members hlayout place name value members rest
    rw [htext, tokensOfMembers]
    simp only [bind_assoc, ok_bind]
    refine gives_comma (gives_blanks (hlayout.lineBreak place) (gives_name name fun named => ?_))
    refine gives_blanks hblanks (gives_value value place (level + 1) false _ _ _ hfree.1
      (endsItem_members hlayout members place hrest) fun first => ?_)
    refine gives_members members place level _ _ _ hfree.2 hrest fun more => ?_
    have hall := h (.flowEntry :: (named ++ first ++ more))
    simpa using hall

end

omit hlayout in
/-- JSON text does not start with a byte order mark. -/
theorem head?_flowText (value : Json) (hfree : value.FloatFree) (place : Nat) (rest : List Char) :
    (flowText layout place value ++ rest).head? ≠ some '\ufeff' := by
  cases value with
  | null => simp [flowText, render, unifyBreak]
  | bool b => cases b <;> simp [flowText, render, unifyBreak]
  | number n =>
    cases n with
    | float x => exact hfree.elim
    | int n =>
      obtain ⟨hword, hstart⟩ := isWord_numberText n
      rw [flowText, render, map_unifyBreak_word hword]
      cases hdigits : (Json.numberText (.int n)).toList with
      | nil =>
        rw [hdigits] at hstart
        cases hstart
      | cons c digits =>
        have hc : c ≠ '\ufeff' := ne_of_isWordChar (hword c (by simp [hdigits])) rfl
        simpa using hc
  | string text => simp [flowText, render, stringChars, unifyBreak]
  | array items => cases items <;> simp [flowText, render, unifyBreak]
  | object members =>
    rcases members with _ | ⟨⟨name, value⟩, members⟩ <;> simp [flowText, render, unifyBreak]

/-- The tokens of JSON text are those of its value. -/
theorem tokens_flowText (value : Json) (hfree : value.FloatFree) :
    Yaml.tokens (flowText layout 0 value ++ ['\n']) = tokensOf value := by
  have hstart : Scan.start (flowText layout 0 value ++ ['\n']) = _ :=
    if_neg (head?_flowText value hfree 0 ['\n'])
  have hend : Gives 0 true [] (flowText layout 0 value ++ ['\n']) (tokensOf value >>= Except.ok) := by
    refine gives_value hlayout value 0 0 true [] ['\n'] Except.ok hfree (by simp [EndsItem, isLayoutBlank])
      fun new => ?_
    have hnil : Gives 0 false new.reverse [] (.ok new.reverse.reverse) := gives_nil
    rw [List.reverse_reverse] at hnil
    have hblank : Gives 0 false new.reverse (['\n'] ++ []) (.ok new) :=
      gives_blanks (by simp [isLayoutBlank]) hnil
    simpa using hblank
  have hok : (tokensOf value >>= Except.ok) = tokensOf value := by
    cases tokensOf value <;> rfl
  rw [Yaml.tokens, hstart, ← hok]
  refine hend _ _ ⟨⟨rfl, rfl, rfl, rfl, ?_⟩, fun _ => rfl, rfl, rfl⟩ (Nat.lt_succ_self _)
  simp

end Blank

end Yaml

end ConfigKit
