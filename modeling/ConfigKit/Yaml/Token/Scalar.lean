-- SUMMARY: Reading plain, quoted and block scalars, with their folded lines.
import ConfigKit.Yaml.Fault
import ConfigKit.Yaml.Source
import ConfigKit.Text.CodeRanges

/-!
# Reading scalars

Plain, quoted and block scalars. Every reader goes through the characters from the left and gives the
text of the scalar, the place behind it, and the characters that are left.

Between two words of a plain or quoted scalar there may be a gap. A gap within a line belongs to the
text. A gap over line breaks is folded: one break reads as a space, more breaks as one less.
-/

namespace ConfigKit

namespace Yaml

/-! ## Gaps -/

/-- What was met since the last word of a scalar. Texts are held in reverse. -/
inductive Gap where
  | none
  | blanks (text : List Char)
  /-- Breaks: the first one, which is missing if it was escaped, and the later ones. -/
  | lines (first? : Option Char) (more : List Char)
  deriving DecidableEq

namespace Gap

/-- The gap with one more blank. Blanks after a break do not count. -/
def addBlank (c : Char) : Gap → Gap
  | .none => .blanks [c]
  | .blanks text => .blanks (c :: text)
  | .lines first? more => .lines first? more

/-- The gap with one more break. Blanks before a break do not count. -/
def addBreak (c : Char) : Gap → Gap
  | .none => .lines (some c) []
  | .blanks _ => .lines (some c) []
  | .lines first? more => .lines first? (c :: more)

def hasBreak : Gap → Bool
  | .lines _ _ => true
  | _ => false

/-- What the gap reads as, in reverse. -/
def folded : Gap → List Char
  | .none => []
  | .blanks text => text
  | .lines (some c) more => if c = '\n' then (if more = [] then [' '] else more) else more ++ [c]
  | .lines .none more => more

end Gap

/-- What a scalar reader gives. -/
structure ScalarText where
  text : String
  /-- Whether the reader went over a break behind the last word. -/
  brokeLine : Bool
  mark : Mark
  rest : List Char

/-! ## Plain scalars -/

/-- Reads a plain scalar. Its later lines are indented by `indent` columns at least, except within a flow
collection. -/
def readPlain (inFlow : Bool) (indent : Int) (done : List Char) (gap : Gap) (mark : Mark) :
    List Char → Except Fault ScalarText
  | [] => .ok ⟨String.ofList done.reverse, gap.hasBreak, mark, []⟩
  | c :: rest =>
    let stop : ScalarText := ⟨String.ofList done.reverse, gap.hasBreak, mark, c :: rest⟩
    if isBreak c then readPlain inFlow indent done (gap.addBreak c) mark.nextLine rest
    else if isGap c then
      if gap.hasBreak && decide (mark.column < indent) && c = '\t' then .error .token
      else readPlain inFlow indent done (gap.addBlank c) mark.next rest
    else if gap ≠ .none && ((!inFlow && decide (mark.column < indent))
        || (mark.column = 0 && atDocumentMark (c :: rest)) || c = '#') then .ok stop
    else if inFlow && c = ':' && rest.head?.any (fun next => next = '?' || isFlowIndicator next) then
      .error .token
    else if (c = ':' && endsWord rest) || (inFlow && isFlowIndicator c) then .ok stop
    else readPlain inFlow indent (c :: (gap.folded ++ done)) .none mark.next rest

/-! ## Quoted scalars -/

/-- The character of an escape of one letter. -/
def escaped? (c : Char) : Option Char :=
  match c with
  | '0' => some '\x00'
  | 'a' => some '\x07'
  | 'b' => some '\x08'
  | 't' => some '\t'
  | '\t' => some '\t'
  | 'n' => some '\n'
  | 'v' => some '\x0b'
  | 'f' => some '\x0c'
  | 'r' => some '\r'
  | 'e' => some '\x1b'
  | ' ' => some ' '
  | '"' => some '"'
  | '/' => some '/'
  | '\\' => some '\\'
  | 'N' => some '\x85'
  | '_' => some '\xa0'
  | 'L' => some '\u2028'
  | 'P' => some '\u2029'
  | _ => none

def hexNumber? (digits : List Char) : Option Nat :=
  digits.foldl (fun code? digit => do
    let code ← code?
    let value ← CodeRanges.hexDigit? digit
    some (code * 16 + value)) (some 0)

/-- The character with a code, unless it is a surrogate or too great. -/
def character? (code : Nat) : Option Char :=
  if h : code.isValidChar then some ⟨code.toUInt32, by
    simpa [UInt32.isValidChar, Nat.mod_eq_of_lt (show code < 4294967296 by
      unfold Nat.isValidChar at h; omega)] using h⟩
  else none

/-- The character that hexadecimal digits stand for. -/
def hexCharacter? (digits : List Char) : Option Char :=
  hexNumber? digits >>= character?

/-- Reads a single-quoted scalar behind its opening quote. -/
def readSingleQuoted (done : List Char) (gap : Gap) (mark : Mark) :
    List Char → Except Fault ScalarText
  | [] => .error .token
  | c :: rest =>
    if isBreak c then readSingleQuoted done (gap.addBreak c) mark.nextLine rest
    else if isGap c then readSingleQuoted done (gap.addBlank c) mark.next rest
    else if mark.column = 0 && atDocumentMark (c :: rest) then .error .token
    else
      let done := gap.folded ++ done
      if c = '\'' then
        match rest with
        | '\'' :: rest => readSingleQuoted ('\'' :: done) .none (mark.advance 2) rest
        | rest => .ok ⟨String.ofList done.reverse, false, mark.next, rest⟩
      else readSingleQuoted (c :: done) .none mark.next rest

/-- Reads a double-quoted scalar behind its opening quote. -/
def readDoubleQuoted (done : List Char) (gap : Gap) (mark : Mark) :
    List Char → Except Fault ScalarText
  | [] => .error .token
  | c :: rest =>
    if isBreak c then readDoubleQuoted done (gap.addBreak c) mark.nextLine rest
    else if isGap c then readDoubleQuoted done (gap.addBlank c) mark.next rest
    else if mark.column = 0 && atDocumentMark (c :: rest) then .error .token
    else
      let done := gap.folded ++ done
      if c = '"' then .ok ⟨String.ofList done.reverse, false, mark.next, rest⟩
      else if c = '\\' then
        match rest with
        | [] => .error .token
        | e :: rest =>
          if isBreak e then readDoubleQuoted done (.lines none []) mark.nextLine rest
          else
            match escaped? e with
            | some character =>
              readDoubleQuoted (character :: done) .none (mark.advance 2) rest
            | none =>
              match e, rest with
              | 'x', d1 :: d2 :: rest =>
                match hexCharacter? [d1, d2] with
                | some character =>
                  readDoubleQuoted (character :: done) .none (mark.advance 4) rest
                | none => .error .token
              | 'u', d1 :: d2 :: d3 :: d4 :: rest =>
                match hexCharacter? [d1, d2, d3, d4] with
                | some character =>
                  readDoubleQuoted (character :: done) .none (mark.advance 6) rest
                | none => .error .token
              | 'U', d1 :: d2 :: d3 :: d4 :: d5 :: d6 :: d7 :: d8 :: rest =>
                match hexCharacter? [d1, d2, d3, d4, d5, d6, d7, d8] with
                | some character =>
                  readDoubleQuoted (character :: done) .none (mark.advance 10) rest
                | none => .error .token
              | _, _ => .error .token
      else readDoubleQuoted (c :: done) .none mark.next rest

/-! ## Block scalars -/

/-- What becomes of the breaks at the end of a block scalar. -/
inductive Chomping where
  | strip
  | clip
  | keep
  deriving DecidableEq

/-- What the header of a block scalar says: the chomping, and by how much the lines are indented. -/
structure BlockHeader where
  chomping : Chomping
  indent? : Option Nat
  rest : List Char

/-- Reads a sign for the chomping. -/
def readChomping? : List Char → Option (Chomping × List Char)
  | '+' :: rest => some (.keep, rest)
  | '-' :: rest => some (.strip, rest)
  | _ => none

/-- Reads a digit for the indentation. -/
def readIndent? (cs : List Char) : Except Fault (Option Nat × List Char) :=
  match cs with
  | [] => .ok (none, [])
  | c :: rest =>
    if c = '0' then .error .token
    else if c.isDigit then .ok (some (c.toNat - '0'.toNat), rest)
    else .ok (none, c :: rest)

/-- Reads the header of a block scalar: a sign and a digit, in any order. -/
def readBlockHeader (cs : List Char) : Except Fault BlockHeader :=
  match readChomping? cs with
  | some (chomping, rest) => do
    let (indent?, rest) ← readIndent? rest
    .ok ⟨chomping, indent?, rest⟩
  | none => do
    let (indent?, rest) ← readIndent? cs
    match indent?, readChomping? rest with
    | some indent, some (chomping, rest) => .ok ⟨chomping, some indent, rest⟩
    | indent?, _ => .ok ⟨.clip, indent?, rest⟩

/-- Skips blanks and a comment to the end of the line, and its break. Anything else is refused. -/
def skipLineEnd (inComment : Bool) (mark : Mark) : List Char → Except Fault (Mark × List Char)
  | [] => .ok (mark, [])
  | c :: rest =>
    if isBreak c then .ok (mark.nextLine, rest)
    else if inComment || isGap c then skipLineEnd inComment mark.next rest
    else if c = '#' then skipLineEnd true mark.next rest
    else .error .token

/-- The empty lines before the first line of a block scalar. -/
structure BlockStart where
  /-- The greatest indentation of these lines and of the first line. -/
  indent : Nat
  /-- Their breaks, in reverse. -/
  breaks : List Char
  mark : Mark
  rest : List Char

/-- Reads the empty lines before the first line of a block scalar. -/
def readBlockStart (indent : Nat) (breaks : List Char) (mark : Mark) :
    List Char → Except Fault BlockStart
  | [] => .ok ⟨max indent mark.column, breaks, mark, []⟩
  | c :: rest =>
    if c = ' ' then readBlockStart indent breaks mark.next rest
    else if c = '\t' then .error .token
    else if isBreak c then
      readBlockStart (max indent mark.column) (c :: breaks) mark.nextLine rest
    else .ok ⟨max indent mark.column, breaks, mark, c :: rest⟩

/-- The state between the lines of a block scalar. -/
structure BlockLines where
  /-- The text up to the last line, in reverse. -/
  done : List Char
  /-- The break at the end of the last line. -/
  ending? : Option Char
  /-- Whether the last line starts with a blank. -/
  blank : Bool
  /-- The breaks of the empty lines after it, in reverse. -/
  breaks : List Char

/-- What stands between the last line and the next one, in reverse. A folded scalar puts a space for a
single break, unless one of the lines starts with a blank. -/
def BlockLines.between (lines : BlockLines) (folds blank : Bool) : List Char :=
  if folds && lines.ending? = some '\n' && !lines.blank && !blank then
    if lines.breaks = [] then [' '] else lines.breaks
  else lines.breaks ++ lines.ending?.toList

/-- Reads the lines of a block scalar, which are indented by `indent` columns. -/
def readBlockLines (folds : Bool) (indent : Nat) (inLine : Bool) (lines : BlockLines) (mark : Mark) :
    List Char → Except Fault (BlockLines × Mark × List Char)
  | [] => .ok (lines, mark, [])
  | c :: rest =>
    if inLine then
      if isBreak c then
        readBlockLines folds indent false { lines with ending? := some c } mark.nextLine rest
      else readBlockLines folds indent true { lines with done := c :: lines.done } mark.next rest
    else if mark.column < indent && c = ' ' then readBlockLines folds indent false lines mark.next rest
    else if mark.column < indent && c = '\t' then .error .token
    else if isBreak c then
      readBlockLines folds indent false { lines with breaks := c :: lines.breaks } mark.nextLine rest
    else if mark.column = indent then
      readBlockLines folds indent true
        { done := c :: (lines.between folds (isGap c) ++ lines.done)
          ending? := none, blank := isGap c, breaks := [] }
        mark.next rest
    else .ok (lines, mark, c :: rest)

/-- The text of a block scalar, with what the chomping leaves of the breaks at its end. -/
def BlockLines.text (lines : BlockLines) : Chomping → String
  | .strip => String.ofList lines.done.reverse
  | .clip => String.ofList (lines.ending?.toList ++ lines.done).reverse
  | .keep => String.ofList (lines.breaks ++ (lines.ending?.toList ++ lines.done)).reverse

/-- Reads a block scalar behind its indicator. `outer` is the indentation of the collection around it. -/
def readBlock (folds : Bool) (outer : Int) (mark : Mark) (cs : List Char) :
    Except Fault ScalarText := do
  let header ← readBlockHeader cs
  let (mark, rest) ← skipLineEnd false (mark.advance (cs.length - header.rest.length)) header.rest
  match header.indent? with
  | some indent =>
    let indent := if 0 ≤ outer then outer.toNat + indent else indent
    let (lines, mark, rest) ← readBlockLines folds indent false ⟨[], none, false, []⟩ mark rest
    .ok ⟨lines.text header.chomping, false, mark, rest⟩
  | none =>
    let start ← readBlockStart 0 [] mark rest
    let indent := max start.indent (max (outer + 1).toNat 1)
    let (lines, mark, rest) ←
      readBlockLines folds indent false ⟨[], none, false, start.breaks⟩ start.mark start.rest
    .ok ⟨lines.text header.chomping, false, mark, rest⟩

end Yaml

end ConfigKit
