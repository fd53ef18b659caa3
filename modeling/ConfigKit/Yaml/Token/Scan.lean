-- SUMMARY: The scan from characters to tokens, with indentation and candidates for keys.
import ConfigKit.Yaml.Token.Property

/-!
# From characters to tokens

The scan goes through the characters of a stream from the left and keeps the tokens that it has met. In
block collections the indentation opens and closes collections. That a scalar or a flow collection is a
key shows only at the colon behind it; so its place among the tokens is remembered as a candidate, and
the tokens for the key are put there when the colon comes. A key of this kind ends on its line and has
1024 characters at most.
-/

namespace ConfigKit

namespace Yaml

/-- A place where a key may have started. -/
structure Candidate where
  /-- Whether nothing but a key can stand here. -/
  required : Bool
  /-- The number of tokens before it. -/
  position : Nat
  mark : Mark

/-- The state of a scan. -/
structure Scan where
  rest : List Char
  mark : Mark
  /-- The tokens, the last one first. -/
  tokens : List Token
  /-- The number of tokens. -/
  count : Nat
  /-- The column of the innermost block collection, or -1. -/
  indent : Int
  /-- The columns of the collections around it. -/
  outerIndents : List Int
  /-- The number of open flow collections. -/
  flow : Nat
  /-- Whether a key may start here. -/
  keyAllowed : Bool
  candidate? : Option Candidate
  /-- The candidates outside the open flow collections, the innermost first. -/
  outerCandidates : List (Option Candidate)

namespace Scan

def inFlow (s : Scan) : Bool := s.flow ≠ 0

/-- A key of a simple form has so many characters at most. -/
def maxKeyLength : Nat := 1024

/-! ## Tokens and indentation -/

def push (s : Scan) (token : Token) : Scan :=
  { s with tokens := token :: s.tokens, count := s.count + 1 }

/-- Adds a token behind the first `position` ones. -/
def insertAt (s : Scan) (position : Nat) (token : Token) : Scan :=
  let later := s.count - position
  { s with
    tokens := s.tokens.take later ++ token :: s.tokens.drop later
    count := s.count + 1 }

/-- Goes over some characters of a line. -/
def advance (s : Scan) (count : Nat) : Scan :=
  { s with rest := s.rest.drop count, mark := s.mark.advance count }

/-- Opens a block collection at a column, unless it is open. Its token is put behind the first `position`
ones. -/
def openBlock (s : Scan) (column position : Nat) (token : Token) : Scan :=
  if s.inFlow = false ∧ s.indent < column then
    { s.insertAt position token with indent := column, outerIndents := s.indent :: s.outerIndents }
  else s

/-- Closes the block collections that are indented by more than `column`. -/
def closeBlocks (column indent : Int) : List Int → Scan → Scan
  | [], s => { s with indent, outerIndents := [] }
  | outer :: more, s =>
    if column < indent then closeBlocks column outer more (s.push .blockEnd)
    else { s with indent, outerIndents := outer :: more }

/-- Closes the block collections that end before a column. Within a flow collection none does. -/
def unindent (s : Scan) (column : Int) : Scan :=
  if s.inFlow then s else closeBlocks column s.indent s.outerIndents s

/-! ## Candidates for keys -/

/-- Gives up a candidate. -/
def giveUp : Option Candidate → Except Fault Unit
  | none => .ok ()
  | some candidate => if candidate.required then .error .token else .ok ()

/-- Gives up the innermost candidate. -/
def dropCandidate (s : Scan) : Except Fault Scan := do
  giveUp s.candidate?
  .ok { s with candidate? := none }

/-- Remembers this place as a candidate, if a key may start here. -/
def saveCandidate (s : Scan) : Except Fault Scan :=
  if s.keyAllowed then do
    giveUp s.candidate?
    let required := !s.inFlow && s.indent = s.mark.column
    .ok { s with candidate? := some ⟨required, s.count, s.mark⟩ }
  else .ok s

/-- A candidate, unless the scan is too far behind it. -/
def fresh? (mark : Mark) (candidate? : Option Candidate) : Except Fault (Option Candidate) :=
  match candidate? with
  | none => .ok none
  | some candidate =>
    if candidate.mark.line < mark.line ∨ candidate.mark.index + maxKeyLength < mark.index then do
      giveUp (some candidate)
      .ok none
    else .ok (some candidate)

/-- Gives up all candidates that are too far behind. -/
def dropStale (s : Scan) : Except Fault Scan := do
  let candidate? ← fresh? s.mark s.candidate?
  let outerCandidates ← s.outerCandidates.mapM (fresh? s.mark)
  .ok { s with candidate?, outerCandidates }

/-! ## Between tokens -/

/-- Skips blanks, comments and breaks. Behind a break a key may start, except within a flow collection. A
tabulator is no blank where it could be taken for indentation. -/
def skipSpace (inFlow : Bool) (keyAllowed inComment : Bool) (mark : Mark) :
    List Char → Bool × Mark × List Char
  | [] => (keyAllowed, mark, [])
  | c :: rest =>
    if isBreak c then skipSpace inFlow (keyAllowed || !inFlow) false mark.nextLine rest
    else if inComment || c = ' ' || (c = '\t' && (inFlow || !keyAllowed)) then
      skipSpace inFlow keyAllowed inComment mark.next rest
    else if c = '#' then skipSpace inFlow keyAllowed true mark.next rest
    else (keyAllowed, mark, c :: rest)

def toNextToken (s : Scan) : Scan :=
  let (keyAllowed, mark, rest) := skipSpace s.inFlow s.keyAllowed false s.mark s.rest
  { s with keyAllowed, mark, rest }

/-! ## Single tokens -/

def readDirective (s : Scan) : Except Fault Scan := do
  let s ← (s.unindent (-1)).dropCandidate
  let (token, mark, rest) ← Yaml.readDirective s.mark.next (s.rest.drop 1)
  .ok ({ s with keyAllowed := false, mark, rest }.push token)

/-- Reads the mark at the start or the end of a document. -/
def readDocumentMark (s : Scan) : Except Fault Scan := do
  let token := if s.rest.head? = some '-' then Token.documentStart else .documentEnd
  let s ← (s.unindent (-1)).dropCandidate
  .ok (({ s with keyAllowed := false }.advance 3).push token)

def openFlow (s : Scan) (token : Token) : Except Fault Scan := do
  let s ← s.saveCandidate
  .ok (({ s with
    outerCandidates := s.candidate? :: s.outerCandidates, candidate? := none
    flow := s.flow + 1, keyAllowed := true }.advance 1).push token)

def closeFlow (s : Scan) (token : Token) : Except Fault Scan := do
  let s ← s.dropCandidate
  let s :=
    match s.flow, s.outerCandidates with
    | flow + 1, candidate? :: outerCandidates => { s with flow, candidate?, outerCandidates }
    | _, _ => s
  .ok (({ s with keyAllowed := false }.advance 1).push token)

/-- Reads the comma between the items of a flow collection. -/
def readFlowEntry (s : Scan) : Except Fault Scan := do
  let s ← s.dropCandidate
  .ok (({ s with keyAllowed := true }.advance 1).push .flowEntry)

/-- Reads the dash before an item of a block sequence. -/
def readBlockEntry (s : Scan) : Except Fault Scan :=
  if s.inFlow || s.keyAllowed then do
    let s ← (s.openBlock s.mark.column s.count .blockSequenceStart).dropCandidate
    .ok (({ s with keyAllowed := true }.advance 1).push .blockEntry)
  else .error .token

def readKey (s : Scan) : Except Fault Scan :=
  if s.inFlow || s.keyAllowed then do
    let s ← (s.openBlock s.mark.column s.count .blockMappingStart).dropCandidate
    .ok (({ s with keyAllowed := !s.inFlow }.advance 1).push .key)
  else .error .token

/-- Reads the colon before a value. If there is a candidate, the key started there. -/
def readValue (s : Scan) : Except Fault Scan :=
  match s.candidate? with
  | some candidate =>
    let s := s.insertAt candidate.position .key
    let s := s.openBlock candidate.mark.column candidate.position .blockMappingStart
    .ok (({ s with candidate? := none, keyAllowed := false }.advance 1).push .value)
  | none =>
    if s.inFlow || s.keyAllowed then
      let s := s.openBlock s.mark.column s.count .blockMappingStart
      .ok (({ s with keyAllowed := !s.inFlow }.advance 1).push .value)
    else .error .token

def readAnchor (s : Scan) (token : String → Token) : Except Fault Scan := do
  let s ← s.saveCandidate
  let (name, rest) ← readAnchorName (s.rest.drop 1)
  .ok (({ s with keyAllowed := false }.advance (s.rest.length - rest.length)).push (token name))

def readTag (s : Scan) : Except Fault Scan := do
  let s ← s.saveCandidate
  let (token, rest) ← Yaml.readTag s.inFlow (s.rest.drop 1)
  .ok (({ s with keyAllowed := false }.advance (s.rest.length - rest.length)).push token)

def readBlockScalar (s : Scan) (style : ScalarStyle) : Except Fault Scan := do
  let s ← s.dropCandidate
  let scalar ← readBlock (style = .folded) s.indent s.mark.next (s.rest.drop 1)
  .ok ({ s with keyAllowed := true, mark := scalar.mark, rest := scalar.rest }.push
    (.scalar style scalar.text))

def readQuoted (s : Scan) (style : ScalarStyle) : Except Fault Scan := do
  let s ← s.saveCandidate
  let scalar ←
    if style = .singleQuoted then readSingleQuoted [] .none s.mark.next (s.rest.drop 1)
    else readDoubleQuoted [] .none s.mark.next (s.rest.drop 1)
  .ok ({ s with keyAllowed := false, mark := scalar.mark, rest := scalar.rest }.push
    (.scalar style scalar.text))

/-- Reads a plain scalar. If it ends on a later line, a key may follow. -/
def readPlainScalar (s : Scan) : Except Fault Scan := do
  let s ← s.saveCandidate
  let scalar ← readPlain s.inFlow (s.indent + 1) [] .none s.mark s.rest
  .ok ({ s with keyAllowed := scalar.brokeLine, mark := scalar.mark, rest := scalar.rest }.push
    (.scalar .plain scalar.text))

/-- Whether a plain scalar can start with this character, before these ones. -/
def startsPlain (inFlow : Bool) (c : Char) (rest : List Char) : Bool :=
  if c = '-' then !rest.head?.any isGap
  else if c = '?' ∨ c = ':' then !inFlow && !endsWord rest
  else !(isGap c || isBreak c || ",[]\x7b\x7d#&*!|>'\"%@`".toList.contains c)

/-- Reads the token that starts here. -/
def readToken (s : Scan) (c : Char) : Except Fault Scan :=
  let rest := s.rest.drop 1
  if s.mark.column = 0 ∧ c = '%' then s.readDirective
  else if s.mark.column = 0 ∧ atDocumentMark s.rest = true then s.readDocumentMark
  else if c = '[' then s.openFlow .flowSequenceStart
  else if c = '\x7b' then s.openFlow .flowMappingStart
  else if c = ']' then s.closeFlow .flowSequenceEnd
  else if c = '\x7d' then s.closeFlow .flowMappingEnd
  else if c = ',' then s.readFlowEntry
  else if c = '-' ∧ endsWord rest = true then s.readBlockEntry
  else if c = '?' ∧ (s.inFlow || endsWord rest) = true then s.readKey
  else if c = ':' ∧ (s.inFlow || endsWord rest) = true then s.readValue
  else if c = '*' then s.readAnchor .alias
  else if c = '&' then s.readAnchor .anchor
  else if c = '!' then s.readTag
  else if c = '|' ∧ s.inFlow = false then s.readBlockScalar .literal
  else if c = '>' ∧ s.inFlow = false then s.readBlockScalar .folded
  else if c = '\'' then s.readQuoted .singleQuoted
  else if c = '"' then s.readQuoted .doubleQuoted
  else if startsPlain s.inFlow c rest then s.readPlainScalar
  else .error .token

/-! ## The whole stream -/

/-- Ends the scan: closes all block collections and gives the tokens. -/
def finish (s : Scan) : Except Fault (List Token) := do
  let s ← (s.unindent (-1)).dropCandidate
  .ok s.tokens.reverse

/-- Reads the tokens that are left. `fuel` bounds their number. -/
def run : (fuel : Nat) → Scan → Except Fault (List Token)
  | 0, _ => .error .token
  | fuel + 1, s => do
    let s ← s.toNextToken.dropStale
    let s := s.unindent s.mark.column
    match s.rest with
    | [] => s.finish
    | c :: _ =>
      let s ← s.readToken c
      run fuel s

/-- The state at the start of a stream. A byte order mark in front takes a column. -/
def start (cs : List Char) : Scan :=
  let s : Scan :=
    { rest := cs, mark := ⟨0, 0, 0⟩, tokens := [], count := 0, indent := -1, outerIndents := []
      flow := 0, keyAllowed := true, candidate? := none, outerCandidates := [] }
  if cs.head? = some '\ufeff' then s.advance 1 else s

end Scan

/-- The tokens of a stream. -/
def tokens (cs : List Char) : Except Fault (List Token) :=
  Scan.run (cs.length + 1) (Scan.start cs)

end Yaml

end ConfigKit
