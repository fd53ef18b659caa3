-- SUMMARY: Reading what a backslash introduces in a pattern.
import ConfigKit.Pattern.Fault
import ConfigKit.Pattern.Syntax
import ConfigKit.Pattern.Syntax.Skipping
import ConfigKit.Text.CodeRanges

/-!
# Escapes in patterns

`readEscape` reads what a backslash introduces: a character, a condition on the place in the text, or a
class. Every reader takes the text after what it has recognised so far, and gives back the text after
what it has read.
-/

namespace ConfigKit

namespace Pattern

/-- A single item of a pattern. In a class the dot and the assertions are refused. -/
inductive Atom where
  | literal (literal : Literal)
  | dot
  | assertion (assertion : Assertion)
  | charClass (item : ClassItem)

/-- The character with a code in hexadecimal digits, if there is one. -/
def hexChar? (digits : List Char) : Option Char :=
  let code := digits.foldl (fun n c => n * 16 + (CodeRanges.hexDigit? c).getD 0) 0
  if code.isValidChar then some (Char.ofNat code) else none

def isHexDigit (c : Char) : Bool := (CodeRanges.hexDigit? c).isSome

/-- Reads a character code: digits in braces, or `width` digits. -/
def readHex (verbose : Bool) (width : Nat) (cs : List Char) : Except Fault (Atom × List Char) := do
  match skip verbose cs with
  | '\x7b' :: rest =>
    match spanSkipping verbose isHexDigit (skip verbose rest) with
    | (digits, '\x7d' :: rest) =>
      if digits.isEmpty then throw .noCharacter
      let some c := hexChar? digits | throw .noCharacter
      return (.literal ⟨c, false⟩, skip verbose rest)
    | _ => throw .noCharacter
  | rest =>
    let some (digits, rest) := takeSkipping? verbose isHexDigit width rest | throw .noCharacter
    let some c := hexChar? digits | throw .noCharacter
    return (.literal ⟨c, width = 2⟩, rest)

/-- Splits a list at the first place where `mark` stands. -/
def splitAtMark? (mark : List Char) : List Char → Option (List Char × List Char)
  | [] => none
  | c :: rest =>
    if mark.isPrefixOf (c :: rest) then some ([], (c :: rest).drop mark.length)
    else (splitAtMark? mark rest).map fun (before, after) => (c :: before, after)

/-- What stands between the braces of a named set. The marks `!=`, `:` and `=` all join a property to
its value. -/
def setName (cs : List Char) : SetName :=
  match splitAtMark? ['!', '='] cs <|> splitAtMark? [':'] cs <|> splitAtMark? ['='] cs with
  | some (property, value) => .withValue (String.ofList property) (String.ofList value)
  | none => .single (String.ofList cs)

/-- Reads the name of a set: one letter, or a name in braces. -/
def readNamed (verbose : Bool) (negated : Bool) (cs : List Char) : Except Fault (Atom × List Char) :=
  match skip verbose cs with
  | [] => throw .unknownEscape
  | '\x7b' :: rest =>
    match spanSkipping verbose (· ≠ '\x7d') (skip verbose rest) with
    | (name, '\x7d' :: rest) => return (.charClass (.named (setName name) negated), rest)
    | _ => throw .brokenBraces
  | '\\' :: _ => throw .unknownEscape
  | c :: rest =>
    return (.charClass (.named (.single (String.singleton c)) negated), skip verbose rest)

/-- The kinds of word boundary that are written out in braces. -/
def namedEdge? : String → Option WordEdge
  | "start" => some .start
  | "end" => some .finish
  | "start-half" => some .startHalf
  | "end-half" => some .finishHalf
  | _ => none

/-- Reads the kind of a word boundary, if braces with a letter or a hyphen in them follow. Other braces
are left alone: they repeat the boundary. -/
def readEdge (verbose : Bool) (cs : List Char) : Except Fault (WordEdge × List Char) :=
  let inName (c : Char) : Bool := c.isAlpha ∨ c = '-'
  match cs with
  | '\x7b' :: rest =>
    match skip verbose rest with
    | [] => throw .brokenBraces
    | c :: rest =>
      if inName c then
        match spanSkipping verbose inName (c :: rest) with
        | (name, '\x7d' :: rest) =>
          match namedEdge? (String.ofList name) with
          | some edge => return (edge, rest)
          | none => throw .unknownBoundary
        | _ => throw .brokenBraces
      else return (.boundary, cs)
  | _ => return (.boundary, cs)

/-- The characters that a letter after a backslash stands for. -/
def controlEscape? : Char → Option Char
  | 'a' => some '\x07'
  | 'f' => some '\x0c'
  | 't' => some '\t'
  | 'n' => some '\n'
  | 'r' => some '\r'
  | 'v' => some '\x0b'
  | _ => none

/-- Whether a character may stand after a backslash to stand for itself: any ASCII character but
letters, digits and angle brackets. -/
def isEscapable (c : Char) : Bool :=
  c.toNat ≤ 0x7F ∧ ¬ c.isAlphanum ∧ c ≠ '<' ∧ c ≠ '>'

/-- Reads what a backslash introduces. -/
def readEscape (verbose : Bool) : List Char → Except Fault (Atom × List Char)
  | [] => throw .unknownEscape
  | c :: rest =>
    let shorthand (kind : Shorthand) (negated : Bool) : Except Fault (Atom × List Char) :=
      return (.charClass (.shorthand kind negated), rest)
    let assertion (a : Assertion) : Except Fault (Atom × List Char) := return (.assertion a, rest)
    match c with
    | 'x' => readHex verbose 2 rest
    | 'u' => readHex verbose 4 rest
    | 'U' => readHex verbose 8 rest
    | 'p' => readNamed verbose false rest
    | 'P' => readNamed verbose true rest
    | 'd' => shorthand .digit false
    | 'D' => shorthand .digit true
    | 's' => shorthand .space false
    | 'S' => shorthand .space true
    | 'w' => shorthand .word false
    | 'W' => shorthand .word true
    | 'A' => assertion .textStart
    | 'z' => assertion .textEnd
    | 'b' => do
      let (edge, rest) ← readEdge verbose rest
      return (.assertion (.word edge), rest)
    | 'B' => assertion (.word .inner)
    | '<' => assertion (.word .start)
    | '>' => assertion (.word .finish)
    | c =>
      if c.isDigit then throw .backreference
      else if isEscapable c then return (.literal ⟨c, false⟩, rest)
      else
        match controlEscape? c with
        | some control => return (.literal ⟨control, false⟩, rest)
        | none => throw .unknownEscape

end Pattern

end ConfigKit
