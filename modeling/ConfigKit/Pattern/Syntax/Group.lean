-- SUMMARY: Reading the openings of groups and the bounds of repetitions.
import ConfigKit.Pattern.Syntax.Escape
import ConfigKit.Unicode.Lookup

/-!
# Groups and repetitions in patterns

`readOpening` reads what follows an opening parenthesis: the name of a group, or a change of flags.
`readBounds` reads how often something is repeated, from after the opening brace.
-/

namespace ConfigKit

namespace Pattern

def Flag.ofChar? : Char → Option Flag
  | 'i' => some .ignoreCase
  | 'm' => some .multiLine
  | 's' => some .dotMatchesNewline
  | 'U' => some .swapGreed
  | 'u' => some .unicode
  | 'R' => some .crlf
  | 'x' => some .verbose
  | _ => none

/-- What follows an opening parenthesis: a group, with its name if it has one, or a change of flags for
the rest of the group around it. -/
inductive Opening where
  | group (kind : GroupKind) (name : Option String)
  | change (flags : FlagChange)

/-- Reads flags up to a colon or a closing parenthesis, and tells whether it was a colon. Flags after a
hyphen are turned off; `dangling` tells that the hyphen was the last thing read. -/
def readFlags (change : FlagChange) (turnOn dangling : Bool) :
    List Char → Except Fault (FlagChange × Bool × List Char)
  | [] => throw .brokenFlags
  | c :: rest =>
    if c = ':' ∨ c = ')' then
      if dangling then throw .brokenFlags else return (change.reverse, c = ':', rest)
    else if c = '-' then
      if turnOn then readFlags change false true rest else throw .brokenFlags
    else
      match Flag.ofChar? c with
      | none => throw .brokenFlags
      | some flag =>
        if change.any (·.1 = flag) then throw .brokenFlags
        else readFlags ((flag, turnOn) :: change) turnOn false rest

/-- Whether a text is the name of a group: a letter or an underscore, and then letters, numbers, points,
brackets and underscores. -/
def isGroupName (cs : List Char) : Bool :=
  match cs with
  | [] => false
  | c :: rest =>
    (c = '_' ∨ Unicode.alphabetic.containsChar c)
      ∧ rest.all fun c =>
        c = '_' ∨ c = '.' ∨ c = '[' ∨ c = ']' ∨ Unicode.alphanumeric.containsChar c

def readGroupName (index : Nat) (cs : List Char) : Except Fault (Opening × List Char) :=
  let name := cs.takeWhile (· ≠ '>')
  match cs.dropWhile (· ≠ '>') with
  | _ :: rest =>
    if isGroupName name then return (.group (.capture index) (some (String.ofList name)), rest)
    else throw .brokenName
  | [] => throw .brokenName

/-- Reads what follows an opening parenthesis. A group that captures has the number `index`. -/
def readOpening (verbose : Bool) (index : Nat) (cs : List Char) :
    Except Fault (Opening × List Char) :=
  match skip verbose cs with
  | '?' :: '=' :: _ => throw .lookaround
  | '?' :: '!' :: _ => throw .lookaround
  | '?' :: '<' :: '=' :: _ => throw .lookaround
  | '?' :: '<' :: '!' :: _ => throw .lookaround
  | '?' :: 'P' :: '<' :: rest => readGroupName index rest
  | '?' :: '<' :: rest => readGroupName index rest
  | '?' :: rest => do
    let (flags, colon, rest) ← readFlags [] true false rest
    if colon then return (.group (.change flags) none, rest)
    else if flags.isEmpty then throw .nothingToRepeat
    else return (.change flags, rest)
  | rest => return (.group (.capture index) none, rest)

def boundLimit : Nat := 0xFFFFFFFF

/-- Reads a bound with blanks around it. -/
def readBound (verbose : Bool) (cs : List Char) : Except Fault (Nat × List Char) := do
  let (digits, rest) := spanSkipping verbose Char.isDigit (cs.dropWhile Char.isBlank)
  if digits.isEmpty then throw .brokenBraces
  let bound := Nat.ofDigitChars 10 digits 0
  if bound > boundLimit then throw .hugeBound
  return (bound, rest.dropWhile Char.isBlank)

/-- Reads the bounds of a repetition, from after the opening brace. -/
def readBounds (verbose : Bool) (cs : List Char) : Except Fault (Bounds × List Char) := do
  let (least, rest) ← readBound verbose (skip verbose cs)
  match rest with
  | '\x7d' :: rest => return (⟨least, some least⟩, rest)
  | ',' :: rest =>
    match skip verbose rest with
    | '\x7d' :: rest => return (⟨least, none⟩, rest)
    | rest =>
      let (most, rest) ← readBound verbose rest
      match rest with
      | '\x7d' :: rest =>
        if least ≤ most then return (⟨least, some most⟩, rest) else throw .reversedBounds
      | _ => throw .brokenBraces
  | _ => throw .brokenBraces

end Pattern

end ConfigKit
