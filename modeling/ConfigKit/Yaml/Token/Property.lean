-- SUMMARY: Reading anchors, aliases, tags and directives.
import ConfigKit.Yaml.Token
import ConfigKit.Yaml.Token.Scalar

/-!
# Reading properties and directives

Anchors, aliases and tags, which stand before a value, and directives, which stand before a document. A
reader gives what it read and the characters that are left. None of them goes over a line break, except
that a directive takes the end of its line.
-/

namespace ConfigKit

namespace Yaml

/-! ## Anchors and aliases -/

/-- Whether the name of an anchor can end here. -/
def endsAnchor (cs : List Char) : Bool :=
  endsWord cs || cs.head?.any fun c => "?:,]\x7d%@`".toList.contains c

def readAnchorName (cs : List Char) : Except Fault (String × List Char) :=
  let name := cs.takeWhile isWord
  let rest := cs.dropWhile isWord
  if name = [] ∨ endsAnchor rest = false then .error .token else .ok (String.ofList name, rest)

/-! ## Tags -/

/-- Whether a character can stand in a tag. Some of them only in a tag in angle brackets. -/
def isTagCharacter (bracketed : Bool) (c : Char) : Bool :=
  isWord c || ";/?:@&=+$.!~*'()".toList.contains c || (bracketed && ",[]".toList.contains c)

/-- How many bytes a character has that starts with this byte. -/
def leadWidth? (byte : Nat) : Option Nat :=
  if byte < 0x80 then some 1
  else if byte < 0xC0 then none
  else if byte < 0xE0 then some 2
  else if byte < 0xF0 then some 3
  else if byte < 0xF8 then some 4
  else none

/-- Reads the characters of a tag. A byte may be written with a percent sign and two digits; such bytes
come one after the other as long as a character that they start is not complete, and `missing` of them
are still to come. -/
def readTagBytes (bracketed : Bool) (done : Bytes) (missing : Nat) :
    List Char → Except Fault (Bytes × List Char)
  | [] => if missing = 0 then .ok (done.reverse, []) else .error .token
  | '%' :: rest =>
    match rest with
    | d1 :: d2 :: rest =>
      match hexNumber? [d1, d2] with
      | none => .error .token
      | some byte =>
        if missing = 0 then
          match leadWidth? byte with
          | none => .error .token
          | some width => readTagBytes bracketed (UInt8.ofNat byte :: done) (width - 1) rest
        else if 0x80 ≤ byte ∧ byte < 0xC0 then
          readTagBytes bracketed (UInt8.ofNat byte :: done) (missing - 1) rest
        else .error .token
    | _ => .error .token
  | c :: rest =>
    if missing ≠ 0 then .error .token
    else if isTagCharacter bracketed c then
      readTagBytes bracketed ((String.utf8EncodeChar c).reverse ++ done) 0 rest
    else .ok (done.reverse, c :: rest)

/-- Reads a tag in angle brackets, behind the opening one. -/
def readBracketedTag (cs : List Char) : Except Fault (Token × List Char) := do
  let (suffix, rest) ← readTagBytes true [] 0 cs
  if suffix = [] then .error .token
  else
    match rest with
    | '>' :: rest => .ok (.tag "" suffix, rest)
    | _ => .error .token

/-- Reads a tag behind its exclamation mark: with a handle, which ends with another one, or without. -/
def readPlainTag (cs : List Char) : Except Fault (Token × List Char) := do
  let name := cs.takeWhile isWord
  match cs.dropWhile isWord with
  | '!' :: rest =>
    let (suffix, rest) ← readTagBytes false [] 0 rest
    if suffix = [] then .error .token
    else .ok (.tag (String.ofList ('!' :: name ++ ['!'])) suffix, rest)
  | rest =>
    let (more, rest) ← readTagBytes false [] 0 rest
    match Utf8.encodeChars name ++ more with
    | [] => .ok (.tag "" (Utf8.encode "!"), rest)
    | suffix => .ok (.tag "!" suffix, rest)

/-- Reads a tag behind its first exclamation mark. -/
def readTag (inFlow : Bool) (cs : List Char) : Except Fault (Token × List Char) := do
  let (token, rest) ←
    match cs with
    | '<' :: rest => readBracketedTag rest
    | cs => readPlainTag cs
  if endsWord rest || (inFlow && rest.head? = some ',') then .ok (token, rest) else .error .token

/-! ## Directives -/

/-- Reads a number of a version, of nine digits at most. -/
def readVersionNumber (cs : List Char) : Except Fault (Nat × List Char) :=
  let digits := cs.takeWhile Char.isDigit
  if digits = [] ∨ 9 < digits.length then .error .token
  else
    .ok (digits.foldl (fun n c => n * 10 + (c.toNat - '0'.toNat)) 0, cs.dropWhile Char.isDigit)

def readVersion (cs : List Char) : Except Fault (Token × List Char) := do
  let (major, rest) ← readVersionNumber (cs.dropWhile isGap)
  match rest with
  | '.' :: rest =>
    let (minor, rest) ← readVersionNumber rest
    .ok (.versionDirective major minor, rest)
  | _ => .error .token

/-- Reads the handle of a tag directive: an exclamation mark, or a name between two. -/
def readTagHandle (cs : List Char) : Except Fault (String × List Char) :=
  match cs with
  | '!' :: rest =>
    let name := rest.takeWhile isWord
    match name, rest.dropWhile isWord with
    | name, '!' :: rest => .ok (String.ofList ('!' :: name ++ ['!']), rest)
    | [], rest => .ok ("!", rest)
    | _, _ => .error .token
  | _ => .error .token

/-- Reads a handle and what it stands for. -/
def readTagPrefix (cs : List Char) : Except Fault (Token × List Char) := do
  let (handle, rest) ← readTagHandle (cs.dropWhile isGap)
  if rest.head?.any isGap then
    let (leading, rest) ← readTagBytes true [] 0 (rest.dropWhile isGap)
    if leading = [] ∨ endsWord rest = false then .error .token
    else .ok (.tagDirective handle leading, rest)
  else .error .token

/-- Reads a directive behind its percent sign, and the end of its line. -/
def readDirective (mark : Mark) (cs : List Char) : Except Fault (Token × Mark × List Char) := do
  let name := cs.takeWhile isWord
  let rest := cs.dropWhile isWord
  if endsWord rest then
    let (token, rest) ←
      if name = "YAML".toList then readVersion rest
      else if name = "TAG".toList then readTagPrefix rest
      else .error .token
    let (mark, rest) ← skipLineEnd false (mark.advance (cs.length - rest.length)) rest
    .ok (token, mark, rest)
  else .error .token

end Yaml

end ConfigKit
