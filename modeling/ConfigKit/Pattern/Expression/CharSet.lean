-- SUMMARY: The set of characters that a class stands for under the flags.
import ConfigKit.Pattern.Fault
import ConfigKit.Pattern.Syntax
import ConfigKit.Unicode.CaseFolding
import ConfigKit.Unicode.Lookup

/-!
# The characters in a class

`ClassItem.members` gives the set of characters that a class stands for under the flags. Where Unicode
is off a class may hold ASCII characters only, so that a class that is negated is refused.
-/

namespace ConfigKit

namespace Pattern

/-- The flags that are on. -/
abbrev Flags := List Flag

namespace Flags

/-- The flags at the start of a pattern. -/
def initial : Flags := [.unicode]

def has (flags : Flags) (flag : Flag) : Bool := flags.contains flag

def after (flags : Flags) (change : FlagChange) : Flags :=
  change.foldl (fun flags (flag, on) => if on then flag :: flags else flags.filter (· ≠ flag)) flags

end Flags

def AsciiClass.members : AsciiClass → CodeRanges
  | .alnum => .ofList [(0x30, 0x39), (0x41, 0x5A), (0x61, 0x7A)]
  | .alpha => .ofList [(0x41, 0x5A), (0x61, 0x7A)]
  | .ascii => .ofList [(0, 0x7F)]
  | .blank => .ofList [(9, 9), (0x20, 0x20)]
  | .cntrl => .ofList [(0, 0x1F), (0x7F, 0x7F)]
  | .digit => .ofList [(0x30, 0x39)]
  | .graph => .ofList [(0x21, 0x7E)]
  | .lower => .ofList [(0x61, 0x7A)]
  | .print => .ofList [(0x20, 0x7E)]
  | .punct => .ofList [(0x21, 0x2F), (0x3A, 0x40), (0x5B, 0x60), (0x7B, 0x7E)]
  | .space => .ofList [(9, 13), (0x20, 0x20)]
  | .upper => .ofList [(0x41, 0x5A)]
  | .word => .ofList [(0x30, 0x39), (0x41, 0x5A), (0x5F, 0x5F), (0x61, 0x7A)]
  | .xdigit => .ofList [(0x30, 0x39), (0x41, 0x46), (0x61, 0x66)]

def Shorthand.members (unicode : Bool) : Shorthand → CodeRanges
  | .digit => if unicode then Unicode.decimalDigits else AsciiClass.members .digit
  | .space => if unicode then Unicode.whiteSpace else AsciiClass.members .space
  | .word => if unicode then Unicode.wordCharacters else AsciiClass.members .word

def SetName.members : SetName → Except Fault CodeRanges
  | .single name =>
    match Unicode.named? name with
    | some set => return set
    | none => throw (.unknownSet name)
  | .withValue property value =>
    match Unicode.withValue? property value with
    | some set => return set
    | none => throw (.unknownSet value)

/-- Adds the characters that differ in case only, where case does not count. -/
def foldIn (flags : Flags) (set : CodeRanges) : CodeRanges :=
  if ¬ flags.has .ignoreCase then set
  else if flags.has .unicode then Unicode.foldCase set
  else Unicode.foldAsciiCase set

/-- The complement of a set, if it is negated. -/
def negateIn (flags : Flags) (negated : Bool) (set : CodeRanges) : Except Fault CodeRanges :=
  if ¬ negated then return set
  else if flags.has .unicode then return set.complement
  else throw .needsUnicode

/-- The character of a literal, which is ASCII where Unicode is off. -/
def Literal.charIn (flags : Flags) (l : Literal) : Except Fault Char :=
  if flags.has .unicode ∨ l.char.toNat ≤ 0x7F then return l.char else throw .needsUnicode

/-- The set that an operation makes of two. -/
def ClassOperation.apply : ClassOperation → CodeRanges → CodeRanges → CodeRanges
  | .intersection => .inter
  | .difference => .diff
  | .symmetricDifference => .symmDiff

mutual

/-- The characters in a class. Case is folded before a set is negated or combined. -/
def ClassItem.members (flags : Flags) : ClassItem → Except Fault CodeRanges
  | .empty => return .empty
  | .literal l => return .singleton (← l.charIn flags)
  | .range first last => return .between (← first.charIn flags) (← last.charIn flags)
  | .ascii kind negated => negateIn flags negated (foldIn flags kind.members)
  | .named name negated => do
    if flags.has .unicode then negateIn flags negated (foldIn flags (← name.members))
    else throw .needsUnicode
  | .shorthand kind negated => negateIn flags negated (kind.members (flags.has .unicode))
  | .bracketed body negated => do negateIn flags negated (foldIn flags (← body.members flags))
  | .union items => return .unions (← ClassItem.membersOfAll flags items)
  | .combination operation left right => do
    let left ← left.members flags
    let right ← right.members flags
    return operation.apply (foldIn flags left) (foldIn flags right)

def ClassItem.membersOfAll (flags : Flags) : List ClassItem → Except Fault (List CodeRanges)
  | [] => return []
  | item :: items => return (← item.members flags) :: (← ClassItem.membersOfAll flags items)

end

end Pattern

end ConfigKit
