-- SUMMARY: Why a text is no pattern, and the message that says so.
/-!
# Why a pattern is refused

The causes, and the words for each. The message does not repeat the pattern, nor point at a place in it.
-/

namespace ConfigKit

namespace Pattern

/-- The reason for which a text is not a pattern. -/
inductive Fault where
  /-- A repetition without anything to repeat. -/
  | nothingToRepeat
  /-- The braces of a repetition, a character code or a name are not well formed. -/
  | brokenBraces
  /-- A repetition with a lower bound above its upper bound. -/
  | reversedBounds
  /-- A number above the largest bound of a repetition. -/
  | hugeBound
  /-- A group that is not closed, or closed without being open. -/
  | unbalancedGroup
  /-- A group that looks ahead or behind. -/
  | lookaround
  /-- A flag that is unknown, repeated or missing. -/
  | brokenFlags
  /-- A name of a group that is empty, misspelt or not closed. -/
  | brokenName
  /-- A name that two groups share. -/
  | repeatedName (name : String)
  /-- A backslash with nothing after it, or with a character that has no meaning there. -/
  | unknownEscape
  /-- A reference to what a group has matched. -/
  | backreference
  /-- A character code that is malformed or no character. -/
  | noCharacter
  /-- A word boundary of an unknown kind. -/
  | unknownBoundary
  /-- A class that is not closed. -/
  | unclosedClass
  /-- An assertion as a member of a class. -/
  | assertionInClass
  /-- A range whose ends are not two characters in order. -/
  | brokenRange
  /-- A set of characters that no table has. -/
  | unknownSet (name : String)
  /-- An item that needs Unicode while Unicode is off. -/
  | needsUnicode
  /-- Items that are nested too deeply. -/
  | tooDeep
  /-- A pattern whose program would be too large. -/
  | tooLarge
  deriving DecidableEq

def Fault.reason : Fault → String
  | .nothingToRepeat => "repetition operator missing expression"
  | .brokenBraces => "repetition quantifier expects a valid decimal"
  | .reversedBounds => "invalid repetition count range, the start must be <= the end"
  | .hugeBound => "decimal literal invalid"
  | .unbalancedGroup => "unclosed or unopened group"
  | .lookaround => "look-around, including look-ahead and look-behind, is not supported"
  | .brokenFlags => "unrecognized, duplicate or missing flag"
  | .brokenName => "invalid capture group name"
  | .repeatedName name => "duplicate capture group name: " ++ name
  | .unknownEscape => "unrecognized escape sequence"
  | .backreference => "backreferences are not supported"
  | .noCharacter => "hexadecimal literal is not a Unicode scalar value"
  | .unknownBoundary => "unrecognized special word boundary assertion"
  | .unclosedClass => "unclosed character class"
  | .assertionInClass => "invalid escape sequence found in character class"
  | .brokenRange => "invalid character class range, the start must be <= the end"
  | .unknownSet name => "Unicode property not found: " ++ name
  | .needsUnicode => "Unicode not allowed here"
  | .tooDeep => "exceed the maximum number of nested parentheses/brackets"
  | .tooLarge => "Compiled regex exceeds size limit"

def Fault.message (fault : Fault) : String := "Invalid regex: " ++ fault.reason

end Pattern

end ConfigKit
