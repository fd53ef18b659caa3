-- SUMMARY: What plain and tagged scalars mean.
import ConfigKit.Number.Reading
import ConfigKit.Text.CodeRanges
import ConfigKit.Yaml.Fault
import ConfigKit.Yaml.Token
import ConfigKit.Yaml.Tree

/-!
# What scalars mean

A plain scalar may be null, a truth value, an integer, a floating-point number or a text, by its
spelling. Any other scalar is a text, unless a tag asks for something else.
-/

namespace ConfigKit

namespace Yaml

/-! ## Spellings -/

def isNullText (text : String) : Bool :=
  text = "null" || text = "Null" || text = "NULL" || text = "~"

/-- The truth value that a text spells. -/
def boolOfText? (text : String) : Option Bool :=
  if text = "true" ∨ text = "True" ∨ text = "TRUE" then some true
  else if text = "false" ∨ text = "False" ∨ text = "FALSE" then some false
  else none

/-- The number that digits in a base spell. There has to be one digit at least. -/
def numberInBase? (base : Nat) (digits : List Char) : Option Nat :=
  if digits = [] then none
  else
    digits.foldl (fun n? digit => do
      let n ← n?
      let value ← CodeRanges.hexDigit? digit
      if value < base then some (n * base + value) else none) (some 0)

/-- The number of digits behind the letter that names their base. -/
def numberWithBase? : List Char → Option Nat
  | '0' :: 'x' :: digits => numberInBase? 16 digits
  | '0' :: 'o' :: digits => numberInBase? 8 digits
  | '0' :: 'b' :: digits => numberInBase? 2 digits
  | _ => none

/-- A number within a limit. -/
def within? (limit : Nat) (n? : Option Nat) : Option Nat :=
  n?.filter (· ≤ limit)

/-- Whether a text looks like digits but has a zero in front, so that it is no decimal number. -/
def isZeroPadded (cs : List Char) : Bool :=
  match cs with
  | '0' :: digits => digits ≠ [] && digits.all Char.isDigit
  | '+' :: '0' :: digits => digits ≠ [] && digits.all Char.isDigit
  | '-' :: '0' :: digits => digits ≠ [] && digits.all Char.isDigit
  | _ => false

/-- The natural that a text spells, if it is not above a limit. A plus sign may stand in front. -/
def natural? (limit : Nat) (cs : List Char) : Option Nat :=
  let unsigned := if cs.head? = some '+' then cs.tail else cs
  (within? limit (numberWithBase? unsigned)).or <|
    if isZeroPadded cs then none else within? limit (numberInBase? 10 unsigned)

/-- The integer below a minus sign that a text spells, if its amount is not above a limit. -/
def negative? (limit : Nat) (cs : List Char) : Option Int :=
  match cs with
  | '-' :: digits =>
    ((within? limit (numberWithBase? digits)).or <|
      if isZeroPadded cs then none else within? limit (numberInBase? 10 digits)).map fun n => -(n : Int)
  | _ => none

/-- The signed integer of so many bits that a text spells. -/
def signed? (bits : Nat) (cs : List Char) : Option Int :=
  ((natural? (Nat.pow 2 (bits - 1) - 1) cs).map Int.ofNat).or (negative? (Nat.pow 2 (bits - 1)) cs)

/-- The floating-point number that a text spells. A decimal has to be in the range of finite numbers. -/
def float? (text : String) : Option Binary64 :=
  let cs := text.toList
  let unsigned := if cs.head? = some '+' then cs.tail else cs
  if cs.head? = some '+' ∧ (unsigned.head? = some '+' ∨ unsigned.head? = some '-') then none
  else if unsigned = ".inf".toList ∨ unsigned = ".Inf".toList ∨ unsigned = ".INF".toList then
    some (.infinity false)
  else if text = "-.inf" ∨ text = "-.Inf" ∨ text = "-.INF" then some (.infinity true)
  else if text = ".nan" ∨ text = ".NaN" ∨ text = ".NAN" then some .nan
  else (Binary64.ofChars? unsigned).filter (·.isFinite)

/-! ## Integers and plain scalars -/

/-- What a text is that spells an integer. -/
inductive IntegerText where
  | int (value : Int)
  /-- An integer that needs more than 64 bits, but not more than 128. -/
  | wide

def integer? (text : String) : Option IntegerText :=
  let cs := text.toList
  ((((natural? (Nat.pow 2 64 - 1) cs).map fun n => IntegerText.int n).or
    ((negative? (Nat.pow 2 63) cs).map .int)).or
    ((natural? (Nat.pow 2 128 - 1) cs).map fun _ => .wide)).or
    ((negative? (Nat.pow 2 127) cs).map fun _ => .wide)

/-- The value of an integer. A wide one has none. -/
def IntegerText.tree : IntegerText → Except Fault Tree
  | .int n => .ok (.number (.int n))
  | .wide => .error .unexpectedValue

/-- What a plain scalar means. -/
def plainTree (text : String) : Except Fault Tree :=
  if text = "" ∨ isNullText text = true then .ok .null
  else
    match boolOfText? text with
    | some b => .ok (.bool b)
    | none =>
      match integer? text with
      | some n => n.tree
      | none =>
        match if isZeroPadded text.toList then none else float? text with
        | some x => .ok (.number (.float x))
        | none => .ok (.string text)

/-- Whether a plain scalar with this text means the text itself. -/
def meansItself (text : String) : Bool :=
  !(text = "" || isNullText text || (boolOfText? text).isSome || (integer? text).isSome
    || isZeroPadded text.toList || (float? text).isSome)

/-! ## Tags -/

def standardTag (name : String) : Bytes :=
  Utf8.encode ("tag:yaml.org,2002:" ++ name)

/-- The name of a tag of the document's own, which starts with an exclamation mark. The mark alone is its
own name. -/
def localName? (tag : Bytes) : Option String :=
  match tag with
  | [0x21] => some "!"
  | 0x21 :: rest => (Utf8.decode? rest).map String.ofList
  | _ => none

/-- What a scalar means under a tag that is not set aside. -/
def taggedTree (tag : Bytes) (style : ScalarStyle) (text : String) : Except Fault Tree :=
  if tag = standardTag "bool" then
    match boolOfText? text with
    | some b => .ok (.bool b)
    | none => .error .unexpectedValue
  else if tag = standardTag "int" then
    match integer? text with
    | some n => n.tree
    | none => .error .unexpectedValue
  else if tag = standardTag "float" then
    match float? text with
    | some x => .ok (.number (.float x))
    | none => .error .unexpectedValue
  else if tag = standardTag "null" then
    if isNullText text then .ok .null else .error .unexpectedValue
  else if tag.head? = some 0x21 ∧ style = .plain then plainTree text
  else .ok (.string text)

/-- What a scalar means. -/
def scalarTree (tag? : Option Bytes) (style : ScalarStyle) (text : String) : Except Fault Tree :=
  match tag? with
  | some tag => taggedTree tag style text
  | none => if style = .plain then plainTree text else .ok (.string text)

end Yaml

end ConfigKit
