-- SUMMARY: Readers of JSON text over bytes: blanks, words, numbers, strings, containers and whole values.
import ConfigKit.Json.Fault

/-!
# Reading JSON text

A reader takes the unread bytes of a document and gives what it read together with the bytes after it.
When it stops instead, it says why and at which byte. The readers here read blanks, words, numbers and
strings, the frames of arrays and objects, and whole values.

Some causes are noticed only when a value is complete, and have no place of their own. They get the place
where the enclosing array or object ends, or where its end was looked for in vain.
-/

namespace ConfigKit

namespace Json

/-- Why reading stopped, the bytes that were unread then, and whether they are the place to report. -/
structure Stop where
  cause : Cause
  rest : Bytes
  placed : Bool

/-- Stops before the given bytes. -/
def Stop.before (cause : Cause) (rest : Bytes) : Stop := ⟨cause, rest, true⟩

/-- Stops behind the first of the given bytes, the one that gave rise to it. -/
def Stop.behind (cause : Cause) (rest : Bytes) : Stop := ⟨cause, rest.drop 1, true⟩

/-- Stops without a place to report. -/
def Stop.unplaced (cause : Cause) (rest : Bytes) : Stop := ⟨cause, rest, false⟩

/-- Takes the unread bytes as the place, if there is none yet. -/
def Stop.place (stop : Stop) : Stop := { stop with placed := true }

/-- Reads some of the unread bytes. -/
abbrev Reader (α : Type) := Bytes → Except Stop (α × Bytes)

/-! ## Blanks and words -/

/-- The bytes that may stand between the parts of a document: space, line feed, tab and carriage
return. -/
def isBlankByte (byte : UInt8) : Bool :=
  byte = 0x20 || byte = 0x0A || byte = 0x09 || byte = 0x0D

def skipBlanks (bytes : Bytes) : Bytes :=
  bytes.dropWhile isBlankByte

/-- Reads the rest of a word whose first letter is read already. -/
def readWord : Bytes → Bytes → Except Stop Bytes
  | [], rest => .ok rest
  | _ :: _, [] => .error (.before .endInValue [])
  | letter :: word, byte :: rest =>
    if byte = letter then readWord word rest else .error (.before .expectedIdent rest)

/-! ## Numbers -/

def isDigitByte (byte : UInt8) : Bool :=
  0x30 ≤ byte && byte ≤ 0x39

def digitValue (byte : UInt8) : Nat :=
  byte.toNat - 0x30

/-- The longest front of a text of digits whose value is at most `2 ^ 64 - 1`, after the value of the
digits before it. Gives the value and the number of digits taken. -/
def takeWord (value : Nat) : Bytes → Nat × Nat
  | [] => (value, 0)
  | digit :: digits =>
    let next := value * 10 + digitValue digit
    if next < Nat.pow 2 64 then
      let (value, count) := takeWord next digits
      (value, count + 1)
    else (value, 0)

/-- `significand · 10 ^ exponent` by floating-point arithmetic: the significand is rounded first, then
multiplied with or divided by a rounded power of ten up to the 308th, by several if the exponent is
smaller than that. Nothing if the result is infinite. -/
def scale (significand : Nat) (exponent : Int) : Option Binary64 :=
  let power (n : Nat) : Binary64 := .ofDecimal false 1 n
  let rec go (steps : Nat) (x : Binary64) (exponent : Int) : Option Binary64 :=
    if exponent.natAbs ≤ 308 then
      if 0 ≤ exponent then
        let y := x.mul (power exponent.natAbs)
        if y.isInfinite then none else some y
      else some (x.div (power exponent.natAbs))
    else if x.isZero then some x
    else if 0 ≤ exponent then none
    else
      match steps with
      | 0 => some x
      | steps + 1 => go steps (x.div (power 308)) (exponent + 308)
  -- After three divisions any significand has become zero.
  go 4 (.ofNat significand) exponent

/-- A floating-point number with its sign. -/
def readScaled (negative : Bool) (significand : Nat) (exponent : Int) : Reader Number := fun rest =>
  match scale significand exponent with
  | none => .error (.before .numberOutOfRange rest)
  | some x => .ok (.float (if negative then x.neg else x), rest)

/-- The greatest exponent that is read digit by digit. -/
def maxExponent : Nat := Nat.pow 2 31 - 1

/-- Reads an exponent from the letter on. A number with more digits in its exponent than are read is
zero, or too large. -/
def readExponent (negative : Bool) (significand : Nat) (exponent : Int) : Reader Number := fun rest =>
  let rest := rest.drop 1
  let (down, rest) :=
    match rest with
    | 0x2B :: rest => (false, rest)
    | 0x2D :: rest => (true, rest)
    | rest => (false, rest)
  match rest with
  | [] => .error (.before .endInValue [])
  | digit :: after =>
    if isDigitByte digit then
      let rec power (value : Nat) : Bytes → Option Nat × Bytes
        | [] => (some value, [])
        | digit :: rest =>
          if isDigitByte digit then
            let next := value * 10 + digitValue digit
            if maxExponent < next then (none, rest) else power next rest
          else (some value, digit :: rest)
      match power (digitValue digit) after with
      | (some n, rest) =>
        readScaled negative significand (if down then exponent - n else exponent + n) rest
      | (none, rest) =>
        if significand ≠ 0 ∧ !down then .error (.before .numberOutOfRange rest)
        else .ok (.float (.zero negative), rest.dropWhile isDigitByte)
    else .error (.before .invalidNumber after)

/-- Reads an exponent if there is one. -/
def readExponent? (negative : Bool) (significand : Nat) (exponent : Int) : Reader Number := fun rest =>
  match rest with
  | 0x65 :: _ | 0x45 :: _ => readExponent negative significand exponent rest
  | _ => readScaled negative significand exponent rest

/-- Reads a fraction from the point on. Digits that do not fit the significand do not count. -/
def readFraction (negative : Bool) (significand : Nat) (exponent : Int) : Reader Number := fun rest =>
  let rest := rest.drop 1
  let digits := rest.takeWhile isDigitByte
  let after := rest.dropWhile isDigitByte
  match digits, after with
  | [], [] => .error (.behind .endInValue [])
  | [], _ => .error (.behind .invalidNumber after)
  | _, _ =>
    let (significand, taken) := takeWord significand digits
    readExponent? negative significand (exponent - taken) after

/-- An integer that fits, or the floating-point number nearest to it. Minus zero is no integer. -/
def integer (negative : Bool) (value : Nat) : Number :=
  if negative then
    if 0 < value ∧ value ≤ Nat.pow 2 63 then .int (-value) else .float (Binary64.ofNat value).neg
  else .int value

/-- Reads what follows the digits before the point. -/
def readAfterWhole (negative : Bool) (significand dropped : Nat) : Reader Number := fun rest =>
  match rest with
  | 0x2E :: _ => readFraction negative significand dropped rest
  | 0x65 :: _ | 0x45 :: _ => readExponent negative significand dropped rest
  | _ =>
    if dropped = 0 then .ok (integer negative significand, rest)
    else readScaled negative significand dropped rest

/-- Reads a number behind its sign. -/
def readNumber (negative : Bool) : Reader Number := fun bytes =>
  match bytes with
  | [] => .error (.before .endInValue [])
  | first :: rest =>
    if first = 0x30 then
      match rest with
      | next :: _ =>
        if isDigitByte next then .error (.behind .invalidNumber rest)
        else readAfterWhole negative 0 0 rest
      | [] => readAfterWhole negative 0 0 []
    else if isDigitByte first then
      let digits := bytes.takeWhile isDigitByte
      let (significand, taken) := takeWord 0 digits
      readAfterWhole negative significand (digits.length - taken) (bytes.dropWhile isDigitByte)
    else .error (.before .invalidNumber rest)

/-! ## Strings -/

def hexValue? (byte : UInt8) : Option Nat :=
  if isDigitByte byte then some (byte.toNat - 0x30)
  else if 0x61 ≤ byte ∧ byte ≤ 0x66 then some (byte.toNat - 0x61 + 10)
  else if 0x41 ≤ byte ∧ byte ≤ 0x46 then some (byte.toNat - 0x41 + 10)
  else none

def readHex : Reader Nat
  | a :: b :: c :: d :: rest =>
    match hexValue? a, hexValue? b, hexValue? c, hexValue? d with
    | some a, some b, some c, some d => .ok (((a * 16 + b) * 16 + c) * 16 + d, rest)
    | _, _, _, _ => .error (.before .invalidEscape rest)
  | _ => .error (.before .endInString [])

def isLeadingSurrogate (code : Nat) : Bool := 0xD800 ≤ code && code ≤ 0xDBFF

def isTrailingSurrogate (code : Nat) : Bool := 0xDC00 ≤ code && code ≤ 0xDFFF

/-- Reads the digits behind `\u`, and a second escape if the first one is half of a pair. -/
def readCodePoint : Reader Char := fun bytes => do
  let (code, rest) ← readHex bytes
  if isTrailingSurrogate code then .error (.before .loneSurrogate rest)
  else if isLeadingSurrogate code then
    match rest with
    | [] => .error (.before .endInString [])
    | 0x5C :: rest =>
      match rest with
      | [] => .error (.before .endInString [])
      | 0x75 :: rest =>
        let (second, rest) ← readHex rest
        if isTrailingSurrogate second then
          .ok (Char.ofNat ((code - 0xD800) * 0x400 + (second - 0xDC00) + 0x10000), rest)
        else .error (.before .loneSurrogate rest)
      | _ :: rest => .error (.before .endOfHexEscape rest)
    | _ :: rest => .error (.before .endOfHexEscape rest)
  else .ok (Char.ofNat code, rest)

def readEscape : Reader Char
  | [] => .error (.before .endInString [])
  | 0x22 :: rest => .ok ('"', rest)
  | 0x5C :: rest => .ok ('\\', rest)
  | 0x2F :: rest => .ok ('/', rest)
  | 0x62 :: rest => .ok ('\x08', rest)
  | 0x66 :: rest => .ok ('\x0c', rest)
  | 0x6E :: rest => .ok ('\n', rest)
  | 0x72 :: rest => .ok ('\r', rest)
  | 0x74 :: rest => .ok ('\t', rest)
  | 0x75 :: rest => readCodePoint rest
  | _ :: rest => .error (.before .invalidEscape rest)

/-- Reads the characters of a string up to the closing quote. Bytes that are no text are noticed at the
closing quote; `broken?` is the place behind the first of them. `fuel` bounds the number of characters. -/
def readChars (broken? : Option Bytes) : (fuel : Nat) → Reader (List Char)
  | 0, _ => .error (.before .endInString [])
  | _ + 1, [] => .error (.before .endInString [])
  | fuel + 1, byte :: rest =>
    if byte = 0x22 then
      match broken? with
      | some place => .error (.before .invalidCodePoint place)
      | none => .ok ([], rest)
    else if byte = 0x5C then do
      let (c, rest) ← readEscape rest
      let (cs, rest) ← readChars broken? fuel rest
      .ok (c :: cs, rest)
    else if byte < 0x20 then .error (.before .controlCharacter rest)
    else
      match Utf8.nextPiece byte rest with
      | (.char c, rest) => do
        let (cs, rest) ← readChars broken? fuel rest
        .ok (c :: cs, rest)
      | (.broken, after) => readChars (broken?.or (some rest)) fuel after

def readString : Reader String := fun bytes => do
  let (cs, rest) ← readChars none (bytes.length + 1) bytes
  .ok (String.ofList cs, rest)

/-! ## Arrays and objects -/

/-- Looks for the next item of an array: none at the closing bracket, which stays unread. -/
def nextItem (first : Bool) (bytes : Bytes) : Except Stop (Bool × Bytes) :=
  match skipBlanks bytes with
  | [] => .error (.behind .endInList [])
  | 0x5D :: rest => .ok (false, 0x5D :: rest)
  | byte :: rest =>
    if first then .ok (true, byte :: rest)
    else if byte = 0x2C then
      match skipBlanks rest with
      | [] => .error (.behind .endInValue [])
      | 0x5D :: rest => .error (.behind .trailingComma (0x5D :: rest))
      | rest => .ok (true, rest)
    else .error (.behind .expectedCommaOrBracket (byte :: rest))

/-- Reads the items of an array up to the closing bracket, which stays unread. `fuel` bounds their
number. -/
def readItems {α : Type} (item : Reader α) (first : Bool) : (fuel : Nat) → Reader (List α)
  | 0, bytes => .error (.behind .endInList bytes)
  | fuel + 1, bytes => do
    match ← nextItem first bytes with
    | (false, rest) => .ok ([], rest)
    | (true, rest) =>
      let (value, rest) ← item rest
      let (values, rest) ← readItems item false fuel rest
      .ok (value :: values, rest)

/-- Looks for the name of the next member of an object: none at the closing brace, which stays unread. The
name starts at its opening quote. -/
def nextMember (first : Bool) (bytes : Bytes) : Except Stop (Bool × Bytes) :=
  match skipBlanks bytes with
  | [] => .error (.behind .endInObject [])
  | 0x7D :: rest => .ok (false, 0x7D :: rest)
  | byte :: rest =>
    if first then
      if byte = 0x22 then .ok (true, byte :: rest)
      else .error (.behind .keyMustBeString (byte :: rest))
    else if byte = 0x2C then
      match skipBlanks rest with
      | [] => .error (.behind .endInValue [])
      | 0x22 :: rest => .ok (true, 0x22 :: rest)
      | 0x7D :: rest => .error (.behind .trailingComma (0x7D :: rest))
      | rest => .error (.behind .keyMustBeString rest)
    else .error (.behind .expectedCommaOrBrace (byte :: rest))

def readColon (bytes : Bytes) : Except Stop Bytes :=
  match skipBlanks bytes with
  | [] => .error (.behind .endInObject [])
  | 0x3A :: rest => .ok rest
  | rest => .error (.behind .expectedColon rest)

/-- Reads members up to the closing brace, which stays unread, as steps of a state. A step gets the name
and reads the colon and the value. `fuel` bounds the number of members. -/
def readMembers {σ : Type} (member : σ → String → Reader σ) (first : Bool) (state : σ) :
    (fuel : Nat) → Reader σ
  | 0, bytes => .error (.behind .endInObject bytes)
  | fuel + 1, bytes => do
    match ← nextMember first bytes with
    | (false, rest) => .ok (state, rest)
    | (true, rest) =>
      let (name, rest) ← readString (rest.drop 1)
      let (state, rest) ← member state name rest
      readMembers member false state fuel rest

/-- What the closing bracket of an array leaves unread, and whether it is there. -/
def closeArray (bytes : Bytes) : Except Stop Bytes :=
  match skipBlanks bytes with
  | 0x5D :: rest => .ok rest
  | [] => .error (.behind .endInList [])
  | 0x2C :: rest =>
    match skipBlanks rest with
    | 0x5D :: rest => .error (.behind .trailingComma (0x5D :: rest))
    | rest => .error (.behind .trailingCharacters rest)
  | rest => .error (.behind .trailingCharacters rest)

/-- The bytes that looking for the end of an array leaves unread, wherever it leads. -/
def afterArray (bytes : Bytes) : Bytes :=
  match skipBlanks bytes with
  | 0x5D :: rest => rest
  | 0x2C :: rest => skipBlanks rest
  | rest => rest

/-- What the closing brace of an object leaves unread, and whether it is there. -/
def closeObject (bytes : Bytes) : Except Stop Bytes :=
  match skipBlanks bytes with
  | 0x7D :: rest => .ok rest
  | [] => .error (.behind .endInObject [])
  | 0x2C :: rest => .error (.behind .trailingComma (0x2C :: rest))
  | rest => .error (.behind .trailingCharacters rest)

/-- The bytes that looking for the end of an object leaves unread, wherever it leads. -/
def afterObject (bytes : Bytes) : Bytes :=
  match skipBlanks bytes with
  | 0x7D :: rest => rest
  | rest => rest

/-- Reads the inside of a container and its end. A cause without a place is placed at the end. -/
def readClosed {α : Type} (inside : Reader α) (close : Bytes → Except Stop Bytes)
    (after : Bytes → Bytes) : Reader α := fun bytes =>
  match inside bytes with
  | .ok (value, rest) => do
    let rest ← close rest
    .ok (value, rest)
  | .error stop =>
    .error (if stop.placed then stop else .before stop.cause (after stop.rest))

/-- Reads the inside of an array, behind its opening bracket, and its end. -/
def readArray {α : Type} (inside : Reader α) : Reader α :=
  readClosed inside closeArray afterArray

/-- Reads the inside of an object, behind its opening brace, and its end. -/
def readObject {α : Type} (inside : Reader α) : Reader α :=
  readClosed inside closeObject afterObject

/-! ## Values -/

/-- How many arrays and objects may stand within each other. -/
def maxDepth : Nat := 127

mutual

/-- Reads a value. At most `depth` arrays and objects may stand within each other. -/
def readValue (depth : Nat) : Reader Json := fun bytes =>
  match skipBlanks bytes with
  | [] => .error (.behind .endInValue [])
  | 0x6E :: rest => do
    let rest ← readWord [0x75, 0x6C, 0x6C] rest
    .ok (.null, rest)
  | 0x74 :: rest => do
    let rest ← readWord [0x72, 0x75, 0x65] rest
    .ok (.bool true, rest)
  | 0x66 :: rest => do
    let rest ← readWord [0x61, 0x6C, 0x73, 0x65] rest
    .ok (.bool false, rest)
  | 0x2D :: rest => do
    let (n, rest) ← readNumber true rest
    .ok (.number n, rest)
  | 0x22 :: rest => do
    let (text, rest) ← readString rest
    .ok (.string text, rest)
  | 0x5B :: rest =>
    match depth with
    | 0 => .error (.behind .nestedTooDeep (0x5B :: rest))
    | depth + 1 => do
      let (items, rest) ← readArray (fun bytes =>
        readItems (readValue depth) true (bytes.length + 1) bytes) rest
      .ok (.array items, rest)
  | 0x7B :: rest =>
    match depth with
    | 0 => .error (.behind .nestedTooDeep (0x7B :: rest))
    | depth + 1 => do
      let (members, rest) ← readObject (fun bytes =>
        readMembers (readMember depth) true [] (bytes.length + 1) bytes) rest
      .ok (.object members, rest)
  | byte :: rest =>
    if isDigitByte byte then do
      let (n, rest) ← readNumber false (byte :: rest)
      .ok (.number n, rest)
    else .error (.behind .expectedValue (byte :: rest))

/-- Reads the value of a member and puts it at its place among the others; of two with one name the later
one counts. -/
def readMember (depth : Nat) (members : List (String × Json)) (name : String) :
    Reader (List (String × Json)) := fun bytes => do
  let rest ← readColon bytes
  let (value, rest) ← readValue depth rest
  .ok (Entries.insert name value members, rest)

end

/-- Reads a whole document: one value with nothing but blanks around it. -/
def readDocument {α : Type} (value : Reader α) (bytes : Bytes) : Except Fault α :=
  let fault (stop : Stop) : Fault :=
    ⟨stop.cause,
      if stop.placed then some (.after (bytes.take (bytes.length - stop.rest.length))) else none⟩
  match value bytes with
  | .error stop => .error (fault stop)
  | .ok (result, rest) =>
    match skipBlanks rest with
    | [] => .ok result
    | rest => .error (fault (.behind .trailingCharacters rest))

def read (bytes : Bytes) : Except Fault Json :=
  readDocument (readValue maxDepth) bytes

end Json

end ConfigKit
