-- SUMMARY: Reading a JSON document as a shape, with the first misfit as the failure.
import ConfigKit.Json.Reader
import ConfigKit.Datum.Shape
import ConfigKit.KeyedSet
import ConfigKit.Pattern.Basic

/-!
# Reading JSON as a shape

A document is read as a shape says, from left to right. The first thing that does not fit stops reading.
A record may be an object, whose unknown members are skipped, or an array with the fields in order.
-/

namespace ConfigKit

namespace Json

/-! ## Skipping a value -/

/-- A container that is open while a value is skipped. -/
inductive Frame where
  | array
  | object

def Frame.atEnd : Frame → Cause
  | .array => .endInList
  | .object => .endInObject

def Frame.expectedComma : Frame → Cause
  | .array => .expectedCommaOrBracket
  | .object => .expectedCommaOrBrace

def Frame.closing : Frame → UInt8
  | .array => 0x5D
  | .object => 0x7D

/-- Skips the digits of an exponent, from its letter on. -/
def skipExponent (bytes : Bytes) : Except Stop Bytes :=
  let rest := bytes.drop 1
  let rest :=
    match rest with
    | 0x2B :: rest => rest
    | 0x2D :: rest => rest
    | rest => rest
  match rest with
  | [] => .error (.before .invalidNumber [])
  | digit :: rest =>
    if isDigitByte digit then .ok (rest.dropWhile isDigitByte)
    else .error (.before .invalidNumber rest)

def skipExponent? (bytes : Bytes) : Except Stop Bytes :=
  match bytes with
  | 0x65 :: _ | 0x45 :: _ => skipExponent bytes
  | _ => .ok bytes

def skipNumber (bytes : Bytes) : Except Stop Bytes := do
  let rest ←
    match bytes with
    | [] => .error (.before .invalidNumber [])
    | 0x30 :: rest =>
      match rest with
      | [] => .ok []
      | next :: _ =>
        if isDigitByte next then .error (.behind .invalidNumber rest) else .ok rest
    | digit :: rest =>
      if isDigitByte digit then .ok (rest.dropWhile isDigitByte)
      else .error (.before .invalidNumber rest)
  match rest with
  | 0x2E :: fraction =>
    let after := fraction.dropWhile isDigitByte
    if after.length = fraction.length then .error (.behind .invalidNumber after)
    else skipExponent? after
  | rest => skipExponent? rest

def skipEscape : Bytes → Except Stop Bytes
  | [] => .error (.before .endInString [])
  | 0x75 :: rest => do
    let (_, rest) ← readHex rest
    .ok rest
  | byte :: rest =>
    if byte ∈ [0x22, 0x5C, 0x2F, 0x62, 0x66, 0x6E, 0x72, 0x74] then .ok rest
    else .error (.before .invalidEscape rest)

/-- Skips a string behind its opening quote. `fuel` bounds its length. -/
def skipString : (fuel : Nat) → Bytes → Except Stop Bytes
  | 0, _ => .error (.before .endInString [])
  | _ + 1, [] => .error (.before .endInString [])
  | fuel + 1, byte :: rest =>
    if byte = 0x22 then .ok rest
    else if byte = 0x5C then do
      let rest ← skipEscape rest
      skipString fuel rest
    else if byte < 0x20 then .error (.before .controlCharacter (byte :: rest))
    else skipString fuel rest

/-- Skips the name of a member and the colon behind it. -/
def skipName (bytes : Bytes) : Except Stop Bytes :=
  match skipBlanks bytes with
  | [] => .error (.behind .endInObject [])
  | 0x22 :: rest => do
    let rest ← skipString (rest.length + 1) rest
    readColon rest
  | rest => .error (.behind .keyMustBeString rest)

/-- Skips to the next value of a container: over the name, if it is an object. -/
def skipToValue : Frame → Bytes → Except Stop Bytes
  | .array, bytes => .ok bytes
  | .object, bytes => skipName bytes

mutual

/-- Skips a value and the open containers around it. `fuel` bounds the number of steps. -/
def skipValues : (fuel : Nat) → List Frame → Bytes → Except Stop Bytes
  | 0, _, bytes => .error (.behind .endInValue bytes)
  | fuel + 1, frames, bytes =>
    match skipBlanks bytes with
    | [] => .error (.behind .endInValue [])
    | 0x6E :: rest => do
      let rest ← readWord [0x75, 0x6C, 0x6C] rest
      skipOn fuel true frames rest
    | 0x74 :: rest => do
      let rest ← readWord [0x72, 0x75, 0x65] rest
      skipOn fuel true frames rest
    | 0x66 :: rest => do
      let rest ← readWord [0x61, 0x6C, 0x73, 0x65] rest
      skipOn fuel true frames rest
    | 0x2D :: rest => do
      let rest ← skipNumber rest
      skipOn fuel true frames rest
    | 0x22 :: rest => do
      let rest ← skipString (rest.length + 1) rest
      skipOn fuel true frames rest
    | 0x5B :: rest => skipOn fuel false (.array :: frames) rest
    | 0x7B :: rest => skipOn fuel false (.object :: frames) rest
    | byte :: rest =>
      if isDigitByte byte then do
        let rest ← skipNumber (byte :: rest)
        skipOn fuel true frames rest
      else .error (.behind .expectedValue (byte :: rest))

/-- Skips what follows a value within the open containers, or what follows an opening bracket if no value
came before. -/
def skipOn : (fuel : Nat) → (afterValue : Bool) → List Frame → Bytes → Except Stop Bytes
  | _, _, [], bytes => .ok bytes
  | 0, _, frame :: _, bytes => .error (.behind frame.atEnd bytes)
  | fuel + 1, afterValue, frame :: outer, bytes =>
    match skipBlanks bytes with
    | [] => .error (.behind frame.atEnd [])
    | byte :: rest =>
      if afterValue && byte = 0x2C then do
        let rest ← skipToValue frame rest
        skipValues fuel (frame :: outer) rest
      else if byte = frame.closing then skipOn fuel true outer rest
      else if afterValue then .error (.behind frame.expectedComma (byte :: rest))
      else do
        let rest ← skipToValue frame (byte :: rest)
        skipValues fuel (frame :: outer) rest

end

/-- Skips a value. It has to be JSON text, but its strings may hold bytes that are no text. -/
def skipValue (bytes : Bytes) : Except Stop Bytes :=
  skipValues (2 * bytes.length + 2) [] bytes

/-! ## What stands where something else was expected -/

/-- Looks at the value that comes next. A scalar is read; an array or an object is only noticed. -/
def readFound : Reader Found := fun bytes =>
  match bytes with
  | 0x6E :: rest => do
    let rest ← readWord [0x75, 0x6C, 0x6C] rest
    .ok (.null, rest)
  | 0x74 :: rest => do
    let rest ← readWord [0x72, 0x75, 0x65] rest
    .ok (.bool true, rest)
  | 0x66 :: rest => do
    let rest ← readWord [0x61, 0x6C, 0x73, 0x65] rest
    .ok (.bool false, rest)
  | 0x2D :: rest => do
    let (n, rest) ← readNumber true rest
    .ok (.number n, rest)
  | 0x22 :: rest => do
    let (text, rest) ← readString rest
    .ok (.string text, rest)
  | 0x5B :: rest => .ok (.sequence, 0x5B :: rest)
  | 0x7B :: rest => .ok (.map, 0x7B :: rest)
  | byte :: rest =>
    if isDigitByte byte then do
      let (n, rest) ← readNumber false (byte :: rest)
      .ok (.number n, rest)
    else .error (.behind .expectedValue (byte :: rest))
  | [] => .error (.behind .expectedValue [])

/-- Refuses the value that comes next. -/
def refuse {α : Type} (expected : String) : Reader α := fun bytes => do
  let (found, rest) ← readFound bytes
  .error (.before (.unexpectedType found expected) rest)

/-! ## Scalars -/

def readText : Reader String := fun bytes =>
  match skipBlanks bytes with
  | [] => .error (.behind .endInValue [])
  | 0x22 :: rest => readString rest
  | rest => refuse Shape.text.expected rest

/-- Reads a number for a shape that wants one. -/
def readNumberFor (shape : Shape) : Reader Number := fun bytes =>
  match skipBlanks bytes with
  | [] => .error (.behind .endInValue [])
  | 0x2D :: rest => readNumber true rest
  | byte :: rest =>
    if isDigitByte byte then readNumber false (byte :: rest) else refuse shape.expected (byte :: rest)

def readInteger (shape : Shape) : Reader Int := fun bytes => do
  let (x, rest) ← readNumberFor shape bytes
  match x with
  | .int n =>
    if shape.admits n then .ok (n, rest)
    else .error (.before (.unexpectedValue (.number x) shape.expected) rest)
  | .float _ => .error (.before (.unexpectedType (.number x) shape.expected) rest)

/-- Reads a number as a floating-point number. -/
def readFloat : Reader Binary64 := fun bytes => do
  let (x, rest) ← readNumberFor .float bytes
  match x with
  | .int n => .ok (.ofInt n, rest)
  | .float x => .ok (x, rest)

/-- Reads a pattern from its text. A refused pattern is noticed after its text. -/
def readPattern : Reader Pattern := fun bytes => do
  let (text, rest) ← readText bytes
  match Pattern.compile text with
  | .ok pattern => .ok (pattern, rest)
  | .error fault => .error (.unplaced (.refusedPattern fault.message) rest)

/-! ## Lists, dictionaries and records -/

def readList {α : Type} (depth : Nat) (item : Nat → Reader α) : Reader (List α) := fun bytes =>
  match skipBlanks bytes with
  | [] => .error (.behind .endInValue [])
  | 0x5B :: rest =>
    match depth with
    | 0 => .error (.behind .nestedTooDeep (0x5B :: rest))
    | depth + 1 =>
      readArray (fun bytes => readItems (item depth) true (bytes.length + 1) bytes) rest
  | rest => refuse "a sequence" rest

/-- Reads an object as a dictionary; of two members with one name the later one counts. -/
def readDict {α : Type} (depth : Nat) (value : Nat → Reader α) : Reader (Entries String α) :=
  fun bytes =>
  match skipBlanks bytes with
  | [] => .error (.behind .endInValue [])
  | 0x7B :: rest =>
    match depth with
    | 0 => .error (.behind .nestedTooDeep (0x7B :: rest))
    | depth + 1 =>
      let member (entries : Entries String α) (name : String) : Reader (Entries String α) :=
        fun bytes => do
          let rest ← readColon bytes
          let (value, rest) ← value depth rest
          .ok (entries.insert name value, rest)
      readObject (fun bytes => readMembers member true [] (bytes.length + 1) bytes) rest
  | rest => refuse "a map" rest

/-- A field of a record while the record is read. -/
structure Field where
  name : String
  read : Reader Datum
  default? : Option Datum
  value? : Option Datum

/-- The fields with a value for one of them. -/
def Field.set (fields : List Field) (name : String) (value : Datum) : List Field :=
  fields.map fun field => if field.name = name then { field with value? := some value } else field

/-- Reads a member of a record. Unknown members are skipped, and no field may come twice. -/
def readFieldMember (fields : List Field) (name : String) : Reader (List Field) := fun bytes =>
  match fields.find? (·.name = name) with
  | none => do
    let rest ← readColon bytes
    let rest ← skipValue rest
    .ok (fields, rest)
  | some field =>
    match field.value? with
    | some _ => .error (.unplaced (.duplicateField name) bytes)
    | none => do
      let rest ← readColon bytes
      let (value, rest) ← field.read rest
      .ok (Field.set fields name value, rest)

/-- The entries of a record whose members are all read. -/
def Field.entries (rest : Bytes) : List Field → Except Stop (List (Datum.Key × Datum))
  | [] => .ok []
  | field :: fields =>
    match field.value?.or field.default? with
    | none => .error (.unplaced (.missingField field.name) rest)
    | some value => do
      let entries ← Field.entries rest fields
      .ok ((.text field.name, value) :: entries)

/-- Reads the fields of a record from the items of an array, in order. -/
def readFieldItems (expected : String) (first : Bool) (index : Nat) :
    List Field → Reader (List (Datum.Key × Datum))
  | [], bytes => .ok ([], bytes)
  | field :: fields, bytes => do
    match ← nextItem first bytes with
    | (true, rest) =>
      let (value, rest) ← field.read rest
      let (entries, rest) ← readFieldItems expected false (index + 1) fields rest
      .ok ((.text field.name, value) :: entries, rest)
    | (false, rest) =>
      match field.default? with
      | none => .error (.unplaced (.wrongLength index expected) rest)
      | some value =>
        let (entries, rest) ← readFieldItems expected first (index + 1) fields rest
        .ok ((.text field.name, value) :: entries, rest)

/-- Reads a record from an object or an array. `fields` gives its fields at a depth. -/
def readRecord (depth : Nat) (shape : Shape) (fields : Nat → List Field) : Reader Datum := fun bytes =>
  match skipBlanks bytes with
  | [] => .error (.behind .endInValue [])
  | 0x7B :: rest =>
    match depth with
    | 0 => .error (.behind .nestedTooDeep (0x7B :: rest))
    | depth + 1 => do
      let inside : Reader (List (Datum.Key × Datum)) := fun bytes => do
        let (fields, rest) ← readMembers readFieldMember true (fields depth) (bytes.length + 1) bytes
        let entries ← Field.entries rest fields
        .ok (entries, rest)
      let (entries, rest) ← readObject inside rest
      .ok (.dict entries, rest)
  | 0x5B :: rest =>
    match depth with
    | 0 => .error (.behind .nestedTooDeep (0x5B :: rest))
    | depth + 1 => do
      let fields := fields depth
      let plural := if fields.length = 1 then "" else "s"
      let expected := s!"{shape.expected} with {fields.length} element{plural}"
      let (entries, rest) ← readArray (readFieldItems expected true 0 fields) rest
      .ok (.dict entries, rest)
  | rest => refuse shape.expected rest

/-! ## Shapes -/

mutual

/-- Reads a value of a shape. At most `depth` arrays and objects may stand within each other. -/
def readShape : Shape → (depth : Nat) → Reader Datum
  | .value, depth, bytes => do
    let (value, rest) ← readValue depth bytes
    .ok (.ofJson value, rest)
  | .text, _, bytes => do
    let (text, rest) ← readText bytes
    .ok (.text text, rest)
  | .natural bits, _, bytes => do
    let (n, rest) ← readInteger (.natural bits) bytes
    .ok (.number (.int n), rest)
  | .integer bits, _, bytes => do
    let (n, rest) ← readInteger (.integer bits) bytes
    .ok (.number (.int n), rest)
  | .float, _, bytes => do
    let (x, rest) ← readFloat bytes
    .ok (.number (.float x), rest)
  | .pattern, _, bytes => do
    let (pattern, rest) ← readPattern bytes
    .ok (.text pattern.text, rest)
  | .list item, depth, bytes => do
    let (items, rest) ← readList depth (readShape item) bytes
    .ok (.list items, rest)
  | .textSet, depth, bytes => do
    let (items, rest) ← readList depth (fun _ => readText) bytes
    .ok (.texts (KeyedSet.ofList items).values, rest)
  | .integerSet bits, depth, bytes => do
    let (items, rest) ← readList depth (fun _ => readInteger (.integer bits)) bytes
    .ok (.list ((KeyedSet.ofList items).values.map fun n => .number (.int n)), rest)
  | .dict item, depth, bytes => do
    let (entries, rest) ← readDict depth (readShape item) bytes
    .ok (.dict (entries.map fun entry => (.text entry.1, entry.2)), rest)
  | .record name fields, depth, bytes =>
    readRecord depth (.record name fields) (fun depth => readFields fields depth) bytes

def readFields : List (String × Shape × Option Datum) → (depth : Nat) → List Field
  | [], _ => []
  | (name, shape, default?) :: fields, depth =>
    { name, read := readShape shape depth, default?, value? := none } :: readFields fields depth

end

def decode (shape : Shape) (bytes : Bytes) : Except Fault Datum :=
  readDocument (readShape shape maxDepth) bytes

/-- Reads a document as a set of values that are their own keys. -/
def decodeSet {α : Type} [DecidableEq α] (item : Reader α) (bytes : Bytes) :
    Except Fault (KeyedSet α α) := do
  let items ← readDocument (readList maxDepth fun _ => item) bytes
  .ok (.ofList items)

end Json

end ConfigKit
