-- SUMMARY: Reading a YAML document as a shape, with its aliases followed and counted.
import ConfigKit.Datum.Shape
import ConfigKit.KeyedSet
import ConfigKit.Pattern.Basic
import ConfigKit.Yaml.Meaning
import ConfigKit.Yaml.Node.OfTokens
import ConfigKit.Yaml.Token.Scan

/-!
# Reading YAML as a shape

A document is read as a shape says. An alias stands for a copy of the node that its anchor marks.
Collections nest up to a limit, also through aliases, and the aliases that are followed are counted, so
that a small document cannot stand for a huge one.

Where a text, an integer or a floating-point number is wanted, the spelling of a scalar decides and not
what it means by itself: `1` is a text where a text is wanted.
-/

namespace ConfigKit

namespace Yaml

/-- How many collections may stand within each other. -/
def maxDepth : Nat := 128

/-- A step of reading, which counts the aliases that were followed. -/
abbrev Decoder := StateT Nat (Except Fault)

namespace Decoder

def refuse {α : Type} (fault : Fault) : Decoder α := throw fault

end Decoder

open Decoder (refuse)

variable (document : Document)

/-- How many aliases may be followed. -/
def Document.maxJumps : Nat := 100 * document.steps

/-- The node that an alias stands for, or the node itself. Tells whether it was an alias. -/
def follow (node : Node) : Decoder (Bool × Node) :=
  match node with
  | .alias anchor => do
    let jumps := (← get) + 1
    set jumps
    if document.maxJumps < jumps then refuse .repetition
    else
      match document.node? anchor with
      | some (.alias _) | none => refuse .unknownAnchor
      | some node => return (true, node)
  | node => return (false, node)

/-- Reads a scalar by its spelling. -/
def readText (node : Node) : Decoder String := do
  match (← follow document node).2 with
  | .scalar _ _ text => return text
  | _ => refuse .unexpectedValue

/-! ## Trees -/

/-- The tag that makes a tagged value, unless tags are set aside. -/
def ownTag? (setAside : Bool) (properties : Properties) : Option String :=
  if setAside then none else properties.tag? >>= localName?

/-- What a scalar means in a tree. -/
def readScalarTree (setAside : Bool) (properties : Properties) (style : ScalarStyle) (text : String) :
    Except Fault Tree :=
  if setAside then
    if style = .plain then plainTree text else .ok (.string text)
  else scalarTree properties.tag? style text

def underTag (tag? : Option String) (value : Tree) : Tree :=
  match tag? with
  | none => value
  | some tag => .tagged (Tree.tagName tag) value

/-- Reads the pairs of a mapping, whose keys have to differ. -/
def readTreePairs (readKey readValue : Node → Decoder Tree) (done : List (Tree × Tree)) :
    List (Node × Node) → Decoder (List (Tree × Tree))
  | [] => return done.reverse
  | (key, value) :: pairs => do
    let key ← readKey key
    if Tree.hasKey done key then refuse .duplicateKey
    else
      let value ← readValue value
      readTreePairs readKey readValue ((key, value) :: done) pairs

/-- Reads a node as a tree. The tag of the node itself does not count if it is set aside; then those of
the keys of a mapping do not count either. -/
def readTree (depth : Nat) (setAside : Bool) (node : Node) : Decoder Tree := do
  let (jumped, node) ← follow document node
  let setAside := setAside && !jumped
  match node with
  | .alias _ => refuse .unknownAnchor
  | .scalar properties style text =>
    let tag? := ownTag? setAside properties
    let value ← readScalarTree (setAside || tag?.isSome) properties style text
    return underTag tag? value
  | .sequence properties items =>
    match depth with
    | 0 => refuse .nestedTooDeep
    | depth + 1 =>
      let items ← items.mapM (readTree depth false)
      return underTag (ownTag? setAside properties) (.sequence items)
  | .mapping properties pairs =>
    let tag? := ownTag? setAside properties
    match depth with
    | 0 => refuse .nestedTooDeep
    | depth + 1 =>
      let pairs ←
        readTreePairs (readTree depth (setAside || tag?.isSome)) (readTree depth false) [] pairs
      return underTag tag? (.mapping pairs)

/-! ## JSON values -/

def scalarJson (properties : Properties) (style : ScalarStyle) (text : String) : Except Fault Json := do
  match ← scalarTree properties.tag? style text with
  | .null => .ok .null
  | .bool b => .ok (.bool b)
  | .number n => .ok (.ofNumber n)
  | .string text => .ok (.string text)
  | _ => .error .unexpectedValue

/-- Reads the pairs of a mapping as members; of two with one name the later one counts. -/
def readMembers {α : Type} (readKey : Node → Decoder String) (readValue : Node → Decoder α)
    (done : Entries String α) : List (Node × Node) → Decoder (Entries String α)
  | [] => return done
  | (key, value) :: pairs => do
    let name ← readKey key
    let value ← readValue value
    readMembers readKey readValue (done.insert name value) pairs

/-- Reads a node as a JSON value, which cannot carry a tag of the document's own. -/
def readJson (depth : Nat) (node : Node) : Decoder Json := do
  match (← follow document node).2 with
  | .alias _ => refuse .unknownAnchor
  | .scalar properties style text =>
    if (ownTag? false properties).isSome then refuse .unexpectedValue
    else scalarJson properties style text
  | .sequence properties items =>
    if (ownTag? false properties).isSome then refuse .unexpectedValue
    else
      match depth with
      | 0 => refuse .nestedTooDeep
      | depth + 1 =>
        let items ← items.mapM (readJson depth)
        return .array items
  | .mapping properties pairs =>
    if (ownTag? false properties).isSome then refuse .unexpectedValue
    else
      match depth with
      | 0 => refuse .nestedTooDeep
      | depth + 1 =>
        let members ← readMembers (readText document) (readJson depth) [] pairs
        return .object members

/-! ## Numbers and patterns -/

/-- Reads the spelling of a scalar where a number is wanted: of a plain one, or of a literal one under the
tag of that kind of number. -/
def readNumberText (tag : Bytes) (node : Node) : Decoder String := do
  match (← follow document node).2 with
  | .scalar properties style text =>
    if style = .plain ∨ (style = .literal ∧ properties.tag? = some tag) then return text
    else refuse .unexpectedValue
  | _ => refuse .unexpectedValue

def readInteger (shape : Shape) (spelled? : List Char → Option Int) (node : Node) : Decoder Int := do
  let text ← readNumberText document (standardTag "int") node
  match spelled? text.toList with
  | none => refuse .unexpectedValue
  | some n => if shape.admits n then return n else refuse .unexpectedValue

def readSigned (bits : Nat) (node : Node) : Decoder Int :=
  readInteger document (.integer bits) (signed? 64) node

def readNatural (bits : Nat) (node : Node) : Decoder Int :=
  readInteger document (.natural bits) (fun cs => (natural? (Nat.pow 2 64 - 1) cs).map Int.ofNat) node

def readFloat (node : Node) : Decoder Binary64 := do
  let text ← readNumberText document (standardTag "float") node
  match float? text with
  | none => refuse .unexpectedValue
  | some x => return x

def readPattern (node : Node) : Decoder Pattern := do
  match Pattern.compile (← readText document node) with
  | .error _ => refuse .refusedPattern
  | .ok pattern => return pattern

/-! ## Lists, dictionaries and records -/

/-- Whether a scalar stands for an empty collection: nothing is written there. -/
def isBlank (style : ScalarStyle) (text : String) : Bool :=
  style = .plain && text = ""

/-- Reads a sequence, or nothing, as a list. -/
def readList {α : Type} (depth : Nat) (item : Nat → Node → Decoder α) (node : Node) :
    Decoder (List α) := do
  match (← follow document node).2 with
  | .sequence _ items =>
    match depth with
    | 0 => refuse .nestedTooDeep
    | depth + 1 => items.mapM (item depth)
  | .scalar _ style text => if isBlank style text then return [] else refuse .unexpectedValue
  | _ => refuse .unexpectedValue

/-- Reads a mapping, or nothing, as a dictionary. -/
def readDict {α : Type} (depth : Nat) (value : Nat → Node → Decoder α) (node : Node) :
    Decoder (Entries String α) := do
  match (← follow document node).2 with
  | .mapping _ pairs =>
    match depth with
    | 0 => refuse .nestedTooDeep
    | depth + 1 => readMembers (readText document) (value depth) [] pairs
  | .scalar _ style text => if isBlank style text then return [] else refuse .unexpectedValue
  | _ => refuse .unexpectedValue

/-- A field of a record while the record is read. -/
structure Field where
  name : String
  read : Node → Decoder Datum
  default? : Option Datum
  value? : Option Datum

namespace Field

/-- The entries of a record. Every field without a default needs a value. -/
def entries : List Field → Except Fault (List (Datum.Key × Datum))
  | [] => .ok []
  | field :: fields =>
    match field.value?.or field.default? with
    | none => .error .missingField
    | some value => do
      let entries ← entries fields
      .ok ((.text field.name, value) :: entries)

def set (fields : List Field) (name : String) (value : Datum) : List Field :=
  fields.map fun field => if field.name = name then { field with value? := some value } else field

end Field

/-- Reads the pairs of a mapping as fields. Unknown ones are skipped, and none may come twice. -/
def readFieldPairs (fields : List Field) : List (Node × Node) → Decoder (List Field)
  | [] => return fields
  | (key, value) :: pairs => do
    let name ← readText document key
    match fields.find? (·.name = name) with
    | none => readFieldPairs fields pairs
    | some field =>
      if field.value?.isSome then refuse .duplicateKey
      else
        let value ← field.read value
        readFieldPairs (Field.set fields name value) pairs

/-- Reads the items of a sequence as fields, in order. -/
def readFieldItems : List Field → List Node → Decoder (List (Datum.Key × Datum))
  | [], [] => return []
  | [], _ :: _ => refuse .unexpectedValue
  | field :: fields, [] =>
    match field.default? with
    | none => refuse .missingField
    | some value => do
      let entries ← readFieldItems fields []
      return (.text field.name, value) :: entries
  | field :: fields, item :: items => do
    let value ← field.read item
    let entries ← readFieldItems fields items
    return (.text field.name, value) :: entries

/-- Reads a record from a mapping or a sequence. `fields` gives its fields at a depth. -/
def readRecord (depth : Nat) (fields : Nat → List Field) (node : Node) : Decoder Datum := do
  match (← follow document node).2 with
  | .mapping _ pairs =>
    match depth with
    | 0 => refuse .nestedTooDeep
    | depth + 1 =>
      let fields ← readFieldPairs document (fields depth) pairs
      return .dict (← Field.entries fields)
  | .sequence _ items =>
    match depth with
    | 0 => refuse .nestedTooDeep
    | depth + 1 => return .dict (← readFieldItems (fields depth) items)
  | .scalar _ style text =>
    if isBlank style text then return .dict (← Field.entries (fields depth))
    else refuse .unexpectedValue
  | _ => refuse .unexpectedValue

/-! ## Shapes -/

mutual

/-- Reads a node as a shape. At most `depth` collections may stand within each other. -/
def readShape : Shape → (depth : Nat) → Node → Decoder Datum
  | .value, depth, node => return .ofJson (← readJson document depth node)
  | .text, _, node => return .text (← readText document node)
  | .natural bits, _, node => return .number (.int (← readNatural document bits node))
  | .integer bits, _, node => return .number (.int (← readSigned document bits node))
  | .float, _, node => return .number (.float (← readFloat document node))
  | .pattern, _, node => return .text (← readPattern document node).text
  | .list item, depth, node => return .list (← readList document depth (readShape item) node)
  | .textSet, depth, node => do
    let items ← readList document depth (fun _ => readText document) node
    return .texts (KeyedSet.ofList items).values
  | .integerSet bits, depth, node => do
    let items ← readList document depth (fun _ => readSigned document bits) node
    return .list ((KeyedSet.ofList items).values.map fun n => .number (.int n))
  | .dict item, depth, node => do
    let entries ← readDict document depth (readShape item) node
    return .dict (entries.map fun entry => (.text entry.1, entry.2))
  | .record _ fields, depth, node =>
    readRecord document depth (fun depth => readFields fields depth) node

def readFields : List (String × Shape × Option Datum) → (depth : Nat) → List Field
  | [], _ => []
  | (name, shape, default?) :: fields, depth =>
    { name, read := readShape shape depth, default?, value? := none } :: readFields fields depth

end

/-- What a shape reads from a document without a root. -/
def shapeOfNothing : Shape → Except Fault Datum
  | .value => .ok .null
  | .list _ => .ok (.list [])
  | .textSet => .ok (.list [])
  | .integerSet _ => .ok (.list [])
  | .dict _ => .ok (.dict [])
  | .record _ fields => do
    let entries ← Field.entries (readFields ⟨none⟩ fields 0)
    .ok (.dict entries)
  | _ => .error .unexpectedValue

/-! ## Streams -/

def Document.ofBytes (bytes : Bytes) : Except Fault Document :=
  match characters? bytes with
  | none => .error .encoding
  | some cs => do
    let tokens ← tokens cs
    Document.ofTokens tokens

def decode (shape : Shape) (bytes : Bytes) : Except Fault Datum := do
  let document ← Document.ofBytes bytes
  match document.root? with
  | none => shapeOfNothing shape
  | some root => (readShape document shape maxDepth root).run' 0

def decodeTree (bytes : Bytes) : Except Fault Tree := do
  let document ← Document.ofBytes bytes
  match document.root? with
  | none => .ok .null
  | some root => (readTree document maxDepth false root).run' 0

end Yaml

end ConfigKit
