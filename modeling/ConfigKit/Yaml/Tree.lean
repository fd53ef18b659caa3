-- SUMMARY: The values of YAML documents, with keys of any kind and with tags.
import ConfigKit.Number.Basic
import ConfigKit.Text.Quoted

/-!
# YAML trees

The values that a YAML document can hold. The keys of a mapping are values of any kind, in the order in
which they came; a value may carry a tag.
-/

namespace ConfigKit

namespace Yaml

/-- A YAML value. -/
inductive Tree where
  | null
  | bool (value : Bool)
  | number (value : Number)
  | string (text : String)
  | sequence (items : List Tree)
  | mapping (pairs : List (Tree × Tree))
  /-- A value under a tag, which is kept without its exclamation mark. -/
  | tagged (tag : String) (value : Tree)

/-- Floating-point numbers in YAML. -/
def floats : Decimal.Notation where
  exponentSign := ""
  positiveInfinity := ".inf"
  negativeInfinity := "-.inf"
  notANumber := ".nan"

def numberText : Number → String
  | .int n => toString n
  | .float x => x.text floats

namespace Tree

/-- The name of a tag without its exclamation mark, unless it is nothing else. -/
def tagName (tag : String) : String :=
  match tag.toList with
  | '!' :: c :: rest => String.ofList (c :: rest)
  | _ => tag

/-! ## Equality -/

mutual

/-- Equality of values. The order of the pairs of a mapping does not matter. -/
def same : Tree → Tree → Bool
  | .null, .null => true
  | .bool a, .bool b => a == b
  | .number a, .number b => a.sameValue b
  | .string a, .string b => a == b
  | .sequence as, .sequence bs => sameItems as bs
  | .mapping as, .mapping bs => as.length == bs.length && samePairs as bs
  | .tagged s a, .tagged t b => s == t && same a b
  | _, _ => false

def sameItems : List Tree → List Tree → Bool
  | [], [] => true
  | a :: as, b :: bs => same a b && sameItems as bs
  | _, _ => false

/-- Whether every pair of the first list has its equal in the second one. -/
def samePairs : List (Tree × Tree) → List (Tree × Tree) → Bool
  | [], _ => true
  | (k, v) :: rest, bs => (bs.any fun pair => same k pair.1 && same v pair.2) && samePairs rest bs

end

def hasKey (pairs : List (Tree × Tree)) (key : Tree) : Bool :=
  pairs.any fun pair => key.same pair.1

/-- Puts a pair into a mapping: an equal key keeps its place and gets the new value, a new one goes to
the end. -/
def insertPair (pairs : List (Tree × Tree)) (key value : Tree) : List (Tree × Tree) :=
  if hasKey pairs key then
    pairs.map fun pair => if key.same pair.1 then (pair.1, value) else pair
  else pairs ++ [(key, value)]

/-- The mapping of a list of pairs, inserted one by one. -/
def ofPairs (pairs : List (Tree × Tree)) : Tree :=
  .mapping (pairs.foldl (fun done pair => insertPair done pair.1 pair.2) [])

/-! ## Description -/

/-- Puts a comma between descriptions. -/
def joined (texts : List String) : String := String.intercalate ", " texts

mutual

/-- How an error message shows a value: its kind, and its content in brackets. -/
def description : Tree → String
  | .null => "Null"
  | .bool b => s!"Bool({b})"
  | .number n => "Number(" ++ numberText n ++ ")"
  | .string text => "String(" ++ quoted text ++ ")"
  | .sequence items => "Sequence [" ++ joined (descriptions items) ++ "]"
  | .mapping pairs => "Mapping \x7b" ++ joined (pairDescriptions pairs) ++ "\x7d"
  | .tagged tag value => "TaggedValue \x7b tag: !" ++ tag ++ ", value: " ++ description value ++ " \x7d"

def descriptions : List Tree → List String
  | [] => []
  | item :: items => description item :: descriptions items

/-- Scalar keys are shown by their content alone. -/
def pairDescriptions : List (Tree × Tree) → List String
  | [] => []
  | (key, value) :: pairs =>
    (keyDescription key ++ ": " ++ description value) :: pairDescriptions pairs

def keyDescription : Tree → String
  | .bool b => toString b
  | .number n => numberText n
  | .string text => quoted text
  | .null => description .null
  | .sequence items => "Sequence [" ++ joined (descriptions items) ++ "]"
  | .mapping pairs => "Mapping \x7b" ++ joined (pairDescriptions pairs) ++ "\x7d"
  | .tagged tag value => "TaggedValue \x7b tag: !" ++ tag ++ ", value: " ++ description value ++ " \x7d"

end

end Tree

end Yaml

end ConfigKit
