-- SUMMARY: YAML documents as they are written: scalars, collections, anchors and aliases.
import ConfigKit.Yaml.Token

/-!
# YAML nodes

A document as it is written: scalars by their text and style, collections, and aliases. Anchors are
numbered, and an alias holds the number of its anchor. What the scalars mean is not decided here.
-/

namespace ConfigKit

namespace Yaml

/-- What stands before a node: the number of an anchor, and a tag in full. -/
structure Properties where
  anchor? : Option Nat
  tag? : Option Bytes

/-- A node of a document. -/
inductive Node where
  | alias (anchor : Nat)
  | scalar (properties : Properties) (style : ScalarStyle) (text : String)
  | sequence (properties : Properties) (items : List Node)
  | mapping (properties : Properties) (pairs : List (Node × Node))

namespace Node

/-- The node where nothing is written. -/
def blank : Node := .scalar ⟨none, none⟩ .plain ""

mutual

/-- The number of steps that it takes to go through a node: one for a scalar or an alias, and two for a
collection besides its content. -/
def steps : Node → Nat
  | .alias _ => 1
  | .scalar _ _ _ => 1
  | .sequence _ items => 2 + stepsOfItems items
  | .mapping _ pairs => 2 + stepsOfPairs pairs

def stepsOfItems : List Node → Nat
  | [] => 0
  | item :: items => steps item + stepsOfItems items

def stepsOfPairs : List (Node × Node) → Nat
  | [] => 0
  | (key, value) :: pairs => steps key + steps value + stepsOfPairs pairs

end

mutual

/-- The nodes with an anchor of this number, within a node and itself, in the order of their starts. -/
def anchored (anchor : Nat) : Node → List Node
  | .alias _ => []
  | .scalar properties style text =>
    if properties.anchor? = some anchor then [.scalar properties style text] else []
  | .sequence properties items =>
    (if properties.anchor? = some anchor then [.sequence properties items] else [])
      ++ anchoredInItems anchor items
  | .mapping properties pairs =>
    (if properties.anchor? = some anchor then [.mapping properties pairs] else [])
      ++ anchoredInPairs anchor pairs

def anchoredInItems (anchor : Nat) : List Node → List Node
  | [] => []
  | item :: items => anchored anchor item ++ anchoredInItems anchor items

def anchoredInPairs (anchor : Nat) : List (Node × Node) → List Node
  | [] => []
  | (key, value) :: pairs =>
    anchored anchor key ++ anchored anchor value ++ anchoredInPairs anchor pairs

end

end Node

/-- A document. There need not be anything in it. -/
structure Document where
  root? : Option Node

namespace Document

/-- The number of steps that it takes to go through a document. -/
def steps (document : Document) : Nat :=
  match document.root? with
  | none => 1
  | some root => root.steps

/-- The node of an anchor: the last one with its number. -/
def node? (document : Document) (anchor : Nat) : Option Node :=
  document.root? >>= fun root => (root.anchored anchor).getLast?

end Document

end Yaml

end ConfigKit
