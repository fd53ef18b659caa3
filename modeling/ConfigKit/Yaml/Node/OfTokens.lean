-- SUMMARY: Reading the nodes of a YAML document from its tokens.
import ConfigKit.Yaml.Fault
import ConfigKit.Yaml.Node.Basic

/-!
# From tokens to nodes

A reader takes the tokens from the left and gives what it read, with the tokens and the anchors that it
leaves. A name is anchored under the number of names that were anchored before it, and an alias means the
latest anchor of its name.
-/

namespace ConfigKit

namespace Yaml

/-- What is left to read, and the names that are anchored so far with their numbers. -/
structure Unread where
  tokens : List Token
  names : List (String × Nat)

/-- What the handles of tags stand for. -/
abbrev TagPrefixes := List (String × Bytes)

/-- The handles that every document has. -/
def standardPrefixes : TagPrefixes :=
  [("!", Utf8.encode "!"), ("!!", Utf8.encode "tag:yaml.org,2002:")]

namespace Unread

/-- Reads no further than a token: nothing is written before it. -/
def blankBefore (u : Unread) (ends : Token → Bool) : Bool :=
  u.tokens.head?.any ends

/-- Gives a name the next number. -/
def anchor (u : Unread) : Option String → Option Nat × Unread
  | none => (none, u)
  | some name =>
    let number := u.names.length
    (some number, { u with names := (name, number) :: u.names.filter fun entry => entry.1 ≠ name })

/-- Takes an anchor and a tag, in any order. -/
def properties (u : Unread) : Option String × Option (String × Bytes) × Unread :=
  match u.tokens with
  | .anchor name :: .tag handle suffix :: rest =>
    (some name, some (handle, suffix), { u with tokens := rest })
  | .tag handle suffix :: .anchor name :: rest =>
    (some name, some (handle, suffix), { u with tokens := rest })
  | .anchor name :: rest => (some name, none, { u with tokens := rest })
  | .tag handle suffix :: rest => (none, some (handle, suffix), { u with tokens := rest })
  | _ => (none, none, u)

end Unread

def fullTag (prefixes : TagPrefixes) : Option (String × Bytes) → Except Fault (Option Bytes)
  | none => .ok none
  | some ("", suffix) => .ok (some suffix)
  | some (handle, suffix) =>
    match prefixes.lookup handle with
    | none => .error .document
    | some leading => .ok (some (leading ++ suffix))

/-- The tag that a scalar has. An exclamation mark alone is none. -/
def scalarTag (tag? : Option Bytes) : Option Bytes :=
  if tag? = some (Utf8.encode "!") then none else tag?

mutual

/-- Reads a node. Block collections may start here if `inBlock`; if `flush`, a sequence may also start
without further indentation. `fuel` bounds the number of calls. -/
def readNode (prefixes : TagPrefixes) (inBlock flush : Bool) :
    (fuel : Nat) → Unread → Except Fault (Node × Unread)
  | 0, _ => .error .document
  | fuel + 1, u =>
    match u.tokens with
    | .alias name :: rest =>
      match u.names.lookup name with
      | none => .error .unknownAnchor
      | some number => .ok (.alias number, { u with tokens := rest })
    | _ => do
      let (name?, tag?, u) := u.properties
      let tag? ← fullTag prefixes tag?
      let (anchor?, after) := u.anchor name?
      match after.tokens with
      | .scalar style text :: rest =>
        .ok (.scalar ⟨anchor?, scalarTag tag?⟩ style text, { after with tokens := rest })
      | .flowSequenceStart :: rest =>
        let (items, u) ← readFlowItems prefixes true fuel { after with tokens := rest }
        .ok (.sequence ⟨anchor?, tag?⟩ items, u)
      | .flowMappingStart :: rest =>
        let (pairs, u) ← readFlowPairs prefixes true fuel { after with tokens := rest }
        .ok (.mapping ⟨anchor?, tag?⟩ pairs, u)
      | token :: rest =>
        if token = .blockEntry ∧ flush = true then
          let (items, u) ← readFlushItems prefixes fuel after
          .ok (.sequence ⟨anchor?, tag?⟩ items, u)
        else if token = .blockSequenceStart ∧ inBlock = true then
          let (items, u) ← readBlockItems prefixes fuel { after with tokens := rest }
          .ok (.sequence ⟨anchor?, tag?⟩ items, u)
        else if token = .blockMappingStart ∧ inBlock = true then
          let (pairs, u) ← readBlockPairs prefixes fuel { after with tokens := rest }
          .ok (.mapping ⟨anchor?, tag?⟩ pairs, u)
        else if name?.isSome ∨ tag?.isSome then .ok (.scalar ⟨anchor?, tag?⟩ .plain "", after)
        else .error .document
      | [] =>
        if name?.isSome ∨ tag?.isSome then .ok (.scalar ⟨anchor?, tag?⟩ .plain "", after)
        else .error .document

/-- Reads a node, or nothing before one of some tokens. -/
def readNodeOrBlank (prefixes : TagPrefixes) (inBlock flush : Bool) (ends : Token → Bool) :
    (fuel : Nat) → Unread → Except Fault (Node × Unread)
  | 0, _ => .error .document
  | fuel + 1, u =>
    if u.blankBefore ends then .ok (.blank, u) else readNode prefixes inBlock flush fuel u

/-- Reads the items of a block sequence and its end. -/
def readBlockItems (prefixes : TagPrefixes) :
    (fuel : Nat) → Unread → Except Fault (List Node × Unread)
  | 0, _ => .error .document
  | fuel + 1, u =>
    match u.tokens with
    | .blockEntry :: rest => do
      let ends (token : Token) : Bool := token = .blockEntry || token = .blockEnd
      let (item, u) ← readNodeOrBlank prefixes true false ends fuel { u with tokens := rest }
      let (items, u) ← readBlockItems prefixes fuel u
      .ok (item :: items, u)
    | .blockEnd :: rest => .ok ([], { u with tokens := rest })
    | _ => .error .document

/-- Reads the items of a sequence that is not indented. It ends with its last item. -/
def readFlushItems (prefixes : TagPrefixes) :
    (fuel : Nat) → Unread → Except Fault (List Node × Unread)
  | 0, _ => .error .document
  | fuel + 1, u =>
    match u.tokens with
    | .blockEntry :: rest => do
      let ends (token : Token) : Bool :=
        token = .blockEntry || token = .key || token = .value || token = .blockEnd
      let (item, u) ← readNodeOrBlank prefixes true false ends fuel { u with tokens := rest }
      let (items, u) ← readFlushItems prefixes fuel u
      .ok (item :: items, u)
    | _ => .ok ([], u)

/-- Reads the pairs of a block mapping and its end. -/
def readBlockPairs (prefixes : TagPrefixes) :
    (fuel : Nat) → Unread → Except Fault (List (Node × Node) × Unread)
  | 0, _ => .error .document
  | fuel + 1, u =>
    match u.tokens with
    | .key :: rest => do
      let ends (token : Token) : Bool := token = .key || token = .value || token = .blockEnd
      let (key, u) ← readNodeOrBlank prefixes true true ends fuel { u with tokens := rest }
      let (value, u) ←
        match u.tokens with
        | .value :: rest => readNodeOrBlank prefixes true true ends fuel { u with tokens := rest }
        | _ => .ok (.blank, u)
      let (pairs, u) ← readBlockPairs prefixes fuel u
      .ok ((key, value) :: pairs, u)
    | .blockEnd :: rest => .ok ([], { u with tokens := rest })
    | _ => .error .document

/-- Reads the items of a flow sequence and its end. A key within it makes a mapping of one pair; if
nothing is written for that key, the token behind it is lost. -/
def readFlowItems (prefixes : TagPrefixes) (first : Bool) :
    (fuel : Nat) → Unread → Except Fault (List Node × Unread)
  | 0, _ => .error .document
  | fuel + 1, u =>
    match u.tokens with
    | .flowSequenceEnd :: rest => .ok ([], { u with tokens := rest })
    | tokens => do
      let tokens ←
        if first then .ok tokens
        else
          match tokens with
          | .flowEntry :: rest => .ok rest
          | _ => Except.error Fault.document
      match tokens with
      | .flowSequenceEnd :: rest => .ok ([], { u with tokens := rest })
      | .key :: rest =>
        let ends (token : Token) : Bool := token = .flowEntry || token = .flowSequenceEnd
        let u := { u with tokens := rest }
        let (key, u) ←
          if u.blankBefore fun token => token = .value || ends token then
            .ok (Node.blank, { u with tokens := u.tokens.drop 1 })
          else readNode prefixes false false fuel u
        let (value, u) ←
          match u.tokens with
          | .value :: rest => readNodeOrBlank prefixes false false ends fuel { u with tokens := rest }
          | _ => .ok (.blank, u)
        let (items, u) ← readFlowItems prefixes false fuel u
        .ok (.mapping ⟨none, none⟩ [(key, value)] :: items, u)
      | tokens =>
        let (item, u) ← readNode prefixes false false fuel { u with tokens }
        let (items, u) ← readFlowItems prefixes false fuel u
        .ok (item :: items, u)

/-- Reads the pairs of a flow mapping and its end. A key may stand without a value. -/
def readFlowPairs (prefixes : TagPrefixes) (first : Bool) :
    (fuel : Nat) → Unread → Except Fault (List (Node × Node) × Unread)
  | 0, _ => .error .document
  | fuel + 1, u =>
    match u.tokens with
    | .flowMappingEnd :: rest => .ok ([], { u with tokens := rest })
    | tokens => do
      let tokens ←
        if first then .ok tokens
        else
          match tokens with
          | .flowEntry :: rest => .ok rest
          | _ => Except.error Fault.document
      match tokens with
      | .flowMappingEnd :: rest => .ok ([], { u with tokens := rest })
      | .key :: rest =>
        let ends (token : Token) : Bool := token = .flowEntry || token = .flowMappingEnd
        let (key, u) ←
          readNodeOrBlank prefixes false false (fun token => token = .value || ends token) fuel
            { u with tokens := rest }
        let (value, u) ←
          match u.tokens with
          | .value :: rest => readNodeOrBlank prefixes false false ends fuel { u with tokens := rest }
          | _ => .ok (.blank, u)
        let (pairs, u) ← readFlowPairs prefixes false fuel u
        .ok ((key, value) :: pairs, u)
      | tokens =>
        let (key, u) ← readNode prefixes false false fuel { u with tokens }
        let (pairs, u) ← readFlowPairs prefixes false fuel u
        .ok ((key, .blank) :: pairs, u)

end

/-! ## Documents -/

/-- Reads directives: one version at most, and handles that differ. -/
def readDirectives (versioned : Bool) (prefixes : TagPrefixes) :
    List Token → Except Fault (TagPrefixes × List Token)
  | .versionDirective major minor :: rest =>
    if versioned ∨ major ≠ 1 ∨ (minor ≠ 1 ∧ minor ≠ 2) then .error .document
    else readDirectives true prefixes rest
  | .tagDirective handle leading :: rest =>
    if (prefixes.lookup handle).isSome then .error .document
    else readDirectives versioned (prefixes ++ [(handle, leading)]) rest
  | rest => .ok (prefixes ++ standardPrefixes, rest)

/-- Whether nothing is written in a document before this token. -/
def endsContent : Token → Bool
  | .versionDirective _ _ => true
  | .tagDirective _ _ => true
  | .documentStart => true
  | .documentEnd => true
  | _ => false

/-- Whether a token can only stand before a document. -/
def startsDocument : Token → Bool
  | .versionDirective _ _ => true
  | .tagDirective _ _ => true
  | .documentStart => true
  | _ => false

/-- Reads the root of a document. -/
def readRoot (prefixes : TagPrefixes) (tokens : List Token) : Except Fault (Node × Unread) :=
  readNode prefixes true false (3 * tokens.length + 3) ⟨tokens, []⟩

/-- Reads the content of a document behind its start. -/
def readContent (prefixes : TagPrefixes) (tokens : List Token) : Except Fault (Node × Unread) :=
  if tokens = [] ∨ tokens.head?.any endsContent = true then .ok (.blank, ⟨tokens, []⟩)
  else readRoot prefixes tokens

/-- The document of a stream. There has to be one at most. -/
def Document.ofTokens (tokens : List Token) : Except Fault Document :=
  if tokens = [] then .ok ⟨none⟩
  else do
    let (root, u) ←
      if tokens.head?.any startsDocument then do
        let (prefixes, rest) ← readDirectives false [] tokens
        match rest with
        | .documentStart :: rest => readContent prefixes rest
        | _ => .error .document
      else readRoot standardPrefixes tokens
    match u.tokens.dropWhile (· = .documentEnd) with
    | [] => .ok ⟨some root⟩
    | _ => .error .severalDocuments

end Yaml

end ConfigKit
