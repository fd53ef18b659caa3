-- SUMMARY: The tokens of JSON text make the nodes of its value, unless a name is too long.
import Mathlib.Tactic.Tauto
import ConfigKit.Proofs.Json.Texts
import ConfigKit.Proofs.Yaml.FlowTokens
import ConfigKit.Proofs.Yaml.NormalForm
import ConfigKit.Yaml.Decode

/-!
# The nodes of JSON text

The tokens of JSON text make the nodes of its value (`ofTokens_tokensOf`). The names of members are the keys
of mappings, but a name that is too long for a key leaves a colon in no place, and then there is no document
at all. So there is one just if every string is read and every name is short (`exists_nodeOf_iff`).
-/

namespace ConfigKit

namespace Yaml

open Json

/-! ## Nodes of a value -/

/-- A scalar with nothing before it. -/
def Node.text (style : ScalarStyle) (text : String) : Node := .scalar ⟨none, none⟩ style text

/-- The node of a name. Without a key the colon behind it stands in no place. -/
def nodeOfName (name : String) : Except Fault Node :=
  if isShort name then .ok (.text .doubleQuoted name) else .error .document

mutual

/-- The node of the JSON text of a value. -/
def nodeOf : Json → Except Fault Node
  | .null => .ok (.text .plain "null")
  | .bool true => .ok (.text .plain "true")
  | .bool false => .ok (.text .plain "false")
  | .number n => .ok (.text .plain (Json.numberText n))
  | .string text => do
    let text ← unquote text
    .ok (.text .doubleQuoted text)
  | .array items => do
    let items ← nodesOfItems items
    .ok (.sequence ⟨none, none⟩ items)
  | .object members => do
    let pairs ← nodesOfMembers members
    .ok (.mapping ⟨none, none⟩ pairs)

def nodesOfItems : List Json → Except Fault (List Node)
  | [] => .ok []
  | item :: items => do
    let first ← nodeOf item
    let more ← nodesOfItems items
    .ok (first :: more)

def nodesOfMembers : List (String × Json) → Except Fault (List (Node × Node))
  | [] => .ok []
  | (name, value) :: members => do
    let key ← nodeOfName name
    let value ← nodeOf value
    let more ← nodesOfMembers members
    .ok ((key, value) :: more)

end

variable {prefixes : TagPrefixes} {inBlock flush first : Bool} {fuel : Nat} {rest new : List Token}
  {names : List (String × Nat)} {token : Token}

/-- A token that starts a value in JSON text. -/
inductive StartsNode : Token → Prop where
  | scalar (style : ScalarStyle) (text : String) : StartsNode (.scalar style text)
  | sequence : StartsNode .flowSequenceStart
  | mapping : StartsNode .flowMappingStart

theorem startsNode_tokensOf {value : Json} (h : tokensOf value = .ok new) :
    ∃ token more, new = token :: more ∧ StartsNode token := by
  cases value with
  | null =>
    cases h
    exact ⟨_, _, rfl, .scalar _ _⟩
  | bool b =>
    cases b <;>
    · cases h
      exact ⟨_, _, rfl, .scalar _ _⟩
  | number n =>
    cases h
    exact ⟨_, _, rfl, .scalar _ _⟩
  | string text =>
    obtain ⟨folded, -, h⟩ := bind_eq_ok_iff.mp h
    cases h
    exact ⟨_, _, rfl, .scalar _ _⟩
  | array items =>
    cases items with
    | nil =>
      cases h
      exact ⟨_, _, rfl, .sequence⟩
    | cons item items =>
      obtain ⟨first, -, h⟩ := bind_eq_ok_iff.mp h
      obtain ⟨more, -, h⟩ := bind_eq_ok_iff.mp h
      cases h
      exact ⟨_, _, rfl, .sequence⟩
  | object members =>
    rcases members with _ | ⟨⟨name, value⟩, members⟩
    · cases h
      exact ⟨_, _, rfl, .mapping⟩
    · obtain ⟨named, -, h⟩ := bind_eq_ok_iff.mp h
      obtain ⟨first, -, h⟩ := bind_eq_ok_iff.mp h
      obtain ⟨more, -, h⟩ := bind_eq_ok_iff.mp h
      cases h
      exact ⟨_, _, rfl, .mapping⟩

theorem length_pos_tokensOf {value : Json} (h : tokensOf value = .ok new) : 0 < new.length := by
  obtain ⟨token, more, rfl, -⟩ := startsNode_tokensOf h
  exact Nat.succ_pos _

theorem readNode_scalar (style : ScalarStyle) (text : String) :
    readNode prefixes inBlock flush (fuel + 1) ⟨.scalar style text :: rest, names⟩
      = .ok (.text style text, ⟨rest, names⟩) := rfl

theorem readNode_sequence :
    readNode prefixes inBlock flush (fuel + 1) ⟨.flowSequenceStart :: rest, names⟩ = (do
      let (items, u) ← readFlowItems prefixes true fuel ⟨rest, names⟩
      .ok (.sequence ⟨none, none⟩ items, u)) := rfl

theorem readNode_mapping :
    readNode prefixes inBlock flush (fuel + 1) ⟨.flowMappingStart :: rest, names⟩ = (do
      let (pairs, u) ← readFlowPairs prefixes true fuel ⟨rest, names⟩
      .ok (.mapping ⟨none, none⟩ pairs, u)) := rfl

/-- The comma that stands before every item but the first one. -/
def entryMark (first : Bool) : List Token := if first then [] else [.flowEntry]

theorem readFlowItems_node (htoken : StartsNode token) :
    readFlowItems prefixes first (fuel + 1) ⟨entryMark first ++ token :: rest, names⟩ = (do
      let (item, u) ← readNode prefixes false false fuel ⟨token :: rest, names⟩
      let (items, u) ← readFlowItems prefixes false fuel u
      .ok (item :: items, u)) := by
  cases first <;> cases htoken <;> rfl

theorem readFlowPairs_key (htoken : StartsNode token) (name : String) :
    readFlowPairs prefixes first (fuel + 3)
      ⟨entryMark first ++ .key :: .scalar .doubleQuoted name :: .value :: token :: rest, names⟩ = (do
      let (value, u) ← readNode prefixes false false (fuel + 1) ⟨token :: rest, names⟩
      let (pairs, u) ← readFlowPairs prefixes false (fuel + 2) u
      .ok ((.text .doubleQuoted name, value) :: pairs, u)) := by
  cases first <;> cases htoken <;> rfl

theorem readFlowPairs_noKey (name : String) :
    readFlowPairs prefixes first (fuel + 1)
      ⟨entryMark first ++ .scalar .doubleQuoted name :: .value :: rest, names⟩ = .error .document := by
  cases fuel <;> cases first <;> rfl

/-- A name that is no key is left as a text before a colon. -/
theorem tokensOfName_cases {name : String} (h : tokensOfName name = .ok new) :
    (isShort name = true ∧ new = [.key, .scalar .doubleQuoted name, .value]) ∨
      (isShort name = false ∧ ∃ text, new = [.scalar .doubleQuoted text, .value]) := by
  obtain ⟨text, htext, h⟩ := bind_eq_ok_iff.mp h
  cases hshort : isShort name with
  | true =>
    rw [unquote_of_isShort hshort] at htext
    cases htext
    rw [hshort] at h
    cases h
    exact .inl ⟨rfl, rfl⟩
  | false =>
    rw [hshort] at h
    cases h
    exact .inr ⟨rfl, text, rfl⟩

theorem two_le_length_tokensOfName {name : String} (h : tokensOfName name = .ok new) : 2 ≤ new.length := by
  rcases tokensOfName_cases h with ⟨-, rfl⟩ | ⟨-, text, rfl⟩ <;> simp

theorem readFlowItems_item {item : Json} {items : List Json} {one more : List Token}
    (hnode : readNode prefixes false false fuel ⟨one ++ (more ++ .flowSequenceEnd :: rest), names⟩
      = nodeOf item >>= fun node => .ok (node, ⟨more ++ .flowSequenceEnd :: rest, names⟩))
    (hitems : readFlowItems prefixes false fuel ⟨more ++ .flowSequenceEnd :: rest, names⟩
      = nodesOfItems items >>= fun nodes => .ok (nodes, ⟨rest, names⟩))
    (hone : tokensOf item = .ok one) :
    readFlowItems prefixes first (fuel + 1)
        ⟨entryMark first ++ (one ++ (more ++ .flowSequenceEnd :: rest)), names⟩
      = nodesOfItems (item :: items) >>= fun nodes => .ok (nodes, ⟨rest, names⟩) := by
  obtain ⟨token, others, rfl, htoken⟩ := startsNode_tokensOf hone
  rw [List.cons_append] at hnode ⊢
  rw [readFlowItems_node htoken, hnode, nodesOfItems]
  simp only [bind_assoc, ok_bind, hitems]

theorem readFlowPairs_member {name : String} {value : Json} {members : List (String × Json)}
    {named one more : List Token} (hnamed : tokensOfName name = .ok named)
    (hnode : readNode prefixes false false (fuel + 1) ⟨one ++ (more ++ .flowMappingEnd :: rest), names⟩
      = nodeOf value >>= fun node => .ok (node, ⟨more ++ .flowMappingEnd :: rest, names⟩))
    (hpairs : readFlowPairs prefixes false (fuel + 2) ⟨more ++ .flowMappingEnd :: rest, names⟩
      = nodesOfMembers members >>= fun pairs => .ok (pairs, ⟨rest, names⟩))
    (hone : tokensOf value = .ok one) :
    readFlowPairs prefixes first (fuel + 3)
        ⟨entryMark first ++ (named ++ (one ++ (more ++ .flowMappingEnd :: rest))), names⟩
      = nodesOfMembers ((name, value) :: members) >>= fun pairs => .ok (pairs, ⟨rest, names⟩) := by
  rcases tokensOfName_cases hnamed with ⟨hshort, rfl⟩ | ⟨hlong, text, rfl⟩
  · obtain ⟨token, others, rfl, htoken⟩ := startsNode_tokensOf hone
    have hkey : readFlowPairs prefixes first (fuel + 3)
        ⟨entryMark first ++ .key :: .scalar .doubleQuoted name :: .value :: token
          :: (others ++ (more ++ .flowMappingEnd :: rest)), names⟩ = _ :=
      readFlowPairs_key htoken name
    rw [List.cons_append] at hnode ⊢
    rw [nodesOfMembers, nodeOfName, if_pos hshort]
    simp only [bind_assoc, ok_bind, List.cons_append, List.nil_append] at hkey ⊢
    rw [hkey, hnode]
    simp only [bind_assoc, ok_bind, hpairs]
  · rw [nodesOfMembers, nodeOfName, hlong]
    exact readFlowPairs_noKey text

mutual

/-- The tokens of a value are read as its node. -/
theorem readNode_tokensOf : (value : Json) → (new : List Token) → (fuel : Nat) →
    (inBlock flush : Bool) → (rest : List Token) → tokensOf value = .ok new → new.length ≤ fuel →
    readNode prefixes inBlock flush fuel ⟨new ++ rest, names⟩
      = nodeOf value >>= fun node => .ok (node, ⟨rest, names⟩)
  | .null, _, fuel + 1, _, _, _, rfl, _ => rfl
  | .bool true, _, fuel + 1, _, _, _, rfl, _ => rfl
  | .bool false, _, fuel + 1, _, _, _, rfl, _ => rfl
  | .number n, _, fuel + 1, _, _, _, rfl, _ => readNode_scalar .plain (Json.numberText n)
  | .string text, new, fuel, inBlock, flush, rest, h, hfuel => by
    obtain ⟨folded, htext, h⟩ := bind_eq_ok_iff.mp h
    cases h
    rw [nodeOf, htext]
    cases fuel with
    | zero => cases hfuel
    | succ fuel => exact readNode_scalar .doubleQuoted folded
  | .array [], _, fuel + 2, _, _, _, rfl, _ => rfl
  | .array (item :: items), new, fuel, inBlock, flush, rest, h, hfuel => by
    obtain ⟨one, hone, h⟩ := bind_eq_ok_iff.mp h
    obtain ⟨more, hmore, h⟩ := bind_eq_ok_iff.mp h
    cases h
    have hpos := length_pos_tokensOf hone
    simp only [List.length_cons, List.length_append, List.length_nil] at hfuel
    obtain ⟨fuel, rfl⟩ : ∃ less, fuel = less + 2 := ⟨fuel - 2, by omega⟩
    have hnode := readNode_tokensOf item one fuel false false (more ++ .flowSequenceEnd :: rest) hone
      (by omega)
    have hitems := readFlowItems_tokensOf items more fuel rest hmore (by omega)
    have hread : readFlowItems prefixes true (fuel + 1)
        ⟨one ++ (more ++ .flowSequenceEnd :: rest), names⟩ = _ :=
      readFlowItems_item hnode hitems hone
    rw [List.cons_append, readNode_sequence, nodeOf]
    simp only [List.append_assoc, List.singleton_append, hread, bind_assoc, ok_bind]
  | .object [], _, fuel + 2, _, _, _, rfl, _ => rfl
  | .object ((name, value) :: members), new, fuel, inBlock, flush, rest, h, hfuel => by
    obtain ⟨named, hnamed, h⟩ := bind_eq_ok_iff.mp h
    obtain ⟨one, hone, h⟩ := bind_eq_ok_iff.mp h
    obtain ⟨more, hmore, h⟩ := bind_eq_ok_iff.mp h
    cases h
    have hpos := length_pos_tokensOf hone
    have htwo := two_le_length_tokensOfName hnamed
    simp only [List.length_cons, List.length_append, List.length_nil] at hfuel
    obtain ⟨fuel, rfl⟩ : ∃ less, fuel = less + 4 := ⟨fuel - 4, by omega⟩
    have hnode := readNode_tokensOf value one (fuel + 1) false false (more ++ .flowMappingEnd :: rest) hone
      (by omega)
    have hpairs := readFlowPairs_tokensOf members more (fuel + 2) rest hmore (by omega)
    have hread : readFlowPairs prefixes true (fuel + 3)
        ⟨named ++ (one ++ (more ++ .flowMappingEnd :: rest)), names⟩ = _ :=
      readFlowPairs_member hnamed hnode hpairs hone
    rw [List.cons_append, readNode_mapping, nodeOf]
    simp only [List.append_assoc, List.singleton_append, hread, bind_assoc, ok_bind]

theorem readFlowItems_tokensOf : (items : List Json) → (new : List Token) → (fuel : Nat) →
    (rest : List Token) → tokensOfItems items = .ok new → new.length + 1 ≤ fuel →
    readFlowItems prefixes false fuel ⟨new ++ .flowSequenceEnd :: rest, names⟩
      = nodesOfItems items >>= fun nodes => .ok (nodes, ⟨rest, names⟩)
  | [], _, fuel + 1, _, rfl, _ => rfl
  | item :: items, new, fuel, rest, h, hfuel => by
    obtain ⟨one, hone, h⟩ := bind_eq_ok_iff.mp h
    obtain ⟨more, hmore, h⟩ := bind_eq_ok_iff.mp h
    cases h
    simp only [List.length_cons, List.length_append] at hfuel
    obtain ⟨fuel, rfl⟩ : ∃ less, fuel = less + 1 := ⟨fuel - 1, by omega⟩
    have hnode := readNode_tokensOf item one fuel false false (more ++ .flowSequenceEnd :: rest) hone
      (by omega)
    have hitems := readFlowItems_tokensOf items more fuel rest hmore (by omega)
    rw [List.cons_append, List.append_assoc]
    exact readFlowItems_item hnode hitems hone

theorem readFlowPairs_tokensOf : (members : List (String × Json)) → (new : List Token) → (fuel : Nat) →
    (rest : List Token) → tokensOfMembers members = .ok new → new.length + 1 ≤ fuel →
    readFlowPairs prefixes false fuel ⟨new ++ .flowMappingEnd :: rest, names⟩
      = nodesOfMembers members >>= fun pairs => .ok (pairs, ⟨rest, names⟩)
  | [], _, fuel + 1, _, rfl, _ => rfl
  | (name, value) :: members, new, fuel, rest, h, hfuel => by
    obtain ⟨named, hnamed, h⟩ := bind_eq_ok_iff.mp h
    obtain ⟨one, hone, h⟩ := bind_eq_ok_iff.mp h
    obtain ⟨more, hmore, h⟩ := bind_eq_ok_iff.mp h
    cases h
    have hpos := length_pos_tokensOf hone
    have htwo := two_le_length_tokensOfName hnamed
    simp only [List.length_cons, List.length_append] at hfuel
    obtain ⟨fuel, rfl⟩ : ∃ less, fuel = less + 3 := ⟨fuel - 3, by omega⟩
    have hnode := readNode_tokensOf value one (fuel + 1) false false (more ++ .flowMappingEnd :: rest) hone
      (by omega)
    have hpairs := readFlowPairs_tokensOf members more (fuel + 2) rest hmore (by omega)
    rw [List.cons_append, List.append_assoc, List.append_assoc]
    exact readFlowPairs_member hnamed hnode hpairs hone

end

/-- The document of JSON text has the node of its value for its root. -/
theorem ofTokens_tokensOf {value : Json} (h : tokensOf value = .ok new) :
    Document.ofTokens new = nodeOf value >>= fun node => .ok ⟨some node⟩ := by
  have hread : readNode standardPrefixes true false (3 * new.length + 3) ⟨new ++ [], []⟩ = _ :=
    readNode_tokensOf value new (3 * new.length + 3) true false [] h (by omega)
  obtain ⟨token, more, rfl, htoken⟩ := startsNode_tokensOf h
  have hfirst : ¬ (token :: more).head?.any startsDocument = true := by
    cases htoken <;> exact Bool.false_ne_true
  rw [List.append_nil] at hread
  rw [Document.ofTokens, if_neg (List.cons_ne_nil token more), if_neg hfirst, readRoot, hread, bind_assoc]
  rfl

/-! ## Values with a document -/

theorem exists_nodeOfName_iff (name : String) :
    (∃ node, nodeOfName name = .ok node) ↔ isShort name = true := by
  unfold nodeOfName
  split <;> simp [*]

/-- A text that is read between quotes. -/
def Unquotes (text : String) : Prop := ∃ folded, unquote text = .ok folded

theorem unquotes_of_isShort {name : String} (h : isShort name = true) : Unquotes name :=
  ⟨name, unquote_of_isShort h⟩

mutual

/-- JSON text makes a document just if its strings are read and its names are short. -/
theorem exists_nodeOf_iff : (value : Json) → ((∃ node, nodeOf value = .ok node) ↔
    (∀ text ∈ value.texts, Unquotes text) ∧ ∀ name ∈ value.names, isShort name = true)
  | .null => iff_of_true ⟨_, rfl⟩ ⟨nofun, nofun⟩
  | .bool true => iff_of_true ⟨_, rfl⟩ ⟨nofun, nofun⟩
  | .bool false => iff_of_true ⟨_, rfl⟩ ⟨nofun, nofun⟩
  | .number n => iff_of_true ⟨_, rfl⟩ ⟨nofun, nofun⟩
  | .string text => by simp [nodeOf, exists_bind_eq_ok_iff, texts, names, Unquotes]
  | .array items => by simpa [nodeOf, exists_bind_eq_ok_iff, texts, names] using exists_nodesOfItems_iff items
  | .object members => by
    simpa [nodeOf, exists_bind_eq_ok_iff, texts, names] using exists_nodesOfMembers_iff members

theorem exists_nodesOfItems_iff : (items : List Json) → ((∃ nodes, nodesOfItems items = .ok nodes) ↔
    (∀ text ∈ textsOfItems items, Unquotes text) ∧ ∀ name ∈ namesOfItems items, isShort name = true)
  | [] => iff_of_true ⟨_, rfl⟩ ⟨nofun, nofun⟩
  | item :: items => by
    have hitem := exists_nodeOf_iff item
    have hitems := exists_nodesOfItems_iff items
    simp only [nodesOfItems, exists_bind_eq_ok_iff, textsOfItems, namesOfItems, List.forall_mem_append,
      Except.ok.injEq, exists_eq', and_true, exists_and_right, hitem, hitems]
    exact and_and_and_comm

theorem exists_nodesOfMembers_iff : (members : List (String × Json)) →
    ((∃ pairs, nodesOfMembers members = .ok pairs) ↔
      (∀ text ∈ textsOfMembers members, Unquotes text) ∧
        ∀ name ∈ namesOfMembers members, isShort name = true)
  | [] => iff_of_true ⟨_, rfl⟩ ⟨nofun, nofun⟩
  | (name, value) :: members => by
    have hvalue := exists_nodeOf_iff value
    have hmembers := exists_nodesOfMembers_iff members
    simp only [nodesOfMembers, exists_bind_eq_ok_iff, textsOfMembers, namesOfMembers,
      List.forall_mem_append, List.forall_mem_cons, Except.ok.injEq, exists_eq', and_true,
      exists_and_right, exists_nodeOfName_iff, hvalue, hmembers]
    tauto

end

mutual

theorem exists_tokensOf : (value : Json) → (∀ text ∈ value.texts, Unquotes text) →
    (∀ name ∈ value.names, Unquotes name) → ∃ new, tokensOf value = .ok new
  | .null, _, _ => ⟨_, rfl⟩
  | .bool true, _, _ => ⟨_, rfl⟩
  | .bool false, _, _ => ⟨_, rfl⟩
  | .number n, _, _ => ⟨_, rfl⟩
  | .string text, h, _ => by
    obtain ⟨folded, hread⟩ := h text (by simp [texts])
    exact ⟨_, by rw [tokensOf, hread]; rfl⟩
  | .array [], _, _ => ⟨_, rfl⟩
  | .array (item :: items), h, hname => by
    simp only [texts, names, textsOfItems, namesOfItems, List.forall_mem_append] at h hname
    obtain ⟨first, hfirst⟩ := exists_tokensOf item h.1 hname.1
    obtain ⟨more, hmore⟩ := exists_tokensOfItems items h.2 hname.2
    exact ⟨_, by rw [tokensOf, hfirst, hmore]; rfl⟩
  | .object [], _, _ => ⟨_, rfl⟩
  | .object ((name, value) :: members), h, hname => by
    simp only [texts, names, textsOfMembers, namesOfMembers, List.forall_mem_append,
      List.forall_mem_cons] at h hname
    obtain ⟨folded, hread⟩ := hname.1
    obtain ⟨first, hfirst⟩ := exists_tokensOf value h.1 hname.2.1
    obtain ⟨more, hmore⟩ := exists_tokensOfMembers members h.2 hname.2.2
    exact ⟨_, by rw [tokensOf, tokensOfName, hread, hfirst, hmore]; rfl⟩

theorem exists_tokensOfItems : (items : List Json) → (∀ text ∈ textsOfItems items, Unquotes text) →
    (∀ name ∈ namesOfItems items, Unquotes name) → ∃ new, tokensOfItems items = .ok new
  | [], _, _ => ⟨_, rfl⟩
  | item :: items, h, hname => by
    simp only [textsOfItems, namesOfItems, List.forall_mem_append] at h hname
    obtain ⟨first, hfirst⟩ := exists_tokensOf item h.1 hname.1
    obtain ⟨more, hmore⟩ := exists_tokensOfItems items h.2 hname.2
    exact ⟨_, by rw [tokensOfItems, hfirst, hmore]; rfl⟩

theorem exists_tokensOfMembers : (members : List (String × Json)) →
    (∀ text ∈ textsOfMembers members, Unquotes text) →
    (∀ name ∈ namesOfMembers members, Unquotes name) → ∃ new, tokensOfMembers members = .ok new
  | [], _, _ => ⟨_, rfl⟩
  | (name, value) :: members, h, hname => by
    simp only [textsOfMembers, namesOfMembers, List.forall_mem_append, List.forall_mem_cons] at h hname
    obtain ⟨folded, hread⟩ := hname.1
    obtain ⟨first, hfirst⟩ := exists_tokensOf value h.1 hname.2.1
    obtain ⟨more, hmore⟩ := exists_tokensOfMembers members h.2 hname.2.2
    exact ⟨_, by rw [tokensOfMembers, tokensOfName, hread, hfirst, hmore]; rfl⟩

end

end Yaml

end ConfigKit
