-- SUMMARY: The nodes of JSON text mean the value that was written.
import ConfigKit.Proofs.FieldMap.LastWins
import ConfigKit.Proofs.Yaml.FlowNodes

/-!
# The values of JSON text

The node of a value is read as that value, with its strings as they are folded (`readJson_nodeOf`): numbers
and words mean what they mean in JSON, and a name is read as it is written.
-/

namespace ConfigKit

namespace Yaml

open Json

variable {c : Char} {cs digits : List Char} {text : String} {n limit value : Nat}

/-! ## Numbers -/

theorem hexDigit?_digit (h : c.isDigit = true) : CodeRanges.hexDigit? c = some (c.toNat - '0'.toNat) := by
  have hrange : '0' ≤ c ∧ c ≤ '9' := by
    rw [isDigit_iff] at h
    simpa [Char.le_def, UInt32.le_iff_toNat_le] using h
  rw [CodeRanges.hexDigit?, if_pos hrange]

/-- One more digit of a number. -/
def addDigit (n? : Option Nat) (digit : Char) : Option Nat := do
  let n ← n?
  let value ← CodeRanges.hexDigit? digit
  if value < 10 then some (n * 10 + value) else none

theorem numberInBase?_ten (digits : List Char) :
    numberInBase? 10 digits = if digits = [] then none else digits.foldl addDigit (some 0) := rfl

theorem foldl_addDigit (h : ∀ c ∈ digits, c.isDigit = true) (value : Nat) :
    digits.foldl addDigit (some value) = some (Nat.ofDigitChars 10 digits value) := by
  induction digits generalizing value with
  | nil => simp
  | cons d digits ih =>
    have hd := h d List.mem_cons_self
    have hrange := isDigit_iff.mp hd
    have hlt : d.toNat - 48 < 10 := by omega
    rw [List.foldl_cons, Nat.ofDigitChars_cons, ← ih fun c hc => h c (List.mem_cons_of_mem _ hc)]
    simp [addDigit, hexDigit?_digit hd, hlt, Nat.mul_comm]

theorem foldl_addDigit_none (digits : List Char) : digits.foldl addDigit none = none := by
  induction digits with
  | nil => rfl
  | cons d digits ih => exact ih

theorem numberInBase?_toDigits (n : Nat) : numberInBase? 10 (Nat.toDigits 10 n) = some n := by
  rw [numberInBase?_ten, if_neg Nat.toDigits_ne_nil, foldl_addDigit (isDigit_toDigits n),
    Nat.ofDigitChars_toDigits (by omega) (by omega)]

theorem numberInBase?_minus (digits : List Char) : numberInBase? 10 ('-' :: digits) = none :=
  foldl_addDigit_none digits

theorem numberWithBase?_digits (h : ∀ c ∈ digits, c.isDigit = true) : numberWithBase? digits = none := by
  unfold numberWithBase?
  split
  · simp at h
  · simp at h
  · simp at h
  · rfl

/-- Digits of a number have no zero in front, unless it is all there is. -/
theorem isZeroPadded_toDigits (n : Nat) : isZeroPadded (Nat.toDigits 10 n) = false := by
  by_cases hzero : n = 0
  · subst hzero
    rfl
  · obtain ⟨d, digits, hdigits, hd⟩ := head_toDigits (Nat.pos_of_ne_zero hzero)
    have hdigit : d.isDigit = true := isDigit_toDigits n d (by simp [hdigits])
    rw [hdigits]
    unfold isZeroPadded
    split
    · rename_i heq
      cases heq
      exact absurd rfl hd
    · rename_i heq
      cases heq
      cases hdigit
    · rename_i heq
      cases heq
      cases hdigit
    · rfl

theorem isZeroPadded_minus (h : 0 < n) : isZeroPadded ('-' :: Nat.toDigits 10 n) = false := by
  obtain ⟨d, digits, hdigits, hd⟩ := head_toDigits h
  rw [hdigits]
  unfold isZeroPadded
  split
  · rename_i heq
    cases heq
  · rename_i heq
    cases heq
  · rename_i heq
    cases heq
    exact absurd rfl hd
  · rfl

theorem natural?_toDigits (h : n ≤ limit) : natural? limit (Nat.toDigits 10 n) = some n := by
  have hdigits := isDigit_toDigits n
  have hsign : (Nat.toDigits 10 n).head? ≠ some '+' := by
    intro hhead
    have hplus := hdigits '+' (List.mem_of_mem_head? hhead)
    cases hplus
  simp only [natural?, if_neg hsign, numberWithBase?_digits hdigits, isZeroPadded_toDigits,
    numberInBase?_toDigits]
  simp [within?, h]

theorem natural?_minus (limit : Nat) (h : 0 < n) : natural? limit ('-' :: Nat.toDigits 10 n) = none := by
  simp [natural?, isZeroPadded_minus h, numberInBase?_minus, within?, numberWithBase?]

theorem negative?_minus (h : 0 < n) (hlimit : n ≤ limit) :
    negative? limit ('-' :: Nat.toDigits 10 n) = some (-(n : Int)) := by
  have hwithin : within? limit (some n) = some n := by simp [within?, hlimit]
  simp only [negative?, numberWithBase?_digits (isDigit_toDigits n), isZeroPadded_minus h,
    numberInBase?_toDigits, Bool.false_eq_true, if_false, hwithin]
  rfl

/-- The number text of an integer. -/
theorem integer?_numberText {n : Int} (hlow : Number.minInt ≤ n) (hhigh : n ≤ Number.maxInt) :
    integer? (Json.numberText (.int n)) = some (.int n) := by
  have hpow : Nat.pow 2 63 + Nat.pow 2 63 = Nat.pow 2 64 := rfl
  unfold Number.minInt at hlow
  unfold Number.maxInt at hhigh
  cases n with
  | ofNat n =>
    rw [Int.ofNat_eq_natCast] at hhigh ⊢
    rw [integer?, numberText_natural]
    simp only [natural?_toDigits (show n ≤ Nat.pow 2 64 - 1 by omega)]
    rfl
  | negSucc n =>
    rw [Int.negSucc_eq] at hlow
    have hnegative : negative? (Nat.pow 2 63) ('-' :: Nat.toDigits 10 (n + 1)) = _ :=
      negative?_minus (by omega) (by omega)
    rw [integer?, numberText_negative]
    simp only [natural?_minus _ (Nat.succ_pos n), hnegative]
    rfl

/-- An integer in decimal means itself. -/
theorem plainTree_numberText {n : Int} (hlow : Number.minInt ≤ n) (hhigh : n ≤ Number.maxInt) :
    plainTree (Json.numberText (.int n)) = .ok (.number (.int n)) := by
  obtain ⟨c, hhead, hc⟩ := head?_numberText n
  -- No word starts with a digit or a minus sign.
  have hne (word : String) (hword : ∀ d ∈ word.toList.head?, d.isDigit = false ∧ d ≠ '-') :
      Json.numberText (.int n) ≠ word := by
    intro heq
    rw [heq] at hhead
    obtain ⟨hdigit, hminus⟩ := hword c hhead
    rcases hc with hc | hc
    · rw [hdigit] at hc
      cases hc
    · exact hminus hc
  have hempty : Json.numberText (.int n) ≠ "" := by
    intro heq
    rw [heq] at hhead
    cases hhead
  have hnull : isNullText (Json.numberText (.int n)) = false := by
    simp [isNullText, hne "null" (by simp), hne "Null" (by simp), hne "NULL" (by simp), hne "~" (by simp)]
  have hbool : boolOfText? (Json.numberText (.int n)) = none := by
    simp [boolOfText?, hne "true" (by simp), hne "True" (by simp), hne "TRUE" (by simp),
      hne "false" (by simp), hne "False" (by simp), hne "FALSE" (by simp)]
  simp only [plainTree, hempty, hnull, hbool, integer?_numberText hlow hhigh]
  rfl

/-! ## What a value is read as -/

/-- A text as a YAML reader finds it between quotes, if it finds one. -/
def refolded (text : String) : String :=
  match unquote text with
  | .ok folded => folded
  | .error _ => text

mutual

/-- A value with its texts as they are folded. Names are left as they are. -/
def reread : Json → Json
  | .string text => .string (refolded text)
  | .array items => .array (rereadItems items)
  | .object members => .object (rereadMembers members)
  | value => value

def rereadItems : List Json → List Json
  | [] => []
  | item :: items => reread item :: rereadItems items

def rereadMembers : List (String × Json) → List (String × Json)
  | [] => []
  | (name, value) :: members => (name, reread value) :: rereadMembers members

end

variable (document : Document)

theorem readJson_scalar (depth : Nat) (style : ScalarStyle) (text : String) :
    readJson document depth (.text style text) = liftM (scalarJson ⟨none, none⟩ style text) := by
  unfold readJson
  rfl

theorem readJson_sequence (depth : Nat) (items : List Node) :
    readJson document (depth + 1) (.sequence ⟨none, none⟩ items) = (do
      let items ← items.mapM (readJson document depth)
      return .array items) := by
  rw [readJson]
  rfl

theorem readJson_mapping (depth : Nat) (pairs : List (Node × Node)) :
    readJson document (depth + 1) (.mapping ⟨none, none⟩ pairs) = (do
      let members ← readMembers (readText document) (readJson document depth) [] pairs
      return .object members) := by
  rw [readJson]
  rfl

theorem map_fst_rereadMembers (members : List (String × Json)) :
    (rereadMembers members).map (·.1) = members.map (·.1) := by
  induction members with
  | nil => rfl
  | cons member members ih => rw [rereadMembers, List.map_cons, ih, List.map_cons]

theorem sorted_rereadMembers {members : List (String × Json)} (h : Entries.Sorted members) :
    Entries.Sorted (rereadMembers members) := by
  have hnames : (members.map (·.1)).Pairwise fun a b => compare a b = .lt := List.pairwise_map.mpr h
  rw [← map_fst_rereadMembers] at hnames
  exact List.pairwise_map.mp hnames

mutual

/-- The node of a value is read as the value with its texts folded. -/
theorem readJson_nodeOf : (value : Json) → (node : Node) → (depth : Nat) → nodeOf value = .ok node →
    value.FloatFree → value.Canonical → value.depth ≤ depth →
    readJson document depth node = pure (reread value)
  | .null, _, depth, rfl, _, _, _ => readJson_scalar document depth _ _
  | .bool true, _, depth, rfl, _, _, _ => readJson_scalar document depth _ _
  | .bool false, _, depth, rfl, _, _, _ => readJson_scalar document depth _ _
  | .number (.int n), _, depth, rfl, hfree, _, _ => by
    rw [readJson_scalar, scalarJson, scalarTree]
    simp only [if_true, plainTree_numberText hfree.1 hfree.2]
    rfl
  | .string text, node, depth, h, _, _, _ => by
    obtain ⟨folded, htext, h⟩ := bind_eq_ok_iff.mp h
    cases h
    rw [reread, refolded, htext]
    exact readJson_scalar document depth _ _
  | .array items, node, depth + 1, h, hfree, hcanonical, hdepth => by
    obtain ⟨nodes, hnodes, h⟩ := bind_eq_ok_iff.mp h
    cases h
    rw [readJson_sequence, mapM_nodesOfItems items nodes depth hnodes hfree hcanonical
      (Nat.le_of_succ_le_succ hdepth)]
    rfl
  | .object members, node, depth + 1, h, hfree, hcanonical, hdepth => by
    obtain ⟨pairs, hpairs, h⟩ := bind_eq_ok_iff.mp h
    cases h
    rw [readJson_mapping, readMembers_nodesOfMembers members pairs depth [] hpairs hfree hcanonical.2
      (Nat.le_of_succ_le_succ hdepth), (sorted_rereadMembers hcanonical.1).insertAll_nil]
    rfl

theorem mapM_nodesOfItems : (items : List Json) → (nodes : List Node) → (depth : Nat) →
    nodesOfItems items = .ok nodes → FloatFreeItems items → CanonicalItems items →
    depthItems items ≤ depth → nodes.mapM (readJson document depth) = pure (rereadItems items)
  | [], _, _, rfl, _, _, _ => rfl
  | item :: items, nodes, depth, h, hfree, hcanonical, hdepth => by
    obtain ⟨node, hnode, h⟩ := bind_eq_ok_iff.mp h
    obtain ⟨more, hmore, h⟩ := bind_eq_ok_iff.mp h
    cases h
    have hle := Nat.max_le.mp hdepth
    rw [List.mapM_cons, readJson_nodeOf item node depth hnode hfree.1 hcanonical.1 hle.1,
      mapM_nodesOfItems items more depth hmore hfree.2 hcanonical.2 hle.2]
    rfl

theorem readMembers_nodesOfMembers : (members : List (String × Json)) → (pairs : List (Node × Node)) →
    (depth : Nat) → (done : List (String × Json)) → nodesOfMembers members = .ok pairs →
    FloatFreeMembers members → CanonicalMembers members → depthMembers members ≤ depth →
    readMembers (readText document) (readJson document depth) done pairs
      = pure (Entries.insertAll done (rereadMembers members))
  | [], _, _, _, rfl, _, _, _ => rfl
  | (name, value) :: members, pairs, depth, done, h, hfree, hcanonical, hdepth => by
    obtain ⟨key, hkey, h⟩ := bind_eq_ok_iff.mp h
    obtain ⟨node, hnode, h⟩ := bind_eq_ok_iff.mp h
    obtain ⟨more, hmore, h⟩ := bind_eq_ok_iff.mp h
    cases h
    have hle := Nat.max_le.mp hdepth
    have hread := readJson_nodeOf value node depth hnode hfree.1 hcanonical.1 hle.1
    have hname : readText document key = pure name := by
      unfold nodeOfName at hkey
      split at hkey
      · cases hkey
        rfl
      · cases hkey
    rw [readMembers, hname, pure_bind, hread, pure_bind,
      readMembers_nodesOfMembers members more depth _ hmore hfree.2 hcanonical.2 hle.2]
    rfl

end

/-! ## Values that stay as they are -/

mutual

theorem reread_eq_self_iff : (value : Json) →
    (reread value = value ↔ ∀ text ∈ value.texts, refolded text = text)
  | .null => iff_of_true rfl nofun
  | .bool _ => iff_of_true rfl nofun
  | .number _ => iff_of_true rfl nofun
  | .string text => by simp [reread, texts]
  | .array items => by simpa [reread, texts] using rereadItems_eq_self_iff items
  | .object members => by simpa [reread, texts] using rereadMembers_eq_self_iff members

theorem rereadItems_eq_self_iff : (items : List Json) →
    (rereadItems items = items ↔ ∀ text ∈ textsOfItems items, refolded text = text)
  | [] => iff_of_true rfl nofun
  | item :: items => by
    rw [rereadItems, List.cons.injEq, reread_eq_self_iff item, rereadItems_eq_self_iff items, textsOfItems,
      List.forall_mem_append]

theorem rereadMembers_eq_self_iff : (members : List (String × Json)) →
    (rereadMembers members = members ↔ ∀ text ∈ textsOfMembers members, refolded text = text)
  | [] => iff_of_true rfl nofun
  | (name, value) :: members => by
    rw [rereadMembers, List.cons.injEq, Prod.mk.injEq, reread_eq_self_iff value,
      rereadMembers_eq_self_iff members, textsOfMembers, List.forall_mem_append]
    simp

end

theorem unquotes_and_refolded_iff (text : String) :
    (Unquotes text ∧ refolded text = text) ↔ KeptText text.toList := by
  rw [← unquote_eq_self_iff]
  unfold Unquotes refolded
  cases unquote text <;> simp

mutual

theorem floatFree_reread : (value : Json) → value.FloatFree → (reread value).FloatFree
  | .null, h => h
  | .bool _, h => h
  | .number _, h => h
  | .string _, _ => trivial
  | .array items, h => floatFree_rereadItems items h
  | .object members, h => floatFree_rereadMembers members h

theorem floatFree_rereadItems : (items : List Json) → FloatFreeItems items →
    FloatFreeItems (rereadItems items)
  | [], h => h
  | item :: items, h => ⟨floatFree_reread item h.1, floatFree_rereadItems items h.2⟩

theorem floatFree_rereadMembers : (members : List (String × Json)) → FloatFreeMembers members →
    FloatFreeMembers (rereadMembers members)
  | [], h => h
  | (_, value) :: members, h => ⟨floatFree_reread value h.1, floatFree_rereadMembers members h.2⟩

end

end Yaml

end ConfigKit
