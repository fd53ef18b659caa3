-- SUMMARY: Which characters the JSON text of a value can hold.
import Mathlib.Tactic.Tauto
import ConfigKit.Proofs.Json.RoundTrip

/-!
# The texts in a JSON value

The strings and the names of a value are all of its JSON text that can hold any character but plain ones
(`forall_render_iff`), and escapes leave nothing of a control character (`forall_stringChars_iff`).
-/

namespace ConfigKit

namespace Json

mutual

/-- The strings in a value, from the left. -/
def texts : Json → List String
  | .string text => [text]
  | .array items => textsOfItems items
  | .object members => textsOfMembers members
  | _ => []

def textsOfItems : List Json → List String
  | [] => []
  | item :: items => item.texts ++ textsOfItems items

def textsOfMembers : List (String × Json) → List String
  | [] => []
  | (_, value) :: members => value.texts ++ textsOfMembers members

end

mutual

/-- The names of the members in a value, from the left. -/
def names : Json → List String
  | .array items => namesOfItems items
  | .object members => namesOfMembers members
  | _ => []

def namesOfItems : List Json → List String
  | [] => []
  | item :: items => item.names ++ namesOfItems items

def namesOfMembers : List (String × Json) → List String
  | [] => []
  | (name, value) :: members => name :: (value.names ++ namesOfMembers members)

end

/-- A printable character of ASCII. -/
def isPlain (c : Char) : Bool := 0x20 ≤ c.toNat && c.toNat ≤ 0x7E

/-- A property that plain characters have. -/
def HoldsOfPlain (p : Char → Prop) : Prop := ∀ c, isPlain c = true → p c

/-- A property that all characters have that a layout puts around strings. -/
structure HoldsOfLayout (p : Char → Prop) (layout : Layout) : Prop where
  plain : HoldsOfPlain p
  lineBreak : ∀ depth, ∀ c ∈ layout.lineBreak depth, p c
  colon : ∀ c ∈ layout.colon, p c

variable {p : Char → Prop} {c : Char} {layout : Layout}

theorem HoldsOfPlain.word (h : HoldsOfPlain p) (word : List Char) (hword : word.all isPlain = true) :
    ∀ c ∈ word, p c :=
  fun c hc => h c (List.all_eq_true.mp hword c hc)

theorem HoldsOfPlain.digit (h : HoldsOfPlain p) (hc : c.isDigit = true) : p c := by
  have hrange := isDigit_iff.mp hc
  refine h c ?_
  rw [isPlain, Bool.and_eq_true, decide_eq_true_eq, decide_eq_true_eq]
  omega

theorem isPlain_digitChar : ∀ d < 16, isPlain (Nat.digitChar d) = true := by
  decide

theorem forall_escapeChar_iff (h : HoldsOfPlain p) (c : Char) :
    (∀ d ∈ escapeChar c, p d) ↔ (0x20 ≤ c.toNat → p c) := by
  unfold escapeChar
  -- Quote and backslash are plain themselves.
  iterate 2
    split
    · rename_i heq
      subst heq
      exact iff_of_true (h.word _ (by decide)) fun _ => h _ (by decide)
  iterate 5
    split
    · rename_i heq
      subst heq
      exact iff_of_true (h.word _ (by decide)) fun hlow => absurd hlow (by decide)
  split
  · rename_i hcontrol
    refine iff_of_true (h.word _ ?_) fun hlow => absurd hcontrol (Nat.not_lt.mpr hlow)
    have hhigh := isPlain_digitChar (c.toNat / 16) (by omega)
    have hlow := isPlain_digitChar (c.toNat % 16) (by omega)
    simp only [List.all_cons, List.all_nil, hhigh, hlow]
    decide
  · rename_i hcontrol
    simp [Nat.not_lt.mp hcontrol]

/-- A string is written with these characters if its own ones are such, controls aside. -/
theorem forall_stringChars_iff (h : HoldsOfPlain p) (text : String) :
    (∀ c ∈ stringChars text, p c) ↔ ∀ c ∈ text.toList, 0x20 ≤ c.toNat → p c := by
  have hquote : p '"' := h _ (by decide)
  rw [stringChars, List.forall_mem_cons, List.forall_mem_append, List.forall_mem_singleton,
    List.forall_mem_flatMap]
  simp only [forall_escapeChar_iff h, hquote, true_and, and_true]

theorem forall_numberText (h : HoldsOfPlain p) (n : Int) : ∀ c ∈ (numberText (.int n)).toList, p c := by
  have hdigits (n : Nat) : ∀ c ∈ Nat.toDigits 10 n, p c := fun c hc =>
    h.digit (isDigit_toDigits n c hc)
  cases n with
  | ofNat n =>
    rw [Int.ofNat_eq_natCast, numberText_natural]
    exact hdigits n
  | negSucc n =>
    rw [numberText_negative, List.forall_mem_cons]
    exact ⟨h _ (by decide), hdigits (n + 1)⟩

section Render

variable (h : HoldsOfLayout p layout)
include h

mutual

/-- What stands in the text of a value, told from its strings and names. -/
theorem forall_render_iff : (value : Json) → (place : Nat) → value.FloatFree →
    ((∀ c ∈ value.render layout place, p c) ↔
      (∀ text ∈ value.texts, ∀ c ∈ stringChars text, p c) ∧
        ∀ name ∈ value.names, ∀ c ∈ stringChars name, p c)
  | .null, _, _ => iff_of_true (h.plain.word "null".toList (by decide)) ⟨nofun, nofun⟩
  | .bool true, _, _ => iff_of_true (h.plain.word "true".toList (by decide)) ⟨nofun, nofun⟩
  | .bool false, _, _ => iff_of_true (h.plain.word "false".toList (by decide)) ⟨nofun, nofun⟩
  | .number (.int n), _, _ => iff_of_true (forall_numberText h.plain n) ⟨nofun, nofun⟩
  | .string text, _, _ => by
    rw [render, texts, List.forall_mem_singleton]
    exact (and_iff_left nofun).symm
  | .array [], _, _ => iff_of_true (h.plain.word ['[', ']'] (by decide)) ⟨nofun, nofun⟩
  | .array (item :: items), place, hfree => by
    have hitem := forall_render_iff item (place + 1) hfree.1
    have hitems := forall_renderItems_iff items (place + 1) hfree.2
    have hopen : p '[' := h.plain _ (by decide)
    have hclose : p ']' := h.plain _ (by decide)
    have hbefore := iff_true_intro (h.lineBreak (place + 1))
    have hbehind := iff_true_intro (h.lineBreak place)
    simp only [render, texts, names, textsOfItems, namesOfItems, List.forall_mem_cons,
      List.forall_mem_append, List.not_mem_nil, IsEmpty.forall_iff, implies_true, hopen, hclose, hbefore,
      hbehind, hitem, hitems, true_and, and_true]
    exact and_and_and_comm
  | .object [], _, _ => iff_of_true (h.plain.word ['\x7b', '\x7d'] (by decide)) ⟨nofun, nofun⟩
  | .object ((name, value) :: members), place, hfree => by
    have hvalue := forall_render_iff value (place + 1) hfree.1
    have hmembers := forall_renderMembers_iff members (place + 1) hfree.2
    have hopen : p '\x7b' := h.plain _ (by decide)
    have hclose : p '\x7d' := h.plain _ (by decide)
    have hbefore := iff_true_intro (h.lineBreak (place + 1))
    have hbehind := iff_true_intro (h.lineBreak place)
    simp only [render, texts, names, textsOfMembers, namesOfMembers, List.forall_mem_cons,
      List.forall_mem_append, List.not_mem_nil, IsEmpty.forall_iff, implies_true, hopen, hclose, hbefore,
      hbehind, iff_true_intro h.colon, hvalue, hmembers, true_and, and_true]
    tauto

theorem forall_renderItems_iff : (items : List Json) → (place : Nat) → FloatFreeItems items →
    ((∀ c ∈ renderItems layout place items, p c) ↔
      (∀ text ∈ textsOfItems items, ∀ c ∈ stringChars text, p c) ∧
        ∀ name ∈ namesOfItems items, ∀ c ∈ stringChars name, p c)
  | [], _, _ => iff_of_true nofun ⟨nofun, nofun⟩
  | item :: items, place, hfree => by
    have hitem := forall_render_iff item place hfree.1
    have hitems := forall_renderItems_iff items place hfree.2
    have hcomma : p ',' := h.plain _ (by decide)
    simp only [renderItems, textsOfItems, namesOfItems, List.forall_mem_cons, List.forall_mem_append,
      hcomma, iff_true_intro (h.lineBreak place), hitem, hitems, true_and]
    exact and_and_and_comm

theorem forall_renderMembers_iff : (members : List (String × Json)) → (place : Nat) →
    FloatFreeMembers members →
    ((∀ c ∈ renderMembers layout place members, p c) ↔
      (∀ text ∈ textsOfMembers members, ∀ c ∈ stringChars text, p c) ∧
        ∀ name ∈ namesOfMembers members, ∀ c ∈ stringChars name, p c)
  | [], _, _ => iff_of_true nofun ⟨nofun, nofun⟩
  | (name, value) :: members, place, hfree => by
    have hvalue := forall_render_iff value place hfree.1
    have hmembers := forall_renderMembers_iff members place hfree.2
    have hcomma : p ',' := h.plain _ (by decide)
    simp only [renderMembers, textsOfMembers, namesOfMembers, List.forall_mem_cons,
      List.forall_mem_append, hcomma, iff_true_intro (h.lineBreak place), iff_true_intro h.colon, hvalue,
      hmembers, true_and, and_true]
    tauto

end

end Render

end Json

end ConfigKit
