-- SUMMARY: Lists are read back by readers that read back their items.
import ConfigKit.Json.Decode
import ConfigKit.Proofs.Json.RoundTrip

/-!
# Reading lists back

A list is read back from its JSON text in any layout by a reader of items that does so for each of its
values (`readList_render`). Texts and signed integers of 64 bits have such readers.
-/

namespace ConfigKit

namespace Json

open Utf8

variable {α : Type} {layout : Layout} {blanks : Bytes} {fuel place : Nat}

/-- A reader that gives a value back from its JSON text, if the text after it does not continue it. -/
structure ReadsBack (item : Reader α) (toJson : α → Json) (value : α) : Prop where
  floatFree : (toJson value).FloatFree
  read (layout : Layout) (place : Nat) {rest : Bytes} (hrest : EndsNumber rest) :
    item (encodeChars ((toJson value).render layout place) ++ rest) = .ok (value, rest)

/-! ## Scalars -/

theorem readText_stringChars (text : String) (rest : Bytes) :
    readText (encodeChars (stringChars text) ++ rest) = .ok (text, rest) := by
  rw [encode_stringChars, readText, skipBlanks_cons (by decide)]
  exact readString_stringTail text rest

theorem readNumberFor_number {n : Int} {rest : Bytes} (hlow : Number.minInt ≤ n)
    (hhigh : n ≤ Number.maxInt) (hrest : EndsNumber rest) (shape : Shape) :
    readNumberFor shape (encodeChars (numberText (.int n)).toList ++ rest) = .ok (.int n, rest) := by
  rcases numberText_cases hlow hhigh hrest with ⟨byte, more, htext, hdigit, hread⟩ | ⟨more, htext, hread⟩
  · rw [htext, readNumberFor, skipBlanks_cons (isBlankByte_of_digit hdigit)]
    simp [hdigit, ne_of_digit hdigit 0x2D rfl, hread]
  · rw [htext, readNumberFor, skipBlanks_cons (by decide)]
    exact hread

theorem readsBack_text (text : String) : ReadsBack readText .string text where
  floatFree := trivial
  read _ _ rest _ := readText_stringChars text rest

theorem bounds_of_admits {n : Int} (h : (Shape.integer 64).admits n = true) :
    Number.minInt ≤ n ∧ n ≤ Number.maxInt := by
  have hpow : Nat.pow 2 63 + Nat.pow 2 63 = Nat.pow 2 64 := rfl
  have hbits : 64 - 1 = 63 := rfl
  simp only [Shape.admits, hbits, Bool.and_eq_true, decide_eq_true_eq] at h
  unfold Number.minInt Number.maxInt
  omega

theorem readsBack_integer {n : Int} (h : (Shape.integer 64).admits n = true) :
    ReadsBack (readInteger (.integer 64)) (fun n => .number (.int n)) n where
  floatFree := bounds_of_admits h
  read layout place rest hrest := by
    obtain ⟨hlow, hhigh⟩ := bounds_of_admits h
    have hnumber := readNumberFor_number hlow hhigh hrest (.integer 64)
    simp only [render, readInteger, hnumber, bind, Except.bind, h, if_true]

/-! ## Lists -/

theorem floatFreeItems_map {toJson : α → Json} {values : List α}
    (h : ∀ value ∈ values, (toJson value).FloatFree) : FloatFreeItems (values.map toJson) := by
  induction values with
  | nil => trivial
  | cons value values ih =>
    exact ⟨h value List.mem_cons_self, ih fun other hother => h other (List.mem_cons_of_mem _ hother)⟩

section Sound

variable {item : Reader α} {toJson : α → Json} {values : List α} (hlayout : layout.Sound)
  (hvalues : ∀ value ∈ values, ReadsBack item toJson value)
include hlayout hvalues

/-- The values after the first one are read back, up to the closing bracket. -/
theorem readItems_map (hblanks : AllBlank blanks) (hfuel : values.length < fuel) (rest : Bytes) :
    readItems item false fuel
        (encodeChars (renderItems layout place (values.map toJson)) ++ (blanks ++ 0x5D :: rest))
      = .ok (values, 0x5D :: rest) := by
  induction values generalizing fuel with
  | nil =>
    obtain ⟨fuel, rfl⟩ := Nat.exists_eq_add_one.mpr hfuel
    exact readItems_of_close (nextItem_close false hblanks rest) item fuel
  | cons value values ih =>
    obtain ⟨fuel, rfl⟩ := Nat.exists_eq_add_one.mpr (Nat.zero_lt_of_lt hfuel)
    have hvalue := hvalues value List.mem_cons_self
    have hitems := ih (fun other hother => hvalues other (List.mem_cons_of_mem _ hother))
      (Nat.lt_of_succ_lt_succ hfuel)
    rw [List.map_cons, encode_items]
    exact readItems_step
      (nextItem_comma (hlayout.lineBreak place) (startsValue_render layout _ hvalue.floatFree place _))
      (hvalue.read layout place (endsNumber_items layout _ place hblanks rest)) hitems

/-- A list is read back from the array of its values. -/
theorem readList_render (depth place : Nat) (rest : Bytes) :
    readList (depth + 1) (fun _ => item)
        (encodeChars ((Json.array (values.map toJson)).render layout place) ++ rest)
      = .ok (values, rest) := by
  have hbracket (body : Bytes) : readList (depth + 1) (fun _ => item) (0x5B :: body)
      = readArray (fun bytes => readItems item true (bytes.length + 1) bytes) body := by
    rw [readList, skipBlanks_cons (by decide)]
    rfl
  cases values with
  | nil =>
    refine (hbracket (0x5D :: rest)).trans (readArray_of_inside _ ?_)
    exact readItems_of_close (nextItem_close true allBlank_nil rest) item _
  | cons value values =>
    have hvalue := hvalues value List.mem_cons_self
    have hlength := length_le_encode_items layout (place + 1) (values.map toJson)
    rw [List.length_map] at hlength
    rw [List.map_cons, encode_array, hbracket]
    refine readArray_of_inside _ (readItems_step (nextItem_first (hlayout.lineBreak (place + 1))
        (startsValue_render layout _ hvalue.floatFree (place + 1) _))
      (hvalue.read layout (place + 1)
        (endsNumber_items layout _ (place + 1) (hlayout.lineBreak place) rest))
      (readItems_map hlayout (fun other hother => hvalues other (List.mem_cons_of_mem _ hother))
        (hlayout.lineBreak place) ?_ rest))
    simp only [List.length_append, List.length_cons]
    omega

end Sound

end Json

end ConfigKit
