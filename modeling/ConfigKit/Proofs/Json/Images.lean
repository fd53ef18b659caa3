-- SUMMARY: Readers that differ only in what they make of the same text.
import ConfigKit.Json.Decode

/-!
# Images of readers

Two readers may read the same text and differ only in what they make of it. `readImage` gives the second
from the first: the same bytes are read, the same stops are reported, and the value is mapped. The readers
of items, of containers, of lists and of documents all pass an image on, so a list is read as the images
of its items.
-/

namespace ConfigKit

namespace Json

variable {α β : Type} {bytes : Bytes}

/-- Reads as another reader does, and gives the image of its value. -/
def readImage (f : α → β) (read : Reader α) : Reader β := fun bytes => do
  let (value, rest) ← read bytes
  .ok (f value, rest)

theorem readImage_of_ok {read : Reader α} {value : α} {rest : Bytes} (f : α → β)
    (h : read bytes = .ok (value, rest)) : readImage f read bytes = .ok (f value, rest) := by
  simp only [readImage, h, bind, Except.bind]

theorem readImage_of_error {read : Reader α} {stop : Stop} (f : α → β)
    (h : read bytes = .error stop) : readImage f read bytes = .error stop := by
  simp only [readImage, h, bind, Except.bind]

theorem readImage_readImage {γ : Type} (g : β → γ) (f : α → β) (read : Reader α) :
    readImage g (readImage f read) = readImage (g ∘ f) read := by
  funext bytes
  cases h : read bytes with
  | error stop =>
    rw [readImage_of_error (g ∘ f) h]
    exact readImage_of_error g (readImage_of_error f h)
  | ok result =>
    rw [readImage_of_ok (g ∘ f) h]
    exact readImage_of_ok g (readImage_of_ok f h)

/-! ## Lists -/

theorem readItems_readImage (f : α → β) (item : Reader α) (first : Bool) (fuel : Nat)
    (bytes : Bytes) :
    readItems (readImage f item) first fuel bytes
      = readImage (List.map f) (readItems item first fuel) bytes := by
  induction fuel generalizing first bytes with
  | zero => rfl
  | succ fuel ih =>
    cases hnext : nextItem first bytes with
    | error stop => simp only [readImage, readItems, hnext, bind, Except.bind]
    | ok next =>
      obtain ⟨more, rest⟩ := next
      cases more with
      | false => simp only [readImage, readItems, hnext, bind, Except.bind, List.map_nil]
      | true =>
        cases hitem : item rest with
        | error stop => simp only [readImage, readItems, hnext, hitem, bind, Except.bind]
        | ok result =>
          obtain ⟨value, rest⟩ := result
          -- The items after this one are images by induction.
          simp only [readItems, hnext, readImage_of_ok f hitem, ih, bind, Except.bind]
          cases hitems : readItems item false fuel rest with
          | error stop => simp only [readImage, hnext, hitem, hitems, bind, Except.bind]
          | ok results => simp only [readImage, hnext, hitem, hitems, bind, Except.bind, List.map_cons]

theorem readClosed_readImage (f : α → β) (inside : Reader α) (close : Bytes → Except Stop Bytes)
    (after : Bytes → Bytes) :
    readClosed (readImage f inside) close after = readImage f (readClosed inside close after) := by
  funext bytes
  cases h : inside bytes with
  | error stop => simp only [readClosed, readImage, h, bind, Except.bind]
  | ok result =>
    obtain ⟨value, rest⟩ := result
    cases hclose : close rest with
    | error stop => simp only [readClosed, readImage, h, hclose, bind, Except.bind]
    | ok rest => simp only [readClosed, readImage, h, hclose, bind, Except.bind]

theorem readImage_refuse (f : α → β) (expected : String) :
    readImage f (refuse expected) = refuse expected := by
  funext bytes
  cases h : readFound bytes with
  | error stop => simp only [readImage, refuse, h, bind, Except.bind]
  | ok result => simp only [readImage, refuse, h, bind, Except.bind]

theorem readList_readImage (f : α → β) (depth : Nat) (item : Nat → Reader α) :
    readList depth (fun depth => readImage f (item depth))
      = readImage (List.map f) (readList depth item) := by
  funext bytes
  unfold readList
  simp only [readImage]
  split
  · rfl
  · cases depth with
    | zero => rfl
    | succ depth =>
      have hitems : (fun bytes => readItems (readImage f (item depth)) true (bytes.length + 1) bytes)
          = readImage (List.map f)
              (fun bytes => readItems (item depth) true (bytes.length + 1) bytes) := by
        funext bytes
        exact readItems_readImage f (item depth) true _ bytes
      exact congrFun (hitems ▸ readClosed_readImage _ _ _ _) _
  · exact (congrFun (readImage_refuse (List.map f) "a sequence") _).symm

/-! ## Documents -/

theorem readDocument_readImage (f : α → β) (read : Reader α) (bytes : Bytes) :
    readDocument (readImage f read) bytes = (readDocument read bytes).map f := by
  cases h : read bytes with
  | error stop => simp only [readDocument, readImage_of_error f h, h, Except.map]
  | ok result =>
    obtain ⟨value, rest⟩ := result
    simp only [readDocument, readImage_of_ok f h, h]
    split <;> rfl

end Json

end ConfigKit
