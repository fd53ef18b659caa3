-- SUMMARY: What is read from a source depends on its bytes, and not on how they are delivered.
import ConfigKit.Document.Basic

/-!
# Reading from a source of bytes

A source delivers its bytes in chunks, may say nothing for a while, and may fail. What is read from it
depends on its bytes alone, and not on how they are cut into chunks or on how often it says nothing
(`readSource_follows_bytes`). A source that fails gives its first failure, whatever it has delivered
before.
-/

namespace ConfigKit

namespace Document

variable {source before after : List Delivery} {delivery : Delivery} {text : String}

/-- The bytes that a source brings with one delivery. -/
def Delivery.bytes : Delivery → Bytes
  | .chunk bytes => bytes
  | .interrupted => []
  | .failed _ => []

/-- The bytes of all deliveries, in order. -/
def delivered (source : List Delivery) : Bytes :=
  source.flatMap Delivery.bytes

/-- No chunk is empty. An empty one would say that the source is at its end. -/
def NeverEmpty (source : List Delivery) : Prop :=
  .chunk [] ∉ source

/-- The source does not fail. -/
def Unfailing (source : List Delivery) : Prop :=
  ∀ text, .failed text ∉ source

/-- The source fails, and this is what it says first. -/
def FirstFailure (source : List Delivery) (text : String) : Prop :=
  ∃ before after, source = before ++ .failed text :: after ∧ Unfailing before

/-! ## Sources -/

theorem unfailing_nil : Unfailing [] := by
  intro text h
  cases h

theorem Unfailing.of_cons (h : Unfailing (delivery :: source)) : Unfailing source := by
  intro text hmem
  exact h text (List.mem_cons_of_mem _ hmem)

theorem unfailing_cons (hne : ∀ text, delivery ≠ .failed text) (h : Unfailing source) :
    Unfailing (delivery :: source) := by
  intro text hmem
  rcases List.mem_cons.mp hmem with heq | hmem
  · exact hne text heq.symm
  · exact h text hmem

theorem NeverEmpty.of_cons (h : NeverEmpty (delivery :: source)) : NeverEmpty source := by
  intro hmem
  exact h (List.mem_cons_of_mem _ hmem)

/-- If a source fails at all, one of its failures is the first. -/
theorem unfailing_or_firstFailure (source : List Delivery) :
    Unfailing source ∨ ∃ text, FirstFailure source text := by
  induction source with
  | nil => exact .inl unfailing_nil
  | cons delivery source ih =>
    have hlater (hne : ∀ text, delivery ≠ .failed text) :
        Unfailing (delivery :: source) ∨ ∃ text, FirstFailure (delivery :: source) text := by
      rcases ih with hnone | ⟨text, before, after, rfl, hbefore⟩
      · exact .inl (unfailing_cons hne hnone)
      · exact .inr ⟨text, delivery :: before, after, rfl, unfailing_cons hne hbefore⟩
    cases delivery with
    | chunk bytes => exact hlater (by simp)
    | interrupted => exact hlater (by simp)
    | failed text => exact .inr ⟨text, [], source, rfl, unfailing_nil⟩

/-! ## One delivery, and all of them -/

/-- A delivery that is neither a failure nor the end puts its bytes before those of the later ones. -/
theorem drain_cons (hempty : delivery ≠ .chunk []) (hne : ∀ text, delivery ≠ .failed text)
    (source : List Delivery) :
    drain (delivery :: source) = (drain source).map (delivery.bytes ++ ·) := by
  cases delivery with
  | chunk bytes =>
    cases bytes with
    | nil => exact absurd rfl hempty
    | cons byte bytes =>
      rw [drain]
      cases drain source <;> rfl
  | interrupted =>
    rw [drain]
    cases drain source <;> rfl
  | failed text => exact absurd rfl (hne text)

theorem drain_append (hempty : NeverEmpty before) (hunfailing : Unfailing before)
    (after : List Delivery) :
    drain (before ++ after) = (drain after).map (delivered before ++ ·) := by
  induction before with
  | nil => cases h : drain after <;> simp [delivered, h, Except.map]
  | cons delivery before ih =>
    have hfirst : delivery ≠ .chunk [] := by
      rintro rfl
      exact hempty List.mem_cons_self
    have hworks : ∀ text, delivery ≠ .failed text := by
      rintro text rfl
      exact hunfailing text List.mem_cons_self
    rw [List.cons_append, drain_cons hfirst hworks, ih hempty.of_cons hunfailing.of_cons]
    cases drain after with
    | ok bytes => simp [Except.map, delivered]
    | error text => rfl

theorem drain_of_unfailing (hempty : NeverEmpty source) (hunfailing : Unfailing source) :
    drain source = .ok (delivered source) := by
  have hdrain := drain_append hempty hunfailing []
  simpa [drain, Except.map] using hdrain

/-- What was delivered before a failure is lost. -/
theorem drain_of_firstFailure (hempty : NeverEmpty source) (h : FirstFailure source text) :
    drain source = .error text := by
  obtain ⟨before, after, rfl, hbefore⟩ := h
  have hearlier : NeverEmpty before := fun hmem => hempty (List.mem_append_left _ hmem)
  rw [drain_append hearlier hbefore, drain]
  rfl

/-! ## Reading -/

/-- What is read from a source. -/
structure FollowsBytes (shape : Shape) (source : List Delivery) : Prop where
  unfailing_or_fails : Unfailing source ∨ ∃ text, FirstFailure source text
  /-- A source that does not fail is read as its bytes in memory are. -/
  reads : Unfailing source → readSource shape source = readJson shape (delivered source)
  /-- Any other way to deliver these bytes gives the same answer. -/
  same : Unfailing source → ∀ other, NeverEmpty other → Unfailing other →
    delivered other = delivered source → readSource shape other = readSource shape source
  /-- A source that fails is not read at all. -/
  fails : ∀ text, FirstFailure source text →
    readSource shape source = .error (.io "<reader>" (.reader text))
  /-- The failure is worded by what the source says, and is one of a source of bytes. -/
  reported : ∀ text failure, FirstFailure source text → readSource shape source = .error failure →
    failure.message = "I/O error at <reader>: " ++ text ∧ failure.isIo = true

theorem readSource_of_unfailing (shape : Shape) (hempty : NeverEmpty source)
    (hunfailing : Unfailing source) : readSource shape source = readJson shape (delivered source) := by
  rw [readSource, drain_of_unfailing hempty hunfailing]

theorem readSource_of_firstFailure (shape : Shape) (hempty : NeverEmpty source)
    (h : FirstFailure source text) :
    readSource shape source = .error (.io "<reader>" (.reader text)) := by
  rw [readSource, drain_of_firstFailure hempty h]
  rfl

/-- Reading from a source depends on its bytes, and on its first failure if there is one. -/
theorem readSource_follows_bytes (shape : Shape) (source : List Delivery) (hempty : NeverEmpty source) :
    FollowsBytes shape source where
  unfailing_or_fails := unfailing_or_firstFailure source
  reads := readSource_of_unfailing shape hempty
  same hunfailing other hother hworks hsame := by
    rw [readSource_of_unfailing shape hother hworks, hsame,
      readSource_of_unfailing shape hempty hunfailing]
  fails _ := readSource_of_firstFailure shape hempty
  reported text failure hfirst hfailure := by
    rw [readSource_of_firstFailure shape hempty hfirst] at hfailure
    cases hfailure
    exact ⟨rfl, rfl⟩

/-- A character may be cut between two chunks, and a document that is complete is lost to a failure. -/
theorem readSource_follows_bytes_cut :
    let cut : List Delivery := [.chunk [0x22, 0xC3], .interrupted, .chunk [0xA9, 0x22]]
    let broken : List Delivery := [.chunk [0x31, 0x0A], .interrupted, .failed "gone", .failed "still gone"]
    readSource .text cut = .ok (.text "é") ∧
      readSource .value broken = .error (.io "<reader>" (.reader "gone")) := by
  intro cut broken
  have hcut : NeverEmpty cut := by simp [NeverEmpty, cut]
  have hbroken : NeverEmpty broken := by simp [NeverEmpty, broken]
  have hunfailing : Unfailing cut := by simp [Unfailing, cut]
  have hfirst : FirstFailure broken "gone" :=
    ⟨[.chunk [0x31, 0x0A], .interrupted], [.failed "still gone"], rfl, by simp [Unfailing]⟩
  have hread : readJson .text (delivered cut) = .ok (.text "é") := rfl
  exact ⟨((readSource_follows_bytes .text cut hcut).reads hunfailing).trans hread,
    (readSource_follows_bytes .value broken hbroken).fails "gone" hfirst⟩

end Document

end ConfigKit
